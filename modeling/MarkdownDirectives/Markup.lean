import MarkdownDirectives.Property

/-!
# Markup

What a node is rendered as: elements with properties, and text. `Element.generic` is the element
of a directive that nothing else is known about: the name becomes the tag and the attributes
become properties.
-/

namespace MarkdownDirectives

/-- A piece of markup. -/
inductive Markup where
  | text (value : String)
  | element (tagName : String) (properties : Properties) (children : List Markup)
deriving Inhabited, BEq

/-- An element, the part of markup that is not text. -/
structure Element where
  tagName : String
  properties : Properties := SortedMap.empty
  children : List Markup := []
deriving Inhabited

/-- An element as a piece of markup. -/
def Element.toMarkup (e : Element) : Markup :=
  .element e.tagName e.properties e.children

/-! ## The generic element -/

/-- Attributes that are switched on by being there. -/
def booleanAttributes : List String := [
  "allowfullscreen", "async", "autofocus", "autoplay", "checked", "controls", "default", "defer",
  "disabled", "hidden", "inert", "loop", "muted", "nomodule", "novalidate", "open", "playsinline",
  "readonly", "required", "reversed", "selected"]

/-- A lower-case attribute name is one of the two spellings of the class list. -/
def isClassName (key : String) : Bool :=
  key == "class" || key == "classname"

/-- The value of a property whose lower-case name is `key`. -/
def genericValue (key value : String) : Property :=
  if booleanAttributes.contains key && (value.isEmpty || Text.lowercase value == key) then
    .bool true
  else .string value

/-- Adds one attribute to the properties. Its name is taken in lower case. -/
def addGeneric (properties : Properties) (entry : String × String) : Properties :=
  let key := Text.lowercase entry.1
  if isClassName key then
    match Text.wordList entry.2 with
    | [] => properties
    | classes => properties.insert "className" (.list classes)
  else properties.insert key (genericValue key entry.2)

/--
The element of a name and its attributes.

Attributes are taken in the order of their keys, so of several that differ only in case the
greatest counts. A class list without a word is dropped.
-/
def Element.generic (name : String) (attributes : Attributes) : Element where
  tagName := Text.lowercase name
  properties := attributes.entries.foldl addGeneric SortedMap.empty

end MarkdownDirectives
