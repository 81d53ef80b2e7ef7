import MarkdownDirectives.SortedMap
import MarkdownDirectives.Text.Words

/-!
# Properties and attributes

An element has properties: names with a boolean, an integer, a string or a list of strings. A
directive has attributes: names with strings, as its author wrote them.
-/

namespace MarkdownDirectives

/-- The value of an element property. -/
inductive Property where
  | bool (value : Bool)
  | int (value : Int)
  | string (value : String)
  | list (items : List String)
deriving DecidableEq, Inhabited, Repr

/-- The properties of an element. -/
abbrev Properties := SortedMap Property

/-- The attributes of a directive. -/
abbrev Attributes := SortedMap String

namespace Property

/-- Whether a value counts as given: `false`, zero and the empty string do not, a list always
does. -/
def truthy : Property → Bool
  | bool value => value
  | int value => value != 0
  | string value => !value.isEmpty
  | list _ => true

/-- The text of a string value. -/
def text? : Property → Option String
  | string value => some value
  | _ => none

/-- The value as it is written between quotes; list items are separated by one space. -/
def display : Property → String
  | bool value => if value then "true" else "false"
  | int value => toString value
  | string value => value
  | list items => " ".intercalate items

end Property

/-- Attributes as string properties. -/
def Attributes.toProperties (attributes : Attributes) : Properties :=
  attributes.mapValues Property.string

/-- Attributes other than the named ones. -/
def Attributes.without (attributes : Attributes) (names : List String) : Attributes :=
  attributes.filterKeys (fun key => !names.contains key)

/-- Properties with one entry. -/
def Properties.single (key : String) (value : Property) : Properties :=
  SortedMap.empty.insert key value

end MarkdownDirectives
