import MarkdownDirectives.Document
import MarkdownDirectives.Html.Escape

/-!
# Writing HTML

A document is written node after node. A node with a render target is written as that: the
target's name replaces the node's tag, its properties are added to the node's own, and its
children, if it has any, replace the node's. A directive without a target is a plain `div`, or a
plain `span` inside a text.

## Layout

A line end follows every block, the opening tag of a list, of a block quote and of a container
with children, and a hard line break.
-/

namespace MarkdownDirectives.Html

/-! ## Tags -/

/-- Elements that have neither children nor a closing tag. -/
def voidElements : List String := [
  "area", "base", "br", "col", "embed", "hr", "img", "input", "link", "meta", "param", "source",
  "track", "wbr"]

/-- Whether an element has neither children nor a closing tag. -/
def isVoid (tag : String) : Bool :=
  voidElements.contains tag

/-- A character that may not stand in an attribute name. -/
def breaksAttributeName (c : Char) : Bool :=
  Text.isBlank c || Text.isControl c || c == '"' || c == '\'' || c == '<' || c == '>' || c == '/'
    || c == '='

/-- A text that can be written as the name of an attribute. -/
def isAttributeName (name : List Char) : Bool :=
  !name.isEmpty && !name.any breaksAttributeName

theorem not_mem_of_isAttributeName {name : List Char} {c : Char}
    (h : isAttributeName name = true) (hc : breaksAttributeName c = true) :
    c ∉ name := by
  intro hmem
  simp only [isAttributeName, Bool.and_eq_true, Bool.not_eq_true', List.any_eq_false] at h
  exact h.2 c hmem hc

/-- The name that a property is written under. -/
def attributeName (key : String) : String :=
  if key = "className" then "class" else key

/-- A property as an attribute of a tag. It vanishes if its name or its value cannot be written. -/
def writeAttribute (entry : String × Property) : String :=
  let name := attributeName entry.1
  if isAttributeName name.toList then
    match entry.2 with
    | .bool true => " " ++ name
    | .bool false => ""
    | .list [] => ""
    | value => " " ++ name ++ "=\"" ++ escape value.display ++ "\""
  else ""

/-- Properties as the attributes of a tag, in the order of their keys. -/
def writeAttributes (properties : Properties) : String :=
  String.join (properties.entries.map writeAttribute)

/-- An opening tag. -/
def openTag (tag : String) (properties : Properties) : String :=
  "<" ++ tag ++ writeAttributes properties ++ ">"

/-- A closing tag. -/
def closeTag (tag : String) : String :=
  "</" ++ tag ++ ">"

/-- A tag around a content, or alone if it is void. -/
def wrap (tag : String) (properties : Properties) (content : String) : String :=
  if isVoid tag then openTag tag properties
  else openTag tag properties ++ content ++ closeTag tag

/-- A tag of its own around a content. -/
def wrapPlain (tag content : String) : String :=
  openTag tag SortedMap.empty ++ content ++ closeTag tag

/-! ## Markup -/

mutual

/-- A piece of markup. -/
def writeMarkup : Markup → String
  | .text value => escape value
  | .element tag properties children => wrap tag properties (writeMarkupList children)

/-- Pieces of markup one after the other. -/
def writeMarkupList : List Markup → String
  | [] => ""
  | piece :: rest => writeMarkup piece ++ writeMarkupList rest

end

/-- An element. -/
def writeElement (e : Element) : String :=
  writeMarkup e.toMarkup

/-! ## Nodes -/

/-- The properties of a node with those of its render target over them. -/
def targetProperties (own : Properties) (data : Data) : Properties :=
  match data.properties with
  | some added => own.overlay added
  | none => own

/-- A node by its render target; `tag`, `own` and `content` are what it has without one. -/
def writeTarget (tag : String) (own : Properties) (data : Data) (content : String) : String :=
  wrap (data.name.getD tag) (targetProperties own data)
    (match data.children with
    | some markup => writeMarkupList markup
    | none => content)

/-- The greatest start number a list is written with. -/
def maxStart : Nat := 0x7FFFFFFFFFFFFFFF

/-- The tag of a list and its properties. A list that starts at one does not say so. -/
def listTag : Option Nat → String × Properties
  | none => ("ul", SortedMap.empty)
  | some 1 => ("ol", SortedMap.empty)
  | some start => ("ol", Properties.single "start" (.int (min start maxStart)))

/-- The properties of a link. -/
def linkProperties (url : String) (title : Option String) : Properties :=
  let properties := Properties.single "href" (.string url)
  match title with
  | some title => properties.insert "title" (.string title)
  | none => properties

/-- The properties of an image. -/
def imageProperties (image : Image) : Properties :=
  let properties := (Properties.single "src" (.string image.url)).insert "alt" (.string image.alt)
  match image.title with
  | some title => properties.insert "title" (.string title)
  | none => properties

/-- A code block. -/
def writeCode (language : Option String) (value : String) : String :=
  let openCode := match language with
    | some language => "<pre><code class=\"language-" ++ escape language ++ "\">"
    | none => "<pre><code>"
  openCode ++ escape value ++ "</code></pre>\n"

/-- The tag of a directive without a render target. -/
def directiveTag : DirectiveKind → String
  | .text => "span"
  | _ => "div"

/-- What follows a directive. -/
def directiveEnd : DirectiveKind → String
  | .text => ""
  | _ => "\n"

/-- What stands before the children of a directive. -/
def directiveLead (kind : DirectiveKind) (children : List Node) : String :=
  if kind = .container && !children.isEmpty then "\n" else ""

mutual

/-- A node. -/
def writeNode : Node → String
  | .paragraph data children =>
    writeTarget "p" SortedMap.empty data (writeNodes children) ++ "\n"
  | .heading depth children => wrapPlain ("h" ++ toString depth) (writeNodes children) ++ "\n"
  | .blockquote children => "<blockquote>\n" ++ writeNodes children ++ "</blockquote>\n"
  | .list start children =>
    let (tag, properties) := listTag start
    openTag tag properties ++ "\n" ++ writeNodes children ++ closeTag tag ++ "\n"
  | .listItem children => "<li>" ++ writeNodes children ++ "</li>\n"
  | .code language value => writeCode language value
  | .html value => value
  | .thematicBreak => "<hr>\n"
  | .text value => escape value
  | .emphasis children => wrapPlain "em" (writeNodes children)
  | .strong children => wrapPlain "strong" (writeNodes children)
  | .delete children => wrapPlain "del" (writeNodes children)
  | .inlineCode value => "<code>" ++ escape value ++ "</code>"
  | .lineBreak => "<br>\n"
  | .link url title children =>
    openTag "a" (linkProperties url title) ++ writeNodes children ++ closeTag "a"
  | .image image => writeTarget "img" (imageProperties image) image.data ""
  | .directive head children =>
    writeTarget (directiveTag head.kind) SortedMap.empty head.data
        (directiveLead head.kind children ++ writeNodes children)
      ++ directiveEnd head.kind

/-- Nodes one after the other. -/
def writeNodes : List Node → String
  | [] => ""
  | node :: rest => writeNode node ++ writeNodes rest

end

end MarkdownDirectives.Html

/-- A document as HTML. -/
def MarkdownDirectives.Document.html (document : Document) : String :=
  Html.writeNodes document.children
