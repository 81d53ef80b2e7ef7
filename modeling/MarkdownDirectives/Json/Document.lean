import MarkdownDirectives.Document
import MarkdownDirectives.Json.Value

/-!
# Documents as JSON

Every field of every node is written, null if there is nothing in it. A node is an object with its
type and its content. A list of children is the content itself where a node has nothing else.
-/

namespace MarkdownDirectives

/-! ## Properties and markup -/

/-- A property. -/
def Property.toJson : Property → Json
  | bool value => .bool value
  | int value => .int value
  | string value => .string value
  | list items => .ofStrings items

/-- A map as an object in the order of its keys. -/
def SortedMap.toJson {α : Type} (f : α → Json) (m : SortedMap α) : Json :=
  .object (m.entries.map fun (key, value) => (key, f value))

/-- Properties. -/
def Properties.toJson (properties : Properties) : Json :=
  SortedMap.toJson Property.toJson properties

/-- Attributes. -/
def Attributes.toJson (attributes : Attributes) : Json :=
  SortedMap.toJson Json.string attributes

/-- A value, or null. -/
def Json.ofOption {α : Type} (f : α → Json) : Option α → Json
  | some value => f value
  | none => .null

/-- A thing with its type. -/
def Json.tagged (type : String) (content : Json) : Json :=
  .object [("type", .string type), ("node", content)]

/-- The content of an element. -/
def Json.ofElement (tagName : String) (properties : Properties) (children : List Json) : Json :=
  .object [("tag_name", .string tagName), ("properties", properties.toJson),
    ("children", .array children)]

mutual

/-- A piece of markup. -/
def Markup.toJson : Markup → Json
  | .text value => .tagged "text" (.string value)
  | .element tagName properties children =>
    .tagged "element" (.ofElement tagName properties (Markup.listToJson children))

/-- Pieces of markup. -/
def Markup.listToJson : List Markup → List Json
  | [] => []
  | piece :: rest => Markup.toJson piece :: Markup.listToJson rest

end

/-- An element. -/
def Element.toJson (e : Element) : Json :=
  .ofElement e.tagName e.properties (Markup.listToJson e.children)

/-- A render target. -/
def Data.toJson (data : Data) : Json :=
  .object [("h_name", .ofString? data.name),
    ("h_properties", .ofOption Properties.toJson data.properties),
    ("h_children", .ofOption (fun children => .array (Markup.listToJson children)) data.children),
    ("directive_label", .bool data.label)]

/-! ## Nodes -/

/-- An image. -/
def Image.toJson (image : Image) : Json :=
  .object [("url", .string image.url), ("alt", .string image.alt),
    ("title", .ofString? image.title), ("data", image.data.toJson)]

/-- A directive with its children. -/
def DirectiveHead.toJson (head : DirectiveHead) (children : List Json) : Json :=
  .object [("kind", .string head.kind.name), ("name", .string head.name),
    ("attributes", head.attributes.toJson), ("children", .array children),
    ("data", head.data.toJson)]

mutual

/-- A node. -/
def Node.toJson : Node → Json
  | .paragraph data children => .tagged "paragraph"
    (.object [("children", .array (Node.listToJson children)), ("data", data.toJson)])
  | .heading depth children => .tagged "heading"
    (.object [("depth", .int depth), ("children", .array (Node.listToJson children))])
  | .blockquote children => .tagged "blockquote" (.array (Node.listToJson children))
  | .list start children => .tagged "list"
    (.object [("start", .ofOption (fun n => .int (n : Nat)) start),
      ("children", .array (Node.listToJson children))])
  | .listItem children => .tagged "listItem" (.array (Node.listToJson children))
  | .code language value => .tagged "code"
    (.object [("lang", .ofString? language), ("value", .string value)])
  | .html value => .tagged "html" (.string value)
  | .thematicBreak => .object [("type", .string "thematicBreak")]
  | .text value => .tagged "text" (.string value)
  | .emphasis children => .tagged "emphasis" (.array (Node.listToJson children))
  | .strong children => .tagged "strong" (.array (Node.listToJson children))
  | .delete children => .tagged "delete" (.array (Node.listToJson children))
  | .inlineCode value => .tagged "inlineCode" (.string value)
  | .lineBreak => .object [("type", .string "break")]
  | .link url title children => .tagged "link"
    (.object [("url", .string url), ("title", .ofString? title),
      ("children", .array (Node.listToJson children))])
  | .image img => .tagged "image" img.toJson
  | .directive head children => .tagged "directive" (head.toJson (Node.listToJson children))

/-- Nodes. -/
def Node.listToJson : List Node → List Json
  | [] => []
  | node :: rest => Node.toJson node :: Node.listToJson rest

end

/-- A directive. -/
def Directive.toJson (d : Directive) : Json :=
  d.toDirectiveHead.toJson (Node.listToJson d.children)

/-- A document. -/
def Document.toJson (document : Document) : Json :=
  .object [("children", .array (Node.listToJson document.children))]

end MarkdownDirectives
