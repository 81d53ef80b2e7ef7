import MarkdownDirectives.Markup

/-!
# Documents

A document is a list of nodes. A directive is a node with a name and attributes; what it is
rendered as is written into its `Data` later.

## Walks

Every function over nodes comes with a companion over lists of nodes. Images have no children;
text, code and raw HTML have none either.
-/

namespace MarkdownDirectives

/-- How many colons introduce a directive, which is also where it may stand. -/
inductive DirectiveKind where
  | container
  | leaf
  | text
deriving DecidableEq, Inhabited, Repr

namespace DirectiveKind

/-- The least number of colons of the kind. -/
def colons : DirectiveKind → Nat
  | container => 3
  | leaf => 2
  | text => 1

/-- The name of the kind. -/
def name : DirectiveKind → String
  | container => "container"
  | leaf => "leaf"
  | text => "text"

/-- The colons of the kind, in words. -/
def fence : DirectiveKind → String
  | container => "three colons (`:::`)"
  | leaf => "double colons (`::`)"
  | text => "single colon (`:`)"

end DirectiveKind

/-- What a node is rendered as, beside or instead of what it is. -/
structure Data where
  /-- The tag that replaces the node's own. -/
  name : Option String := none
  /-- Properties added to the node's own. -/
  properties : Option Properties := none
  /-- Markup that replaces the node's children. -/
  children : Option (List Markup) := none
  /-- The node is the label of the container it stands in. -/
  label : Bool := false
deriving Inhabited, BEq

/-- An image. -/
structure Image where
  url : String
  alt : String := ""
  title : Option String := none
  data : Data := {}
deriving Inhabited, BEq

/-- What a directive says of itself, its children aside. -/
structure DirectiveHead where
  kind : DirectiveKind
  name : String
  attributes : Attributes := SortedMap.empty
  data : Data := {}
deriving Inhabited, BEq

/-- A node of a document. -/
inductive Node where
  | paragraph (data : Data) (children : List Node)
  | heading (depth : Nat) (children : List Node)
  | blockquote (children : List Node)
  | list (start : Option Nat) (children : List Node)
  | listItem (children : List Node)
  | code (language : Option String) (value : String)
  | html (value : String)
  | thematicBreak
  | text (value : String)
  | emphasis (children : List Node)
  | strong (children : List Node)
  | delete (children : List Node)
  | inlineCode (value : String)
  | lineBreak
  | link (url : String) (title : Option String) (children : List Node)
  | image (image : Image)
  | directive (head : DirectiveHead) (children : List Node)
deriving Inhabited, BEq

/-- A document. -/
structure Document where
  children : List Node := []
deriving Inhabited, BEq

/-- A directive with its children. -/
structure Directive extends DirectiveHead where
  children : List Node := []
deriving Inhabited, BEq

namespace Node

/-- The children of a node of a kind that has any. -/
def children? : Node → Option (List Node)
  | paragraph _ children | heading _ children | blockquote children | list _ children
  | listItem children | emphasis children | strong children | delete children
  | link _ _ children | directive _ children => some children
  | code .. | html _ | thematicBreak | text _ | inlineCode _ | lineBreak | image _ => none

/-- The node with other children. A node of a kind without children stays as it is. -/
def withChildren (children : List Node) : Node → Node
  | paragraph data _ => paragraph data children
  | heading depth _ => heading depth children
  | blockquote _ => blockquote children
  | list start _ => list start children
  | listItem _ => listItem children
  | emphasis _ => emphasis children
  | strong _ => strong children
  | delete _ => delete children
  | link url title _ => link url title children
  | directive head _ => directive head children
  | node => node

/-! ## Plain text -/

mutual

/-- The text of a node without its markup. An image counts with its alternative text. -/
def plainText : Node → String
  | text value | inlineCode value => value
  | image img => img.alt
  | paragraph _ children | heading _ children | blockquote children | list _ children
  | listItem children | emphasis children | strong children | delete children
  | link _ _ children | directive _ children => plainTextList children
  | code .. | html _ | thematicBreak | lineBreak => ""

/-- The texts of the nodes one after the other. -/
def plainTextList : List Node → String
  | [] => ""
  | node :: rest => plainText node ++ plainTextList rest

end

/-! ## Images -/

mutual

/-- The images under a node in document order. -/
def images : Node → List Image
  | image img => [img]
  | paragraph _ children | heading _ children | blockquote children | list _ children
  | listItem children | emphasis children | strong children | delete children
  | link _ _ children | directive _ children => imagesList children
  | code .. | html _ | thematicBreak | text _ | inlineCode _ | lineBreak => []

/-- The images under the nodes in document order. -/
def imagesList : List Node → List Image
  | [] => []
  | node :: rest => images node ++ imagesList rest

end

mutual

/-- Changes every image under a node. -/
def mapImages (f : Image → Image) : Node → Node
  | image img => image (f img)
  | paragraph data children => paragraph data (mapImagesList f children)
  | heading depth children => heading depth (mapImagesList f children)
  | blockquote children => blockquote (mapImagesList f children)
  | list start children => list start (mapImagesList f children)
  | listItem children => listItem (mapImagesList f children)
  | emphasis children => emphasis (mapImagesList f children)
  | strong children => strong (mapImagesList f children)
  | delete children => delete (mapImagesList f children)
  | link url title children => link url title (mapImagesList f children)
  | directive head children => directive head (mapImagesList f children)
  | node => node

/-- Changes every image under the nodes. -/
def mapImagesList (f : Image → Image) : List Node → List Node
  | [] => []
  | node :: rest => mapImages f node :: mapImagesList f rest

end

mutual

/-- Changes the first image under a node, or gives nothing if there is none. -/
def mapFirstImage? (f : Image → Image) : Node → Option Node
  | image img => some (image (f img))
  | paragraph data children => (mapFirstImageList? f children).map (paragraph data)
  | heading depth children => (mapFirstImageList? f children).map (heading depth)
  | blockquote children => (mapFirstImageList? f children).map blockquote
  | list start children => (mapFirstImageList? f children).map (list start)
  | listItem children => (mapFirstImageList? f children).map listItem
  | emphasis children => (mapFirstImageList? f children).map emphasis
  | strong children => (mapFirstImageList? f children).map strong
  | delete children => (mapFirstImageList? f children).map delete
  | link url title children => (mapFirstImageList? f children).map (link url title)
  | directive head children => (mapFirstImageList? f children).map (directive head)
  | code .. | html _ | thematicBreak | text _ | inlineCode _ | lineBreak => none

/-- Changes the first image under the nodes, or gives nothing if there is none. -/
def mapFirstImageList? (f : Image → Image) : List Node → Option (List Node)
  | [] => none
  | node :: rest =>
    match mapFirstImage? f node with
    | some node => some (node :: rest)
    | none => (mapFirstImageList? f rest).map (node :: ·)

end

/-! ## Directives -/

mutual

/-- The directives in a node, itself included, in document order. -/
def directives : Node → List DirectiveHead
  | directive head children => head :: directivesList children
  | paragraph _ children | heading _ children | blockquote children | list _ children
  | listItem children | emphasis children | strong children | delete children
  | link _ _ children => directivesList children
  | code .. | html _ | thematicBreak | text _ | inlineCode _ | lineBreak | image _ => []

/-- The directives in the nodes in document order. -/
def directivesList : List Node → List DirectiveHead
  | [] => []
  | node :: rest => directives node ++ directivesList rest

end

end Node

namespace Directive

/-- The directive as a node. -/
def toNode (d : Directive) : Node :=
  .directive d.toDirectiveHead d.children

/-- The value of an attribute. -/
def attribute? (d : Directive) (key : String) : Option String :=
  d.attributes.get? key

/-- The value of an attribute that is not empty. -/
def given? (d : Directive) (key : String) : Option String :=
  (d.attribute? key).filter (!·.isEmpty)

/-- The text of the first child, if that is a text. -/
def firstText? (d : Directive) : Option String :=
  match d.children with
  | .text value :: _ => some value
  | _ => none

end Directive

end MarkdownDirectives
