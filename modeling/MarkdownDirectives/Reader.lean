import MarkdownDirectives.Document
import MarkdownDirectives.Markdown.Event
import MarkdownDirectives.Source.Block

/-!
# Reading documents

A source is cut into source blocks. Markdown between directives becomes nodes, and so do the labels
of directives, which are Markdown of their own. Text directives are found in the text of a
paragraph, a heading, an item or other content, once neighbouring texts are joined; a directive
is therefore never cut by other markup.

Nodes are built from events, so a document can be read with any parser of Markdown.

## Termination

Reading Markdown may read labels, which are shorter than the text they stand in. A parser that makes
up a longer one gets no nodes for it.
-/

namespace MarkdownDirectives

open Text

/-! ## Text directives -/

/-- Joins neighbouring texts. -/
def joinTexts : List Node → List Node
  | [] => []
  | .text value :: rest =>
    match joinTexts rest with
    | .text next :: rest => .text (value ++ next) :: rest
    | rest => .text value :: rest
  | node :: rest => node :: joinTexts rest

/-- What a label reads as, a function of its text. -/
abbrev LabelReader := List Char → List Node

namespace Source

/-- A directive with its label as its children. -/
def Mark.toNode (readLabel : LabelReader) (kind : DirectiveKind) (mark : Mark) : Node :=
  .directive { kind, name := mark.name, attributes := mark.attributes } (readLabel mark.label)

/-- A piece of a text as a node. -/
def Piece.toNode (readLabel : LabelReader) : Piece → Node
  | .text value => .text (String.ofList value)
  | .directive mark => mark.toNode readLabel .text

end Source

/-- A node with its text directives taken out of it, if it is a text. -/
def splitNode (readLabel : LabelReader) : Node → List Node
  | .text value => (Source.pieces value.toList).map (·.toNode readLabel)
  | node => [node]

/-- Nodes that stand next to each other, with the text directives in their texts. -/
def expandTexts (readLabel : LabelReader) (nodes : List Node) : List Node :=
  (joinTexts nodes).flatMap (splitNode readLabel)

/-! ## Markdown -/

/-- A title, `none` if it is empty. -/
def titleOf (title : List Char) : Option String :=
  if title.isEmpty then none else some (String.ofList title)

/-- The language that the text behind a fence names. -/
def languageOf (info : List Char) : Option String :=
  (words info).head?.map String.ofList

/-- Something that has started, with its nodes so far, the latest first. -/
structure OpenNode where
  tag : Markdown.Tag
  content : List Node := []
deriving Inhabited

/-- What stands for it once it has finished. -/
def OpenNode.finish (readLabel : LabelReader) (n : OpenNode) : List Node :=
  let content := n.content.reverse
  match n.tag with
  | .paragraph => [.paragraph {} (expandTexts readLabel content)]
  | .heading level => [.heading level (expandTexts readLabel content)]
  | .quote => [.blockquote content]
  | .list start => [.list start content]
  | .item => [.listItem (expandTexts readLabel content)]
  | .code info => [.code (info.bind languageOf) (Node.plainTextList content)]
  | .emphasis => [.emphasis (expandTexts readLabel content)]
  | .strong => [.strong (expandTexts readLabel content)]
  | .delete => [.delete (expandTexts readLabel content)]
  | .link url title =>
    [.link (String.ofList url) (titleOf title) (expandTexts readLabel content)]
  | .image url title => [.image {
      url := String.ofList url
      alt := Node.plainTextList content
      title := titleOf title }]
  | .other => content

/-- The state between two events. -/
structure TreeBuilder where
  /-- The nodes outside of everything that is open, the latest first. -/
  root : List Node := []
  /-- What is open, innermost first. -/
  opened : List OpenNode := []
deriving Inhabited

namespace TreeBuilder

/-- Adds a node to what is open innermost. -/
def push (node : Node) (b : TreeBuilder) : TreeBuilder :=
  match b.opened with
  | [] => { b with root := node :: b.root }
  | inner :: outer => { b with opened := { inner with content := node :: inner.content } :: outer }

/-- Finishes what is open innermost. -/
def close (readLabel : LabelReader) (b : TreeBuilder) : TreeBuilder :=
  match b.opened with
  | [] => b
  | inner :: outer =>
    (inner.finish readLabel).foldl (fun b node => b.push node) { b with opened := outer }

/-- Takes an event. -/
def take (readLabel : LabelReader) (b : TreeBuilder) : Markdown.Event → TreeBuilder
  | .start tag => { b with opened := { tag } :: b.opened }
  | .finish => b.close readLabel
  | .text value => b.push (.text (String.ofList value))
  | .code value => b.push (.inlineCode (String.ofList value))
  | .html value => b.push (.html (String.ofList value))
  | .softBreak => b.push (.text "\n")
  | .hardBreak => b.push .lineBreak
  | .rule => b.push .thematicBreak
  | .ignored => b

/-- The nodes once everything that is still open has finished. -/
def finish (readLabel : LabelReader) (b : TreeBuilder) : List Node :=
  (b.opened.foldl (fun b _ => b.close readLabel) b).root.reverse

end TreeBuilder

/-- The nodes that events build. -/
def nodesOfEvents (readLabel : LabelReader) (events : List Markdown.Event) : List Node :=
  (events.foldl (TreeBuilder.take readLabel) {}).finish readLabel

/-- A parser of Markdown: the events of a text. -/
abbrev MarkdownParser := List Char → List Markdown.Event

section Reading

variable (parse : MarkdownParser)

/-- What a label means: its only paragraph stands for the content of that paragraph. -/
def labelNodes : List Node → List Node
  | [.paragraph _ children] => children
  | nodes => nodes

/-- Markdown as nodes. A blank label has no nodes. -/
def readMarkdown (source : List Char) : List Node :=
  nodesOfEvents (fun label =>
    if blank label then []
    else if _h : label.length < source.length then labelNodes (readMarkdown label)
    else []) (parse source)
termination_by source.length

/-- A label as nodes. -/
def labelContent (label : List Char) : List Node :=
  if blank label then [] else labelNodes (readMarkdown parse label)

/-! ## Documents -/

namespace Source

/-- The label of a container stands in a paragraph of its own. -/
def labelParagraph (nodes : List Node) : List Node :=
  if nodes.isEmpty then [] else [.paragraph { label := true } nodes]

mutual

/-- A source block as nodes. -/
def Block.toNodes : Block → List Node
  | .markdown source => readMarkdown parse source
  | .leaf mark => [mark.toNode (labelContent parse) .leaf]
  | .container mark body => [.directive
      { kind := .container, name := mark.name, attributes := mark.attributes }
      (labelParagraph (labelContent parse mark.label) ++ Block.listToNodes body)]

/-- Source blocks as nodes. -/
def Block.listToNodes : List Block → List Node
  | [] => []
  | block :: rest => Block.toNodes block ++ Block.listToNodes rest

end

end Source

/-- The document that a source reads as with a parser of Markdown. -/
def Document.read (source : String) : Document :=
  ⟨Source.Block.listToNodes parse (Source.splitBlocks source.toList)⟩

end Reading

/-- The document that a source reads as. -/
def Document.ofSource (source : String) : Document :=
  .read Markdown.events source

end MarkdownDirectives
