import MarkdownDirectives.Markdown.Block
import MarkdownDirectives.Markdown.Scan

/-!
# Events

Markdown is handed on as events in the order of the text. What has content starts and finishes with
an event of its own, and the events between are the content.
-/

namespace MarkdownDirectives.Markdown

/-- What has content. -/
inductive Tag where
  | paragraph
  | heading (level : Nat)
  | quote
  /-- A list with the number of its first item, if the items are numbered. -/
  | list (start : Option Nat)
  | item
  /-- Code, with the text behind the fence if it is fenced. -/
  | code (info : Option (List Char))
  | emphasis
  | strong
  | delete
  | link (url title : List Char)
  | image (url title : List Char)
  /-- Everything else. It has no node of its own. -/
  | other
deriving DecidableEq, Inhabited, Repr

/-- A step through a text. -/
inductive Event where
  | start (tag : Tag)
  /-- The end of what has started last and has not finished yet. -/
  | finish
  | text (value : List Char)
  | code (value : List Char)
  | html (value : List Char)
  | softBreak
  | hardBreak
  | rule
  /-- What no document shows: a reference to a footnote, the box of a task. -/
  | ignored
deriving DecidableEq, Inhabited, Repr

/-- Something that starts, its content, and its end. -/
def Tag.around (tag : Tag) (content : List Event) : List Event :=
  .start tag :: (content ++ [.finish])

mutual

/-- The events of inline content. -/
def Inline.events : Inline → List Event
  | .text value => [.text value]
  | .code value => [.code value]
  | .html value => [.html value]
  | .softBreak => [.softBreak]
  | .hardBreak => [.hardBreak]
  | .emphasis content => Tag.emphasis.around (Inline.eventsList content)
  | .strong content => Tag.strong.around (Inline.eventsList content)
  | .delete content => Tag.delete.around (Inline.eventsList content)
  | .link url title content => (Tag.link url title).around (Inline.eventsList content)
  | .image url title content => (Tag.image url title).around (Inline.eventsList content)

/-- The events of inline content one after the other. -/
def Inline.eventsList : List Inline → List Event
  | [] => []
  | content :: rest => Inline.events content ++ Inline.eventsList rest

end

/-- The events of a passage. -/
def Passage.events (definitions : List Definition) (passage : Passage) : List Event :=
  Inline.eventsList (readInlines definitions passage)

mutual

/-- The events of a block. -/
def Block.events (definitions : List Definition) : Block → List Event
  | .paragraph passage => Tag.paragraph.around (passage.events definitions)
  | .tight passage => passage.events definitions
  | .heading level passage => (Tag.heading level).around (passage.events definitions)
  | .quote content => Tag.quote.around (Block.eventsList definitions content)
  | .list start items => (Tag.list start).around (Block.eventsList definitions items)
  | .item content => Tag.item.around (Block.eventsList definitions content)
  | .code info value => (Tag.code (info.map unescape)).around [.text value]
  | .html value => [.html value]
  | .space columns => [.text (List.replicate columns ' ')]
  | .rule => [.rule]

/-- The events of blocks one after the other. -/
def Block.eventsList (definitions : List Definition) : List Block → List Event
  | [] => []
  | block :: rest => Block.events definitions block ++ Block.eventsList definitions rest

end

/-- The events of a text. -/
def events (source : List Char) : List Event :=
  let outline := Outline.ofText source
  Block.eventsList outline.definitions outline.blocks

end MarkdownDirectives.Markdown
