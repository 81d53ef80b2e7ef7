/-!
# Inline content

What a text consists of once its Markdown is read.
-/

namespace MarkdownDirectives.Markdown

/-- A piece of inline content. -/
inductive Inline where
  | text (value : List Char)
  | code (value : List Char)
  | html (value : List Char)
  | softBreak
  | hardBreak
  | emphasis (content : List Inline)
  | strong (content : List Inline)
  | delete (content : List Inline)
  | link (url title : List Char) (content : List Inline)
  | image (url title : List Char) (content : List Inline)
deriving Inhabited, BEq

end MarkdownDirectives.Markdown
