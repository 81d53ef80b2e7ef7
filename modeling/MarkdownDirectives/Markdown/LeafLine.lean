import MarkdownDirectives.Markdown.Cursor
import MarkdownDirectives.Markdown.RawHtml
import MarkdownDirectives.Text.Search
import MarkdownDirectives.Text.Words

/-!
# What a line can be

Tests on the text of a line behind its indentation: rules, headings, code fences and the starts of
raw HTML. A line is given without its end.
-/

namespace MarkdownDirectives.Markdown

open Text

/-- Nothing but spaces. -/
def onlySpace (cs : List Char) : Bool :=
  cs.all isSpace

/-! ## Rules and headings -/

/-- A rule: three or more of one mark, with nothing but spaces and tabs between them. -/
def isRule : List Char → Bool
  | [] => false
  | mark :: rest =>
    (mark == '*' || mark == '-' || mark == '_')
      && rest.all (fun c => c == mark || c == ' ' || c == '\t')
      && 2 ≤ rest.count mark

/-- The level of a heading that starts with number signs. -/
def numberSignLevel? (cs : List Char) : Option Nat :=
  let (signs, rest) := cut (· == '#') cs
  if 1 ≤ signs.length && signs.length ≤ 6 && rest.head?.all isSpace then some signs.length
  else none

/-- The text of such a heading, behind the number signs it starts with and without the spaces at its
end. Number signs at its end do not belong to it if a space stands in front of them or if there is
nothing else. -/
def headingText (cs : List Char) : List Char :=
  let reversed := (cs.dropWhile isSpace).reverse.dropWhile (· == ' ')
  match reversed.dropWhile (· == '#') with
  | [] => []
  | ' ' :: rest => (rest.dropWhile (· == ' ')).reverse
  | _ => reversed.reverse

/-- The level of the heading that an underline makes of the text above it. -/
def underlineLevel? : List Char → Option Nat
  | [] => none
  | mark :: rest =>
    if !onlySpace (rest.dropWhile (· == mark)) then none
    else if mark = '=' then some 1
    else if mark = '-' then some 2
    else none

/-! ## Code fences -/

/-- An opening fence and the text behind it. -/
structure CodeFence where
  mark : Char
  length : Nat
  info : List Char
deriving DecidableEq, Inhabited

/-- The fence at the front of a line. Behind backticks no further backtick may stand. -/
def codeFence? : List Char → Option CodeFence
  | [] => none
  | mark :: rest =>
    let (marks, info) := cut (· == mark) (mark :: rest)
    if marks.length < 3 then none
    else if mark = '~' || (mark = '`' && !info.contains '`') then some ⟨mark, marks.length, info⟩
    else none

/-- Whether a line closes a fence. -/
def CodeFence.closedBy (fence : CodeFence) (cs : List Char) : Bool :=
  let (marks, rest) := cut (· == fence.mark) cs
  fence.length ≤ marks.length && rest.all (· == ' ')

/-! ## Raw HTML -/

/-- How far raw HTML that starts with a line goes. -/
inductive HtmlExtent where
  /-- To the line that holds the given text. -/
  | mark (text : List Char)
  /-- To the next blank line. -/
  | blankLine
deriving DecidableEq, Inhabited

/-- Elements whose content is raw up to their closing tag. -/
def rawElements : List String :=
  ["pre", "style", "script", "textarea"]

/-- Elements that start raw HTML wherever their tag ends. -/
def blockElements : List String := [
  "address", "article", "aside", "base", "basefont", "blockquote", "body", "caption", "center",
  "col", "colgroup", "dd", "details", "dialog", "dir", "div", "dl", "dt", "fieldset",
  "figcaption", "figure", "footer", "form", "frame", "frameset", "h1", "h2", "h3", "h4", "h5",
  "h6", "head", "header", "hr", "html", "iframe", "legend", "li", "link", "main", "menu",
  "menuitem", "nav", "noframes", "ol", "optgroup", "option", "p", "param", "search", "section",
  "summary", "table", "tbody", "td", "tfoot", "th", "thead", "title", "tr", "track", "ul"]

/-- The raw element that a tag starts with, behind its bracket. -/
def rawElement? (cs : List Char) : Option String :=
  rawElements.find? fun name =>
    let size := name.length
    (cs.take size).map Char.toLower == name.toList
      && (cs.drop size).head?.all fun c => isSpace c || c == '>'

/-- A tag of a block element behind its bracket, complete or not. -/
def startsBlockElement (cs : List Char) : Bool :=
  let (name, rest) := cut Char.isAlphanum (if cs.head? = some '/' then cs.drop 1 else cs)
  blockElements.contains (lowercase (String.ofList name))
    && (rest.head?.all (fun c => c == ' ' || c == '\t' || c == '>') || ['/', '>'].isPrefixOf rest)

/-- The raw HTML that a line starts which can also end a paragraph. -/
def strongHtml? : List Char → Option HtmlExtent
  | '<' :: cs =>
    match rawElement? cs with
    | some name => some (.mark ("</" ++ name ++ ">").toList)
    | none =>
      if ['!', '-', '-'].isPrefixOf cs then some (.mark ['-', '-', '>'])
      else if ['?'].isPrefixOf cs then some (.mark ['?', '>'])
      else if "![CDATA[".toList.isPrefixOf cs then some (.mark [']', ']', '>'])
      else if cs.head? = some '!' && (cs.drop 1).head?.any Char.isAlpha then some (.mark ['>'])
      else if startsBlockElement cs then some .blankLine
      else none
  | _ => none

/-- The raw HTML that a line starts. A tag alone on its line starts some too. -/
def html? (cs : List Char) : Option HtmlExtent :=
  match strongHtml? cs, cs with
  | some extent, _ => some extent
  | none, '<' :: rest =>
    match readTag rest with
    | some rest => if onlySpace rest then some .blankLine else none
    | none => none
  | none, _ => none

end MarkdownDirectives.Markdown
