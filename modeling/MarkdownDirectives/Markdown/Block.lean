import MarkdownDirectives.Markdown.Container
import MarkdownDirectives.Markdown.Target

/-!
# Blocks

A text is cut into blocks line by line. The containers a line belongs to are entered, the others
are closed, and what is left of the line starts a block. A block that goes on over several lines
takes them all at once: the functions named `gather…` look ahead over the lines below and give back
the lines they leave.

Paragraphs and headings are passages. Their inline content can be read only when all link
definitions of the text are known, so `Outline` holds both.

## Termination

Every step takes at least one line.
-/

namespace MarkdownDirectives.Markdown

open Text

/-- A block of a text. -/
inductive Block where
  | paragraph (passage : Passage)
  /-- A paragraph of a tight list: its content stands in the item itself. -/
  | tight (passage : Passage)
  | heading (level : Nat) (passage : Passage)
  | quote (content : List Block)
  /-- A list with the number of its first item, if the items are numbered. -/
  | list (start : Option Nat) (items : List Block)
  | item (content : List Block)
  /-- Code, with the text behind the fence if it is fenced. -/
  | code (info : Option (List Char)) (value : List Char)
  /-- A line of raw HTML with its end. -/
  | html (value : List Char)
  /-- The indentation of raw HTML. -/
  | space (columns : Nat)
  | rule
deriving Inhabited, BEq

/-- The blocks of a text and its link definitions. -/
structure Outline where
  blocks : List Block
  definitions : List Definition
deriving Inhabited

/-! ## Gathering lines -/

/-- A line that makes a heading of the lines above it. -/
structure Underline where
  level : Nat
  line : PassageLine
deriving Inhabited

/-- The further lines of a paragraph, the underline that ends it, and the lines below. -/
def gatherParagraph (containers : List Container) :
    List Line → List PassageLine × Option Underline × List Line
  | [] => ([], none, [])
  | line :: rest =>
    let (depth, c) := Container.enterAll containers (.ofLine line)
    let inside := depth = containers.length
    let (missing, body) := c.skip 4
    match if missing ≠ 0 && inside then underlineLevel? body.rest else none with
    | some level => ([], some ⟨level, .of line body.rest⟩, rest)
    | none =>
      if (missing ≠ 0 && endsParagraph inside body.rest (Line.rawRest line.ending rest).1)
          || c.skipAll.isEmpty then
        ([], none, line :: rest)
      else
        let (lines, underline, below) := gatherParagraph containers rest
        (.of line c.skipAll :: lines, underline, below)

/-- The code below an opening fence that is indented by `indent`, and the lines below the code. -/
def gatherFence (containers : List Container) (fence : CodeFence) (indent : Nat)
    (lines : List Line) : List Char × List Line :=
  match lines with
  | [] => ([], [])
  | line :: rest =>
    let (depth, c) := Container.enterAll containers (.ofLine line)
    if depth < containers.length then ([], line :: rest)
    else
      let (_, body) := c.skip indent
      let (missing, closing) := body.skip (4 - indent)
      if missing ≠ 0 && fence.closedBy closing.rest then ([], rest)
      else
        let raw := Line.rawRest line.ending rest
        let more := gatherFence containers fence indent raw.2
        (Line.codeText (body.text ++ raw.1) ++ more.1, more.2)
termination_by lines.length
decreasing_by
  have := Line.length_rawRest line.ending rest
  simp only [List.length_cons]
  omega

/-- The further lines of indented code, each with whether it is blank, and the lines below. -/
def gatherIndented (containers : List Container) (lines : List Line) :
    List (List Char × Bool) × List Line :=
  match lines with
  | [] => ([], [])
  | line :: rest =>
    let (depth, c) := Container.enterAll containers (.ofLine line)
    let (missing, body) := c.skip 4
    if depth < containers.length || (missing ≠ 0 && !body.atEnd) then ([], line :: rest)
    else
      let raw := Line.rawRest line.ending rest
      let more := gatherIndented containers raw.2
      ((Line.codeText (body.text ++ raw.1), onlySpace body.rest) :: more.1, more.2)
termination_by lines.length
decreasing_by
  have := Line.length_rawRest line.ending rest
  simp only [List.length_cons]
  omega

/-- A line of raw HTML as blocks. A carriage return in front of its last character is lost and
cuts the line in two. -/
def htmlLine (columns : Nat) (raw : List Char) : List Block :=
  (if columns = 0 then [] else [.space columns])
    ++ match Line.cutReturn raw with
      | some (front, last) => [.html front, .html [last]]
      | none => [.html raw]

/-- Whether raw HTML goes on below a line with the given text. -/
def HtmlExtent.goesOn (extent : HtmlExtent) (text : List Char) : Bool :=
  match extent with
  | .mark tag => !holds tag text
  | .blankLine => true

/-- Whether raw HTML takes a line with the given text. -/
def HtmlExtent.takes (extent : HtmlExtent) (text : List Char) : Bool :=
  match extent with
  | .mark _ => true
  | .blankLine => !onlySpace text

/-- The further lines of raw HTML, and the lines below. -/
def gatherHtml (containers : List Container) (extent : HtmlExtent) (lines : List Line) :
    List Block × List Line :=
  match lines with
  | [] => ([], [])
  | line :: rest =>
    let (depth, c) := Container.enterAll containers (.ofLine line)
    if depth < containers.length || !extent.takes c.rest then ([], line :: rest)
    else
      let raw := Line.rawRest line.ending rest
      let found := htmlLine c.pending (c.rest ++ raw.1)
      if extent.goesOn (c.rest ++ raw.1) then
        let more := gatherHtml containers extent raw.2
        (found ++ more.1, more.2)
      else (found, raw.2)
termination_by lines.length
decreasing_by
  have := Line.length_rawRest line.ending rest
  simp only [List.length_cons]
  omega

/-! ## Open containers -/

/-- An open container with its blocks so far, the latest first. -/
structure Frame where
  container : Container
  content : List Block := []
deriving Inhabited

/-- The state between two lines. -/
structure Builder where
  /-- The blocks outside of the open containers, the latest first. -/
  root : List Block := []
  /-- The open containers, innermost first. -/
  frames : List Frame := []
  /-- The line above is blank. -/
  lastBlank : Bool := false
  /-- The line above is the mark of an item with nothing behind it, or only blank lines are
  between. -/
  freshItem : Bool := false
  /-- The link definitions so far, the latest first. -/
  definitions : List Definition := []
deriving Inhabited

/-- A block in an item of a tight list. -/
def Block.tighten : Block → Block
  | .paragraph passage => .tight passage
  | block => block

/-- A container as a block. -/
def Frame.toBlock (f : Frame) : Block :=
  let content := f.content.reverse
  match f.container with
  | .quote => .quote content
  | .item _ => .item content
  | .list tight mark start =>
    let items := content.map fun
      | .item content => .item (if tight then content.map Block.tighten else content)
      | block => block
    .list (if mark = '.' || mark = ')' then some start else none) items

namespace Builder

/-- The open containers, outermost first. -/
def containers (b : Builder) : List Container :=
  (b.frames.map Frame.container).reverse

/-- Adds a block to the innermost container. -/
def push (block : Block) (b : Builder) : Builder :=
  match b.frames with
  | [] => { b with root := block :: b.root }
  | inner :: outer => { b with frames := { inner with content := block :: inner.content } :: outer }

/-- Opens a container. -/
def openContainer (container : Container) (b : Builder) : Builder :=
  { b with frames := { container } :: b.frames }

/-- Closes the innermost container. -/
def close (b : Builder) : Builder :=
  match b.frames with
  | [] => b
  | inner :: outer =>
    let closed := { b with frames := outer }.push inner.toBlock
    match inner.container with
    | .list true .. => { closed with freshItem := false }
    | _ => closed

/-- Closes containers until only `depth` are open. -/
def closeTo (depth : Nat) (b : Builder) : Builder :=
  (b.frames.drop depth).foldl (fun b _ => b.close) b

/-- The container at a place counted from the innermost. -/
def container? (b : Builder) (n : Nat) : Option Container :=
  b.frames[n]?.map Frame.container

/-- Makes the container at a place loose if it is a list. -/
def loosen (n : Nat) (b : Builder) : Builder :=
  { b with frames := b.frames.modify n fun f =>
      match f.container with
      | .list _ mark start => { f with container := .list false mark start }
      | _ => f }

/-- An item with nothing in it ends below a blank line. -/
def finishEmptyItem (b : Builder) : Builder :=
  let b' := match b.freshItem && b.lastBlank, b.container? 0 with
    | true, some (.item _) => b.close
    | _, _ => b
  { b' with freshItem := false }

/-- Ends a list that no item of the line continues. A blank line between the blocks of an item
makes its list loose. -/
def finishList (b : Builder) : Builder :=
  let b := b.finishEmptyItem
  let b := match b.container? 0 with
    | some (.list ..) => b.close
    | _ => b
  if b.lastBlank then { b.loosen 1 with lastBlank := false } else b

/-- Goes on with the list that an item belongs to, or starts one. -/
def continueList (mark : Char) (start : Nat) (b : Builder) : Builder :=
  let b := b.finishEmptyItem
  let new (b : Builder) := { b.openContainer (.list true mark start) with lastBlank := false }
  match b.container? 0 with
  | some (.list _ same _) =>
    if same = mark then
      if b.lastBlank then { b.loosen 0 with lastBlank := false } else b
    else new b.finishList
  | some _ => new b.finishList
  | none => new b

/-- Takes a blank line. -/
def takeBlank (b : Builder) : Builder :=
  match b.frames with
  | [] => { b with lastBlank := true }
  | inner :: outer =>
    match inner.container with
    | .quote => b
    | .item _ =>
      if b.freshItem then
        { b with frames := { inner with container := .item 0 } :: outer, lastBlank := true }
      else { b with lastBlank := true }
    | .list .. => { b with lastBlank := true }

/-- Opens the containers that a line starts. Gives the place behind their marks, and none if the
line ends with the mark of an item. -/
def openContainers (b : Builder) (c : Cursor) : Builder × Option Cursor :=
  let start := c.skip 4
  if start.1 = 0 then (b, some c)
  else
    match _hi : readItem start.2 with
    | some (mark, indent, content) =>
      let b := (b.continueList mark.mark mark.start).openContainer (.item (4 - start.1 + indent))
      if onlySpace content.rest then ({ b with freshItem := true }, none)
      else openContainers b content
    | none =>
      match _hq : Container.quoteMark start.2 with
      | some content => openContainers (b.finishList.openContainer .quote) content
      | none => (b, some c)
termination_by c.rest.length
decreasing_by
  · exact Nat.lt_of_lt_of_le (length_readItem _hi) (Cursor.length_skip 4 c)
  · exact Nat.lt_of_lt_of_le (Container.length_quoteMark _hq) (Cursor.length_skip 4 c)

/-! ## Leaf blocks -/

/-- Takes fenced code with the lines below its opening line. -/
def takeFence (fence : CodeFence) (indent : Nat) (rest : List Line) (b : Builder) :
    Builder × List Line :=
  let (value, below) := gatherFence b.containers fence indent rest
  (b.push (.code (some fence.info) value), below)

/-- Takes indented code with its first line. -/
def takeIndented (body : Cursor) (line : Line) (rest : List Line) (b : Builder) :
    Builder × List Line :=
  let raw := Line.rawRest line.ending rest
  let (texts, below) := gatherIndented b.containers raw.2
  let kept := (texts.reverse.dropWhile Prod.snd).reverse.map Prod.fst
  let block := Block.code none (Line.codeText (body.text ++ raw.1) ++ kept.flatten)
  ({ b.push block with lastBlank := (texts.getLast?.map Prod.snd).getD false }, below)

/-- Takes raw HTML with its first line. -/
def takeHtml (extent : HtmlExtent) (columns : Nat) (body : Cursor) (line : Line)
    (rest : List Line) (b : Builder) : Builder × List Line :=
  let raw := Line.rawRest line.ending rest
  let first := htmlLine columns (body.rest ++ raw.1)
  let (more, below) :=
    if extent.goesOn (body.rest ++ raw.1) then gatherHtml b.containers extent raw.2
    else ([], raw.2)
  ((first ++ more).foldl (fun b block => b.push block) b, below)

/-- The definitions at the front of a paragraph, and the lines behind them. -/
def readDefinitions (containers : List Container) (lines : List PassageLine) :
    List Definition × List PassageLine :=
  match lines with
  | [] => ([], [])
  | line :: more =>
    match readDefinition (.ofLines containers (line :: more)) with
    | none => ([], line :: more)
    | some (definition, after) =>
      let left := if after.isEmpty then 0 else after.count '\n' + 1
      let (definitions, lines) := readDefinitions containers (more.drop (more.length - left))
      (definition :: definitions, lines)
termination_by lines.length
decreasing_by simp only [List.length_drop, List.length_cons]; omega

/-- Adds the paragraph or, if there is an underline, the heading of some lines. -/
def pushLines (lines : List PassageLine) (underline : Option Underline) (b : Builder) : Builder :=
  let whole := Passage.ofLines b.containers lines
  let passage := whole.trimmed
  match underline with
  | some underline =>
    let ending := (lines.getLast?.map PassageLine.ending).getD []
    let below := whole.text.drop passage.text.length ++ ending ++ underline.line.lead
      ++ underline.line.text
    b.push (.heading underline.level { passage with below })
  | none => b.push (.paragraph passage)

/--
Takes a paragraph, a heading with an underline or link definitions with the first line.

Behind definitions the paragraph goes on. If nothing is left of it, its underline is no underline:
it is the first line of a paragraph, unless it would end a paragraph above it.
-/
def takeParagraph (first : PassageLine) (rest : List Line) (b : Builder) : Builder × List Line :=
  let (more, underline, below) := gatherParagraph b.containers rest
  let (definitions, lines) := readDefinitions b.containers (first :: more)
  let b := { b with definitions := definitions.reverse ++ b.definitions }
  match lines, underline with
  | [], none => (b, below)
  | [], some underline =>
    if endsParagraph true underline.line.text [] then (b, rest.drop more.length)
    else
      let (more, next, below) := gatherParagraph b.containers below
      (b.pushLines (underline.line :: more) next, below)
  | lines, underline => (b.pushLines lines underline, below)

/-- The heading of a line that starts with number signs, without those. Spaces at its end are not
read, but some of them may still be shown. -/
def headingPassage (cs : List Char) : Passage :=
  let line := cs.dropWhile isSpace
  let read := dropTrailing line
  let shown := headingText line
  { text := read.take shown.length, tail := shown.drop read.length, before := ' ' }

/-- Takes the block that starts at a place of a line that is not blank there. -/
def takeLeaf (c : Cursor) (line : Line) (rest : List Line) (b : Builder) : Builder × List Line :=
  let (missing, body) := c.skip 4
  let indent := 4 - missing
  if missing = 0 then b.takeIndented body line rest
  else match html? body.rest with
    | some extent => b.takeHtml extent (max c.pending indent) body line rest
    | none =>
      if isRule body.rest then (b.push .rule, rest)
      else match numberSignLevel? body.rest with
        | some level =>
          (b.push (.heading level (headingPassage (body.rest.drop level))), rest)
        | none =>
          let raw := Line.rawRest line.ending rest
          match codeFence? (body.rest ++ raw.1) with
          | some fence => b.takeFence fence indent raw.2
          | none => b.takeParagraph (.of line body.rest) rest

/-- Takes a line and the lines below that belong to its block. -/
def takeLine (line : Line) (rest : List Line) (b : Builder) : Builder × List Line :=
  let (depth, c) := Container.enterAll b.containers (.ofLine line)
  let b := b.closeTo depth
  match b.openContainers c with
  | (b, none) => (b, rest)
  | (b, some c) =>
    if onlySpace c.rest then (b.takeBlank, rest)
    else b.finishList.takeLeaf c line rest

/-! ## Every step takes a line -/

theorem length_gatherParagraph (containers : List Container) (lines : List Line) :
    (gatherParagraph containers lines).2.2.length ≤ lines.length := by
  induction lines with
  | nil => simp [gatherParagraph]
  | cons line rest ih =>
    rw [gatherParagraph]
    dsimp only
    split
    · simp
    · split
      · simp
      · exact Nat.le_succ_of_le ih

theorem length_gatherFence (containers : List Container) (fence : CodeFence) (indent : Nat)
    (lines : List Line) :
    (gatherFence containers fence indent lines).2.length ≤ lines.length := by
  fun_induction gatherFence containers fence indent lines with
  | case1 => simp
  | case2 => simp
  | case3 => simp
  | case4 line rest =>
    next ih =>
    have := Line.length_rawRest line.ending rest
    simp +zetaDelta only [List.length_cons] at ih ⊢
    omega

theorem length_gatherIndented (containers : List Container) (lines : List Line) :
    (gatherIndented containers lines).2.length ≤ lines.length := by
  fun_induction gatherIndented containers lines with
  | case1 => simp
  | case2 => simp
  | case3 line rest =>
    next ih =>
    have := Line.length_rawRest line.ending rest
    simp +zetaDelta only [List.length_cons] at ih ⊢
    omega

theorem length_gatherHtml (containers : List Container) (extent : HtmlExtent)
    (lines : List Line) : (gatherHtml containers extent lines).2.length ≤ lines.length := by
  fun_induction gatherHtml containers extent lines with
  | case1 => simp
  | case2 => simp
  | case3 line rest =>
    next ih =>
    have := Line.length_rawRest line.ending rest
    simp +zetaDelta only [List.length_cons] at ih ⊢
    omega
  | case4 line rest =>
    have := Line.length_rawRest line.ending rest
    simp +zetaDelta only [List.length_cons]
    omega

theorem length_takeParagraph (b : Builder) (first : PassageLine) (rest : List Line) :
    (b.takeParagraph first rest).2.length ≤ rest.length := by
  have h := length_gatherParagraph b.containers rest
  unfold takeParagraph
  dsimp only
  split
  · exact h
  · split
    · simp
    · exact Nat.le_trans (length_gatherParagraph _ _) h
  · exact h

theorem length_takeLeaf (b : Builder) (c : Cursor) (line : Line) (rest : List Line) :
    (b.takeLeaf c line rest).2.length ≤ rest.length := by
  have hraw := Line.length_rawRest line.ending rest
  unfold takeLeaf
  dsimp only
  repeat' split
  · exact Nat.le_trans (length_gatherIndented _ _) hraw
  · unfold takeHtml
    dsimp only
    split
    · exact Nat.le_trans (length_gatherHtml _ _ _) hraw
    · exact hraw
  · exact Nat.le_refl _
  · exact Nat.le_refl _
  · exact Nat.le_trans (length_gatherFence _ _ _ _) hraw
  · exact length_takeParagraph _ _ _

theorem length_takeLine (b : Builder) (line : Line) (rest : List Line) :
    (b.takeLine line rest).2.length ≤ rest.length := by
  unfold takeLine
  dsimp only
  repeat' split
  · exact Nat.le_refl _
  · exact Nat.le_refl _
  · exact length_takeLeaf _ _ _ _

/-- Takes all lines. -/
def takeLines (b : Builder) (lines : List Line) : Builder :=
  match lines with
  | [] => b
  | line :: rest =>
    let next := b.takeLine line rest
    next.1.takeLines next.2
termination_by lines.length
decreasing_by exact Nat.lt_succ_of_le (length_takeLine b line rest)

end Builder

/-- The blocks of a text and its link definitions. -/
def Outline.ofText (text : List Char) : Outline :=
  let b := Builder.takeLines {} (Line.ofText text)
  ⟨(b.closeTo 0).root.reverse, b.definitions.reverse⟩

end MarkdownDirectives.Markdown
