import MarkdownDirectives.Markdown.Container

/-!
# Passages

The text of a paragraph or a heading lies on one or more lines of the source. What a line starts
with, the marks of its containers and its indentation, is not part of the text, and yet it is not
always gone: a comment shows all of it, code and tags show the indentation, and a run of emphasis
marks at the start of a line has it as its neighbour. A `Passage` therefore keeps the text, in which
one line feed stands between two lines, and the `Gap` that each line feed stands for.

A place in a passage is given by the text behind it. The number of line feeds there tells which gap
a line feed stands for, so gaps are listed from the last to the first.
-/

namespace MarkdownDirectives.Markdown

open Text

/-- What the source has between the texts of two lines. -/
structure Gap where
  /-- The end of the upper line. -/
  ending : List Char := ['\n']
  /-- What the lower line starts with. -/
  lead : List Char := []
deriving DecidableEq, Inhabited

/-- The text of one block, read without the line starts. -/
structure Passage where
  text : List Char
  /-- The gaps, the last one first. -/
  gaps : List Gap := []
  /-- The containers that the block stands in, outermost first. -/
  containers : List Container := []
  /-- The character in front of the text. -/
  before : Char := '\n'
  /-- What stands behind the text of a heading. It is shown only if text comes last. -/
  tail : List Char := []
  /-- What the source has behind the text of a heading, up to the end of the underline. -/
  below : List Char := []
deriving DecidableEq, Inhabited

/-- A line of a passage. -/
structure PassageLine where
  lead : List Char
  text : List Char
  ending : List Char
deriving DecidableEq, Inhabited

/-- A line of a passage whose text is the given end of a line. -/
def PassageLine.of (line : Line) (text : List Char) : PassageLine :=
  ⟨line.text.take (line.text.length - text.length), text, line.ending⟩

namespace Passage

/-- The gaps between lines, the last one first; `below` are those under the lines. -/
def gapsOf (below : List Gap) : List PassageLine → List Gap
  | upper :: lower :: more => gapsOf (⟨upper.ending, lower.lead⟩ :: below) (lower :: more)
  | _ => below

/-- The passage of some lines. -/
def ofLines (containers : List Container) (lines : List PassageLine) : Passage where
  text := ['\n'].intercalate (lines.map PassageLine.text)
  gaps := gapsOf [] lines
  containers := containers
  before := (lines.head?.bind fun line => line.lead.getLast?).getD '\n'

/-- A passage without the spaces at its end. -/
def trimmed (p : Passage) : Passage :=
  { p with text := dropTrailing p.text }

/-! ## Gaps -/

/-- The gap of a line feed, by the number of line feeds behind it. -/
def gap (p : Passage) (below : Nat) : Gap :=
  p.gaps.getD below {}

/-- The character in front of a line that starts with `rest`. -/
def lineStart (p : Passage) (rest : List Char) : Char :=
  let gap := p.gap (rest.count '\n')
  (gap.ending ++ gap.lead).getLastD '\n'

/-- A place behind the marks of the containers of a line, or of the part of it that is given. -/
def enterLine (p : Passage) (lead line : List Char) : Cursor :=
  (Container.enterAll p.containers { rest := lead ++ line }).2

/-- The indentation of a line behind the marks of its containers. -/
def indentation (p : Passage) (lead line : List Char) : List Char :=
  let place := p.enterLine lead line
  place.rest.take (place.rest.length - line.length)

/-- Whether a line that starts with `rest` would underline a heading. -/
def underlines (p : Passage) (rest : List Char) : Bool :=
  let line := rest.takeWhile (· != '\n')
  let (missing, place) := (p.enterLine (p.gap (rest.count '\n')).lead line).skip 4
  missing != 0 && (underlineLevel? place.rest).isSome

/-- A part of a text, with each line feed replaced by what `fill` makes of its gap and of the line
behind it as far as that belongs to the part; `below` counts the line feeds behind the part. -/
def fillGaps (p : Passage) (fill : Gap → List Char → List Char) (below : Nat) :
    List Char → List Char
  | [] => []
  | c :: rest =>
    if c = '\n' then
      fill (p.gap (rest.count '\n' + below)) (rest.takeWhile (· != '\n'))
        ++ p.fillGaps fill below rest
    else c :: p.fillGaps fill below rest

/-- A text as it stands in the source. -/
def source (p : Passage) (rest : List Char) : List Char :=
  p.fillGaps (fun gap _ => gap.ending ++ gap.lead) 0 rest

/-- The longest end of a text that has at most `limit` characters in the source; the whole text has
`size` there. -/
def dropTo (p : Passage) (limit size : Nat) : List Char → List Char
  | [] => []
  | c :: rest =>
    if size ≤ limit then c :: rest
    else if c = '\n' then
      let gap := p.gap (rest.count '\n')
      p.dropTo limit (size - gap.ending.length - gap.lead.length) rest
    else p.dropTo limit (size - 1) rest

/-! ## Raw HTML -/

/-- Markup that is shown as it stands in the source, and the text behind it. It may end inside a
gap, and then the rest of the gap is lost. -/
def readMarkup (p : Passage) (rest : List Char) : Option (List Char × List Char) :=
  if rest.head? = some '!' || rest.head? = some '?' then
    let source := p.source rest ++ p.below
    (behindMarkup source).map fun after =>
      (source.take (source.length - after.length), p.dropTo after.length source.length rest)
  else none

/-- Raw HTML behind its opening bracket, and the text behind it. -/
def readHtml (p : Passage) (rest : List Char) : Option (List Char × List Char) :=
  match p.readMarkup rest with
  | some found => some found
  | none =>
    (readTag rest).map fun after =>
      let fill gap line := gap.ending ++ p.indentation gap.lead line
      (p.fillGaps fill (after.count '\n') (rest.take (rest.length - after.length)), after)

/-! ## Code -/

/-- Code as it is shown, with `below` line feeds behind it: a line end and the marks of the
containers behind it are one space, and one space at each end is dropped if the code starts and ends
with one and holds anything else. -/
def codeText (p : Passage) (below : Nat) (code : List Char) : List Char :=
  let code := p.fillGaps (fun gap line => ' ' :: p.indentation gap.lead line) below code
  if code.head? = some ' ' && code.getLast? = some ' ' && !code.all (· == ' ') then
    (code.drop 1).dropLast
  else code

/-! ## Nothing is read twice -/

theorem length_dropTo (p : Passage) (limit size : Nat) (rest : List Char) :
    (p.dropTo limit size rest).length ≤ rest.length := by
  induction rest generalizing size with
  | nil => simp [dropTo]
  | cons c rest ih =>
    rw [dropTo]
    split
    · exact Nat.le_refl _
    · split
      · exact Nat.le_succ_of_le (ih _)
      · exact Nat.le_succ_of_le (ih _)

/-- What stands behind raw HTML is at most as long as what stands behind its bracket. -/
theorem length_readHtml {p : Passage} {cs html rest : List Char}
    (h : p.readHtml cs = some (html, rest)) : rest.length ≤ cs.length := by
  unfold readHtml at h
  split at h
  · next found hf =>
    simp only [Option.some.injEq] at h
    subst h
    unfold readMarkup at hf
    split at hf
    · simp only [Option.map_eq_some_iff, Prod.mk.injEq] at hf
      obtain ⟨_, -, -, rfl⟩ := hf
      exact p.length_dropTo _ _ _
    · simp at hf
  · simp only [Option.map_eq_some_iff, Prod.mk.injEq] at h
    obtain ⟨_, ht, -, rfl⟩ := h
    exact Nat.le_of_lt (length_readTag ht)

end Passage

end MarkdownDirectives.Markdown
