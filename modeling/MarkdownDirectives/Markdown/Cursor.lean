import MarkdownDirectives.Text.Class

/-!
# Lines and columns

Markdown blocks are told apart by the columns their lines start at, and a tab reaches to the next
column that is a multiple of four. A `Cursor` stands inside a line; it can stand inside a tab, and
then the columns left of that tab count as spaces in front of the rest.
-/

namespace MarkdownDirectives.Markdown

/-! ## Lines -/

/-- A line and the characters that end it, none at the end of the text. -/
structure Line where
  text : List Char
  ending : List Char
deriving DecidableEq, Inhabited

/-- The lines of a text. A line feed, a carriage return and both together end a line. -/
def Line.ofText : List Char → List Line
  | [] => []
  | '\n' :: rest => ⟨[], ['\n']⟩ :: ofText rest
  | '\r' :: '\n' :: rest => ⟨[], ['\r', '\n']⟩ :: ofText rest
  | '\r' :: rest => ⟨[], ['\r']⟩ :: ofText rest
  | c :: rest =>
    match ofText rest with
    | [] => [⟨[c], []⟩]
    | line :: more => { line with text := c :: line.text } :: more

/-- What a line of raw text has behind its first part, which ends in `ending`, and the lines behind
it. In raw text a carriage return alone does not end a line. -/
def Line.rawRest (ending : List Char) : List Line → List Char × List Line
  | [] => (ending, [])
  | next :: rest =>
    if ending = ['\r'] then
      let (more, rest) := rawRest next.ending rest
      ('\r' :: next.text ++ more, rest)
    else (ending, next :: rest)

/-- A line of raw text in front of a carriage return that is its last character but one, and the
last character behind it. -/
def Line.cutReturn (raw : List Char) : Option (List Char × Char) :=
  match raw.reverse with
  | last :: '\r' :: front => if last.toNat < 0x80 then some (front.reverse, last) else none
  | _ => none

/-- A line of raw text as code has it: without a carriage return in front of its last character. -/
def Line.codeText (raw : List Char) : List Char :=
  match Line.cutReturn raw with
  | some (front, last) => front ++ [last]
  | none => raw

theorem Line.length_rawRest (ending : List Char) (lines : List Line) :
    (Line.rawRest ending lines).2.length ≤ lines.length := by
  induction lines generalizing ending with
  | nil => simp [rawRest]
  | cons next rest ih =>
    rw [rawRest]
    split
    · exact Nat.le_succ_of_le (ih next.ending)
    · exact Nat.le_refl _

/-! ## Cursors -/

/-- A place inside a line. -/
structure Cursor where
  rest : List Char
  /-- The column of the first character of the rest. -/
  column : Nat := 0
  /-- The columns left of a tab that was read in part. -/
  pending : Nat := 0
deriving Inhabited

namespace Cursor

/-- The start of a line. -/
def ofLine (line : Line) : Cursor :=
  { rest := line.text }

/-- No character is left. -/
def atEnd (c : Cursor) : Bool :=
  c.rest.isEmpty

/-- Skips up to `n` columns of spaces and tabs; gives the columns that were missing. -/
def skipChars (n : Nat) (column : Nat) : List Char → Nat × Cursor
  | ' ' :: rest =>
    match n with
    | 0 => (0, ⟨' ' :: rest, column, 0⟩)
    | n + 1 => skipChars n (column + 1) rest
  | '\t' :: rest =>
    let width := 4 - column % 4
    if n = 0 then (0, ⟨'\t' :: rest, column, 0⟩)
    else if width ≤ n then skipChars (n - width) (column + width) rest
    else (0, ⟨rest, column + width, width - n⟩)
  | cs => (n, ⟨cs, column, 0⟩)

/-- Skips up to `n` columns; gives the columns that were missing and the place behind. -/
def skip (n : Nat) (c : Cursor) : Nat × Cursor :=
  if n ≤ c.pending then (0, { c with pending := c.pending - n })
  else skipChars (n - c.pending) c.column c.rest

/-- The place behind all spaces and tabs. -/
def skipAll (c : Cursor) : List Char :=
  c.rest.dropWhile fun x => x == ' ' || x == '\t'

/-- Skips one given character. -/
def skipChar (mark : Char) (c : Cursor) : Option Cursor :=
  match c.rest with
  | x :: rest => if x = mark then some { c with rest, column := c.column + 1 } else none
  | [] => none

/-- The rest with the columns of a half-read tab as spaces in front. -/
def text (c : Cursor) : List Char :=
  List.replicate c.pending ' ' ++ c.rest

end Cursor

end MarkdownDirectives.Markdown
