import MarkdownDirectives.Text.Alphanumeric
import MarkdownDirectives.Source.Arguments

/-!
# Directive marks

The source form of a directive is colons, a name, and then a label in brackets and attributes in
braces, each optional: `:::name[label]{attributes}`. A container opens with three colons or more
and a leaf takes two, both on a line of their own; a text directive takes one colon inside a text
and needs a label or attributes.

The functions read from the front of a text and give back the rest.
-/

namespace MarkdownDirectives.Source

open Text

/-- What the source says of one directive. -/
structure Mark where
  name : String
  /-- The text between the brackets, empty if there are none. -/
  label : List Char := []
  attributes : Attributes := SortedMap.empty
deriving DecidableEq, Inhabited

/-! ## Brackets -/

/--
The text up to the closing bracket and the text behind that bracket.

Reading starts inside the brackets, with `depth` further pairs open. Other brackets and quotes
count like any character.
-/
def readBracketed (opening closing : Char) (depth : Nat) :
    List Char → Option (List Char × List Char)
  | [] => none
  | c :: rest =>
    if c = opening then
      (readBracketed opening closing (depth + 1) rest).map fun (inside, rest) => (c :: inside, rest)
    else if c = closing then
      match depth with
      | 0 => some ([], rest)
      | depth + 1 =>
        (readBracketed opening closing depth rest).map fun (inside, rest) => (c :: inside, rest)
    else
      (readBracketed opening closing depth rest).map fun (inside, rest) => (c :: inside, rest)

theorem length_readBracketed {opening closing : Char} {depth : Nat} {cs inside rest : List Char}
    (h : readBracketed opening closing depth cs = some (inside, rest)) :
    rest.length < cs.length := by
  induction cs generalizing depth inside with
  | nil => simp [readBracketed] at h
  | cons c tail ih =>
    unfold readBracketed at h
    split at h
    · simp only [Option.map_eq_some_iff, Prod.mk.injEq, Prod.exists] at h
      obtain ⟨i, r, hr, -, rfl⟩ := h
      have := ih hr
      simp; omega
    · split at h
      · split at h
        · simp only [Option.some.injEq, Prod.mk.injEq] at h
          rw [← h.2]; simp
        · simp only [Option.map_eq_some_iff, Prod.mk.injEq, Prod.exists] at h
          obtain ⟨i, r, hr, -, rfl⟩ := h
          have := ih hr
          simp; omega
      · simp only [Option.map_eq_some_iff, Prod.mk.injEq, Prod.exists] at h
        obtain ⟨i, r, hr, -, rfl⟩ := h
        have := ih hr
        simp; omega

/-! ## Behind the colons -/

/-- What was read behind the colons of a directive. -/
structure Tail where
  mark : Mark
  /-- Whether there was a label or an attribute block, empty or not. -/
  delimited : Bool
  rest : List Char
deriving Inhabited

/-- A name: an ASCII letter, then letters, digits, hyphens and underscores. -/
def isName (name : List Char) : Bool :=
  name.head?.any Char.isAlpha && name.all isNameChar

/-- The label at the front of a text, `none` if there is none. An unclosed one is an error. -/
def readLabel : List Char → Option (Option (List Char) × List Char)
  | '[' :: rest => (readBracketed '[' ']' 0 rest).map fun (label, rest) => (some label, rest)
  | cs => some (none, cs)

/-- The attribute block at the front of a text. An unclosed one is an error. -/
def readBlock : List Char → Option (Option (List Char) × List Char)
  | '{' :: rest => (readBracketed '{' '}' 0 rest).map fun (block, rest) => (some block, rest)
  | cs => some (none, cs)

/-- Name, label and attributes at the front of a text. -/
def readTail (cs : List Char) : Option Tail :=
  let (name, rest) := cut isNameChar cs
  if isName name then
    match readLabel rest with
    | none => none
    | some (label, rest) =>
      match readBlock rest with
      | none => none
      | some (block, rest) => some {
          mark := {
            name := String.ofList name
            label := label.getD []
            attributes := (block.map readAttributes).getD SortedMap.empty }
          delimited := label.isSome || block.isSome
          rest := rest }
  else none

theorem length_readLabel {cs rest : List Char} {label : Option (List Char)}
    (h : readLabel cs = some (label, rest)) : rest.length ≤ cs.length := by
  unfold readLabel at h
  split at h
  · simp only [Option.map_eq_some_iff, Prod.mk.injEq, Prod.exists] at h
    obtain ⟨i, r, hr, -, rfl⟩ := h
    have := length_readBracketed hr
    simp; omega
  · simp only [Option.some.injEq, Prod.mk.injEq] at h
    exact Nat.le_of_eq (congrArg List.length h.2.symm)

theorem length_readBlock {cs rest : List Char} {block : Option (List Char)}
    (h : readBlock cs = some (block, rest)) : rest.length ≤ cs.length := by
  unfold readBlock at h
  split at h
  · simp only [Option.map_eq_some_iff, Prod.mk.injEq, Prod.exists] at h
    obtain ⟨i, r, hr, -, rfl⟩ := h
    have := length_readBracketed hr
    simp; omega
  · simp only [Option.some.injEq, Prod.mk.injEq] at h
    exact Nat.le_of_eq (congrArg List.length h.2.symm)

/-- What stands behind a directive is no longer than what stands behind its colons. -/
theorem length_readTail {cs : List Char} {tail : Tail} (h : readTail cs = some tail) :
    tail.rest.length ≤ cs.length := by
  unfold readTail at h
  simp only at h
  split at h
  · split at h
    · simp at h
    · next label rest hl =>
      split at h
      · simp at h
      · next block after hb =>
        simp only [Option.some.injEq] at h
        subst h
        have h1 := length_cut_le isNameChar cs
        have h2 := length_readLabel hl
        have h3 := length_readBlock hb
        simp only
        omega
  · simp at h

/-! ## Lines -/

/-- The line behind an indentation of at most three spaces. -/
def dropIndent (line : List Char) : Option (List Char) :=
  let (indent, rest) := cut (· == ' ') line
  if indent.length ≤ 3 then some rest else none

/-- The number of colons a text starts with, and the rest. -/
def colonRun (cs : List Char) : Nat × List Char :=
  let (colons, rest) := cut (· == ':') cs
  (colons.length, rest)

/-- The directive that fills the rest of a line. -/
def wholeTail (cs : List Char) : Option Mark :=
  match readTail cs with
  | some tail => if blank tail.rest then some tail.mark else none
  | none => none

/-- A line that opens a container, with the number of its colons. -/
def containerOpening? (line : List Char) : Option (Nat × Mark) :=
  match dropIndent line with
  | none => none
  | some cs =>
    let (colons, rest) := colonRun cs
    if 3 ≤ colons then (wholeTail rest).map (colons, ·) else none

/-- A line that can close a container, by the number of its colons. -/
def containerClosing? (line : List Char) : Option Nat :=
  match dropIndent line with
  | none => none
  | some cs =>
    let (colons, rest) := colonRun cs
    if 3 ≤ colons && blank rest then some colons else none

/-- A line that is a leaf directive. -/
def leafLine? (line : List Char) : Option Mark :=
  match dropIndent line with
  | none => none
  | some cs =>
    let (colons, rest) := colonRun cs
    if colons = 2 then wholeTail rest else none

/-! ## Inside a text -/

/-- A character behind which a colon starts no directive. -/
def blocksColon (c : Char) : Bool :=
  isAlphanumeric c || c == ':'

/-- A text cut at its first text directive. -/
structure Found where
  before : List Char
  mark : Mark
  after : List Char
deriving Inhabited

/-- The same with one more character in front. -/
def Found.push (c : Char) (found : Found) : Found :=
  { found with before := c :: found.before }

/-- The text directive whose colon is `c`, between the character before it and the text behind. -/
def readTextMark (previous : Option Char) (c : Char) (rest : List Char) : Option Tail :=
  if c = ':' && !previous.any blocksColon && rest.head? != some ':' then
    match readTail rest with
    | some tail => if tail.delimited then some tail else none
    | none => none
  else none

/-- The first text directive of a text; `previous` is the character in front of the text. -/
def findMark (previous : Option Char) : List Char → Option Found
  | [] => none
  | c :: rest =>
    match readTextMark previous c rest with
    | some tail => some ⟨[], tail.mark, tail.rest⟩
    | none => (findMark (some c) rest).map (Found.push c)

theorem length_readTextMark {previous : Option Char} {c : Char} {rest : List Char} {tail : Tail}
    (h : readTextMark previous c rest = some tail) : tail.rest.length ≤ rest.length := by
  unfold readTextMark at h
  split at h
  · split at h
    · next t hr =>
      split at h
      · simp only [Option.some.injEq] at h
        subst h
        exact length_readTail hr
      · simp at h
    · simp at h
  · simp at h

theorem length_findMark {previous : Option Char} {cs : List Char} {found : Found}
    (h : findMark previous cs = some found) : found.after.length < cs.length := by
  induction cs generalizing previous found with
  | nil => simp [findMark] at h
  | cons c rest ih =>
    rw [findMark] at h
    split at h
    · next tail ht =>
      simp only [Option.some.injEq] at h
      subst h
      have := length_readTextMark ht
      simp; omega
    · simp only [Option.map_eq_some_iff] at h
      obtain ⟨g, hg, rfl⟩ := h
      have := ih hg
      simp [Found.push]; omega

/-- A piece of a text: plain text, or a text directive. -/
inductive Piece where
  | text (value : List Char)
  | directive (mark : Mark)
deriving DecidableEq, Inhabited

/-- A plain piece, unless it is empty. -/
def Piece.ofText (cs : List Char) : List Piece :=
  if cs.isEmpty then [] else [.text cs]

/-- A text cut into its text directives and what lies between them. -/
def pieces (cs : List Char) : List Piece :=
  match _h : findMark none cs with
  | none => Piece.ofText cs
  | some found => Piece.ofText found.before ++ .directive found.mark :: pieces found.after
termination_by cs.length
decreasing_by exact length_findMark _h

end MarkdownDirectives.Source
