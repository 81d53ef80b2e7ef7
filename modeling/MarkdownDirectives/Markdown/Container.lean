import MarkdownDirectives.Markdown.LeafLine

/-!
# Containers

Quotes and list items hold blocks of their own. A line belongs to an open container if it starts
the way the container asks for; containers are asked from the outermost to the innermost.
-/

namespace MarkdownDirectives.Markdown

/-- A container that is open. -/
inductive Container where
  | quote
  /-- A list of items with one mark. In a tight list no blank line stands between blocks. -/
  | list (tight : Bool) (mark : Char) (start : Nat)
  /-- An item, whose content is indented. -/
  | item (indent : Nat)
deriving DecidableEq, Inhabited

namespace Container

/-- The mark of a quote at the front of a line, with one space behind it. -/
def quoteMark (c : Cursor) : Option Cursor :=
  (c.skipChar '>').map fun c => (c.skip 1).2

/-- The place behind what a container asks for, if a line starts with it. -/
def enter? : Container → Cursor → Option Cursor
  | quote, c => quoteMark (c.skip 3).2
  | list .., c => some c
  | item indent, c =>
    let (missing, c) := c.skip indent
    if missing = 0 || c.atEnd then some c else none

/-- How many of the containers, outermost first, a line belongs to, and the place behind. -/
def enterAll : List Container → Cursor → Nat × Cursor
  | [], c => (0, c)
  | container :: inner, c =>
    match container.enter? c with
    | none => (0, c)
    | some c =>
      let (depth, c) := enterAll inner c
      (depth + 1, c)

end Container

/-! ## List marks -/

/-- The start of a list item. -/
structure ItemMark where
  mark : Char
  /-- The number of the item, zero for a bullet. -/
  start : Nat := 0
  /-- The characters of the mark. -/
  width : Nat := 1
deriving DecidableEq, Inhabited

/-- The mark of an item at the front of a text, whatever stands behind it. A line that is a rule
has none. -/
def itemMark? : List Char → Option ItemMark
  | [] => none
  | c :: rest =>
    if c = '-' || c = '+' || c = '*' then
      if isRule (c :: rest) then none else some { mark := c }
    else
      let digits := (c :: rest).takeWhile Char.isDigit
      if digits.isEmpty || 9 < digits.length then none
      else match (c :: rest).drop digits.length with
        | mark :: _ =>
          if mark = '.' || mark = ')' then
            some ⟨mark, digits.foldl (fun n d => n * 10 + (d.toNat - 0x30)) 0, digits.length + 1⟩
          else none
        | [] => none

/-- A list item at a place in a line: its mark, the columns that its content is indented by from
the mark on, and the place where the content starts. -/
def readItem (c : Cursor) : Option (ItemMark × Nat × Cursor) :=
  match itemMark? c.rest with
  | none => none
  | some mark =>
    let behind : Cursor := ⟨c.rest.drop mark.width, c.column + mark.width, c.pending⟩
    let (missing, content) := behind.skip 1
    if missing ≠ 0 && !content.atEnd then none
    else if onlySpace content.rest then some (mark, mark.width + 1, content)
    else
      let (short, indented) := content.skip 4
      if short = 0 then some (mark, mark.width + 1, content)
      else some (mark, mark.width + 1 + (4 - short), indented)

/-! ## Ends of paragraphs -/

/-- Whether an item may end a paragraph that stands right before it: its number is one, and there
is something on its line. -/
def ItemMark.interrupts (mark : ItemMark) (cs : List Char) : Bool :=
  let numbered := mark.mark = '.' || mark.mark = ')'
  (!numbered || mark.start = 1) && !onlySpace (cs.drop mark.width)

/-- Whether a line ends the paragraph above it; `inside` says whether the line belongs to all
containers of the paragraph, and `more` is what it has behind its text as a line of raw text. -/
def endsParagraph (inside : Bool) (cs more : List Char) : Bool :=
  cs.isEmpty || isRule cs || (numberSignLevel? cs).isSome || (codeFence? (cs ++ more)).isSome
    || cs.head? = some '>' || (strongHtml? cs).isSome
    || match itemMark? cs with
      | some mark =>
        let rest := cs.drop mark.width
        rest.head?.all (fun c => c == ' ' || c == '\t') && (!inside || mark.interrupts cs)
      | none => false

/-! ## Lengths -/

theorem Cursor.length_skipChars (n column : Nat) (cs : List Char) :
    (Cursor.skipChars n column cs).2.rest.length ≤ cs.length := by
  fun_induction Cursor.skipChars n column cs <;> simp_all <;> omega

theorem Cursor.length_skip (n : Nat) (c : Cursor) : (c.skip n).2.rest.length ≤ c.rest.length := by
  unfold Cursor.skip
  split
  · exact Nat.le_refl _
  · exact Cursor.length_skipChars _ _ _

theorem Container.length_quoteMark {c c' : Cursor} (h : quoteMark c = some c') :
    c'.rest.length < c.rest.length := by
  unfold quoteMark Cursor.skipChar at h
  split at h
  · next x rest hr =>
    split at h
    · simp only [Option.map_some, Option.some.injEq] at h
      subst h
      rw [hr]
      exact Nat.lt_succ_of_le (Cursor.length_skip 1 _)
    · simp at h
  · simp at h

theorem width_pos {cs : List Char} {mark : ItemMark} (h : itemMark? cs = some mark) :
    0 < mark.width ∧ cs ≠ [] := by
  unfold itemMark? at h
  split at h
  · simp at h
  · split at h
    · split at h
      · simp at h
      · simp only [Option.some.injEq] at h
        subst h; simp
    · dsimp only at h
      split at h
      · simp at h
      · split at h
        · split at h
          · simp only [Option.some.injEq] at h
            subst h; simp
          · simp at h
        · simp at h

/-- The content of an item is shorter than the item. -/
theorem length_readItem {c content : Cursor} {mark : ItemMark} {indent : Nat}
    (h : readItem c = some (mark, indent, content)) : content.rest.length < c.rest.length := by
  unfold readItem at h
  split at h
  · simp at h
  · next found hf =>
    obtain ⟨hw, hne⟩ := width_pos hf
    have hpos := List.length_pos_iff.mpr hne
    simp only at h
    have h1 := Cursor.length_skip 1 ⟨c.rest.drop found.width, c.column + found.width, c.pending⟩
    simp only [List.length_drop] at h1
    repeat' split at h
    all_goals simp only [Option.some.injEq, Prod.mk.injEq, reduceCtorEq] at h
    all_goals obtain ⟨-, -, rfl⟩ := h
    · omega
    · omega
    · have h2 := Cursor.length_skip 4
        (Cursor.skip 1 ⟨c.rest.drop found.width, c.column + found.width, c.pending⟩).2
      omega

end MarkdownDirectives.Markdown
