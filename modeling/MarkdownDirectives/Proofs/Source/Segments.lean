import MarkdownDirectives.Proofs.Source.Bracketed

/-!
# The pieces of a text

A text is cut into text directives and what lies between them. The search starts anew behind every
directive, where it knows nothing of what stands in front. As a directive ends in a bracket, and
no bracket keeps a colon from starting one, the cut is that of the text as a whole.

* `OpensAt` — a colon that can start a text directive, by what stands on both of its sides
* `exists_spells` — what a directive takes of a text, whatever follows it
* `findMark_eq_none_iff`, `findMark_eq_some` — the search finds the first one
* `findMark_before` — a text that was cut off in front of a directive has none of its own
* `pieces_segmentation` — every piece stands for a slice, and where the directives start
-/

namespace MarkdownDirectives.Source

open Text

/-! ## Where a directive starts -/

/-- A colon that starts a text directive, by the character in front of it and the text behind. -/
structure Opens (previous : Option Char) (rest : List Char) (tail : Tail) : Prop where
  free : ∀ c, previous = some c → isAlphanumeric c = false ∧ c ≠ ':'
  single : rest.head? ≠ some ':'
  read : readTail rest = some tail
  delimited : tail.delimited = true

/-- A text directive can start at a place of a text; `previous` is what stands in front of it. -/
def OpensAt (previous : Option Char) (cs : List Char) (start : Nat) : Prop :=
  ∃ front rest tail, cs = front ++ ':' :: rest ∧ front.length = start ∧
    Opens (front.getLast?.or previous) rest tail

variable {previous : Option Char} {cs rest : List Char} {tail : Tail}

theorem readTextMark_eq_some_iff {c : Char} :
    readTextMark previous c rest = some tail ↔ c = ':' ∧ Opens previous rest tail := by
  have hfree : (!previous.any blocksColon) = true
      ↔ ∀ c, previous = some c → isAlphanumeric c = false ∧ c ≠ ':' := by
    cases previous with
    | none => simp
    | some c => simp [blocksColon]
  rw [readTextMark, Option.ite_none_right_eq_some, Bool.and_eq_true, Bool.and_eq_true, hfree,
    decide_eq_true_iff, bne_iff_ne]
  constructor
  · rintro ⟨⟨⟨hc, hprevious⟩, hsingle⟩, h⟩
    split at h
    · next found hread =>
      rw [Option.ite_none_right_eq_some, Option.some.injEq] at h
      obtain ⟨hdelimited, rfl⟩ := h
      exact ⟨hc, hprevious, hsingle, hread, hdelimited⟩
    · cases h
  · rintro ⟨hc, h⟩
    refine ⟨⟨⟨hc, h.free⟩, h.single⟩, ?_⟩
    rw [h.read]
    exact if_pos h.delimited

/-- What stands in front of a text that is longer by a character in front. -/
theorem getLast?_cons_or (c : Char) (front : List Char) (previous : Option Char) :
    (c :: front).getLast?.or previous = front.getLast?.or (some c) := by
  rw [List.getLast?_cons, Option.some_or]
  cases front.getLast? <;> rfl

theorem opensAt_zero_iff {c : Char} :
    OpensAt previous (c :: rest) 0 ↔ ∃ tail, readTextMark previous c rest = some tail := by
  constructor
  · rintro ⟨front, behind, tail, hcs, hlength, hopens⟩
    obtain rfl := List.eq_nil_of_length_eq_zero hlength
    obtain ⟨rfl, rfl⟩ := List.cons.inj hcs
    exact ⟨tail, readTextMark_eq_some_iff.mpr ⟨rfl, hopens⟩⟩
  · rintro ⟨tail, h⟩
    obtain ⟨rfl, hopens⟩ := readTextMark_eq_some_iff.mp h
    exact ⟨[], rest, tail, rfl, rfl, hopens⟩

/-- Behind its first character a text is searched with that character in front. -/
theorem opensAt_succ_iff {c : Char} {start : Nat} :
    OpensAt previous (c :: rest) (start + 1) ↔ OpensAt (some c) rest start := by
  constructor
  · rintro ⟨front, behind, tail, hcs, hlength, hopens⟩
    cases front with
    | nil => cases hlength
    | cons d front =>
      obtain ⟨rfl, rfl⟩ := List.cons.inj hcs
      rw [getLast?_cons_or] at hopens
      exact ⟨front, behind, tail, rfl, Nat.succ.inj hlength, hopens⟩
  · rintro ⟨front, behind, tail, rfl, rfl, hopens⟩
    refine ⟨c :: front, behind, tail, rfl, rfl, ?_⟩
    rwa [getLast?_cons_or]

/-- A text behind another one is searched with the last character of that one in front. -/
theorem opensAt_append_iff {front : List Char} {start : Nat} :
    OpensAt previous (front ++ cs) (front.length + start)
      ↔ OpensAt (front.getLast?.or previous) cs start := by
  induction front generalizing previous with
  | nil => rw [List.nil_append, List.length_nil, Nat.zero_add, List.getLast?_nil, Option.none_or]
  | cons c front ih =>
    rw [List.cons_append, List.length_cons, Nat.add_right_comm, opensAt_succ_iff, ih,
      getLast?_cons_or]

/-- A character that keeps no colon from starting a directive need not be known. -/
theorem opensAt_congr {c : Char} (halpha : isAlphanumeric c = false) (hcolon : c ≠ ':')
    {start : Nat} : OpensAt (some c) cs start ↔ OpensAt none cs start := by
  constructor
  · rintro ⟨front, behind, tail, hcs, hlength, hopens⟩
    refine ⟨front, behind, tail, hcs, hlength, ?_, hopens.single, hopens.read, hopens.delimited⟩
    intro d hd
    rw [Option.or_none] at hd
    exact hopens.free d (by rw [hd, Option.some_or])
  · rintro ⟨front, behind, tail, hcs, hlength, hopens⟩
    refine ⟨front, behind, tail, hcs, hlength, ?_, hopens.single, hopens.read, hopens.delimited⟩
    intro d hd
    cases hlast : front.getLast? with
    | none =>
      rw [hlast] at hd
      cases hd
      exact ⟨halpha, hcolon⟩
    | some last =>
      rw [hlast] at hd
      exact hopens.free d (by rw [hlast, ← hd, Option.some_or, Option.some_or])

/-! ## What a directive takes -/

/-- A part in brackets that need not be there. -/
inductive IsPart (opening closing : Char) : Option (List Char) → List Char → Prop
  | absent : IsPart opening closing none []
  | present {inside : List Char} (h : Balanced opening closing inside) :
      IsPart opening closing (some inside) (opening :: (inside ++ [closing]))

theorem getLast?_bracketed (opening closing : Char) (inside : List Char) :
    (opening :: (inside ++ [closing])).getLast? = some closing := by
  rw [← List.cons_append, List.getLast?_concat]

/-- Reading such a part. -/
def readPart (opening closing : Char) : List Char → Option (Option (List Char) × List Char)
  | [] => some (none, [])
  | c :: rest =>
    if c = opening then
      (readBracketed opening closing 0 rest).map fun (inside, rest) => (some inside, rest)
    else some (none, c :: rest)

theorem readLabel_eq (cs : List Char) : readLabel cs = readPart '[' ']' cs := by
  cases cs with
  | nil => rfl
  | cons c rest =>
    by_cases hc : c = '['
    · subst hc
      rfl
    · simp [readLabel, readPart, hc]

theorem readBlock_eq (cs : List Char) : readBlock cs = readPart '{' '}' cs := by
  cases cs with
  | nil => rfl
  | cons c rest =>
    by_cases hc : c = '{'
    · subst hc
      rfl
    · simp [readBlock, readPart, hc]

/-- A part is read as far as its bracket, and without a bracket there is none. -/
theorem readPart_eq_some_iff {opening closing : Char} (hne : opening ≠ closing)
    {part : Option (List Char)} :
    readPart opening closing cs = some (part, rest)
      ↔ ∃ text, IsPart opening closing part text ∧ cs = text ++ rest ∧
          (part = none → rest.head? ≠ some opening) := by
  have hread {c : Char} {behind : List Char} : readPart opening closing (c :: behind)
      = if c = opening then
          (readBracketed opening closing 0 behind).map fun (inside, rest) => (some inside, rest)
        else some (none, c :: behind) := rfl
  constructor
  · intro h
    cases cs with
    | nil =>
      cases h
      exact ⟨[], .absent, rfl, fun _ => by simp⟩
    | cons c behind =>
      rw [hread] at h
      split at h
      · next hc =>
        subst hc
        obtain ⟨⟨inside, after⟩, hinside, heq⟩ := Option.map_eq_some_iff.mp h
        cases heq
        obtain ⟨rfl, hcloses⟩ := (readBracketed_eq_some_iff hne).mp hinside
        exact ⟨_, .present (closesPairs_zero.mp hcloses), by simp, nofun⟩
      · next hc =>
        cases h
        exact ⟨[], .absent, rfl, fun _ => by simpa using hc⟩
  · rintro ⟨text, hpart, rfl, hrest⟩
    cases hpart with
    | absent =>
      cases rest with
      | nil => rfl
      | cons c behind => rw [List.nil_append, hread, if_neg (by simpa using hrest rfl)]
    | present hbalanced =>
      rw [List.cons_append, List.append_assoc, hread, if_pos rfl, List.singleton_append,
        readBracketed_balanced hne hbalanced]
      rfl

/-- What is read of the parts of a directive. -/
def tailOf (name : List Char) (label block : Option (List Char)) (rest : List Char) : Tail where
  mark := {
    name := String.ofList name
    label := label.getD []
    attributes := (block.map readAttributes).getD SortedMap.empty }
  delimited := label.isSome || block.isSome
  rest := rest

/-- The parts of a directive and the texts of its label and its block. None of them ends early. -/
structure HasParts (name : List Char) (label block : Option (List Char))
    (labelText blockText rest : List Char) : Prop where
  isName : isName name = true
  isLabel : IsPart '[' ']' label labelText
  isBlock : IsPart '{' '}' block blockText
  nameEnds : ∀ c, (labelText ++ (blockText ++ rest)).head? = some c → isNameChar c = false
  noLabel : label = none → (blockText ++ rest).head? ≠ some '['
  noBlock : block = none → rest.head? ≠ some '{'

/-- A directive is read part by part. -/
theorem readTail_eq_some_iff :
    readTail cs = some tail
      ↔ ∃ name label block labelText blockText,
          HasParts name label block labelText blockText tail.rest ∧
          cs = name ++ (labelText ++ (blockText ++ tail.rest)) ∧
          tail = tailOf name label block tail.rest := by
  constructor
  · intro h
    rw [readTail] at h
    obtain ⟨hcs, -, hends⟩ := cut_eq_iff.mp (Prod.eta (cut isNameChar cs)).symm
    dsimp only at h hcs
    split at h
    · next hname =>
      split at h
      · cases h
      · next label behind hlabel =>
        rw [readLabel_eq, readPart_eq_some_iff (by decide)] at hlabel
        obtain ⟨labelText, hlabel, hbehind, hnoLabel⟩ := hlabel
        split at h
        · cases h
        · next block after hblock =>
          rw [readBlock_eq, readPart_eq_some_iff (by decide)] at hblock
          obtain ⟨blockText, hblock, rfl, hnoBlock⟩ := hblock
          cases h
          rw [hbehind] at hcs hends
          exact ⟨_, label, block, labelText, blockText,
            ⟨hname, hlabel, hblock, hends, hnoLabel, hnoBlock⟩, hcs, rfl⟩
    · cases h
  · rintro ⟨name, label, block, labelText, blockText, h, rfl, htail⟩
    have hchars : ∀ c ∈ name, isNameChar c = true := by
      have hname := h.isName
      rw [isName, Bool.and_eq_true, List.all_eq_true] at hname
      exact hname.2
    have hlabel : readLabel (labelText ++ (blockText ++ tail.rest))
        = some (label, blockText ++ tail.rest) := by
      rw [readLabel_eq, readPart_eq_some_iff (by decide)]
      exact ⟨labelText, h.isLabel, rfl, h.noLabel⟩
    have hblock : readBlock (blockText ++ tail.rest) = some (block, tail.rest) := by
      rw [readBlock_eq, readPart_eq_some_iff (by decide)]
      exact ⟨blockText, h.isBlock, rfl, h.noBlock⟩
    rw [readTail, cut_eq_iff.mpr ⟨rfl, hchars, h.nameEnds⟩]
    dsimp only
    rw [if_pos h.isName, hlabel]
    dsimp only
    rw [hblock]
    exact congrArg some htail.symm

namespace HasParts

variable {name labelText blockText rest' : List Char} {label block : Option (List Char)}

theorem exists_cons (h : HasParts name label block labelText blockText rest) :
    ∃ c more, name = c :: more ∧ c ≠ ':' := by
  have hname := h.isName
  cases name with
  | nil => cases hname
  | cons c more =>
    refine ⟨c, more, rfl, ?_⟩
    rintro rfl
    rw [Source.isName, Bool.and_eq_true] at hname
    exact absurd (show Char.isAlpha ':' = true from hname.1) (by decide)

theorem getLast?_eq (h : HasParts name label block labelText blockText rest)
    (hparts : (label.isSome || block.isSome) = true) :
    (name ++ (labelText ++ blockText)).getLast? = some ']' ∨
      (name ++ (labelText ++ blockText)).getLast? = some '}' := by
  cases h.isBlock with
  | present => exact .inr (by simp [getLast?_bracketed])
  | absent =>
    cases h.isLabel with
    | present => exact .inl (by simp [getLast?_bracketed])
    | absent => cases hparts

/-- Where there is a part, it is what the name ends at, whatever follows. -/
theorem of_rest (h : HasParts name label block labelText blockText rest)
    (hparts : (label.isSome || block.isSome) = true)
    (hrest : rest'.head? = some '{' → rest.head? = some '{') :
    HasParts name label block labelText blockText rest' := by
  have hbrace : block = none → rest'.head? ≠ some '{' := fun hblock hhead =>
    h.noBlock hblock (hrest hhead)
  cases hlabel : h.isLabel with
  | present =>
    refine ⟨h.isName, h.isLabel, h.isBlock, ?_, nofun, hbrace⟩
    rintro c ⟨⟩
    decide
  | absent =>
    cases hblock : h.isBlock with
    | present =>
      refine ⟨h.isName, h.isLabel, h.isBlock, ?_, fun _ => by simp, nofun⟩
      rintro c ⟨⟩
      decide
    | absent => cases hparts

end HasParts

/-- What a directive takes of the text behind its colon. Anything may follow it, apart from a brace
that did not follow it before. -/
structure Tail.Spells (tail : Tail) (text : List Char) : Prop where
  first : ∃ c more, text = c :: more ∧ c ≠ ':'
  last : text.getLast? = some ']' ∨ text.getLast? = some '}'
  read : ∀ rest, (rest.head? = some '{' → tail.rest.head? = some '{') →
    readTail (text ++ rest) = some { tail with rest }

/-- **A text directive takes a text from its name to a bracket.** -/
theorem exists_spells (h : readTail cs = some tail) (hdelimited : tail.delimited = true) :
    ∃ text, cs = text ++ tail.rest ∧ tail.Spells text := by
  obtain ⟨name, label, block, labelText, blockText, h, hcs, htail⟩ := readTail_eq_some_iff.mp h
  have hparts : (label.isSome || block.isSome) = true := by
    rwa [htail] at hdelimited
  obtain ⟨c, more, hname, hc⟩ := h.exists_cons
  refine ⟨name ++ (labelText ++ blockText), by simp [hcs],
    ⟨c, more ++ (labelText ++ blockText), by rw [hname]; rfl, hc⟩, h.getLast?_eq hparts,
    fun rest hrest => ?_⟩
  refine readTail_eq_some_iff.mpr ⟨name, label, block, labelText, blockText,
    h.of_rest hparts hrest, by simp, ?_⟩
  rw [htail]
  rfl

/-! ## Searching -/

/-- The directive that starts at a colon, on its own. -/
theorem findMark_alone {text : List Char} (h : Opens previous rest tail)
    (hspells : tail.Spells text) : findMark none (':' :: text) = some ⟨[], tail.mark, []⟩ := by
  have hread := hspells.read [] (fun hbrace => absurd hbrace (by simp))
  rw [List.append_nil] at hread
  obtain ⟨c, more, htext, hc⟩ := hspells.first
  have hopens : Opens none text { tail with rest := [] } :=
    ⟨nofun, by rw [htext]; simpa using hc, hread, h.delimited⟩
  rw [findMark, readTextMark_eq_some_iff.mpr ⟨rfl, hopens⟩]

/-- Nothing is found where no directive can start. -/
theorem findMark_eq_none_iff :
    findMark previous cs = none ↔ ∀ start, ¬ OpensAt previous cs start := by
  induction cs generalizing previous with
  | nil =>
    refine ⟨fun _ start => ?_, fun _ => rfl⟩
    rintro ⟨front, behind, tail, hcs, -⟩
    simp at hcs
  | cons c rest ih =>
    rw [findMark]
    cases hmark : readTextMark previous c rest with
    | some tail =>
      constructor
      · intro h
        cases h
      · intro h
        exact absurd (opensAt_zero_iff.mpr ⟨tail, hmark⟩) (h 0)
    | none =>
      rw [Option.map_eq_none_iff, ih]
      constructor
      · intro h start
        cases start with
        | zero =>
          rw [opensAt_zero_iff, hmark]
          rintro ⟨tail, ⟨⟩⟩
        | succ start =>
          rw [opensAt_succ_iff]
          exact h start
      · intro h start
        rw [← opensAt_succ_iff]
        exact h (start + 1)

/-- **What is found is the first directive.** -/
theorem findMark_eq_some {found : Found} (h : findMark previous cs = some found) :
    ∃ rest tail, cs = found.before ++ ':' :: rest ∧
      Opens (found.before.getLast?.or previous) rest tail ∧
      found = ⟨found.before, tail.mark, tail.rest⟩ ∧
      ∀ start < found.before.length, ¬ OpensAt previous cs start := by
  induction cs generalizing previous found with
  | nil => cases h
  | cons c rest ih =>
    rw [findMark] at h
    split at h
    · next tail hmark =>
      cases h
      obtain ⟨rfl, hopens⟩ := readTextMark_eq_some_iff.mp hmark
      exact ⟨rest, tail, rfl, hopens, rfl, fun start hstart => absurd hstart (Nat.not_lt_zero _)⟩
    · next hmark =>
      obtain ⟨inner, hinner, rfl⟩ := Option.map_eq_some_iff.mp h
      obtain ⟨behind, tail, hrest, hopens, hfound, hfirst⟩ := ih hinner
      rw [← getLast?_cons_or] at hopens
      refine ⟨behind, tail, by rw [hrest]; rfl, hopens, by rw [hfound]; rfl, ?_⟩
      intro start hstart
      cases start with
      | zero =>
        rw [opensAt_zero_iff, hmark]
        rintro ⟨tail, ⟨⟩⟩
      | succ start =>
        rw [opensAt_succ_iff]
        exact hfirst start (Nat.lt_of_succ_lt_succ hstart)

/-- A directive of a text is one of the longer text too, if a colon follows. -/
theorem OpensAt.append_colon {start : Nat} (h : OpensAt previous cs start) (more : List Char) :
    OpensAt previous (cs ++ ':' :: more) start := by
  obtain ⟨front, rest, tail, rfl, hlength, hopens⟩ := h
  obtain ⟨text, rfl, hspells⟩ := exists_spells hopens.read hopens.delimited
  -- what follows the directive starts as before, or with the colon
  have hread := hspells.read (tail.rest ++ ':' :: more) fun hbrace => by
    cases hrest : tail.rest with
    | nil => simp [hrest] at hbrace
    | cons c behind => simpa [hrest] using hbrace
  have hsingle := hopens.single
  obtain ⟨c, others, rfl, -⟩ := hspells.first
  refine ⟨front, c :: others ++ (tail.rest ++ ':' :: more), _, by simp, hlength, hopens.free, ?_,
    hread, hopens.delimited⟩
  exact hsingle

/-- **What is cut off in front of a directive has no directive of its own.** -/
theorem findMark_before {found : Found} (h : findMark previous cs = some found) :
    findMark previous found.before = none := by
  obtain ⟨rest, tail, hcs, -, -, hfirst⟩ := findMark_eq_some h
  rw [findMark_eq_none_iff]
  intro start hstart
  have hlength : start < found.before.length := by
    obtain ⟨front, behind, -, hbefore, rfl, -⟩ := hstart
    simp [hbefore]
  refine hfirst start hlength ?_
  rw [hcs]
  exact hstart.append_colon rest

theorem pieces_eq_of_none (h : findMark none cs = none) : pieces cs = Piece.ofText cs := by
  rw [pieces]
  split
  · rfl
  · next found hfound =>
    rw [h] at hfound
    cases hfound

theorem pieces_eq_of_some {found : Found} (h : findMark none cs = some found) :
    pieces cs = Piece.ofText found.before ++ .directive found.mark :: pieces found.after := by
  rw [pieces]
  split
  · next hnone =>
    rw [h] at hnone
    cases hnone
  · next found' hfound =>
    rw [h] at hfound
    cases hfound
    rfl

theorem ofText_of_ne_nil {value : List Char} (hne : value ≠ []) :
    Piece.ofText value = [.text value] :=
  if_neg (by simpa using hne)

theorem mem_ofText {piece : Piece} {value : List Char} (h : piece ∈ Piece.ofText value) :
    value ≠ [] ∧ piece = .text value := by
  by_cases hne : value = []
  · rw [hne] at h
    cases h
  · rw [ofText_of_ne_nil hne, List.mem_singleton] at h
    exact ⟨hne, h⟩

/-- A text without directives is one piece. -/
theorem pieces_of_findMark {value : List Char} (hne : value ≠ [])
    (hnone : findMark none value = none) : pieces value = [.text value] := by
  rw [pieces_eq_of_none hnone, ofText_of_ne_nil hne]

/-- Plain text among the pieces is not empty and holds no directive. -/
theorem text_of_mem_pieces {value : List Char} (h : .text value ∈ pieces cs) :
    value ≠ [] ∧ findMark none value = none := by
  induction cs using pieces.induct with
  | case1 cs hnone =>
    rw [pieces_eq_of_none hnone] at h
    obtain ⟨hne, heq⟩ := mem_ofText h
    cases heq
    exact ⟨hne, hnone⟩
  | case2 cs found hfound ih =>
    rw [pieces_eq_of_some hfound, List.mem_append, List.mem_cons] at h
    rcases h with h | h | h
    · obtain ⟨hne, heq⟩ := mem_ofText h
      cases heq
      exact ⟨hne, findMark_before hfound⟩
    · cases h
    · exact ih h

/-! ## Slices -/

/-- The slice of a text that a piece stands for. -/
inductive Piece.IsSlice : Piece → List Char → Prop
  /-- Plain text stands for itself and holds no directive. -/
  | text {value : List Char} (hne : value ≠ []) (hnone : findMark none value = none) :
      IsSlice (.text value) value
  /-- The slice of a directive goes from its colon to a bracket. -/
  | directive {mark : Mark} {slice : List Char} (hfirst : slice.head? = some ':')
      (hlast : slice.getLast? = some ']' ∨ slice.getLast? = some '}')
      (halone : findMark none slice = some ⟨[], mark, []⟩) : IsSlice (.directive mark) slice

/-- A slice that starts at a place of the text is that of a directive. -/
def DirectiveAt (cuts : List (Piece × List Char)) (start : Nat) (slice : List Char) : Prop :=
  ∃ before mark after, cuts = before ++ (.directive mark, slice) :: after ∧
    (before.flatMap Prod.snd).length = start

/-- A directive starts at a place. -/
def StartsAt (cuts : List (Piece × List Char)) (place : Nat) : Prop :=
  ∃ slice, DirectiveAt cuts place slice

/-- A directive that starts earlier goes on at a place. -/
def GoesOnAt (cuts : List (Piece × List Char)) (place : Nat) : Prop :=
  ∃ start slice, DirectiveAt cuts start slice ∧ start < place ∧ place < start + slice.length

section Slices

variable {cuts : List (Piece × List Char)} {piece : Piece} {slice : List Char} {place : Nat}

theorem directiveAt_cons_iff {other : List Char} :
    DirectiveAt ((piece, slice) :: cuts) place other
      ↔ (place = 0 ∧ slice = other ∧ ∃ mark, piece = .directive mark) ∨
        ∃ start, place = slice.length + start ∧ DirectiveAt cuts start other := by
  constructor
  · rintro ⟨before, mark, after, hcuts, rfl⟩
    cases before with
    | nil =>
      cases hcuts
      exact .inl ⟨rfl, rfl, mark, rfl⟩
    | cons first before =>
      cases hcuts
      exact .inr ⟨(before.flatMap Prod.snd).length, by simp, before, mark, after, rfl, rfl⟩
  · rintro (⟨rfl, rfl, mark, rfl⟩ | ⟨start, rfl, before, mark, after, rfl, rfl⟩)
    · exact ⟨[], mark, cuts, rfl, rfl⟩
    · exact ⟨(piece, slice) :: before, mark, after, rfl, by simp⟩

/-- Behind a slice there are the directives of the other slices. -/
theorem startsAt_append_iff (hne : slice ≠ []) :
    StartsAt ((piece, slice) :: cuts) (slice.length + place) ↔ StartsAt cuts place := by
  have hlength : slice.length ≠ 0 := fun h => hne (List.eq_nil_of_length_eq_zero h)
  constructor
  · rintro ⟨other, h⟩
    rcases directiveAt_cons_iff.mp h with ⟨hzero, -⟩ | ⟨start, hstart, h⟩
    · omega
    · obtain rfl : place = start := by omega
      exact ⟨other, h⟩
  · rintro ⟨other, h⟩
    exact ⟨other, directiveAt_cons_iff.mpr (.inr ⟨place, rfl, h⟩)⟩

theorem goesOnAt_append_iff :
    GoesOnAt ((piece, slice) :: cuts) (slice.length + place) ↔ GoesOnAt cuts place := by
  constructor
  · rintro ⟨start, other, h, hstart, hend⟩
    rcases directiveAt_cons_iff.mp h with ⟨rfl, rfl, -⟩ | ⟨inner, rfl, hinner⟩
    · omega
    · exact ⟨inner, other, hinner, by omega, by omega⟩
  · rintro ⟨start, other, h, hstart, hend⟩
    exact ⟨slice.length + start, other, directiveAt_cons_iff.mpr (.inr ⟨start, rfl, h⟩),
      by omega, by omega⟩

/-- Within the first slice only that slice can start. -/
theorem startsAt_cons_iff (hplace : place < slice.length) :
    StartsAt ((piece, slice) :: cuts) place ↔ place = 0 ∧ ∃ mark, piece = .directive mark := by
  constructor
  · rintro ⟨other, h⟩
    rcases directiveAt_cons_iff.mp h with ⟨hzero, -, hpiece⟩ | ⟨start, rfl, -⟩
    · exact ⟨hzero, hpiece⟩
    · omega
  · rintro ⟨rfl, hpiece⟩
    exact ⟨slice, directiveAt_cons_iff.mpr (.inl ⟨rfl, rfl, hpiece⟩)⟩

theorem goesOnAt_cons_iff (hplace : place < slice.length) :
    GoesOnAt ((piece, slice) :: cuts) place ↔ place ≠ 0 ∧ ∃ mark, piece = .directive mark := by
  constructor
  · rintro ⟨start, other, h, hstart, hend⟩
    rcases directiveAt_cons_iff.mp h with ⟨rfl, -, hpiece⟩ | ⟨start, rfl, -⟩
    · exact ⟨by omega, hpiece⟩
    · omega
  · rintro ⟨hzero, hpiece⟩
    exact ⟨0, slice, directiveAt_cons_iff.mpr (.inl ⟨rfl, rfl, hpiece⟩), by omega, by omega⟩

end Slices

/-! ## The whole text -/

/-- Directives start exactly where the text lets them, as long as none of them goes on. -/
def IsCutOf (previous : Option Char) (cuts : List (Piece × List Char)) (cs : List Char) : Prop :=
  ∀ place, StartsAt cuts place ↔ ¬ GoesOnAt cuts place ∧ OpensAt previous cs place

section Whole

variable {cuts : List (Piece × List Char)} {slice : List Char}

theorem isCutOf_nil : IsCutOf previous [] [] := by
  intro place
  constructor
  · rintro ⟨slice, before, mark, after, hcuts, -⟩
    simp at hcuts
  · rintro ⟨-, front, rest, tail, hcs, -⟩
    simp at hcs

theorem IsCutOf.append {piece : Piece} (hne : slice ≠ [])
    (h : IsCutOf (slice.getLast?.or previous) cuts cs)
    (hslice : ∀ place < slice.length, StartsAt ((piece, slice) :: cuts) place
      ↔ ¬ GoesOnAt ((piece, slice) :: cuts) place ∧ OpensAt previous (slice ++ cs) place) :
    IsCutOf previous ((piece, slice) :: cuts) (slice ++ cs) := by
  intro place
  rcases Nat.lt_or_ge place slice.length with hplace | hplace
  · exact hslice place hplace
  · obtain ⟨place, rfl⟩ := Nat.exists_eq_add_of_le hplace
    rw [startsAt_append_iff hne, goesOnAt_append_iff, opensAt_append_iff]
    exact h place

/-- Plain text in front in which no directive can start. -/
theorem IsCutOf.text (hne : slice ≠ []) (h : IsCutOf (slice.getLast?.or previous) cuts cs)
    (hfree : ∀ place < slice.length, ¬ OpensAt previous (slice ++ cs) place) (value : List Char) :
    IsCutOf previous ((.text value, slice) :: cuts) (slice ++ cs) := by
  refine h.append hne fun place hplace => ?_
  rw [startsAt_cons_iff hplace]
  constructor
  · rintro ⟨-, -, ⟨⟩⟩
  · rintro ⟨-, hopens⟩
    exact absurd hopens (hfree place hplace)

/-- A directive in front. -/
theorem IsCutOf.directive (hne : slice ≠ []) (h : IsCutOf (slice.getLast?.or previous) cuts cs)
    (hopens : OpensAt previous (slice ++ cs) 0) (mark : Mark) :
    IsCutOf previous ((.directive mark, slice) :: cuts) (slice ++ cs) := by
  refine h.append hne fun place hplace => ?_
  rw [startsAt_cons_iff hplace, goesOnAt_cons_iff hplace]
  constructor
  · rintro ⟨rfl, -⟩
    exact ⟨fun hgoes => hgoes.1 rfl, hopens⟩
  · rintro ⟨hgoes, -⟩
    exact ⟨by_contra fun hzero => hgoes ⟨hzero, mark, rfl⟩, mark, rfl⟩

/-- Plain text as a cut of its own, unless it is empty. -/
def textCut (value : List Char) : List (Piece × List Char) :=
  (Piece.ofText value).map (·, value)

theorem map_fst_textCut (value : List Char) :
    (textCut value).map Prod.fst = Piece.ofText value := by
  rw [textCut, List.map_map]
  exact List.map_id _

theorem flatMap_snd_textCut (value : List Char) : (textCut value).flatMap Prod.snd = value := by
  by_cases hne : value = []
  · rw [hne]
    rfl
  · rw [textCut, ofText_of_ne_nil hne]
    exact List.append_nil value

theorem isSlice_textCut {value : List Char} (hnone : findMark none value = none) :
    ∀ cut ∈ textCut value, cut.1.IsSlice cut.2 := by
  intro cut hcut
  obtain ⟨piece, hpiece, rfl⟩ := List.mem_map.mp hcut
  obtain ⟨hne, rfl⟩ := mem_ofText hpiece
  exact .text hne hnone

theorem IsCutOf.textCut {value : List Char} (h : IsCutOf (value.getLast?.or previous) cuts cs)
    (hfree : ∀ place < value.length, ¬ OpensAt previous (value ++ cs) place) :
    IsCutOf previous (Source.textCut value ++ cuts) (value ++ cs) := by
  by_cases hne : value = []
  · rw [hne] at h ⊢
    exact h
  · rw [Source.textCut, ofText_of_ne_nil hne]
    exact h.text hne hfree value

end Whole

/-- Behind a bracket it makes no difference that it stands there. -/
theorem opensAt_bracket_iff {slice : List Char} {place : Nat}
    (hlast : slice.getLast? = some ']' ∨ slice.getLast? = some '}') :
    OpensAt (slice.getLast?.or previous) cs place ↔ OpensAt none cs place := by
  rcases hlast with hlast | hlast
  · rw [hlast, Option.some_or]
    exact opensAt_congr (by decide) (by decide)
  · rw [hlast, Option.some_or]
    exact opensAt_congr (by decide) (by decide)

/--
**A text is the slices of its pieces, and directives start where the whole text lets them.**

The induction is on the search. What it forgets in front of the rest is the bracket that the
directive ends in, which keeps no colon from starting one.
-/
theorem pieces_segmentation (cs : List Char) : ∃ cuts : List (Piece × List Char),
    cuts.map Prod.fst = pieces cs ∧ cuts.flatMap Prod.snd = cs ∧
      (∀ cut ∈ cuts, cut.1.IsSlice cut.2) ∧
      ∀ place, StartsAt cuts place ↔ ¬ GoesOnAt cuts place ∧ OpensAt none cs place := by
  induction cs using pieces.induct with
  | case1 cs hnone =>
    have hplaces : IsCutOf none (textCut cs ++ []) (cs ++ []) := by
      refine IsCutOf.textCut isCutOf_nil fun place _ => ?_
      rw [List.append_nil]
      exact findMark_eq_none_iff.mp hnone place
    rw [List.append_nil, List.append_nil] at hplaces
    refine ⟨textCut cs, ?_, flatMap_snd_textCut cs, isSlice_textCut hnone, hplaces⟩
    rw [map_fst_textCut, pieces_eq_of_none hnone]
  | case2 cs found hfound ih =>
    obtain ⟨cuts, hfst, hsnd, hslices, hplaces⟩ := ih
    obtain ⟨rest, tail, hcs, hopens, heq, hfirst⟩ := findMark_eq_some hfound
    obtain ⟨text, rfl, hspells⟩ := exists_spells hopens.read hopens.delimited
    have hmark : found.mark = tail.mark := congrArg Found.mark heq
    have hafter : found.after = tail.rest := congrArg Found.after heq
    have hbefore : findMark none found.before = none := findMark_before hfound
    have hlast : (':' :: text).getLast? = some ']' ∨ (':' :: text).getLast? = some '}' := by
      obtain ⟨c, more, rfl, -⟩ := hspells.first
      exact hspells.last
    rw [hafter] at hplaces hsnd
    rw [Option.or_none] at hopens
    have hrest : IsCutOf ((':' :: text).getLast?.or found.before.getLast?) cuts tail.rest :=
      fun place => by rw [opensAt_bracket_iff hlast, hplaces]
    have hdirective := hrest.directive (List.cons_ne_nil _ _)
      ⟨[], text ++ tail.rest, tail, rfl, rfl, hopens⟩ tail.mark
    refine ⟨textCut found.before ++ (.directive tail.mark, ':' :: text) :: cuts, ?_, ?_, ?_, ?_⟩
    · rw [List.map_append, map_fst_textCut, List.map_cons, hfst, pieces_eq_of_some hfound, hmark]
    · rw [List.flatMap_append, flatMap_snd_textCut, List.flatMap_cons, hsnd, hcs]
      simp
    · refine List.forall_mem_append.mpr ⟨isSlice_textCut hbefore, ?_⟩
      exact List.forall_mem_cons.mpr ⟨.directive rfl hlast (findMark_alone hopens hspells), hslices⟩
    · rw [hcs] at hfirst ⊢
      exact IsCutOf.textCut (by rwa [Option.or_none]) hfirst

end MarkdownDirectives.Source
