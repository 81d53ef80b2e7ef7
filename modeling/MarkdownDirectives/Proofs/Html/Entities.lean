import Mathlib.Logic.Function.Basic
import MarkdownDirectives.Html.Escape

/-!
# Reading entities

An escaped text is read character by character, from left to right. Where one of the five entities
starts, it stands for its character; every other character stands for itself, an ampersand among
them. What is read is the text that was escaped, whatever it holds: the ampersand is escaped too, so
an entity that the text had already is not taken for one that escaping has put there.

* `readChar_escapeChar` — one character
* `unescape_escape` — a whole text
* `exists_entity` — an ampersand in an escaped text starts an entity
* `escape_reversible` — escaping as a whole
-/

namespace MarkdownDirectives.Html

/-- The entities with the characters they stand for. -/
def entities : List (List Char × Char) := [
  ("&amp;".toList, '&'), ("&lt;".toList, '<'), ("&gt;".toList, '>'), ("&quot;".toList, '"'),
  ("&#x27;".toList, '\'')]

/-- The character of an entity that a text starts with, and what follows it. -/
def entity? (cs : List Char) : Option (Char × List Char) :=
  entities.findSome? fun entity =>
    if entity.1.isPrefixOf cs then some (entity.2, cs.drop entity.1.length) else none

/-- The character that a text which is not empty starts with, and what follows it. -/
def readChar (c : Char) (rest : List Char) : Char × List Char :=
  (entity? (c :: rest)).getD (c, rest)

/-- Every entity starts with an ampersand. -/
theorem exists_of_mem_entities : ∀ entity ∈ entities, ∃ more, entity.1 = '&' :: more := by
  simp only [← List.head?_eq_some_iff]
  decide

theorem length_readChar (c : Char) (rest : List Char) :
    (readChar c rest).2.length ≤ rest.length := by
  rw [readChar]
  cases h : entity? (c :: rest) with
  | none => exact Nat.le_refl _
  | some found =>
    obtain ⟨entity, hmem, hfound⟩ := List.exists_of_findSome?_eq_some h
    obtain ⟨more, hmore⟩ := exists_of_mem_entities entity hmem
    rw [hmore] at hfound
    split at hfound
    · cases hfound
      rw [Option.getD_some, List.length_cons, List.drop_succ_cons, List.length_drop]
      exact Nat.sub_le ..
    · cases hfound

/-- A text with its entities read. -/
def unescape (cs : List Char) : List Char :=
  match cs with
  | [] => []
  | c :: rest => (readChar c rest).1 :: unescape (readChar c rest).2
termination_by cs.length
decreasing_by
  have := length_readChar c rest
  rw [List.length_cons]
  omega

/-! ## What has been escaped -/

theorem readChar_of_ne {c : Char} (h : c ≠ '&') (rest : List Char) :
    readChar c rest = (c, rest) := by
  have hnone : entity? (c :: rest) = none := by
    rw [entity?, List.findSome?_eq_none_iff]
    intro entity hmem
    obtain ⟨more, hmore⟩ := exists_of_mem_entities entity hmem
    have hprefix : ¬ entity.1.isPrefixOf (c :: rest) = true := by
      rw [hmore, List.isPrefixOf_iff_prefix, List.cons_prefix_cons]
      rintro ⟨rfl, -⟩
      exact h rfl
    rw [if_neg hprefix]
  rw [readChar, hnone, Option.getD_none]

/-- **A character is read from what it is written as.** It is not written with a bracket in
front. -/
theorem readChar_escapeChar (c : Char) (rest : List Char) :
    ∃ first more, escapeChar c = first :: more ∧ first ≠ '<' ∧
      readChar first (more ++ rest) = (c, rest) := by
  unfold escapeChar
  split
  · exact ⟨'&', "amp;".toList, rfl, by decide, rfl⟩
  · exact ⟨'&', "lt;".toList, rfl, by decide, rfl⟩
  · exact ⟨'&', "gt;".toList, rfl, by decide, rfl⟩
  · exact ⟨'&', "quot;".toList, rfl, by decide, rfl⟩
  · exact ⟨'&', "#x27;".toList, rfl, by decide, rfl⟩
  · next hamp hlt hgt hquote happ => exact ⟨c, [], rfl, hlt, readChar_of_ne hamp rest⟩

theorem unescape_append (cs rest : List Char) :
    unescape (escapeChars cs ++ rest) = cs ++ unescape rest := by
  induction cs with
  | nil => rfl
  | cons c cs ih =>
    obtain ⟨first, more, hwritten, -, hread⟩ := readChar_escapeChar c (escapeChars cs ++ rest)
    have hsplit : escapeChars (c :: cs) ++ rest = first :: (more ++ (escapeChars cs ++ rest)) := by
      rw [escapeChars, List.flatMap_cons, ← escapeChars, hwritten, List.append_assoc,
        List.cons_append]
    rw [hsplit, unescape, hread, ih, List.cons_append]

/-- **An escaped text is read as the text.** -/
theorem unescape_escape (s : String) : String.ofList (unescape (escape s).toList) = s := by
  have h := unescape_append s.toList []
  rw [List.append_nil, unescape, List.append_nil] at h
  rw [escape, String.toList_ofList, h, String.ofList_toList]

/-- Entities that a text has already are kept. -/
example : (escape "1 &lt; 2").toList = "1 &amp;lt; 2".toList := by decide

/-! ## Ampersands -/

/-- A character is written as its entity, or as itself if it has none. -/
theorem escapeChar_cases (c : Char) :
    (escapeChar c, c) ∈ entities ∨ c ≠ '&' ∧ escapeChar c = [c] := by
  unfold escapeChar
  split
  · exact .inl (by decide)
  · exact .inl (by decide)
  · exact .inl (by decide)
  · exact .inl (by decide)
  · exact .inl (by decide)
  · next hamp _ _ _ _ => exact .inr ⟨hamp, rfl⟩

theorem ampersand_notMem_tail : ∀ entity ∈ entities, '&' ∉ entity.1.tail := by
  decide

/-- In what a character is written as, an ampersand stands in front, and it starts an entity. -/
theorem ampersand_escapeChar {c : Char} {front more : List Char}
    (h : escapeChar c = front ++ '&' :: more) : ('&' :: more, c) ∈ entities := by
  rcases escapeChar_cases c with hmem | ⟨hne, hself⟩
  · have hfree := ampersand_notMem_tail _ hmem
    rw [h] at hmem hfree
    cases front with
    | nil => exact hmem
    | cons d front => exact absurd (List.mem_append_right front List.mem_cons_self) hfree
  · rw [hself] at h
    cases front with
    | nil => exact absurd (List.cons.inj h).1 hne
    | cons d front => exact absurd (List.cons.inj h).2.symm (by simp)

/-- **An ampersand in an escaped text starts an entity.** -/
theorem exists_entity {cs rest : List Char} (h : '&' :: rest <:+ escapeChars cs) :
    ∃ entity ∈ entities, entity.1 <+: '&' :: rest := by
  induction cs with
  | nil => exact absurd (List.suffix_nil.mp h) (List.cons_ne_nil _ _)
  | cons c cs ih =>
    rw [escapeChars, List.flatMap_cons, ← escapeChars] at h
    obtain ⟨front, hfront⟩ := h
    -- it is written for the first character, or for one of the others
    rcases List.append_eq_append_iff.mp hfront with ⟨more, hchar, hrest⟩ | ⟨more, -, hrest⟩
    · cases more with
      | nil => exact ih ⟨[], hrest⟩
      | cons d more =>
        obtain ⟨rfl, rfl⟩ := List.cons.inj hrest
        exact ⟨_, ampersand_escapeChar hchar, List.prefix_append _ _⟩
    · exact ih ⟨more, hrest.symm⟩

/-! ## Escaping as a whole -/

theorem escape_append (s t : String) : escape (s ++ t) = escape s ++ escape t := by
  rw [escape, String.toList_append, escapeChars_append, String.ofList_append]
  rfl

/--
**Escaping is safe and can be undone.**

An escaped text holds no bracket and no quote, and its ampersands start entities. Reading those
gives the text back, so no two texts are written alike. A text can be escaped part by part.
-/
theorem escape_reversible (s t : String) :
    (∀ c ∈ (escape s).toList, c ≠ '<' ∧ c ≠ '>' ∧ c ≠ '"' ∧ c ≠ '\'') ∧
      (∀ rest, '&' :: rest <:+ (escape s).toList →
        ∃ entity ∈ entities, entity.1 <+: '&' :: rest) ∧
      String.ofList (unescape (escape s).toList) = s ∧
      Function.Injective escape ∧
      escape (s ++ t) = escape s ++ escape t := by
  refine ⟨?_, ?_, unescape_escape s, fun s t h => ?_, escape_append s t⟩
  · rw [escape, String.toList_ofList]
    exact escapeChars_clean s.toList
  · rw [escape, String.toList_ofList]
    exact fun rest => exists_entity
  · rw [← unescape_escape s, h, unescape_escape]

end MarkdownDirectives.Html
