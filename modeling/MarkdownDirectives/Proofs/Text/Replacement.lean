import Mathlib.Data.List.Infix
import MarkdownDirectives.Text.Search

/-!
# What replacing leaves

A text is cut at the places where it holds a mark: the pieces between them do not hold it. Where no
two places can overlap there is one way to cut, and replacing puts the new text in the place of
every mark and leaves the pieces as they are, whatever the new text holds.

* `exists_isCut` — every text can be cut
* `replaceString_of_isCut` — the pieces are kept, and the new text stands between them

## Marks that do not overlap

A mark whose first character does not come again in it cannot start inside itself. The placeholders
of addresses are such marks: their brace stands in front only.
-/

namespace MarkdownDirectives.Text

/-- The pieces of a text between the places where it holds a mark. -/
structure IsCut (mark text : String) (pieces : List String) : Prop where
  nonempty : pieces ≠ []
  text : mark.intercalate pieces = text
  free : ∀ piece ∈ pieces, ¬ mark.toList <:+: piece.toList

section Replacing

variable {mark new rest : List Char}

/-! ## One place -/

theorem replaceAll_mark (hne : mark ≠ []) (rest : List Char) :
    replaceAll mark new (mark ++ rest) = new ++ replaceAll mark new rest := by
  obtain ⟨c, tail, rfl⟩ := List.exists_cons_of_ne_nil hne
  have hpre : (c :: tail).isPrefixOf (c :: (tail ++ rest)) = true :=
    List.isPrefixOf_iff_prefix.mpr (List.prefix_append (c :: tail) rest)
  rw [List.cons_append, replaceAll, if_pos hpre, List.length_cons, Nat.add_sub_cancel,
    List.drop_left]

theorem replaceAll_cons {c : Char} (h : ¬ mark <+: c :: rest) :
    replaceAll mark new (c :: rest) = c :: replaceAll mark new rest := by
  rw [replaceAll, if_neg]
  rwa [List.isPrefixOf_iff_prefix]

/-- A mark does not start in a piece and end in the mark behind it. -/
theorem not_starts_before_mark {c first : Char} {piece tail more : List Char}
    (hfirst : first ∉ tail) (hfree : ¬ first :: tail <:+: c :: piece) :
    ¬ first :: tail <+: c :: piece ++ (first :: tail ++ more) := by
  intro hstart
  rcases List.prefix_or_prefix_of_prefix hstart (List.prefix_append (c :: piece) _) with h | h
  · exact hfree h.isInfix
  · obtain ⟨spare, hspare⟩ := h
    rw [← hspare, List.prefix_append_right_inj] at hstart
    cases spare with
    | nil =>
      rw [List.append_nil] at hspare
      exact hfree (hspare ▸ List.infix_rfl)
    | cons d spare =>
      -- what is left of the mark starts with its first character once more
      obtain ⟨hd, -⟩ := List.cons_prefix_cons.mp hstart
      obtain ⟨hc, htail⟩ := List.cons.inj hspare
      refine hfirst ?_
      rw [← htail, hd, hc]
      simp

/-- What stands in front of a mark, or of the end, is left as it is. -/
theorem replaceAll_piece {first : Char} {piece tail : List Char} (hfirst : first ∉ tail)
    (hfree : ¬ first :: tail <:+: piece) (hrest : rest = [] ∨ first :: tail <+: rest) :
    replaceAll (first :: tail) new (piece ++ rest)
      = piece ++ replaceAll (first :: tail) new rest := by
  induction piece with
  | nil => rfl
  | cons c piece ih =>
    have hno : ¬ first :: tail <+: c :: piece ++ rest := by
      rcases hrest with rfl | ⟨more, rfl⟩
      · intro hstart
        rw [List.append_nil] at hstart
        exact hfree hstart.isInfix
      · exact not_starts_before_mark hfirst hfree
    rw [List.cons_append] at hno
    rw [List.cons_append, replaceAll_cons hno, List.cons_append,
      ih fun h => hfree (List.infix_cons h)]

/-! ## All places -/

theorem replaceAll_intercalate {first : Char} {tail : List Char} (hfirst : first ∉ tail)
    {pieces : List (List Char)} (hfree : ∀ piece ∈ pieces, ¬ first :: tail <:+: piece) :
    replaceAll (first :: tail) new ((first :: tail).intercalate pieces)
      = new.intercalate pieces := by
  induction pieces with
  | nil => simp [replaceAll]
  | cons piece more ih =>
    obtain ⟨hpiece, hmore⟩ := List.forall_mem_cons.mp hfree
    cases more with
    | nil =>
      have hend : replaceAll (first :: tail) new (piece ++ [])
          = piece ++ replaceAll (first :: tail) new [] :=
        replaceAll_piece hfirst hpiece (.inl rfl)
      rw [List.append_nil] at hend
      rw [List.intercalate_singleton, List.intercalate_singleton, hend, replaceAll, List.append_nil]
    | cons next others =>
      rw [List.intercalate_cons_cons, List.intercalate_cons_cons, List.append_assoc,
        replaceAll_piece hfirst hpiece (.inr (List.prefix_append _ _)),
        replaceAll_mark (List.cons_ne_nil first tail), ih hmore, List.append_assoc]

theorem exists_pieces (hne : mark ≠ []) (cs : List Char) :
    ∃ pieces, pieces ≠ [] ∧ mark.intercalate pieces = cs ∧ ∀ piece ∈ pieces, ¬ mark <:+: piece := by
  induction cs using replaceAll.induct mark with
  | case1 =>
    refine ⟨[[]], List.cons_ne_nil _ _, List.intercalate_singleton, ?_⟩
    rw [List.forall_mem_singleton, List.infix_nil]
    exact hne
  | case2 c rest hstart ih =>
    obtain ⟨behind, hbehind⟩ := List.isPrefixOf_iff_prefix.mp hstart
    have hdrop : rest.drop (mark.length - 1) = behind := by
      obtain ⟨first, tail, rfl⟩ := List.exists_cons_of_ne_nil hne
      rw [List.cons_append, List.cons.injEq] at hbehind
      rw [← hbehind.2, List.length_cons, Nat.add_sub_cancel, List.drop_left]
    obtain ⟨pieces, hpieces, htext, hfree⟩ := ih
    obtain ⟨piece, more, rfl⟩ := List.exists_cons_of_ne_nil hpieces
    refine ⟨[] :: piece :: more, List.cons_ne_nil _ _, ?_, ?_⟩
    · rw [List.intercalate_cons_cons, htext, hdrop, List.nil_append, hbehind]
    · refine List.forall_mem_cons.mpr ⟨?_, hfree⟩
      rw [List.infix_nil]
      exact hne
  | case3 c rest hstart ih =>
    obtain ⟨pieces, hpieces, htext, hfree⟩ := ih
    obtain ⟨piece, more, rfl⟩ := List.exists_cons_of_ne_nil hpieces
    obtain ⟨hpiece, hmore⟩ := List.forall_mem_cons.mp hfree
    -- the first piece is where the rest of the text starts
    have hfront : piece <+: rest := by
      rw [← htext]
      cases more with
      | nil => rw [List.intercalate_singleton]
      | cons next others =>
        rw [List.intercalate_cons_cons, List.append_assoc]
        exact List.prefix_append piece _
    have hjoin : mark.intercalate ((c :: piece) :: more) = c :: rest := by
      rw [← htext]
      cases more with
      | nil => rfl
      | cons next others => rfl
    refine ⟨(c :: piece) :: more, List.cons_ne_nil _ _, hjoin, List.forall_mem_cons.mpr ⟨?_, hmore⟩⟩
    rw [List.infix_cons_iff]
    rintro (h | h)
    · refine hstart (List.isPrefixOf_iff_prefix.mpr (h.trans ?_))
      exact List.cons_prefix_cons.mpr ⟨rfl, hfront⟩
    · exact hpiece h

end Replacing

/-! ## Strings -/

/-- Every text can be cut. -/
theorem exists_isCut {mark : String} (hne : mark ≠ "") (text : String) :
    ∃ pieces, IsCut mark text pieces := by
  have hne' : mark.toList ≠ [] := by simpa using hne
  obtain ⟨pieces, hpieces, htext, hfree⟩ := exists_pieces hne' text.toList
  refine ⟨pieces.map String.ofList, ?_, ?_, ?_⟩
  · simpa using hpieces
  · rw [← String.toList_inj, String.toList_intercalate, List.map_map]
    simpa [Function.comp_def] using htext
  · intro piece hpiece
    obtain ⟨cs, hcs, rfl⟩ := List.mem_map.mp hpiece
    rw [String.toList_ofList]
    exact hfree cs hcs

/-- **Replacing a mark puts the new text between the pieces.** -/
theorem replaceString_of_isCut {mark text : String} {pieces : List String} {first : Char}
    {tail : List Char} (hmark : mark.toList = first :: tail) (hfirst : first ∉ tail)
    (h : IsCut mark text pieces) (new : String) :
    replaceString mark new text = new.intercalate pieces := by
  have hfree : ∀ piece ∈ pieces.map String.toList, ¬ first :: tail <:+: piece := by
    intro piece hpiece
    obtain ⟨s, hs, rfl⟩ := List.mem_map.mp hpiece
    rw [← hmark]
    exact h.free s hs
  rw [← String.toList_inj, replaceString, String.toList_ofList, ← h.text,
    String.toList_intercalate, String.toList_intercalate, hmark]
  exact replaceAll_intercalate hfirst hfree

end MarkdownDirectives.Text
