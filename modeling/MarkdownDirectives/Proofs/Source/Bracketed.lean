import Mathlib.Data.List.Infix
import MarkdownDirectives.Source.Mark

/-!
# Balanced texts

The text between two brackets ends where as many brackets have been closed as opened. So a text in
which every bracket has its partner is read as a whole, whatever stands behind the bracket that
closes it.

* `Balanced` — no beginning closes more than it opens, and the whole closes as much as it opens
* `ClosesPairs` — the same for a text with pairs open in front of it
* `readBracketed_eq_some_iff` — what is read is the text that closes the pairs open in front of it
* `readBracketed_balanced` — a balanced text is read to the bracket behind it
* `balanced_append_left_iff`, `balanced_append_right_iff` — text without brackets does not matter
-/

namespace MarkdownDirectives.Source

/-- A text in which every bracket has its partner. -/
structure Balanced (opening closing : Char) (cs : List Char) : Prop where
  /-- Along the way no more is closed than has been opened. -/
  within : ∀ front, front <+: cs → front.count closing ≤ front.count opening
  /-- At the end nothing is open. -/
  closed : cs.count closing = cs.count opening

variable {opening closing : Char}

/-- The beginnings of a text are finitely many. -/
theorem balanced_iff {cs : List Char} :
    Balanced opening closing cs ↔
      (∀ front ∈ cs.inits, front.count closing ≤ front.count opening) ∧
        cs.count closing = cs.count opening := by
  constructor
  · intro h
    exact ⟨fun front hfront => h.within front ((List.mem_inits _ _).mp hfront), h.closed⟩
  · rintro ⟨hwithin, hclosed⟩
    exact ⟨fun front hfront => hwithin front ((List.mem_inits _ _).mpr hfront), hclosed⟩

instance (cs : List Char) : Decidable (Balanced opening closing cs) :=
  decidable_of_iff _ balanced_iff.symm

/-! ## Pairs that are open in front -/

/-- A text that closes the `depth` pairs open in front of it, and no more along the way. -/
structure ClosesPairs (opening closing : Char) (depth : Nat) (cs : List Char) : Prop where
  within : ∀ front, front <+: cs → front.count closing ≤ front.count opening + depth
  closed : cs.count closing = cs.count opening + depth

theorem closesPairs_nil {depth : Nat} : ClosesPairs opening closing depth [] ↔ depth = 0 := by
  constructor
  · intro h
    simpa using h.closed.symm
  · rintro rfl
    exact ⟨fun front hfront => by simp [List.prefix_nil.mp hfront], rfl⟩

/-- A character in front of a text changes the number of pairs that are open in front of it. -/
theorem closesPairs_cons {c : Char} {cs : List Char} {outer inner : Nat}
    (h : ∀ front : List Char,
      (c :: front).count closing ≤ (c :: front).count opening + outer
        ↔ front.count closing ≤ front.count opening + inner)
    (h' : (c :: cs).count closing = (c :: cs).count opening + outer
      ↔ cs.count closing = cs.count opening + inner) :
    ClosesPairs opening closing outer (c :: cs) ↔ ClosesPairs opening closing inner cs := by
  constructor
  · intro hcs
    refine ⟨fun front hfront => ?_, h'.mp hcs.closed⟩
    exact (h front).mp (hcs.within (c :: front) (List.cons_prefix_cons.mpr ⟨rfl, hfront⟩))
  · intro hcs
    refine ⟨fun front hfront => ?_, h'.mpr hcs.closed⟩
    rcases List.prefix_cons_iff.mp hfront with rfl | ⟨more, rfl, hmore⟩
    · simp
    · exact (h more).mpr (hcs.within more hmore)

theorem closesPairs_opening (hne : opening ≠ closing) {depth : Nat} {cs : List Char} :
    ClosesPairs opening closing depth (opening :: cs)
      ↔ ClosesPairs opening closing (depth + 1) cs := by
  refine closesPairs_cons (fun front => ?_) ?_
  · rw [List.count_cons_self, List.count_cons_of_ne hne]
    omega
  · rw [List.count_cons_self, List.count_cons_of_ne hne]
    omega

theorem closesPairs_closing (hne : opening ≠ closing) {depth : Nat} {cs : List Char} :
    ClosesPairs opening closing (depth + 1) (closing :: cs)
      ↔ ClosesPairs opening closing depth cs := by
  refine closesPairs_cons (fun front => ?_) ?_
  · rw [List.count_cons_self, List.count_cons_of_ne hne.symm]
    omega
  · rw [List.count_cons_self, List.count_cons_of_ne hne.symm]
    omega

/-- Where nothing is open a closing bracket closes too much. -/
theorem not_closesPairs_closing (hne : opening ≠ closing) {cs : List Char} :
    ¬ ClosesPairs opening closing 0 (closing :: cs) := by
  intro h
  have hfirst := h.within [closing] (List.cons_prefix_cons.mpr ⟨rfl, List.nil_prefix⟩)
  rw [List.count_cons_self, List.count_cons_of_ne hne.symm] at hfirst
  simp at hfirst

theorem closesPairs_other {c : Char} (ho : c ≠ opening) (hc : c ≠ closing) {depth : Nat}
    {cs : List Char} :
    ClosesPairs opening closing depth (c :: cs) ↔ ClosesPairs opening closing depth cs := by
  refine closesPairs_cons (fun front => ?_) ?_
  · rw [List.count_cons_of_ne ho, List.count_cons_of_ne hc]
  · rw [List.count_cons_of_ne ho, List.count_cons_of_ne hc]

theorem closesPairs_zero {cs : List Char} :
    ClosesPairs opening closing 0 cs ↔ Balanced opening closing cs :=
  ⟨fun h => ⟨h.within, h.closed⟩, fun h => ⟨h.within, h.closed⟩⟩

/-- Where a character does not end the text, it is put in front of what is found behind it. -/
theorem closesPairs_split_cons {c : Char} {tail inside rest : List Char} {outer inner : Nat}
    (hends : c = closing → outer ≠ 0)
    (hcloses : ∀ cs, ClosesPairs opening closing outer (c :: cs)
      ↔ ClosesPairs opening closing inner cs) :
    (c :: tail = inside ++ closing :: rest ∧ ClosesPairs opening closing outer inside)
      ↔ ∃ read, inside = c :: read ∧ tail = read ++ closing :: rest ∧
          ClosesPairs opening closing inner read := by
  constructor
  · rintro ⟨htext, hinside⟩
    cases inside with
    | nil => exact absurd (closesPairs_nil.mp hinside) (hends (List.cons.inj htext).1)
    | cons d read =>
      obtain ⟨rfl, htail⟩ := List.cons.inj htext
      exact ⟨read, rfl, htail, (hcloses read).mp hinside⟩
  · rintro ⟨read, rfl, rfl, hread⟩
    exact ⟨rfl, (hcloses read).mpr hread⟩

/-! ## Reading -/

/--
**Reading takes the text that closes the pairs open in front of it, and the bracket behind it.**

The induction is on the text; a bracket changes the number of open pairs for the rest of it.
-/
theorem readBracketed_eq_some_iff (hne : opening ≠ closing) {cs inside rest : List Char}
    {depth : Nat} :
    readBracketed opening closing depth cs = some (inside, rest)
      ↔ cs = inside ++ closing :: rest ∧ ClosesPairs opening closing depth inside := by
  induction cs generalizing depth inside rest with
  | nil => simp [readBracketed]
  | cons c tail ih =>
    have hmap : ∀ inner : Nat,
        (readBracketed opening closing inner tail).map (fun found => (c :: found.1, found.2))
            = some (inside, rest)
          ↔ ∃ read, inside = c :: read ∧ tail = read ++ closing :: rest ∧
              ClosesPairs opening closing inner read := by
      intro inner
      rw [Option.map_eq_some_iff]
      constructor
      · rintro ⟨⟨read, behind⟩, hread, heq⟩
        obtain ⟨rfl, rfl⟩ := Prod.mk.inj heq
        exact ⟨read, rfl, ih.mp hread⟩
      · rintro ⟨read, rfl, hread⟩
        exact ⟨(read, rest), ih.mpr hread, rfl⟩
    rw [readBracketed.eq_def]
    dsimp only
    by_cases ho : c = opening
    · rw [if_pos ho]
      refine (hmap (depth + 1)).trans (closesPairs_split_cons ?_ fun cs => ?_).symm
      · exact fun hc => absurd (ho.symm.trans hc) hne
      · rw [ho]
        exact closesPairs_opening hne
    · rw [if_neg ho]
      by_cases hc : c = closing
      · subst hc
        rw [if_pos rfl]
        cases depth with
        | zero =>
          cases inside with
          | nil => simp [closesPairs_nil]
          | cons d inside =>
            simp only [List.cons_append, List.cons.injEq, Option.some.injEq, Prod.mk.injEq,
              reduceCtorEq, false_and, false_iff]
            rintro ⟨⟨rfl, -⟩, hcloses⟩
            exact not_closesPairs_closing hne hcloses
        | succ depth =>
          exact (hmap depth).trans (closesPairs_split_cons (fun _ => Nat.succ_ne_zero depth)
            fun cs => closesPairs_closing hne).symm
      · rw [if_neg hc]
        exact (hmap depth).trans (closesPairs_split_cons (fun h => absurd h hc)
          fun cs => closesPairs_other ho hc).symm

/-- **A balanced text between brackets is read as it is.** -/
theorem readBracketed_balanced (hne : opening ≠ closing) {cs : List Char}
    (h : Balanced opening closing cs) (rest : List Char) :
    readBracketed opening closing 0 (cs ++ closing :: rest) = some (cs, rest) :=
  (readBracketed_eq_some_iff hne).mpr ⟨rfl, closesPairs_zero.mpr h⟩

/-! ## Text around -/

section Around

variable {before behind cs : List Char}

theorem prefix_append_cases {front : List Char} (h : front <+: before ++ behind) :
    front <+: before ∨ ∃ more, more <+: behind ∧ front = before ++ more := by
  rcases List.prefix_or_prefix_of_prefix h (List.prefix_append before behind) with h' | h'
  · exact .inl h'
  · obtain ⟨more, rfl⟩ := h'
    exact .inr ⟨more, (List.prefix_append_right_inj before).mp h, rfl⟩

theorem count_eq_zero_of_isPrefix {front : List Char} {c : Char} (hc : c ∉ cs) (h : front <+: cs) :
    front.count c = 0 :=
  List.count_eq_zero_of_not_mem fun hmem => hc (h.subset hmem)

/-- Text without brackets in front of a text changes nothing. -/
theorem balanced_append_left_iff (ho : opening ∉ before) (hc : closing ∉ before) :
    Balanced opening closing (before ++ cs) ↔ Balanced opening closing cs := by
  have ho' := List.count_eq_zero_of_not_mem ho
  have hc' := List.count_eq_zero_of_not_mem hc
  constructor
  · rintro ⟨hwithin, hclosed⟩
    refine ⟨fun front hfront => ?_, ?_⟩
    · have := hwithin (before ++ front) ((List.prefix_append_right_inj before).mpr hfront)
      rwa [List.count_append, List.count_append, ho', hc', Nat.zero_add, Nat.zero_add] at this
    · rwa [List.count_append, List.count_append, ho', hc', Nat.zero_add, Nat.zero_add] at hclosed
  · rintro ⟨hwithin, hclosed⟩
    refine ⟨fun front hfront => ?_, ?_⟩
    · rcases prefix_append_cases hfront with hfront | ⟨more, hmore, rfl⟩
      · rw [count_eq_zero_of_isPrefix hc hfront]
        exact Nat.zero_le _
      · rw [List.count_append, List.count_append, ho', hc', Nat.zero_add, Nat.zero_add]
        exact hwithin more hmore
    · rw [List.count_append, List.count_append, ho', hc', Nat.zero_add, Nat.zero_add]
      exact hclosed

/-- Text without brackets behind a text changes nothing. -/
theorem balanced_append_right_iff (ho : opening ∉ behind) (hc : closing ∉ behind) :
    Balanced opening closing (cs ++ behind) ↔ Balanced opening closing cs := by
  have ho' := List.count_eq_zero_of_not_mem ho
  have hc' := List.count_eq_zero_of_not_mem hc
  constructor
  · rintro ⟨hwithin, hclosed⟩
    refine ⟨fun front hfront => hwithin front (hfront.trans (List.prefix_append cs behind)), ?_⟩
    rwa [List.count_append, List.count_append, ho', hc'] at hclosed
  · rintro ⟨hwithin, hclosed⟩
    refine ⟨fun front hfront => ?_, by rw [List.count_append, List.count_append, ho', hc', hclosed]⟩
    rcases prefix_append_cases hfront with hfront | ⟨more, hmore, rfl⟩
    · exact hwithin front hfront
    · rw [List.count_append, List.count_append, count_eq_zero_of_isPrefix ho hmore,
        count_eq_zero_of_isPrefix hc hmore, hclosed]

end Around

end MarkdownDirectives.Source
