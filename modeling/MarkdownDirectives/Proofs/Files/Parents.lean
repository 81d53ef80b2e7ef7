import Mathlib.Data.List.DropRight
import MarkdownDirectives.Files.Path

/-!
# The way up from a path

The parent of a path is the path without its last name. It is found in the writing, so the text of
every path on the way up is a beginning of the text of the first one. The way ends with the path
that has no names: the root, or the empty path.

* `isAbove_parent?`, `parent?_eq_none_iff` — a parent has one name less
* `isAbove_up`, `isSome_up_iff` — what stands so many steps up, and how many steps there are
* `getElem?_ancestors` — the ancestors are the paths on the way up
-/

namespace MarkdownDirectives.Path

variable {p q : Path} {parts : List (List Char)}

/-! ## Names -/

/-- The part leads somewhere: it is neither empty nor a dot. -/
def leads (part : List Char) : Bool :=
  !(part.isEmpty || part == ['.'])

/-- The names of a path. A relative path starts with a name even if that is a dot. -/
def names (p : Path) : List (List Char) :=
  if p.absolute then p.parts.filter leads
  else p.parts.take 1 ++ (p.parts.drop 1).filter leads

/-- Parts that lead nowhere are dropped from the end. -/
theorem trimParts_eq_rdropWhile (parts : List (List Char)) :
    trimParts parts = parts.rdropWhile (!leads ·) := by
  have htest : (fun part : List Char => part.isEmpty || part == ['.']) = (!leads ·) := by
    funext part
    rw [leads, Bool.not_not]
  rw [trimParts, htest, List.rdropWhile]

theorem filter_trimParts (parts : List (List Char)) :
    (trimParts parts).filter leads = parts.filter leads := by
  have hsplit : trimParts parts ++ parts.rtakeWhile (!leads ·) = parts := by
    rw [trimParts_eq_rdropWhile]
    exact List.rdropWhile_append_rtakeWhile
  have hend : (parts.rtakeWhile (!leads ·)).filter leads = [] := by
    refine List.filter_eq_nil_iff.mpr fun part hpart => ?_
    simpa using List.mem_rtakeWhile_imp hpart
  conv_rhs => rw [← hsplit, List.filter_append, hend, List.append_nil]

theorem trimParts_eq_nil_iff : trimParts parts = [] ↔ parts.filter leads = [] := by
  rw [trimParts_eq_rdropWhile, List.rdropWhile_eq_nil_iff, List.filter_eq_nil_iff]
  simp

theorem prefix_trimParts (parts : List (List Char)) : trimParts parts <+: parts := by
  rw [trimParts_eq_rdropWhile]
  exact List.rdropWhile_prefix _ _

/-- Without the last part that leads somewhere there is one name less. -/
theorem exists_filter_of_trimParts (h : trimParts parts ≠ []) :
    ∃ name, parts.filter leads
      = (trimParts (trimParts parts).dropLast).filter leads ++ [name] := by
  have hlast : leads ((trimParts parts).getLast h) = true := by
    have hkept := trimParts_eq_rdropWhile parts
    have := List.rdropWhile_last_not (!leads ·) parts (hkept ▸ h)
    simpa [← hkept] using this
  refine ⟨(trimParts parts).getLast h, ?_⟩
  rw [filter_trimParts, ← filter_trimParts parts]
  conv_lhs => rw [← List.dropLast_append_getLast h, List.filter_append]
  rw [List.filter_cons_of_pos hlast, List.filter_nil]

/-! ## Parents -/

theorem prefix_intercalate {first second : List (List Char)} (h : first <+: second) :
    ['/'].intercalate first <+: ['/'].intercalate second := by
  obtain ⟨behind, rfl⟩ := h
  induction first with
  | nil => exact List.nil_prefix
  | cons part rest ih =>
    cases rest with
    | nil =>
      cases behind with
      | nil => exact List.prefix_refl _
      | cons next behind =>
        rw [List.intercalate_singleton, List.singleton_append, List.intercalate_cons_cons,
          List.append_assoc]
        exact List.prefix_append _ _
    | cons next rest =>
      rw [List.cons_append, List.cons_append, List.intercalate_cons_cons,
        List.intercalate_cons_cons]
      exact (List.prefix_append_right_inj _).mpr ih

theorem prefix_toList (habsolute : q.absolute = p.absolute) (h : q.parts <+: p.parts) :
    q.toList <+: p.toList := by
  rw [toList, toList, habsolute]
  exact (List.prefix_append_right_inj _).mpr (prefix_intercalate h)

/-- The path `q` is `p` without its last names, as many as there are `steps`. -/
structure IsAbove (q p : Path) (steps : Nat) : Prop where
  absolute : q.absolute = p.absolute
  names : ∃ dropped, p.names = q.names ++ dropped ∧ dropped.length = steps
  text : q.toList <+: p.toList

theorem isAbove_parent? (h : p.parent? = some q) : q.IsAbove p 1 := by
  obtain ⟨absolute, parts⟩ := p
  unfold parent? at h
  cases absolute with
  | true =>
    rw [if_pos rfl, Option.ite_none_left_eq_some, Option.some.injEq] at h
    obtain ⟨hne, rfl⟩ := h
    obtain ⟨name, hname⟩ := exists_filter_of_trimParts (mt List.isEmpty_iff.mpr hne)
    refine ⟨rfl, ⟨[name], hname, rfl⟩, prefix_toList rfl ?_⟩
    exact (prefix_trimParts _).trans ((List.dropLast_prefix _).trans (prefix_trimParts _))
  | false =>
    rw [if_neg Bool.false_ne_true] at h
    cases parts with
    | nil => cases h
    | cons first rest =>
      dsimp only at h
      split at h
      · next hnone =>
        -- nothing but the first name leads anywhere
        cases h
        have hrest := trimParts_eq_nil_iff.mp (List.isEmpty_iff.mp hnone)
        exact ⟨rfl, ⟨[first], congrArg (first :: ·) hrest, rfl⟩, prefix_toList rfl List.nil_prefix⟩
      · next hne =>
        cases h
        obtain ⟨name, hname⟩ := exists_filter_of_trimParts (mt List.isEmpty_iff.mpr hne)
        refine ⟨rfl, ⟨[name], congrArg (first :: ·) hname, rfl⟩, prefix_toList rfl ?_⟩
        exact List.cons_prefix_cons.mpr ⟨rfl,
          (prefix_trimParts _).trans ((List.dropLast_prefix _).trans (prefix_trimParts _))⟩

theorem parent?_eq_none_iff : p.parent? = none ↔ p.names = [] := by
  obtain ⟨absolute, parts⟩ := p
  unfold parent? names
  cases absolute with
  | true =>
    rw [if_pos rfl, if_pos rfl, ← trimParts_eq_nil_iff]
    simp
  | false =>
    rw [if_neg Bool.false_ne_true, if_neg Bool.false_ne_true]
    cases parts with
    | nil => exact ⟨fun _ => rfl, fun _ => rfl⟩
    | cons first rest =>
      dsimp only
      split <;> simp

/-! ## Steps -/

/-- The path so many steps up. -/
def up : Nat → Path → Option Path
  | 0, p => some p
  | steps + 1, p => p.parent?.bind (up steps)

/-- **So many steps up as many names are gone.** -/
theorem isAbove_up {steps : Nat} (h : p.up steps = some q) : q.IsAbove p steps := by
  induction steps generalizing p with
  | zero =>
    cases h
    exact ⟨rfl, ⟨[], (List.append_nil _).symm, rfl⟩, List.prefix_refl _⟩
  | succ steps ih =>
    obtain ⟨parent, hparent, hup⟩ := Option.bind_eq_some_iff.mp h
    have hrest := ih hup
    have hfirst := isAbove_parent? hparent
    obtain ⟨dropped, hnames, hlength⟩ := hrest.names
    obtain ⟨last, hnames', hlength'⟩ := hfirst.names
    refine ⟨hrest.absolute.trans hfirst.absolute, ⟨dropped ++ last, ?_, ?_⟩,
      hrest.text.trans hfirst.text⟩
    · rw [hnames', hnames, List.append_assoc]
    · rw [List.length_append, hlength, hlength']

/-- **There is one step for every name.** -/
theorem isSome_up_iff (p : Path) (steps : Nat) :
    (p.up steps).isSome = true ↔ steps ≤ p.names.length := by
  induction steps generalizing p with
  | zero => simp [up]
  | succ steps ih =>
    rw [up]
    cases hparent : p.parent? with
    | none =>
      rw [parent?_eq_none_iff.mp hparent]
      simp
    | some parent =>
      obtain ⟨last, hnames, hlength⟩ := (isAbove_parent? hparent).names
      rw [Option.bind_some, ih, hnames, List.length_append, hlength]
      omega

theorem getElem?_ancestors (p : Path) (steps : Nat) : p.ancestors[steps]? = p.up steps := by
  induction steps generalizing p with
  | zero =>
    rw [ancestors]
    split <;> rfl
  | succ steps ih =>
    rw [ancestors, up]
    split
    · next parent hparent => rw [List.getElem?_cons_succ, ih, hparent, Option.bind_some]
    · next hparent => rw [hparent]; rfl

end MarkdownDirectives.Path
