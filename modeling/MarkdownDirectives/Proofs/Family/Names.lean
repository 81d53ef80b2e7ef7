import MarkdownDirectives.Proofs.Walk.Resolve

/-!
# Whose name it is

Aliases are free but for the names of the other families, and they may hold hyphens, so an alias
can look like the name of another family with a suffix. A suffix holds no hyphen, though, so the
last hyphen of a name says what it is a suffix of. With that the order in which the families are
tried matters for one kind of name only.

* `matchName?_eq_some_iff` — what fits one name of a family, as a relation
* `ofOptions_ok` — which options can be used
* `route_own`, `route_suffixed` — a family's own name, alone and with a suffix
* `reserved_names` — the same seen from the directive that has the name
-/

namespace MarkdownDirectives

/-! ## One name of a family -/

namespace Pattern

/-- One or more letters, digits and underscores of ASCII. -/
structure IsSuffix (suffix : String) : Prop where
  nonempty : suffix.toList ≠ []
  chars : ∀ c ∈ suffix.toList, isSuffixChar c = true

instance (suffix : String) : Decidable (IsSuffix suffix) :=
  decidable_of_iff (suffix.toList ≠ [] ∧ suffix.toList.all isSuffixChar = true)
    ⟨fun h => ⟨h.1, List.all_eq_true.mp h.2⟩, fun h => ⟨h.nonempty, List.all_eq_true.mpr h.chars⟩⟩

/-- How a directive can be named after `own`. -/
inductive Spells (rule : SuffixRule) (own : String) : String → NameMatch → Prop
  | bare (h : rule ≠ .required) : Spells rule own own {}
  | suffixed {suffix : String} (h : rule ≠ .none) (hs : IsSuffix suffix) :
      Spells rule own (own ++ "-" ++ suffix) ⟨some suffix⟩

theorem IsSuffix.not_mem_hyphen {suffix : String} (h : IsSuffix suffix) :
    '-' ∉ suffix.toList := by
  intro hmem
  exact absurd (h.chars '-' hmem) (by decide)

theorem toList_suffixed (own suffix : String) :
    (own ++ "-" ++ suffix).toList = own.toList ++ '-' :: suffix.toList := by
  simp

/-- The last hyphen is where the suffix starts. -/
theorem append_hyphen_inj {own other suffix suffix' : List Char} (hs : '-' ∉ suffix)
    (hs' : '-' ∉ suffix') (h : own ++ '-' :: suffix = other ++ '-' :: suffix') :
    own = other ∧ suffix = suffix' := by
  rcases List.append_eq_append_iff.mp h with ⟨middle, hother, hrest⟩ | ⟨middle, hown, hrest⟩
  · cases middle with
    | nil =>
      rw [List.nil_append, List.cons.injEq] at hrest
      exact ⟨by rw [hother, List.append_nil], hrest.2⟩
    | cons c middle =>
      rw [List.cons_append, List.cons.injEq] at hrest
      exact absurd (by rw [hrest.2]; simp) hs
  · cases middle with
    | nil =>
      rw [List.nil_append, List.cons.injEq] at hrest
      exact ⟨by rw [hown, List.append_nil], hrest.2.symm⟩
    | cons c middle =>
      rw [List.cons_append, List.cons.injEq] at hrest
      exact absurd (by rw [hrest.2]; simp) hs'

theorem suffix?_eq_some_iff {own name suffix : List Char} :
    suffix? own name = some suffix
      ↔ name = own ++ '-' :: suffix ∧ suffix ≠ [] ∧ ∀ c ∈ suffix, isSuffixChar c = true := by
  rw [suffix?]
  constructor
  · intro h
    split at h
    · next hpre =>
      obtain ⟨rest, rfl⟩ := List.isPrefixOf_iff_prefix.mp hpre
      have hdrop : (own ++ ['-'] ++ rest).drop (own.length + 1) = rest :=
        List.drop_left' (by simp)
      rw [hdrop] at h
      simp only [Option.ite_none_right_eq_some, Bool.and_eq_true, Bool.not_eq_true',
        List.isEmpty_eq_false_iff, List.all_eq_true, Option.some.injEq] at h
      obtain ⟨⟨hne, hall⟩, rfl⟩ := h
      exact ⟨by simp, hne, hall⟩
    · cases h
  · rintro ⟨rfl, hne, hall⟩
    have hpre : (own ++ ['-']).isPrefixOf (own ++ '-' :: suffix) = true :=
      List.isPrefixOf_iff_prefix.mpr ⟨suffix, by simp⟩
    have hdrop : (own ++ '-' :: suffix).drop (own.length + 1) = suffix := by
      rw [List.append_cons]
      exact List.drop_left' (by simp)
    have hsuffix : (!suffix.isEmpty && suffix.all isSuffixChar) = true := by
      simpa [hne] using hall
    rw [if_pos hpre, hdrop]
    exact if_pos hsuffix

/-- **A name fits one of a family exactly if it is that name, or that name with a suffix, as far as
the family's rule allows it.** -/
theorem matchName?_eq_some_iff {rule : SuffixRule} {own name : String} {found : NameMatch} :
    matchName? rule own name = some found ↔ Spells rule own name found := by
  constructor
  · intro h
    rw [matchName?] at h
    split at h
    · next hbare =>
      rw [Bool.and_eq_true, bne_iff_ne, beq_iff_eq] at hbare
      obtain ⟨hrule, rfl⟩ := hbare
      cases h
      exact .bare hrule
    · split at h
      · next hrule =>
        obtain ⟨suffix, hsuffix, rfl⟩ := Option.map_eq_some_iff.mp h
        obtain ⟨hname, hne, hall⟩ := suffix?_eq_some_iff.mp hsuffix
        have hs : IsSuffix (String.ofList suffix) :=
          ⟨by rwa [String.toList_ofList], by rwa [String.toList_ofList]⟩
        have heq : name = own ++ "-" ++ String.ofList suffix := by
          rw [← String.toList_inj, toList_suffixed, String.toList_ofList, hname]
        rw [heq]
        exact .suffixed (bne_iff_ne.mp hrule) hs
      · cases h
  · intro h
    cases h with
    | bare hrule => rw [matchName?, if_pos (by simpa using hrule)]
    | @suffixed suffix hrule hs =>
      -- with a suffix the name is longer, so it is not the other case
      have hne : own ++ "-" ++ suffix ≠ own := by
        intro heq
        have hlength := congrArg (fun s : String => s.toList.length) heq
        simp only [toList_suffixed, List.length_append, List.length_cons] at hlength
        omega
      have hsuffix : suffix? own.toList (own ++ "-" ++ suffix).toList = some suffix.toList :=
        suffix?_eq_some_iff.mpr ⟨toList_suffixed own suffix, hs.nonempty, hs.chars⟩
      rw [matchName?, if_neg (by simp [hne]), if_pos (by simpa using hrule), hsuffix,
        Option.map_some, String.ofList_toList]

/-- A name without a hyphen has no suffix. -/
theorem Spells.eq_of_not_mem {rule : SuffixRule} {own name : String} {found : NameMatch}
    (h : Spells rule own name found) (hname : '-' ∉ name.toList) :
    own = name ∧ rule ≠ .required ∧ found = {} := by
  cases h with
  | bare hrule => exact ⟨rfl, hrule, rfl⟩
  | suffixed => exact absurd (by rw [toList_suffixed]; simp) hname

/-- A name with a suffix is an alias as it stands, or it is what stands in front of the suffix. -/
theorem Spells.eq_of_suffixed {rule : SuffixRule} {own base suffix : String} {found : NameMatch}
    (hs : IsSuffix suffix) (h : Spells rule own (base ++ "-" ++ suffix) found) :
    (own = base ++ "-" ++ suffix ∧ rule ≠ .required ∧ found = {}) ∨
      (own = base ∧ rule ≠ .none ∧ found = ⟨some suffix⟩) := by
  generalize hname : base ++ "-" ++ suffix = name at h
  cases h with
  | bare hrule => exact .inl ⟨rfl, hrule, rfl⟩
  | @suffixed suffix' hrule hs' =>
    have heq := congrArg String.toList hname
    rw [toList_suffixed, toList_suffixed] at heq
    obtain ⟨hbase, hsuffix⟩ := append_hyphen_inj hs.not_mem_hyphen hs'.not_mem_hyphen heq
    rw [String.toList_inj] at hbase hsuffix
    subst hbase hsuffix
    exact .inr ⟨rfl, hrule, rfl⟩

/-! ## The names of a family -/

theorem mem_addName {names : List String} {name new : String} :
    name ∈ addName names new ↔ name ∈ names ∨ name = new := by
  rw [addName]
  split
  · next h =>
    rw [List.contains_iff_mem] at h
    constructor
    · exact .inl
    · rintro (hname | rfl)
      · exact hname
      · exact h
  · rw [List.mem_append, List.mem_singleton]

/-- The names of a family are its own and the aliases. -/
theorem mem_namesOf {family : Family} {aliases : List String} {name : String} :
    name ∈ namesOf family aliases ↔ name = family.name ∨ name ∈ aliases := by
  have hfold (names : List String) :
      name ∈ aliases.foldl addName names ↔ name ∈ names ∨ name ∈ aliases := by
    induction aliases generalizing names with
    | nil => simp
    | cons new rest ih => rw [List.foldl_cons, ih, mem_addName, List.mem_cons, or_assoc]
  rw [namesOf, hfold, List.mem_singleton]

/-- The own name stands in front of the aliases. -/
theorem exists_namesOf (family : Family) (aliases : List String) :
    ∃ more, namesOf family aliases = family.name :: more := by
  have hfold (names more : List String) :
      ∃ more', aliases.foldl addName (family.name :: more) = family.name :: more' := by
    induction aliases generalizing more with
    | nil => exact ⟨more, rfl⟩
    | cons new rest ih =>
      rw [List.foldl_cons, addName]
      split
      · exact ih more
      · exact ih (more ++ [new])
  exact hfold aliases []

theorem build_ok {family : Family} {aliases : List String} {p : Pattern}
    (h : build family aliases = .ok p) :
    p = ⟨family, namesOf family aliases⟩ ∧ ∀ other, other.name ∈ p.names → other = family := by
  rw [build] at h
  split at h
  · cases h
  · next hnone =>
    cases h
    refine ⟨rfl, fun other hmem => ?_⟩
    by_cases heq : other = family
    · exact heq
    · rw [reserved?, List.find?_eq_none] at hnone
      have hall : other ∈ Family.all.filter (· != family) :=
        List.mem_filter.mpr ⟨by cases other <;> decide, by simpa using heq⟩
      exact absurd (List.contains_iff_mem.mpr hmem) (hnone other hall)

theorem match?_eq_none_iff {p : Pattern} {name : String} :
    p.match? name = none
      ↔ ∀ own ∈ p.names, ∀ found, ¬ Spells p.family.suffixRule own name found := by
  rw [match?, List.findSome?_eq_none_iff]
  constructor
  · intro h own hown found hspells
    rw [← matchName?_eq_some_iff, h own hown] at hspells
    cases hspells
  · intro h own hown
    rw [Option.eq_none_iff_forall_ne_some]
    intro found hmatch
    exact h own hown found (matchName?_eq_some_iff.mp hmatch)

end Pattern

/-! ## Options that can be used -/

/-- The aliases of a family. -/
def Options.aliases (options : Options) : Family → List String
  | .image => options.image.aliases
  | .video => options.video.aliases
  | .link => options.link.aliases
  | .badge => options.badge.aliases

namespace Transformer

/-- The names of a family. -/
def pattern (t : Transformer) : Family → Pattern
  | .image => t.image
  | .video => t.video
  | .link => t.link
  | .badge => t.badge

theorem ok_of_bind {ε α β : Type} {x : Except ε α} {f : α → Except ε β} {r : β}
    (h : x >>= f = .ok r) : ∃ a, x = .ok a ∧ f a = .ok r := by
  cases x with
  | error e => cases h
  | ok a => exact ⟨a, rfl, h⟩

/-- Options can be used if every family can be built from its aliases and no platform has the
reserved name. -/
theorem ofOptions_eq_ok_iff {options : Options} {t : Transformer} :
    ofOptions options = .ok t ↔
      t.options = options ∧ options.video.platforms.contains Config.directSource = false ∧
        ∀ family, Pattern.build family (options.aliases family) = .ok (t.pattern family) := by
  unfold ofOptions
  constructor
  · intro h
    obtain ⟨image, himage, h⟩ := ok_of_bind h
    obtain ⟨video, hvideo, h⟩ := ok_of_bind h
    dsimp only at h
    split at h
    · cases h
    · next hurl =>
      obtain ⟨link, hlink, h⟩ := ok_of_bind h
      obtain ⟨badge, hbadge, h⟩ := ok_of_bind h
      cases h
      refine ⟨rfl, eq_false_of_ne_true hurl, fun family => ?_⟩
      cases family with
      | image => exact himage
      | video => exact hvideo
      | link => exact hlink
      | badge => exact hbadge
  · rintro ⟨rfl, hurl, hbuild⟩
    have himage : Pattern.build .image t.options.image.aliases = .ok t.image := hbuild .image
    have hvideo : Pattern.build .video t.options.video.aliases = .ok t.video := hbuild .video
    have hlink : Pattern.build .link t.options.link.aliases = .ok t.link := hbuild .link
    have hbadge : Pattern.build .badge t.options.badge.aliases = .ok t.badge := hbuild .badge
    rw [himage, hvideo, hlink, hbadge, hurl]
    rfl

/-- Options that can be used give every family its own name and the aliases, and to no family the
name of another one. -/
theorem ofOptions_ok {options : Options} {t : Transformer} (h : ofOptions options = .ok t) :
    t.options = options ∧
      ∀ family, t.pattern family = ⟨family, Pattern.namesOf family (options.aliases family)⟩ ∧
        ∀ other, other.name ∈ (t.pattern family).names → other = family := by
  obtain ⟨hoptions, -, hbuild⟩ := ofOptions_eq_ok_iff.mp h
  exact ⟨hoptions, fun family => Pattern.build_ok (hbuild family)⟩

section Accepted

variable {options : Options} {t : Transformer} {family : Family} {name suffix : String}
  {found : NameMatch}

theorem mem_names_iff (h : ofOptions options = .ok t) :
    name ∈ (t.pattern family).names ↔ name = family.name ∨ name ∈ options.aliases family := by
  rw [((ofOptions_ok h).2 family).1]
  exact Pattern.mem_namesOf

theorem family_pattern (h : ofOptions options = .ok t) : (t.pattern family).family = family := by
  rw [((ofOptions_ok h).2 family).1]

/-- What fits the own name of a family is decided by it, whatever the aliases are. -/
theorem match?_own (h : ofOptions options = .ok t)
    (hspells : Pattern.Spells family.suffixRule family.name name found) :
    (t.pattern family).match? name = some found := by
  obtain ⟨more, hnames⟩ := Pattern.exists_namesOf family (options.aliases family)
  rw [((ofOptions_ok h).2 family).1, Pattern.match?]
  dsimp only
  rw [hnames, List.findSome?_cons, Pattern.matchName?_eq_some_iff.mpr hspells]

theorem match?_of_mem (h : ofOptions options = .ok t) (hname : name ∈ (t.pattern family).names)
    (hrule : family.suffixRule ≠ .required) : (t.pattern family).match? name ≠ none := by
  intro hnone
  have hspells : Pattern.Spells (t.pattern family).family.suffixRule name name {} :=
    .bare (by rwa [family_pattern h])
  exact Pattern.match?_eq_none_iff.mp hnone name hname {} hspells

/-- The own name of a family fits no other one, because it is no alias there. -/
theorem match?_other (h : ofOptions options = .ok t) {other : Family} (hne : other ≠ family) :
    (t.pattern other).match? family.name = none := by
  rw [Pattern.match?_eq_none_iff]
  intro own hown found hspells
  have hhyphen : '-' ∉ family.name.toList := by cases family <;> decide
  obtain ⟨rfl, -⟩ := hspells.eq_of_not_mem hhyphen
  exact hne (((ofOptions_ok h).2 other).2 family hown).symm

/-- With a suffix it fits another one only as an alias that is spelled the same. -/
theorem match?_other_suffixed (h : ofOptions options = .ok t) (hs : Pattern.IsSuffix suffix)
    {other : Family} (hne : other ≠ family)
    (hfree : other.suffixRule = .required ∨
      family.name ++ "-" ++ suffix ∉ options.aliases other) :
    (t.pattern other).match? (family.name ++ "-" ++ suffix) = none := by
  rw [Pattern.match?_eq_none_iff]
  intro own hown found hspells
  rw [family_pattern h] at hspells
  rcases hspells.eq_of_suffixed hs with ⟨rfl, hrule, -⟩ | ⟨rfl, -, -⟩
  · rcases (mem_names_iff h).mp hown with hself | halias
    · -- no family has a hyphen in its own name
      have hhyphen : '-' ∈ other.name.toList := by
        rw [← hself, Pattern.toList_suffixed]
        simp
      cases other <;> exact absurd hhyphen (by decide)
    · rcases hfree with hreq | hnot
      · exact hrule hreq
      · exact hnot halias
  · exact hne (((ofOptions_ok h).2 other).2 family hown).symm

/-! ## Where a name goes -/

/-- The families that are tried before one. -/
def earlier (family : Family) : List Family :=
  Family.all.takeWhile (· != family)

theorem route_eq (t : Transformer) (name : String) :
    t.route name = Family.all.findSome? fun family =>
      ((t.pattern family).match? name).map ((t.pattern family).family, ·) := rfl

/-- Options with the same aliases give the same families to the same names. -/
theorem route_of_aliases {options' : Options} {t' : Transformer} (h : ofOptions options = .ok t)
    (h' : ofOptions options' = .ok t') (haliases : options'.aliases = options.aliases)
    (name : String) : t'.route name = t.route name := by
  have hpattern : t'.pattern = t.pattern := by
    funext family
    rw [((ofOptions_ok h').2 family).1, ((ofOptions_ok h).2 family).1, haliases]
  rw [route_eq, route_eq, hpattern]

theorem exists_all (family : Family) : ∃ later, Family.all = earlier family ++ family :: later := by
  cases family <;> exact ⟨_, rfl⟩

theorem ne_of_mem_earlier {other : Family} (h : other ∈ earlier family) : other ≠ family := by
  have := List.all_eq_true.mp List.all_takeWhile other h
  simpa using this

/-- The first family that a name fits has it. -/
theorem route_of_match? (h : ofOptions options = .ok t)
    (hmatch : (t.pattern family).match? name = some found)
    (hearlier : ∀ other ∈ earlier family, (t.pattern other).match? name = none) :
    t.route name = some (family, found) := by
  obtain ⟨later, hall⟩ := exists_all family
  have hnone : (earlier family).findSome? (fun family =>
      ((t.pattern family).match? name).map ((t.pattern family).family, ·)) = none := by
    rw [List.findSome?_eq_none_iff]
    intro other hother
    rw [hearlier other hother]
    rfl
  rw [route_eq, hall, List.findSome?_append, hnone, Option.none_or, List.findSome?_cons, hmatch,
    family_pattern h]
  rfl

/-- A name that fits an earlier family does not come to a later one. -/
theorem route_ne_of_earlier (h : ofOptions options = .ok t) {other : Family}
    (hother : other ∈ earlier family) (hmatch : (t.pattern other).match? name ≠ none) :
    t.route name ≠ some (family, found) := by
  intro hroute
  obtain ⟨later, hall⟩ := exists_all family
  rw [route_eq, hall, List.findSome?_append] at hroute
  cases hfirst : (earlier family).findSome? (fun family =>
      ((t.pattern family).match? name).map ((t.pattern family).family, ·)) with
  | none =>
    rw [List.findSome?_eq_none_iff] at hfirst
    exact hmatch (Option.map_eq_none_iff.mp (hfirst other hother))
  | some first =>
    obtain ⟨winner, hwinner, hmap⟩ := List.exists_of_findSome?_eq_some hfirst
    obtain ⟨_, -, rfl⟩ := Option.map_eq_some_iff.mp hmap
    rw [hfirst, Option.some_or, Option.some.injEq, Prod.mk.injEq, family_pattern h] at hroute
    exact ne_of_mem_earlier hwinner hroute.1

/-- **A family's own name is its own, if it has no need of a suffix.** -/
theorem route_own (family : Family) (h : ofOptions options = .ok t)
    (hrule : family.suffixRule ≠ .required) : t.route family.name = some (family, {}) :=
  route_of_match? h (match?_own h (.bare hrule)) fun _ hother =>
    match?_other h (ne_of_mem_earlier hother)

/-- Otherwise it belongs to no family. -/
theorem route_own_required (family : Family) (h : ofOptions options = .ok t)
    (hrule : family.suffixRule = .required) : t.route family.name = none := by
  rw [route_eq, List.findSome?_eq_none_iff]
  intro other _
  rw [Option.map_eq_none_iff]
  by_cases heq : other = family
  · subst heq
    rw [Pattern.match?_eq_none_iff]
    intro own _ found hspells
    rw [family_pattern h] at hspells
    have hhyphen : '-' ∉ other.name.toList := by cases other <;> decide
    exact (hspells.eq_of_not_mem hhyphen).2.1 hrule
  · exact match?_other h heq

/-- The image family is tried first. -/
theorem route_image_iff (h : ofOptions options = .ok t) :
    t.route name = some (.image, found) ↔ (t.pattern .image).match? name = some found := by
  constructor
  · intro hroute
    cases hmatch : (t.pattern .image).match? name with
    | some own =>
      rw [route_of_match? h hmatch (by simp [earlier, Family.all])] at hroute
      cases hroute
      rfl
    | none =>
      -- then some other family has it
      rw [route_eq] at hroute
      obtain ⟨winner, -, hmap⟩ := List.exists_of_findSome?_eq_some hroute
      obtain ⟨own, hown, heq⟩ := Option.map_eq_some_iff.mp hmap
      rw [family_pattern h, Prod.mk.injEq] at heq
      rw [heq.1, hmatch] at hown
      cases hown
  · intro hmatch
    exact route_of_match? h hmatch (by simp [earlier, Family.all])

/-- **With a suffix it is its own as well, unless an earlier family has that very alias.** -/
theorem route_suffixed (family : Family) (h : ofOptions options = .ok t)
    (hs : Pattern.IsSuffix suffix) (hrule : family.suffixRule ≠ .none)
    (hfree : ∀ other ∈ earlier family, other.suffixRule = .required ∨
      family.name ++ "-" ++ suffix ∉ options.aliases other) :
    t.route (family.name ++ "-" ++ suffix) = some (family, ⟨some suffix⟩) :=
  route_of_match? h (match?_own h (.suffixed hrule hs)) fun other hother =>
    match?_other_suffixed h hs (ne_of_mem_earlier hother) (hfree other hother)

end Accepted

/-! ## The directive of a name -/

/-- The family resolves the directive, or refuses it for its kind or by its own rules. -/
def TreatsAs (t : Transformer) (family : Family) (d : Directive) : Prop :=
  (t.resolve d).2 = .ok (.family family) ∨
    (t.resolve d).2 = .error (.wrongKind family d.kind) ∨
    ∃ fault, (t.resolve d).2 = .error (.invalid family fault)

theorem treatsAs_iff {t : Transformer} {family : Family} {d : Directive} :
    t.TreatsAs family d ↔ ∃ found, t.route d.name = some (family, found) := by
  rw [TreatsAs]
  generalize hx : t.resolve d = x
  cases outcome_of_resolve hx with
  | fallback hr => simp [hr]
  | wrongKind hr hk => simp [hr, eq_comm]
  | invalid hr hk ht => simp [hr, eq_comm]
  | rendered hr hk ht => simp [hr, eq_comm]

/--
**No alias takes a name away from the family that it is reserved for.**

Whatever the aliases, the own names of the families with and without a suffix belong to them; the
one exception is a badge with a suffix, whose name can be an alias of videos or links. The image
family has no name without a suffix, and what fits no family becomes the element of its name.
-/
theorem reserved_names (options : Options) (t : Transformer) (h : ofOptions options = .ok t)
    (suffix : String) (hs : Pattern.IsSuffix suffix) (d : Directive) :
    (d.name = "image-" ++ suffix → t.TreatsAs .image d) ∧
      (d.name = "video" ∨ d.name = "video-" ++ suffix → t.TreatsAs .video d) ∧
      (d.name = "link" → t.TreatsAs .link d) ∧
      (d.name = "badge" → t.TreatsAs .badge d) ∧
      (d.name = "image" → (t.resolve d).2 = .ok .fallback) ∧
      (d.name = "badge-" ++ suffix →
        (t.TreatsAs .badge d ↔
          d.name ∉ options.video.aliases ∧ d.name ∉ options.link.aliases)) ∧
      ((∀ family, (t.pattern family).match? d.name = none) →
        (t.resolve d).2 = .ok .fallback) := by
  have hfallback (hroute : t.route d.name = none) : (t.resolve d).2 = .ok .fallback := by
    rw [resolve_unrouted hroute]
  refine ⟨fun hname => ?_, fun hname => ?_, fun hname => ?_, fun hname => ?_, fun hname => ?_,
    fun hname => ?_, fun hnone => ?_⟩
  · rw [treatsAs_iff, hname]
    exact ⟨_, route_suffixed .image h hs (by decide) (by simp [earlier, Family.all])⟩
  · rw [treatsAs_iff]
    rcases hname with hname | hname
    · rw [hname]
      exact ⟨_, route_own .video h (by decide)⟩
    · rw [hname]
      refine ⟨_, route_suffixed .video h hs (by decide) fun other hother => ?_⟩
      obtain rfl : other = .image := by simpa [earlier, Family.all] using hother
      exact .inl rfl
  · rw [treatsAs_iff, hname]
    exact ⟨_, route_own .link h (by decide)⟩
  · rw [treatsAs_iff, hname]
    exact ⟨_, route_own .badge h (by decide)⟩
  · refine hfallback ?_
    rw [hname]
    exact route_own_required .image h rfl
  · rw [treatsAs_iff]
    constructor
    · rintro ⟨found, hroute⟩
      -- an earlier family that has the alias would have the name
      have hfree (other : Family) (hother : other ∈ earlier .badge)
          (hrule : other.suffixRule ≠ .required) : d.name ∉ options.aliases other := fun hmem =>
        route_ne_of_earlier h hother
          (match?_of_mem h ((mem_names_iff h).mpr (.inr hmem)) hrule) hroute
      exact ⟨hfree .video (by decide) (by decide), hfree .link (by decide) (by decide)⟩
    · rintro ⟨hvideo, hlink⟩
      rw [hname] at hvideo hlink ⊢
      refine ⟨_, route_suffixed .badge h hs (by decide) fun other hother => ?_⟩
      have hcases : other = .image ∨ other = .video ∨ other = .link := by
        simpa [earlier, Family.all] using hother
      rcases hcases with rfl | rfl | rfl
      · exact .inl rfl
      · exact .inr hvideo
      · exact .inr hlink
  · refine hfallback ?_
    rw [route_eq, List.findSome?_eq_none_iff]
    intro family _
    rw [hnone family]
    rfl

end Transformer

/-- The transformer of options without aliases. -/
def Transformer.plain (options : Options) : Transformer where
  options := options
  image := ⟨.image, ["image"]⟩
  video := ⟨.video, ["video"]⟩
  link := ⟨.link, ["link"]⟩
  badge := ⟨.badge, ["badge"]⟩

/-! ### An alias with a hyphen -/

/-- Options with aliases that look like names of other families. -/
def hyphenOptions : Options where
  image := { aliases := ["badge-new"] }
  video := { aliases := ["badge-new", "image-figure"] }
  badge := { aliases := ["video-wide"] }

/-- The transformer of these options. -/
def hyphenTransformer : Transformer where
  options := hyphenOptions
  image := ⟨.image, ["image", "badge-new"]⟩
  video := ⟨.video, ["video", "badge-new", "image-figure"]⟩
  link := ⟨.link, ["link"]⟩
  badge := ⟨.badge, ["badge", "video-wide"]⟩

/-- Videos have taken one badge and no other, and they have taken no image. -/
theorem reserved_names_hyphen :
    Transformer.ofOptions hyphenOptions = .ok hyphenTransformer ∧
      Pattern.IsSuffix "new" ∧ Pattern.IsSuffix "old" ∧ Pattern.IsSuffix "figure" ∧
      ¬ hyphenTransformer.TreatsAs .badge { kind := .text, name := "badge-new" } ∧
      hyphenTransformer.TreatsAs .badge { kind := .text, name := "badge-old" } ∧
      hyphenTransformer.TreatsAs .image { kind := .leaf, name := "image-figure" } := by
  have hok : Transformer.ofOptions hyphenOptions = .ok hyphenTransformer := rfl
  have hnew : Pattern.IsSuffix "new" := by decide
  have hold : Pattern.IsSuffix "old" := by decide
  have hfigure : Pattern.IsSuffix "figure" := by decide
  refine ⟨hok, hnew, hold, hfigure, ?_, ?_, ?_⟩
  · have h := Transformer.reserved_names _ _ hok "new" hnew { kind := .text, name := "badge-new" }
    rw [h.2.2.2.2.2.1 rfl]
    decide
  · have h := Transformer.reserved_names _ _ hok "old" hold { kind := .text, name := "badge-old" }
    rw [h.2.2.2.2.2.1 rfl]
    decide
  · have h := Transformer.reserved_names _ _ hok "figure" hfigure
      { kind := .leaf, name := "image-figure" }
    exact h.1 rfl

end MarkdownDirectives
