import MarkdownDirectives.Proofs.Family.Names

/-!
# Settings that can be used

The rules that settings keep say of aliases only that none is blank. Whether an alias is the name of
another family comes out when the options are used, and nothing else can go wrong then: the only
other check, of the names of platforms, is one of the rules too.

* `Pattern.exists_build_iff`, `Pattern.build_error` — the names of one family
* `Transformer.ofOptions_error` — the first family whose names cannot be used decides
* `Transformer.ofOptions_ofConfig` — both for settings without a fault
-/

namespace MarkdownDirectives

theorem Family.name_inj {family other : Family} : other.name = family.name ↔ other = family := by
  cases family <;> cases other <;> decide

/-! ## The names of one family -/

namespace Pattern

/-- An alias of the family is the name of another one, its owner. -/
structure Takes (family : Family) (aliases : List String) (owner : Family) : Prop where
  ne : owner ≠ family
  mem : owner.name ∈ aliases

variable {family owner : Family} {aliases : List String}

instance : Decidable (Takes family aliases owner) :=
  decidable_of_iff (owner ≠ family ∧ owner.name ∈ aliases)
    ⟨fun h => ⟨h.1, h.2⟩, fun h => ⟨h.ne, h.mem⟩⟩

/-- The own name of a family is no name of another one, so it is the aliases that matter. -/
theorem takes_iff :
    Takes family aliases owner ↔ owner ≠ family ∧ owner.name ∈ namesOf family aliases := by
  rw [mem_namesOf, Family.name_inj]
  constructor
  · intro h
    exact ⟨h.ne, .inr h.mem⟩
  · rintro ⟨hne, hself | hmem⟩
    · exact absurd hself hne
    · exact ⟨hne, hmem⟩

theorem takes_of_reserved? (h : reserved? family (namesOf family aliases) = some owner) :
    Takes family aliases owner := by
  rw [takes_iff]
  have hother := List.mem_of_find?_eq_some h
  have hname := List.find?_some h
  exact ⟨by simpa using (List.mem_filter.mp hother).2, List.contains_iff_mem.mp hname⟩

theorem reserved?_eq_none_iff :
    reserved? family (namesOf family aliases) = none ↔ ∀ owner, ¬ Takes family aliases owner := by
  constructor
  · intro h owner htakes
    obtain ⟨hne, hmem⟩ := takes_iff.mp htakes
    have hother : owner ∈ Family.all.filter (· != family) :=
      List.mem_filter.mpr ⟨by cases owner <;> decide, by simpa using hne⟩
    exact List.find?_eq_none.mp h owner hother (List.contains_iff_mem.mpr hmem)
  · intro h
    cases hreserved : reserved? family (namesOf family aliases) with
    | none => rfl
    | some owner => exact absurd (takes_of_reserved? hreserved) (h owner)

/-- **A family can have any aliases but the names of other families.** -/
theorem exists_build_iff :
    (∃ p, build family aliases = .ok p) ↔ ∀ owner, ¬ Takes family aliases owner := by
  rw [← reserved?_eq_none_iff, build]
  cases reserved? family (namesOf family aliases) <;> simp

/-- The error names an alias that the family has and cannot have. -/
theorem build_error {e : DirectiveError} (h : build family aliases = .error e) :
    ∃ owner, e = .reservedAlias family owner ∧ Takes family aliases owner := by
  rw [build] at h
  split at h
  · next owner hreserved =>
    cases h
    exact ⟨owner, rfl, takes_of_reserved? hreserved⟩
  · cases h

end Pattern

/-! ## Options -/

namespace Transformer

theorem error_of_bind {ε α β : Type} {x : Except ε α} {f : α → Except ε β} {e : ε}
    (h : x >>= f = .error e) : x = .error e ∨ ∃ a, x = .ok a ∧ f a = .error e := by
  cases x with
  | error e' =>
    cases h
    exact .inl rfl
  | ok a => exact .inr ⟨a, rfl, h⟩

/-- Unless the name of a platform is reserved, an error is that of a family, and the families in
front of it have none. -/
theorem ofOptions_error {options : Options} {e : DirectiveError}
    (hplatforms : options.video.platforms.contains Config.directSource = false)
    (h : ofOptions options = .error e) :
    ∃ family, Pattern.build family (options.aliases family) = .error e ∧
      ∀ other ∈ earlier family, ∃ p, Pattern.build other (options.aliases other) = .ok p := by
  unfold ofOptions at h
  rcases error_of_bind h with himage | ⟨image, himage, h⟩
  · exact ⟨.image, himage, by simp [earlier, Family.all]⟩
  rcases error_of_bind h with hvideo | ⟨video, hvideo, h⟩
  · refine ⟨.video, hvideo, ?_⟩
    simpa [earlier, Family.all] using ⟨image, himage⟩
  simp only [hplatforms, Bool.false_eq_true, if_false] at h
  rcases error_of_bind h with hlink | ⟨link, hlink, h⟩
  · refine ⟨.link, hlink, ?_⟩
    simpa [earlier, Family.all] using ⟨⟨image, himage⟩, ⟨video, hvideo⟩⟩
  rcases error_of_bind h with hbadge | ⟨badge, hbadge, h⟩
  · refine ⟨.badge, hbadge, ?_⟩
    simpa [earlier, Family.all] using ⟨⟨image, himage⟩, ⟨video, hvideo⟩, ⟨link, hlink⟩⟩
  · cases h

/-- Options that can be used have no alias that is the name of another family. -/
theorem not_takes_of_ofOptions {options : Options} {t : Transformer}
    (h : ofOptions options = .ok t) (family owner : Family) :
    ¬ Pattern.Takes family (options.aliases family) owner := by
  intro htakes
  have hname : owner.name ∈ (t.pattern family).names :=
    (mem_names_iff h).mpr (.inr htakes.mem)
  exact htakes.ne (((ofOptions_ok h).2 family).2 owner hname)

end Transformer

/-! ## Settings -/

namespace Config

/-- The aliases that settings give to a family. -/
def aliases (config : Config) : Family → List String
  | .image => aliasList config.image.aliases
  | .video => aliasList config.video.aliases
  | .link => aliasList config.link.aliases
  | .badge => aliasList config.badge.aliases

theorem aliases_ofConfig (config : Config) (family : Family) :
    (Options.ofConfig config).aliases family = config.aliases family := by
  cases family <;> rfl

/-- An alias of the family is the name of another one. -/
def Takes (config : Config) (family owner : Family) : Prop :=
  Pattern.Takes family (config.aliases family) owner

/-- Settings without a fault have no platform whose name stands for an address. -/
theorem platforms_of_fault? {config : Config} (h : config.fault? = none) :
    config.video.platforms.contains directSource = false := by
  simp only [fault?, Option.or_eq_none_iff] at h
  obtain ⟨-, -, -, -, -, hplatforms, -⟩ := h
  rw [checkPlatforms] at hplatforms
  split at hplatforms
  · cases hplatforms
  · next hfree => exact Bool.eq_false_iff.mpr hfree

end Config

/--
**Settings without a fault can be used exactly if no alias of a family is the name of another one.**

If they cannot, the error says which alias of which family it is, and no family in front of that one
has such an alias.
-/
theorem Transformer.ofOptions_ofConfig (config : Config) (h : config.fault? = none) :
    ((∃ t, ofOptions (.ofConfig config) = .ok t) ↔
      ∀ family owner, ¬ config.Takes family owner) ∧
    ∀ e, ofOptions (.ofConfig config) = .error e →
      ∃ family owner, e = .reservedAlias family owner ∧
        e.message = "The alias '" ++ owner.name ++ "' is reserved and cannot be used for the '"
          ++ family.name ++ "' directive." ∧
        config.Takes family owner ∧
        ∀ other ∈ earlier family, ∀ owner', ¬ config.Takes other owner' := by
  have herror (e : DirectiveError) (he : ofOptions (.ofConfig config) = .error e) :
      ∃ family owner, e = .reservedAlias family owner ∧ config.Takes family owner ∧
        ∀ other ∈ earlier family, ∀ owner', ¬ config.Takes other owner' := by
    obtain ⟨family, hbuild, hearlier⟩ := ofOptions_error (Config.platforms_of_fault? h) he
    simp only [Config.aliases_ofConfig] at hbuild hearlier
    obtain ⟨owner, rfl, htakes⟩ := Pattern.build_error hbuild
    refine ⟨family, owner, rfl, htakes, fun other hother => ?_⟩
    exact Pattern.exists_build_iff.mp (hearlier other hother)
  refine ⟨⟨?_, ?_⟩, ?_⟩
  · rintro ⟨t, hok⟩ family owner htakes
    refine not_takes_of_ofOptions hok family owner ?_
    rwa [Config.aliases_ofConfig]
  · intro hfree
    cases hnew : ofOptions (.ofConfig config) with
    | ok t => exact ⟨t, rfl⟩
    | error e =>
      obtain ⟨family, owner, -, htakes, -⟩ := herror e hnew
      exact absurd htakes (hfree family owner)
  · intro e he
    obtain ⟨family, owner, rfl, htakes, hearlier⟩ := herror e he
    exact ⟨family, owner, rfl, rfl, htakes, hearlier⟩

/-- Settings whose links and badges each have an alias that they cannot have. -/
def crossedConfig : Config where
  video := {
    aliases := some (.one "clip")
    platforms := .ofList [("vimeo", "https://v/\x7bid\x7d")] }
  link := { aliases := some (.many ["ref", "badge", "link", "image"]) }
  badge := { aliases := some (.one "video") }

/-- Links come first, and images come first among the families whose names they take. -/
theorem ofOptions_ofConfig_crossed :
    crossedConfig.fault? = none ∧ (¬ ∃ t, Transformer.ofOptions (.ofConfig crossedConfig) = .ok t) ∧
      Transformer.ofOptions (.ofConfig crossedConfig) = .error (.reservedAlias .link .image) ∧
      crossedConfig.Takes .link .image ∧
      ∀ other ∈ Transformer.earlier .link, ∀ owner, ¬ crossedConfig.Takes other owner := by
  have hfault : crossedConfig.fault? = none := by decide
  have herror : Transformer.ofOptions (.ofConfig crossedConfig)
      = .error (.reservedAlias .link .image) := rfl
  obtain ⟨hiff, hfirst⟩ := Transformer.ofOptions_ofConfig crossedConfig hfault
  obtain ⟨family, owner, he, -, htakes, hearlier⟩ := hfirst _ herror
  cases he
  refine ⟨hfault, ?_, herror, htakes, hearlier⟩
  rw [hiff]
  intro hfree
  exact hfree .link .image htakes

end MarkdownDirectives
