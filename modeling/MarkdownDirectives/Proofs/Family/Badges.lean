import MarkdownDirectives.Proofs.Family.Names
import MarkdownDirectives.Proofs.Layers.Values

/-!
# What a badge is rendered as

A badge may have a type, which is the name of a preset. The preset gives the text, and it may give
a color and properties that the author's own come after. The color ends up in the style, in front
of the style that is merged from the options, the preset and the author's attributes.

* `Colors` — one color for light and dark surroundings, or two with a bar between them
* `BadgeOptions.IsBadge` — what the options and the author must say for a badge
* `IsBadgeElement` — the properties of the element, key by key
* `Transformer.resolve_badge` — when a badge is rendered, and as what
-/

namespace MarkdownDirectives

/-! ## Colors -/

/-- The colors in light and in dark surroundings that are written as one text. -/
inductive Colors : String → String → String → Prop
  | both {color : String} (h : '|' ∉ color.toList) :
      Colors color (Text.trimmed color) (Text.trimmed color)
  | two {light dark : String} (hlight : '|' ∉ light.toList) (hdark : '|' ∉ dark.toList) :
      Colors (light ++ "|" ++ dark) (Text.trimmed light) (Text.trimmed dark)

/-- Colors are split into what they are written as. -/
theorem splitColors_of_colors {color light dark : String} (h : Colors color light dark) :
    splitColors color = .ok (light, dark) := by
  cases h with
  | both h =>
    rw [splitColors, List.splitOn_eq_singleton h]
    rfl
  | @two light dark hlight hdark =>
    have hcolor : (light ++ "|" ++ dark).toList = light.toList ++ '|' :: dark.toList := by simp
    rw [splitColors, hcolor, List.splitOn_append_cons_self_of_not_mem hlight,
      List.splitOn_eq_singleton hdark]
    rfl

/-- With one bar or none there are colors. -/
theorem exists_colors {color : String} (h : color.toList.count '|' ≤ 1) :
    ∃ light dark, Colors color light dark := by
  by_cases hbar : '|' ∈ color.toList
  · obtain ⟨light, dark, hcolor, hlight⟩ := List.eq_append_cons_of_mem hbar
    have hdark : '|' ∉ dark := by
      rw [hcolor, List.count_append, List.count_cons_self] at h
      rw [← List.count_eq_zero]
      omega
    have heq : color = String.ofList light ++ "|" ++ String.ofList dark := by
      rw [← String.toList_inj, hcolor]
      simp
    rw [heq]
    exact ⟨_, _, .two (by rwa [String.toList_ofList]) (by rwa [String.toList_ofList])⟩
  · exact ⟨_, _, .both hbar⟩

/-- With a second bar there are too many. -/
theorem splitColors_of_many {color : String} (h : 1 < color.toList.count '|') :
    splitColors color = .error .tooManyColors := by
  have hbar : '|' ∈ color.toList := List.count_pos_iff.mp (by omega)
  obtain ⟨light, rest, hcolor, hlight⟩ := List.eq_append_cons_of_mem hbar
  have hmore : '|' ∈ rest := by
    rw [hcolor, List.count_append, List.count_cons_self, List.count_eq_zero.mpr hlight] at h
    exact List.count_pos_iff.mp (by omega)
  obtain ⟨dark, others, rfl, hdark⟩ := List.eq_append_cons_of_mem hmore
  obtain ⟨next, more, hnext⟩ := List.exists_cons_of_ne_nil (List.splitOn_ne_nil '|' others)
  rw [splitColors, hcolor, List.splitOn_append_cons_self_of_not_mem hlight,
    List.splitOn_append_cons_self_of_not_mem hdark, hnext]
  rfl

/-! ## What a badge says -/

namespace BadgeOptions

/-- The preset and the text of a badge. A type that is no preset has neither. -/
inductive HasText (options : BadgeOptions) (d : Directive) :
    Option String → Option BadgePreset → String → Prop
  | typed {name : String} {preset : BadgePreset} (h : options.presets.get? name = some preset) :
      HasText options d (some name) (some preset) preset.text
  | untyped {text : String} (h : d.firstText? = some text) : HasText options d none none text

/-- The color of a badge: that of the author, of the preset, or the default. -/
inductive HasColor (options : BadgeOptions) (d : Directive) (preset : Option BadgePreset) :
    String → Prop
  | own {color : String} (h : d.given? "color" = some color) : HasColor options d preset color
  | ofPreset {p : BadgePreset} {color : String} (hown : d.given? "color" = none)
      (hpreset : preset = some p) (h : p.color = some color) : HasColor options d preset color
  | default (hown : d.given? "color" = none) (hpreset : ∀ p, preset = some p → p.color = none) :
      HasColor options d preset options.defaultColor

/-- What the options and the author must say for a badge of a type. -/
structure IsBadge (options : BadgeOptions) (d : Directive) (suffix : Option String)
    (preset : Option BadgePreset) (text color : String) : Prop where
  labelled : options.HasText d suffix preset text
  nonempty : text ≠ ""
  colored : options.HasColor d preset color
  bars : color.toList.count '|' ≤ 1

/-- What is merged into the element of a badge, in this order. -/
def values (options : BadgeOptions) (d : Directive) (suffix : Option String)
    (preset : Option BadgePreset) (key : String) : List (Option Property) := [
  sourceValue options.spanProperties d key,
  namedValue "data-badge" suffix key,
  sourceValue (preset.bind fun p => p.properties) d key,
  d.ownValue ["color"] key]

end BadgeOptions

/-! ## What is rendered -/

/-- The style of a badge: its colors, and the style that is merged if there is one. -/
inductive IsBadgeStyle (light dark : String) : Option Property → String → Prop
  | colors : IsBadgeStyle light dark none
      ("--badge-color-light:" ++ light ++ "; --badge-color-dark:" ++ dark)
  | more (style : Property) : IsBadgeStyle light dark (some style)
      ("--badge-color-light:" ++ light ++ "; --badge-color-dark:" ++ dark ++ "; " ++ style.display)

/-- The properties of the element of a badge. -/
structure IsBadgeElement (options : BadgeOptions) (classPrefix : String) (d : Directive)
    (suffix : Option String) (preset : Option BadgePreset) (light dark : String)
    (properties : Properties) : Prop where
  style : ∃ style,
    IsBadgeStyle light dark (lastGiven (options.values d suffix preset "style")) style ∧
      properties.get? "style" = some (.string style)
  property : ∀ key, key ≠ "style" → isClassKey key = false →
    properties.get? key = lastGiven (options.values d suffix preset key)
  className : ∃ more, properties.get? "className"
    = some (.list ((classPrefix ++ "-badge") :: more))

namespace BadgeOptions

variable {options : BadgeOptions} {d : Directive} {suffix : Option String}
  {typed : Option (String × BadgePreset)} {preset : Option BadgePreset} {text color : String}

/-! ## The preset, the text and the color -/

theorem HasText.exists_preset (h : options.HasText d suffix preset text) (hne : text ≠ "") :
    ∃ typed : Option (String × BadgePreset), typed.map Prod.fst = suffix ∧
      typed.map Prod.snd = preset ∧ options.preset suffix = .ok typed ∧
      badgeText typed d = some text := by
  cases h with
  | @typed name preset h =>
    refine ⟨some (name, preset), rfl, rfl, ?_, ?_⟩
    · rw [BadgeOptions.preset, h]
    · simp [badgeText, hne]
  | untyped h =>
    refine ⟨none, rfl, rfl, rfl, ?_⟩
    simp [badgeText, h, hne]

theorem hasText_of_preset (h : options.preset suffix = .ok typed)
    (htext : badgeText typed d = some text) :
    typed.map Prod.fst = suffix ∧ options.HasText d suffix (typed.map Prod.snd) text ∧
      text ≠ "" := by
  unfold badgeText at htext
  rw [Option.filter_eq_some_iff] at htext
  obtain ⟨htext, hne⟩ := htext
  have hne' : text ≠ "" := by simpa using hne
  cases suffix with
  | none =>
    cases h
    exact ⟨rfl, .untyped htext, hne'⟩
  | some name =>
    rw [BadgeOptions.preset] at h
    cases hpreset : options.presets.get? name with
    | none =>
      rw [hpreset] at h
      cases h
    | some preset =>
      rw [hpreset] at h
      cases h
      cases htext
      exact ⟨rfl, .typed hpreset, hne'⟩

theorem hasColor_iff :
    options.HasColor d (typed.map Prod.snd) color ↔ options.colorOf typed d = color := by
  constructor
  · intro h
    cases h with
    | own h =>
      rw [colorOf, h]
      rfl
    | ofPreset hown hpreset h =>
      obtain ⟨⟨name, p⟩, rfl, rfl⟩ := Option.map_eq_some_iff.mp hpreset
      rw [colorOf, hown, Option.none_or, Option.bind_some, h, Option.getD_some]
    | default hown hpreset =>
      have hnone : (typed.bind fun p => p.2.color) = none := by
        rw [Option.bind_eq_none_iff]
        intro p hp
        exact hpreset p.2 (by rw [hp, Option.map_some])
      rw [colorOf, hown, Option.none_or, hnone, Option.getD_none]
  · rintro rfl
    cases hown : d.given? "color" with
    | some color =>
      rw [colorOf, hown]
      exact .own hown
    | none =>
      rw [colorOf, hown, Option.none_or]
      cases typed with
      | none => exact .default hown nofun
      | some p =>
        rw [Option.bind_some]
        cases hcolor : p.2.color with
        | some color => exact .ofPreset hown rfl hcolor
        | none =>
          refine .default hown fun q hq => ?_
          cases hq
          exact hcolor

/-! ## The element -/

/-- The merged layers have the values of a badge. -/
theorem get?_layers {key : String} (hkey : isClassKey key = false) (name : String) :
    (mergeLayers [classLayer name, resolveSource options.spanProperties d,
        typed.bind fun p => stringLayer "data-badge" p.1,
        resolveSource (typed.bind fun p => p.2.properties) d,
        some (d.attributes.without ["color"]).toProperties]).get? key
      = lastGiven (options.values d (typed.map Prod.fst) (typed.map Prod.snd) key) := by
  have htype : (typed.bind fun p => stringLayer "data-badge" p.1).bind (·.get? key)
      = namedValue "data-badge" (typed.map Prod.fst) key := by
    cases typed with
    | none => simp [namedValue]
    | some p => exact get?_stringLayer "data-badge" p.1 key
  rw [get?_mergeLayers_classLayer hkey]
  simp only [List.map_cons, List.map_nil, htype, Option.bind_some, get?_ownAttributes]
  rw [values, Option.bind_map]
  rfl

theorem isBadgeStyle_badgeStyle (light dark : String) (style : Option Property) :
    IsBadgeStyle light dark style (badgeStyle light dark style) := by
  cases style with
  | none => exact .colors
  | some style => exact .more style

/-- What the options and the author say for a badge is enough to render it. -/
theorem resolve_of_isBadge (h : options.IsBadge d suffix preset text color)
    (classPrefix : String) : ∃ light dark properties, Colors color light dark ∧
      options.resolve classPrefix d suffix
        = .ok { name := "span", properties, children := some [.text text] } ∧
      IsBadgeElement options classPrefix d suffix preset light dark properties := by
  obtain ⟨light, dark, hcolors⟩ := exists_colors h.bars
  obtain ⟨typed, rfl, rfl, hpreset, htext⟩ := h.labelled.exists_preset h.nonempty
  have hcolor := hasColor_iff.mp h.colored
  refine ⟨light, dark, ?_⟩
  rw [resolve, hpreset]
  dsimp only
  rw [htext]
  dsimp only
  rw [hcolor, splitColors_of_colors hcolors]
  dsimp only
  refine ⟨_, hcolors, rfl, ?_, ?_, ?_⟩
  · rw [get?_layers (by decide)]
    refine ⟨_, isBadgeStyle_badgeStyle light dark _, ?_⟩
    rw [SortedMap.get?_insert, if_pos rfl]
  · intro key hstyle hkey
    rw [SortedMap.get?_insert, if_neg hstyle, get?_layers hkey]
  · have hname : (classPrefix ++ "-badge").isEmpty = false := by simp
    rw [SortedMap.get?_insert, if_neg (by decide)]
    exact className_mergeLayers hname _

/-- Nothing else is rendered as a badge. -/
theorem isBadge_of_resolve {classPrefix : String} {target : RenderTarget}
    (h : options.resolve classPrefix d suffix = .ok target) :
    ∃ preset text color, options.IsBadge d suffix preset text color := by
  rw [resolve] at h
  split at h
  · cases h
  · next typed hpreset =>
    split at h
    · cases h
    · next text htext =>
      split at h
      · cases h
      · next light dark hsplit =>
        obtain ⟨-, htyped, hne⟩ := hasText_of_preset hpreset htext
        refine ⟨_, text, _, htyped, hne, hasColor_iff.mpr rfl, Nat.le_of_not_lt fun hmany => ?_⟩
        rw [splitColors_of_many hmany] at hsplit
        cases hsplit

end BadgeOptions

/--
**When a badge is rendered, and as what.**

A badge is rendered exactly if its type, if it has one, is a preset, its text is not empty and its
color has no more than one bar. The text is that of the preset, and without a type the label. The
author's color comes before that of the preset and the default; it is written in front of the style
that is merged from all the others.
-/
theorem Transformer.resolve_badge (t : Transformer) (d : Directive) (found : NameMatch)
    (hroute : t.route d.name = some (.badge, found)) (hkind : d.kind = .text) :
    ((∃ resolution, (t.resolve d).2 = .ok resolution) ↔
        ∃ preset text color, t.options.badge.IsBadge d found.suffix preset text color) ∧
      ∀ preset text color, t.options.badge.IsBadge d found.suffix preset text color →
        ∃ light dark properties, Colors color light dark ∧
          t.resolve d = ({ d with data := { d.data with
              name := some "span"
              properties := some properties
              children := some [.text text] } }, .ok (.family .badge)) ∧
          IsBadgeElement t.options.badge t.options.classPrefix d found.suffix preset light dark
            properties := by
  constructor
  · rw [exists_ok_iff hroute hkind]
    constructor
    · rintro ⟨target, htarget⟩
      exact BadgeOptions.isBadge_of_resolve htarget
    · rintro ⟨preset, text, color, h⟩
      obtain ⟨light, dark, properties, -, htarget, -⟩ :=
        BadgeOptions.resolve_of_isBadge h t.options.classPrefix
      exact ⟨_, htarget⟩
  · intro preset text color h
    obtain ⟨light, dark, properties, hcolors, htarget, helement⟩ :=
      BadgeOptions.resolve_of_isBadge h t.options.classPrefix
    exact ⟨light, dark, properties, hcolors, resolve_of_target hroute hkind (by simp) htarget,
      helement⟩

/-! ### A badge with everything -/

/-- A preset with two colors and a style. -/
def freshPreset : BadgePreset where
  text := "New"
  color := some "red | blue"
  properties := some (.fixed (.ofList [("style", .string "top: 0"), ("title", .string "Fresh")]))

/-- Options with a preset, and a title for every badge. -/
def freshOptions : Options where
  badge := {
    spanProperties := some (.fixed (.ofList [("title", .string "Badge"), ("lang", .string "en")]))
    presets := .ofList [("new", freshPreset)] }

/-- A badge with an empty color, a style and a marker of its own. -/
def freshBadge : Directive where
  kind := .text
  name := "badge-new"
  attributes := .ofList [("color", ""), ("style", "left: 0"), ("title", ""),
    ("data-badge", "mine")]
  children := [.text "Old"]

/-- The text and the colors are those of the preset, the style and the marker are the author's. -/
theorem resolve_badge_fresh :
    Transformer.ofOptions freshOptions = .ok (.plain freshOptions) ∧
      (Transformer.plain freshOptions).route freshBadge.name = some (.badge, ⟨some "new"⟩) ∧
      freshBadge.kind = .text ∧
      freshOptions.badge.IsBadge freshBadge (some "new") (some freshPreset) "New" "red | blue" ∧
      ∃ properties, (Transformer.plain freshOptions).resolve freshBadge
          = ({ freshBadge with data := {
              name := some "span"
              properties := some properties
              children := some [.text "New"] } }, .ok (.family .badge)) ∧
        properties.get? "style" = some
          (.string "--badge-color-light:red; --badge-color-dark:blue; left: 0") ∧
        properties.get? "color" = none ∧
        properties.get? "title" = some (.string "Fresh") ∧
        properties.get? "lang" = some (.string "en") ∧
        properties.get? "data-badge" = some (.string "mine") := by
  have hroute : (Transformer.plain freshOptions).route freshBadge.name
      = some (.badge, ⟨some "new"⟩) := rfl
  have hbadge : freshOptions.badge.IsBadge freshBadge (some "new") (some freshPreset) "New"
      "red | blue" := ⟨.typed rfl, by decide, .ofPreset rfl rfl rfl, by decide⟩
  obtain ⟨-, hresolve⟩ :=
    Transformer.resolve_badge (.plain freshOptions) freshBadge ⟨some "new"⟩ hroute rfl
  obtain ⟨light, dark, properties, hcolors, hok, h⟩ := hresolve _ _ _ hbadge
  have hsplit : splitColors "red | blue" = .ok ("red", "blue") := rfl
  cases hsplit.symm.trans (splitColors_of_colors hcolors)
  obtain ⟨style, hstyle, hget⟩ := h.style
  have hmerged : lastGiven (freshOptions.badge.values freshBadge (some "new") (some freshPreset)
      "style") = some (.string "left: 0") := rfl
  refine ⟨rfl, hroute, rfl, hbadge, properties, hok, ?_, ?_, ?_, ?_, ?_⟩
  · rw [hget]
    cases hmerged ▸ hstyle
    rfl
  · rw [h.property "color" (by decide) (by decide)]
    rfl
  · rw [h.property "title" (by decide) (by decide)]
    rfl
  · rw [h.property "lang" (by decide) (by decide)]
    rfl
  · rw [h.property "data-badge" (by decide) (by decide)]
    rfl

end MarkdownDirectives
