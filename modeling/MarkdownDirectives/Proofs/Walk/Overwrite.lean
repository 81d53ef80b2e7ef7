import MarkdownDirectives.Proofs.Walk.Complete

/-!
# Resolving a directive again

A directive may be resolved more than once, under another name the next time. What it has been
rendered as until then is not read: a family writes all of its render target anew. The element of
an unknown name is written field by field, and markup that an earlier family has put in the place
of the children is left there.

* `target_congr` — a family sees the attributes and the children, nothing else of a directive
* `resolve_overwrites` — what of an earlier render target stays
* `resolve_keeps_markup` — the icon of a link in the element of another name

## Which options are meant

A property source may be computed from the directive, what it is rendered as included. So these
facts are about options whose sources are all fixed.
-/

namespace MarkdownDirectives

/-! ## Fixed sources -/

/-- The source does not look at the directive. An absent one does not either. -/
def IsFixedSource (source : Option PropertySource) : Prop :=
  ∀ f, source ≠ some (.computed f)

/-- No property source of the options looks at the directive. -/
structure Options.IsFixed (options : Options) : Prop where
  image : IsFixedSource options.image.imageProperties
  figure : IsFixedSource options.image.figureProperties
  caption : IsFixedSource options.image.captionProperties
  element : IsFixedSource options.image.elementProperties
  frame : IsFixedSource options.video.frameProperties
  anchor : IsFixedSource options.link.anchorProperties
  icon : IsFixedSource options.link.iconProperties
  span : IsFixedSource options.badge.spanProperties
  preset : ∀ name preset, options.badge.presets.get? name = some preset →
    IsFixedSource preset.properties

theorem isFixedSource_none : IsFixedSource none := by
  intro f h
  cases h

/-- The properties of a fixed source are the same for every directive. -/
theorem resolveSource_fixed {source : Option PropertySource} (h : IsFixedSource source)
    (d d' : Directive) : resolveSource source d = resolveSource source d' := by
  cases source with
  | none => rfl
  | some source =>
    cases source with
    | fixed properties => rfl
    | computed f => exact absurd rfl (h f)

theorem mergeSources_fixed {source : Option PropertySource} (h : IsFixedSource source)
    (d d' : Directive) (attributes : Option Attributes) :
    mergeSources [source] d attributes = mergeSources [source] d' attributes := by
  have hsource := resolveSource_fixed h d d'
  rw [mergeSources, mergeSources, List.map_singleton, List.map_singleton, hsource]

/-! ## What a family reads of a directive -/

/-- The directives differ at most in what they are rendered as. -/
structure Directive.SameSource (d d' : Directive) : Prop where
  head : d.toDirectiveHead.bare = d'.toDirectiveHead.bare
  children : d.children = d'.children

/-- The same directive with other data. -/
theorem Directive.SameSource.exists_data {d d' : Directive} (h : d.SameSource d') :
    ∃ data : Data, data.label = d.data.label ∧ d' = { d with data } := by
  obtain ⟨⟨kind, name, attributes, data⟩, children⟩ := d
  obtain ⟨⟨kind', name', attributes', data'⟩, children'⟩ := d'
  obtain ⟨hhead, hchildren⟩ := h
  simp only [DirectiveHead.bare, DirectiveHead.mk.injEq, Data.mk.injEq, true_and] at hhead
  obtain ⟨rfl, rfl, rfl, hlabel⟩ := hhead
  obtain rfl : children = children' := hchildren
  exact ⟨data', hlabel.symm, rfl⟩

/-- The directives have the same attributes and the same children. -/
structure Directive.SameContent (d d' : Directive) : Prop where
  attributes : d'.attributes = d.attributes
  children : d'.children = d.children

theorem Directive.sameContent_data (d : Directive) (data : Data) :
    d.SameContent { d with data } :=
  ⟨rfl, rfl⟩

section Image

variable {options : ImageOptions} {d d' : Directive}

theorem ImageOptions.figure_congr (h : d.SameContent d')
    (hfigure : IsFixedSource options.figureProperties)
    (hcaption : IsFixedSource options.captionProperties) :
    options.figure d' = options.figure d := by
  have hc := mergeSources_fixed hcaption d' d (some d.attributes)
  have hf := mergeSources_fixed hfigure d' d none
  rw [ImageOptions.figure, ImageOptions.figure, h.attributes, h.children, hc, hf]

/-- What the image family reads of a directive are its attributes and its children. -/
theorem ImageOptions.resolve_congr (h : d.SameContent d') (suffix : Option String)
    (himage : IsFixedSource options.imageProperties)
    (hfigure : IsFixedSource options.figureProperties)
    (hcaption : IsFixedSource options.captionProperties)
    (helement : IsFixedSource options.elementProperties) :
    options.resolve d' suffix = options.resolve d suffix := by
  rw [ImageOptions.resolve, ImageOptions.resolve, h.children]
  cases suffix.filter imageTags.contains with
  | none => rfl
  | some tag =>
    dsimp only
    rw [resolveSource_fixed himage d' d]
    cases options.scope.mapImages?
        (Image.addProperties (resolveSource options.imageProperties d)) d.children with
    | none => rfl
    | some children =>
      -- both go on with the same children
      dsimp only
      generalize (if options.stripParagraph = true then children.map stripNode else children)
        = inner
      have hinner : Directive.SameContent { d with children := inner }
          { d' with children := inner } := ⟨h.attributes, rfl⟩
      have he := mergeSources_fixed helement { d' with children := inner }
        { d with children := inner } (some d.attributes)
      rw [ImageOptions.figure_congr hinner hfigure hcaption, h.attributes, he]

end Image

section Reading

variable {d d' : Directive} {suffix : Option String} {classPrefix : String}

/-- The directives have the same attributes and the same text in front. -/
structure Directive.SameReading (d d' : Directive) : Prop where
  attributes : d'.attributes = d.attributes
  firstText : d'.firstText? = d.firstText?

theorem Directive.SameReading.given (h : d.SameReading d') (key : String) :
    d'.given? key = d.given? key := by
  rw [given?, given?, attribute?, attribute?, h.attributes]

theorem VideoOptions.resolve_congr {options : VideoOptions} (h : d.SameReading d')
    (hframe : IsFixedSource options.frameProperties) :
    options.resolve classPrefix d' suffix = options.resolve classPrefix d suffix := by
  have hsource := resolveSource_fixed hframe d' d
  unfold VideoOptions.resolve VideoOptions.wrapped VideoOptions.frame
  rw [hsource, h.given, h.firstText, h.attributes]

theorem LinkOptions.resolve_congr {options : LinkOptions} (h : d.SameReading d')
    (hanchor : IsFixedSource options.anchorProperties)
    (hicon : IsFixedSource options.iconProperties) :
    options.resolve classPrefix d' = options.resolve classPrefix d := by
  have ha := resolveSource_fixed hanchor d' d
  have hi := resolveSource_fixed hicon d' d
  unfold LinkOptions.resolve LinkOptions.iconMarkup LinkKind.tabOf
  simp only [ha, hi, h.given, h.firstText, h.attributes]

theorem BadgeOptions.resolve_congr {options : BadgeOptions} (h : d.SameReading d')
    (hspan : IsFixedSource options.spanProperties)
    (hpreset : ∀ name preset, options.presets.get? name = some preset →
      IsFixedSource preset.properties) :
    options.resolve classPrefix d' suffix = options.resolve classPrefix d suffix := by
  have hs := resolveSource_fixed hspan d' d
  have htext : ∀ preset, badgeText preset d' = badgeText preset d := by
    intro preset
    unfold badgeText
    rw [h.firstText]
  have hcolor : ∀ preset, options.colorOf preset d' = options.colorOf preset d := by
    intro preset
    rw [colorOf, colorOf, h.given]
  unfold BadgeOptions.resolve
  cases hp : options.preset suffix with
  | error fault => rfl
  | ok preset =>
    -- a preset that is found is one of the options
    have hfound : IsFixedSource (preset.bind fun p => p.2.properties) := by
      unfold BadgeOptions.preset at hp
      split at hp
      · cases hp
        exact isFixedSource_none
      · split at hp
        · next name _ found hget =>
          cases hp
          exact hpreset name found hget
        · cases hp
    have hb := resolveSource_fixed hfound d' d
    dsimp only
    rw [hs, hb, htext, hcolor, h.attributes]

end Reading

namespace Transformer

variable {t : Transformer} {d d' : Directive}

/-- Families but that of images see the attributes and the text in front. -/
theorem target_of_reading (h : d.SameReading d') (hfixed : t.options.IsFixed) {family : Family}
    (hf : family ≠ .image) (suffix : Option String) :
    t.target family d' suffix = (d'.children, (t.target family d suffix).2) := by
  cases family with
  | image => exact absurd rfl hf
  | video => rw [target, target, VideoOptions.resolve_congr h hfixed.frame]
  | link => rw [target, target, LinkOptions.resolve_congr h hfixed.anchor hfixed.icon]
  | badge => rw [target, target, BadgeOptions.resolve_congr h hfixed.span hfixed.preset]

/-- A family sees the attributes and the children of a directive. -/
theorem target_congr (h : d.SameContent d') (suffix : Option String)
    (hfixed : t.options.IsFixed) (family : Family) :
    t.target family d' suffix = t.target family d suffix := by
  by_cases hf : family = .image
  · subst hf
    exact ImageOptions.resolve_congr h suffix hfixed.image hfixed.figure hfixed.caption
      hfixed.element
  · have htext : d'.firstText? = d.firstText? := by
      rw [Directive.firstText?, Directive.firstText?, h.children]
    rw [target_of_reading ⟨h.attributes, htext⟩ hfixed hf, h.children]
    exact Prod.ext (target_children hf t d suffix).symm rfl

/-! ## Resolving again -/

/-- How a directive is resolved, or why not, does not depend on what it has been rendered as. -/
theorem result_congr (hfixed : t.options.IsFixed) (d : Directive) (data : Data) :
    (t.resolve { d with data }).2 = (t.resolve d).2 := by
  rw [resolve, resolve]
  cases t.route d.name with
  | none => rfl
  | some found =>
    obtain ⟨family, found⟩ := found
    dsimp only
    cases family.checkKind d.kind with
    | error e => rfl
    | ok _ =>
      dsimp only
      rw [target_congr (d.sameContent_data data) found.suffix hfixed family]
      cases t.target family d found.suffix with
      | mk children result => cases result <;> rfl

/-- A family writes all of the render target. -/
theorem resolve_congr_family (hfixed : t.options.IsFixed) {data : Data}
    (hlabel : data.label = d.data.label) {family : Family}
    (h : (t.resolve d).2 = .ok (.family family)) :
    (t.resolve { d with data }).1 = (t.resolve d).1 := by
  generalize hx : t.resolve d = x at h
  cases outcome_of_resolve hx with
  | fallback => cases h
  | wrongKind => cases h
  | invalid => cases h
  | @rendered family found children target hr hk ht =>
    have ht' := target_congr (d.sameContent_data data) found.suffix hfixed family
    rw [ht] at ht'
    rw [resolve_rendered (d := { d with data }) hr hk ht']
    simp only [RenderTarget.apply, hlabel]

/-- The element of an unknown name is written without its markup. -/
theorem resolve_fallback (h : (t.resolve d).2 = .ok .fallback) :
    (t.resolve d).1 = applyFallback d ∧ t.route d.name = none := by
  generalize hx : t.resolve d = x at h
  cases outcome_of_resolve hx with
  | fallback hr => exact ⟨rfl, hr⟩
  | wrongKind => cases h
  | invalid => cases h
  | rendered => cases h

/--
**Resolving overwrites what a directive has been rendered as, the markup of an unknown name aside.**

Two directives that differ in nothing else have the same result, and behind a result they are
equal if a family has resolved them. The element of an unknown name has the markup that was there,
so it is the same only if that was.
-/
theorem resolve_overwrites (t : Transformer) (hfixed : t.options.IsFixed) (d d' : Directive)
    (hsame : d.SameSource d') :
    (t.resolve d').2 = (t.resolve d).2 ∧
      ∀ resolution, (t.resolve d).2 = .ok resolution →
        ((t.resolve d').1 = (t.resolve d).1 ↔
          resolution ≠ .fallback ∨ d'.data.children = d.data.children) := by
  obtain ⟨data, hlabel, rfl⟩ := hsame.exists_data
  have hresult := result_congr hfixed d data
  refine ⟨hresult, fun resolution hok => ?_⟩
  cases resolution with
  | family family =>
    have heq := resolve_congr_family hfixed hlabel hok
    exact ⟨fun _ => .inl (by simp), fun _ => heq⟩
  | fallback =>
    obtain ⟨hnew, -⟩ := resolve_fallback (hresult.trans hok)
    obtain ⟨hold, -⟩ := resolve_fallback hok
    rw [hnew, hold]
    constructor
    · intro heq
      have hchildren := congrArg (fun d : Directive => d.data.children) heq
      exact .inr hchildren
    · rintro (hne | hchildren)
      · exact absurd rfl hne
      · dsimp only at hchildren
        simp only [applyFallback, hlabel, hchildren]

end Transformer

/-! ### A link under other names -/

/-- The directive under another name. -/
def Directive.renamed (d : Directive) (name : String) : Directive :=
  { d with name }

/-- A link with a label. -/
def labelledLink : Directive where
  kind := .text
  name := "link"
  attributes := SortedMap.ofList [("id", "@octocat")]
  children := [.text "Cat"]

/-- The link once it has been resolved. -/
def resolvedLink : Directive :=
  (Transformer.standard.resolve labelledLink).1

theorem isFixed_standard : Transformer.standard.options.IsFixed where
  image := isFixedSource_none
  figure := isFixedSource_none
  caption := isFixedSource_none
  element := isFixedSource_none
  frame := isFixedSource_none
  anchor := isFixedSource_none
  icon := isFixedSource_none
  span := isFixedSource_none
  preset _ _ h := by cases h

/-- Under another name the resolved link differs from the link only in what it is rendered as. -/
theorem sameSource_resolvedLink (name : String) :
    (labelledLink.renamed name).SameSource (resolvedLink.renamed name) :=
  ⟨rfl, rfl⟩

/-- A badge takes nothing over from the link that it has been. -/
theorem resolve_overwrites_badge :
    Transformer.standard.options.IsFixed ∧
      (labelledLink.renamed "badge").SameSource (resolvedLink.renamed "badge") ∧
      (Transformer.standard.resolve (labelledLink.renamed "badge")).2 = .ok (.family .badge) ∧
      (Transformer.standard.resolve (resolvedLink.renamed "badge")).1
        = (Transformer.standard.resolve (labelledLink.renamed "badge")).1 := by
  have hok : (Transformer.standard.resolve (labelledLink.renamed "badge")).2
      = .ok (.family .badge) := rfl
  have h := Transformer.resolve_overwrites .standard isFixed_standard _ _
    (sameSource_resolvedLink "badge")
  exact ⟨isFixed_standard, sameSource_resolvedLink "badge", hok, (h.2 _ hok).mpr (.inl (by simp))⟩

/-- An element of an unknown name keeps the icon of the link that it has been. -/
theorem resolve_keeps_markup :
    Transformer.standard.options.IsFixed ∧
      (labelledLink.renamed "kbd").SameSource (resolvedLink.renamed "kbd") ∧
      (Transformer.standard.resolve (labelledLink.renamed "kbd")).2 = .ok .fallback ∧
      (Transformer.standard.resolve (resolvedLink.renamed "kbd")).2 = .ok .fallback ∧
      (Transformer.standard.resolve (resolvedLink.renamed "kbd")).1.data.children
        = some [.element "span" (.single "style"
          (.string "background-image: url(https://github.com/octocat.png)")) [], .text "Cat"] ∧
      (Transformer.standard.resolve (resolvedLink.renamed "kbd")).1
        ≠ (Transformer.standard.resolve (labelledLink.renamed "kbd")).1 := by
  have hfresh : (Transformer.standard.resolve (labelledLink.renamed "kbd")).1.data.children
      = none := rfl
  have hagain : (Transformer.standard.resolve (resolvedLink.renamed "kbd")).1.data.children
      = some [.element "span" (.single "style"
        (.string "background-image: url(https://github.com/octocat.png)")) [], .text "Cat"] := rfl
  refine ⟨isFixed_standard, sameSource_resolvedLink "kbd", rfl, rfl, hagain, fun heq => ?_⟩
  rw [heq, hfresh] at hagain
  exact absurd hagain (by simp)

end MarkdownDirectives
