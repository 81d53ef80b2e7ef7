import MarkdownDirectives.Proofs.Html.Tokens
import MarkdownDirectives.Proofs.Walk.Resolve

/-!
# Keys of what a directive is rendered as

The properties of a render target have their keys from three sides: from the options, from the
attributes of the directive, and from the families themselves (`fixedKeys`). No family brings in a
key from elsewhere, and none leaves a class list beside `className`.

* `within_mergeLayers` — a merge has the keys of its layers
* `within_target` — a render target of a family
* `within_generic` — the element of an unknown name
-/

namespace MarkdownDirectives

open Html

/-! ## Where keys come from -/

/-- The property sources of options. -/
def Options.sources (options : Options) : List (Option PropertySource) :=
  [options.image.imageProperties, options.image.figureProperties, options.image.captionProperties,
    options.image.elementProperties, options.video.frameProperties, options.link.anchorProperties,
    options.link.iconProperties, options.badge.spanProperties]
    ++ options.badge.presets.entries.map (·.2.properties)

/-- A property source of the options gives the key, to some directive at least. -/
def Options.HasKey (options : Options) (key : String) : Prop :=
  ∃ source ∈ options.sources, ∃ d properties,
    resolveSource source d = some properties ∧ key ∈ properties.keys

/-- The keys that families and images bring in themselves. -/
def fixedKeys : List String := [
  "allow", "allowfullscreen", "alt", "className", "data-badge", "data-link", "data-video", "href",
  "loading", "src", "style", "title"]

/-- The keys of options and families. -/
def Options.OwnKey (options : Options) (key : String) : Prop :=
  options.HasKey key ∨ key ∈ fixedKeys

/-- The keys that a directive with some attributes can be rendered with. -/
def Options.KeyFor (options : Options) (attributes : Attributes) (key : String) : Prop :=
  options.OwnKey key ∨ key ∈ attributes.keys

theorem Html.Coherent.mono {keys keys' : String → Prop} (h : Coherent keys)
    (hsub : ∀ key, keys' key → keys key) : Coherent keys' :=
  fun key key' hkey hkey' => h key key' (hsub key hkey) (hsub key' hkey')

theorem Html.Within.mono {keys keys' : String → Prop} {properties : Properties}
    (h : Within keys properties) (hsub : ∀ key, keys key → keys' key) : Within keys' properties :=
  fun key hkey => ⟨hsub key (h key hkey).1, (h key hkey).2⟩

/-! ## Layers -/

/-- A layer has its keys from the given ones. -/
def FromKeys (keys : String → Prop) (layer : Option Properties) : Prop :=
  ∀ properties, layer = some properties → ∀ key ∈ properties.keys, keys key

section Layers

variable {keys : String → Prop} {properties : Properties} {key : String}

theorem within_empty : Within keys SortedMap.empty :=
  fun _ h => absurd h List.not_mem_nil

theorem Html.Within.insert (h : Within keys properties) (hkey : keys key) (hne : key ≠ "class")
    (value : Property) : Within keys (SortedMap.insert properties key value) := by
  intro k hk
  rcases SortedMap.mem_keys_insert hk with rfl | hold
  · exact ⟨hkey, hne⟩
  · exact h k hold

theorem Html.Within.insertIfNew (h : Within keys properties) (hkey : keys key)
    (hne : key ≠ "class") (value : Property) :
    Within keys (SortedMap.insertIfNew properties key value) := by
  intro k hk
  rcases SortedMap.mem_keys_insertIfNew hk with rfl | hold
  · exact ⟨hkey, hne⟩
  · exact h k hold

theorem Html.Within.overlay {added : Properties} (h : Within keys properties)
    (hadded : Within keys added) : Within keys (SortedMap.overlay properties added) := by
  intro k hk
  rcases SortedMap.mem_keys_overlay hk with hnew | hold
  · exact hadded k hnew
  · exact h k hold

theorem within_addEntry {m : Merged} {entry : String × Property} (h : Within keys m.properties)
    (hentry : keys entry.1) : Within keys (m.addEntry entry).properties := by
  unfold Merged.addEntry
  split
  · exact h
  · split
    · exact h
    · next hclass =>
      refine h.insert hentry ?_ entry.2
      intro heq
      exact hclass (by rw [heq]; decide)

theorem within_addLayer {m : Merged} {layer : Properties} (h : Within keys m.properties)
    (hlayer : ∀ key ∈ layer.keys, keys key) : Within keys (m.addLayer layer).properties := by
  have hfold : ∀ (entries : List (String × Property)) (m : Merged), Within keys m.properties →
      (∀ entry ∈ entries, keys entry.1) →
      Within keys (entries.foldl Merged.addEntry m).properties := by
    intro entries
    induction entries with
    | nil => exact fun _ hm _ => hm
    | cons entry rest ih =>
      intro m hm hentries
      obtain ⟨hentry, hrest⟩ := List.forall_mem_cons.mp hentries
      exact ih _ (within_addEntry hm hentry) hrest
  exact hfold _ m h (List.forall_mem_map.mp hlayer)

/-- **A merge has the keys of its layers, and its classes under one key.** -/
theorem within_mergeLayers (hclass : keys "className") {layers : List (Option Properties)}
    (h : ∀ layer ∈ layers, FromKeys keys layer) : Within keys (mergeLayers layers) := by
  have hfold : ∀ (given : List Properties) (m : Merged), Within keys m.properties →
      (∀ layer ∈ given, ∀ key ∈ layer.keys, keys key) →
      Within keys (given.foldl Merged.addLayer m).properties := by
    intro given
    induction given with
    | nil => exact fun _ hm _ => hm
    | cons layer rest ih =>
      intro m hm hgiven
      obtain ⟨hlayer, hrest⟩ := List.forall_mem_cons.mp hgiven
      exact ih _ (within_addLayer hm hlayer) hrest
  have hgiven : ∀ layer ∈ layers.filterMap id, ∀ key ∈ layer.keys, keys key := by
    intro layer hlayer
    obtain ⟨source, hsource, heq⟩ := List.mem_filterMap.mp hlayer
    exact h source hsource layer heq
  have hmerged := hfold _ {} within_empty hgiven
  unfold mergeLayers Merged.finish
  split
  · exact hmerged
  · exact hmerged.insert hclass (by decide) _

theorem fromKeys_none : FromKeys keys none := by
  intro _ h
  cases h

theorem fromKeys_nil : ∀ layer ∈ [], FromKeys keys layer :=
  List.forall_mem_nil _

theorem fromKeys_cons {layer : Option Properties} {rest : List (Option Properties)}
    (h : FromKeys keys layer) (hrest : ∀ other ∈ rest, FromKeys keys other) :
    ∀ other ∈ layer :: rest, FromKeys keys other :=
  List.forall_mem_cons.mpr ⟨h, hrest⟩

theorem fromKeys_single (hkey : keys key) (value : Property) :
    FromKeys keys (some (Properties.single key value)) := by
  intro properties h k hk
  cases h
  rcases SortedMap.mem_keys_insert hk with rfl | hempty
  · exact hkey
  · exact absurd hempty List.not_mem_nil

theorem fromKeys_attributes {attributes : Attributes} (h : ∀ key ∈ attributes.keys, keys key) :
    FromKeys keys (some attributes.toProperties) := by
  intro properties heq
  cases heq
  rw [Attributes.toProperties, SortedMap.keys_mapValues]
  exact h

end Layers

/-! ## The keys of a directive -/

section Directive

variable {options : Options} {attributes : Attributes} {source : Option PropertySource}

theorem keyFor_fixed {key : String} (h : key ∈ fixedKeys) : options.KeyFor attributes key :=
  Or.inl (Or.inr h)

theorem keyFor_className : options.KeyFor attributes "className" :=
  keyFor_fixed (by decide)

theorem fromKeys_string {key : String} (h : key ∈ fixedKeys) (value : String) :
    FromKeys (options.KeyFor attributes) (stringLayer key value) :=
  fromKeys_single (keyFor_fixed h) _

theorem fromKeys_class (name : String) :
    FromKeys (options.KeyFor attributes) (classLayer name) :=
  fromKeys_single keyFor_className _

theorem ownKey_source (h : source ∈ options.sources) (d : Directive) :
    FromKeys options.OwnKey (resolveSource source d) :=
  fun properties heq _ hkey => Or.inl ⟨source, h, d, properties, heq, hkey⟩

theorem fromKeys_source (h : source ∈ options.sources) (d : Directive) :
    FromKeys (options.KeyFor attributes) (resolveSource source d) :=
  fun properties heq key hkey => Or.inl (ownKey_source h d properties heq key hkey)

theorem fromKeys_own : FromKeys (options.KeyFor attributes) (some attributes.toProperties) :=
  fromKeys_attributes fun _ hkey => Or.inr hkey

theorem fromKeys_without (names : List String) :
    FromKeys (options.KeyFor attributes) (some (attributes.without names).toProperties) :=
  fromKeys_attributes fun _ hkey => Or.inr (SortedMap.mem_keys_filterKeys hkey)

theorem within_mergeSources (h : source ∈ options.sources) (d : Directive)
    {given : Option Attributes} (hgiven : FromKeys (options.KeyFor attributes)
      (given.map Attributes.toProperties)) :
    Within (options.KeyFor attributes) (mergeSources [source] d given) := by
  refine within_mergeLayers keyFor_className ?_
  rw [List.map_singleton]
  exact List.forall_mem_cons.mpr ⟨fromKeys_source h d, List.forall_mem_singleton.mpr hgiven⟩

end Directive

/-! ## Families -/

/-- A render target has its keys from the given ones, in its own tag and in its markup. -/
structure RenderTarget.Within (keys : String → Prop) (target : RenderTarget) : Prop where
  properties : Html.Within keys target.properties
  children : ∀ markup, target.children = some markup →
    Opens (Html.Within keys) (tokensOfMarkupList markup)

section Families

variable {options : Options} {d : Directive} {suffix : Option String} {target : RenderTarget}
  (classPrefix : String)

theorem within_imageResolve {children : List Node}
    (h : options.image.resolve d suffix = (children, .ok target)) :
    target.Within (options.KeyFor d.attributes) := by
  have hfigure : options.image.figureProperties ∈ options.sources := by simp [Options.sources]
  have helement : options.image.elementProperties ∈ options.sources := by simp [Options.sources]
  unfold ImageOptions.resolve at h
  split at h
  · cases h
  · next tag _ =>
    dsimp only at h
    split at h
    · cases h
    · split at h
      · unfold ImageOptions.figure at h
        dsimp only at h
        split at h
        · cases h
        · cases h
          exact ⟨within_mergeSources hfigure _ fromKeys_none, nofun⟩
      · cases h
        exact ⟨within_mergeSources helement _ fromKeys_own, nofun⟩

theorem within_videoResolve (h : options.video.resolve classPrefix d suffix = .ok target) :
    target.Within (options.KeyFor d.attributes) := by
  have hframe : options.video.frameProperties ∈ options.sources := by simp [Options.sources]
  have hsrc : "src" ∈ fixedKeys := by decide
  have htitle : "title" ∈ fixedKeys := by decide
  have hmarker : "data-video" ∈ fixedKeys := by decide
  have hloading : "loading" ∈ fixedKeys := by decide
  have hallow : "allow" ∈ fixedKeys := by decide
  have hfullscreen : "allowfullscreen" ∈ fixedKeys := by decide
  unfold VideoOptions.resolve at h
  split at h
  · cases h
  · split at h
    · cases h
    · cases h
      split
      · refine ⟨within_mergeLayers keyFor_className
          (fromKeys_cons (fromKeys_class _) <|
            fromKeys_cons (fromKeys_string hmarker _) fromKeys_nil), ?_⟩
        rintro markup ⟨⟩
        refine (opens_wrapTokens (Within.insertIfNew (within_mergeLayers keyFor_className ?_)
          (keyFor_fixed hfullscreen) (by decide) _) opens_nil _).append opens_nil
        exact fromKeys_cons (fromKeys_string hsrc _) <|
          fromKeys_cons (fromKeys_string htitle _) <|
          fromKeys_cons (fromKeys_string hloading _) <|
          fromKeys_cons (fromKeys_string hallow _) <|
          fromKeys_cons (fromKeys_source hframe d) <|
          fromKeys_cons (fromKeys_without _) fromKeys_nil
      · refine ⟨within_mergeLayers keyFor_className
          (fromKeys_cons (fromKeys_string hsrc _) <|
            fromKeys_cons (fromKeys_string htitle _) <|
            fromKeys_cons (fromKeys_class _) <|
            fromKeys_cons (fromKeys_source hframe d) <|
            fromKeys_cons (fromKeys_string hmarker _) <|
            fromKeys_cons (fromKeys_without _) fromKeys_nil), ?_⟩
        rintro markup ⟨⟩
        exact opens_nil

theorem within_iconMarkup (icon : String) :
    Opens (Html.Within (options.KeyFor d.attributes))
      (tokensOfMarkup (options.link.iconMarkup icon d)) := by
  have hicon : options.link.iconProperties ∈ options.sources := by simp [Options.sources]
  have hstyle : "style" ∈ fixedKeys := by decide
  have hsrc : "src" ∈ fixedKeys := by decide
  have halt : "alt" ∈ fixedKeys := by decide
  unfold LinkOptions.iconMarkup
  dsimp only
  split
  · exact opens_wrapTokens (within_mergeLayers keyFor_className
      (fromKeys_cons (fromKeys_string hstyle _) <|
        fromKeys_cons (fromKeys_source hicon d) fromKeys_nil)) opens_nil _
  · refine opens_wrapTokens (Within.insertIfNew (within_mergeLayers keyFor_className ?_)
      (keyFor_fixed halt) (by decide) _) opens_nil _
    exact fromKeys_cons (fromKeys_string hsrc _) <|
      fromKeys_cons (fromKeys_source hicon d) fromKeys_nil

theorem within_linkResolve (h : options.link.resolve classPrefix d = .ok target) :
    target.Within (options.KeyFor d.attributes) := by
  have hanchor : options.link.anchorProperties ∈ options.sources := by simp [Options.sources]
  have hmarker : "data-link" ∈ fixedKeys := by decide
  have hhref : "href" ∈ fixedKeys := by decide
  unfold LinkOptions.resolve at h
  split at h
  · cases h
  · split at h
    · cases h
    · split at h
      · cases h
      · cases h
        refine ⟨Within.insert (within_mergeLayers keyFor_className ?_) (keyFor_fixed hhref)
          (by decide) _, ?_⟩
        · exact fromKeys_cons (fromKeys_class _) <|
            fromKeys_cons (fromKeys_source hanchor d) <|
            fromKeys_cons (fromKeys_string hmarker _) <|
            fromKeys_cons (fromKeys_without _) fromKeys_nil
        · rintro markup ⟨⟩
          exact (within_iconMarkup _).append ((opens_text _).append opens_nil)

/-- The properties of a preset are one of the sources. -/
theorem preset_mem_sources {preset : Option (String × BadgePreset)}
    (h : options.badge.preset suffix = .ok preset) :
    (preset.bind fun p => p.2.properties) = none ∨
      (preset.bind fun p => p.2.properties) ∈ options.sources := by
  unfold BadgeOptions.preset at h
  split at h
  · cases h
    exact Or.inl rfl
  · split at h
    · next name _ found hget =>
      cases h
      exact Or.inr (List.mem_append_right _
        (List.mem_map.mpr ⟨_, SortedMap.mem_entries_of_get? hget, rfl⟩))
    · cases h

theorem within_badgeResolve (h : options.badge.resolve classPrefix d suffix = .ok target) :
    target.Within (options.KeyFor d.attributes) := by
  have hspan : options.badge.spanProperties ∈ options.sources := by simp [Options.sources]
  have hmarker : "data-badge" ∈ fixedKeys := by decide
  have hstyle : "style" ∈ fixedKeys := by decide
  unfold BadgeOptions.resolve at h
  split at h
  · cases h
  · next preset hpreset =>
    have htype : FromKeys (options.KeyFor d.attributes)
        (preset.bind fun p => stringLayer "data-badge" p.1) := by
      cases preset with
      | none => exact fromKeys_none
      | some found => exact fromKeys_string hmarker _
    have hgiven : FromKeys (options.KeyFor d.attributes)
        (resolveSource (preset.bind fun p => p.2.properties) d) := by
      rcases preset_mem_sources hpreset with hnone | hmem
      · rw [hnone]
        exact fromKeys_none
      · exact fromKeys_source hmem d
    split at h
    · cases h
    · split at h
      · cases h
      · cases h
        refine ⟨Within.insert (within_mergeLayers keyFor_className ?_) (keyFor_fixed hstyle)
          (by decide) _, ?_⟩
        · exact fromKeys_cons (fromKeys_class _) <|
            fromKeys_cons (fromKeys_source hspan d) <|
            fromKeys_cons htype <|
            fromKeys_cons hgiven <|
            fromKeys_cons (fromKeys_without _) fromKeys_nil
        · rintro markup ⟨⟩
          exact (opens_text _).append opens_nil

/-- **What a family renders a directive as has no keys but those of the directive.** -/
theorem within_target {t : Transformer} {family : Family} {children : List Node}
    (h : t.target family d suffix = (children, .ok target)) :
    target.Within (t.options.KeyFor d.attributes) := by
  cases family with
  | image => exact within_imageResolve h
  | video => exact within_videoResolve _ (congrArg Prod.snd h)
  | link => exact within_linkResolve _ (congrArg Prod.snd h)
  | badge => exact within_badgeResolve _ (congrArg Prod.snd h)

end Families

/-! ## The element of an unknown name -/

/-- A key in lower case, or the key of classes. -/
def IsGenericKey (key : String) : Prop :=
  key = "className" ∨ Text.lowercase key = key

theorem lowercase_attributeName {key : String} (h : IsGenericKey key) :
    Text.lowercase (attributeName key) = attributeName key := by
  unfold attributeName
  by_cases hclass : key = "className"
  · rw [if_pos hclass]
    decide
  · rw [if_neg hclass]
    exact h.resolve_left hclass

theorem coherent_isGenericKey : Coherent IsGenericKey := by
  intro key key' hkey hkey' heq
  rwa [lowercase_attributeName hkey, lowercase_attributeName hkey'] at heq

theorem within_addGeneric {properties : Properties} (h : Within IsGenericKey properties)
    (entry : String × String) : Within IsGenericKey (addGeneric properties entry) := by
  unfold addGeneric
  dsimp only
  split
  · split
    · exact h
    · exact h.insert (Or.inl rfl) (by decide) _
  · next hclass =>
    refine h.insert (Or.inr (Text.lowercase_lowercase _)) ?_ _
    intro heq
    exact hclass (by rw [heq]; decide)

/-- **Names in lower case do not clash, whatever the attributes.** -/
theorem within_generic (name : String) (attributes : Attributes) :
    Within IsGenericKey (Element.generic name attributes).properties := by
  have hfold : ∀ (entries : List (String × String)) (properties : Properties),
      Within IsGenericKey properties →
      Within IsGenericKey (entries.foldl addGeneric properties) := by
    intro entries
    induction entries with
    | nil => exact fun _ h => h
    | cons entry rest ih => exact fun properties h => ih _ (within_addGeneric h entry)
  exact hfold attributes.entries _ within_empty

/-! ## Nodes -/

theorem isGenericKey_fixed : ∀ key ∈ fixedKeys, IsGenericKey key := by
  unfold IsGenericKey
  decide

theorem within_single {keys : String → Prop} {key : String} (hkey : keys key)
    (hne : key ≠ "class") (value : Property) : Within keys (Properties.single key value) :=
  within_empty.insert hkey hne value

theorem within_imageProperties {keys : String → Prop} (hkeys : ∀ key ∈ fixedKeys, keys key)
    (img : Image) : Within keys (imageProperties img) := by
  have hown := Within.insert (within_single (hkeys "src" (by decide)) (by decide)
    (.string img.url)) (hkeys "alt" (by decide)) (by decide) (.string img.alt)
  unfold imageProperties
  dsimp only
  split
  · exact hown.insert (hkeys "title" (by decide)) (by decide) _
  · exact hown

theorem within_linkProperties (url : String) (title : Option String) :
    Within IsGenericKey (linkProperties url title) := by
  have hown := within_single (isGenericKey_fixed "href" (by decide)) (by decide) (.string url)
  unfold linkProperties
  dsimp only
  split
  · exact hown.insert (isGenericKey_fixed "title" (by decide)) (by decide) _
  · exact hown

theorem within_codeProperties (language : Option String) :
    Within IsGenericKey (codeProperties language) := by
  unfold codeProperties
  split
  · exact within_single (isGenericKey_fixed "className" (by decide)) (by decide) _
  · exact within_empty

theorem within_listTag (start : Option Nat) : Within IsGenericKey (listTag start).2 := by
  unfold listTag
  split
  · exact within_empty
  · exact within_empty
  · exact within_single (Or.inr (by decide)) (by decide) _

end MarkdownDirectives
