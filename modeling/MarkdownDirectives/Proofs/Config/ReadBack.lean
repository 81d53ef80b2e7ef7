import Mathlib.Data.List.Nodup
import MarkdownDirectives.Config.Load
import MarkdownDirectives.Proofs.Config.Written

/-!
# Settings are read back

Reading a table that settings are written as gives the settings, whichever defaults are left out
and in whatever order the entries stand. A table with a key that is no field is refused.

`Reads decode form a` says that a reader takes every way of writing `a` back to `a`. It is proved
form by form: a map from the form of its values, a record from those of its fields. An array in the
place of a table is read too, but settings are not written so.

* `reads_map`, `setting_eq`, `optional_eq` — maps and fields
* `Config.ofTable_of_writes` — settings are read back
* `Config.ofTable_of_addsStrayKey` — no reader has a place for a stray key
* `Config.ofText_of_writes` — the same for texts, with the rules that settings must keep
-/

namespace MarkdownDirectives

open Toml

namespace Config

variable {α ρ : Type}

/-- The reader takes every way of writing the value back to the value. -/
def Reads (decode : Value → Option α) (form : Form α) (a : α) : Prop :=
  ∀ v, form.Writes a v → decode v = some a

/-! ## Words, booleans and properties -/

theorem mapM_decodeString (items : List String) :
    (items.map Value.string).mapM decodeString = some items := by
  rw [List.mapM_map]
  exact List.mapM_pure.trans (congrArg some (List.map_id items))

theorem reads_string (s : String) : Reads decodeString stringForm s := by
  rintro _ rfl
  rfl

theorem reads_bool (b : Bool) : Reads decodeBool boolForm b := by
  rintro _ rfl
  rfl

theorem reads_aliases (aliases : Aliases) : Reads decodeAliases aliasesForm aliases := by
  rintro _ rfl
  cases aliases with
  | one name => rfl
  | many names =>
    show ((names.map Value.string).mapM decodeString).map Aliases.many = some (.many names)
    rw [mapM_decodeString, Option.map_some]

theorem reads_scope (scope : ImageScope) : Reads (decodeChoice scopeWords) scopeForm scope := by
  rintro _ rfl
  cases scope with
  | first => rfl
  | all => rfl

theorem reads_icon (icon : IconStyle) : Reads (decodeChoice iconWords) iconForm icon := by
  rintro _ rfl
  cases icon with
  | background => rfl
  | img => rfl

theorem reads_property {p : Property}
    (h : ∀ value, p = .int value → -0x8000000000000000 ≤ value ∧ value < 0x8000000000000000) :
    Reads decodeProperty propertyForm p := by
  rintro _ rfl
  cases p with
  | bool value => rfl
  | int value =>
    have hmin : minInt ≤ value := (h value rfl).1
    have hmax : value ≤ maxInt := Int.le_of_lt_add_one (h value rfl).2
    simp [decodeProperty, hmin, hmax]
  | string value => rfl
  | list items =>
    show ((items.map Value.string).mapM decodeString).map Property.list = some (.list items)
    rw [mapM_decodeString, Option.map_some]

/-- What is read of a value that may be absent. -/
theorem bind_of_rel {decode : Value → Option α} {form : Form α} {a? : Option α} {v? : Option Value}
    (hrel : Option.Rel form.Writes a? v?) (h : ∀ a, a? = some a → Reads decode form a) :
    v?.bind decode = a? := by
  cases hrel with
  | none => rfl
  | some hwrites => exact h _ rfl _ hwrites

/-! ## Maps -/

section Map

variable {decode : Value → Option α} {entries : Table}

/-- Where no key stands twice, looking a key up finds every entry. -/
theorem lookup_eq_some_iff_mem {entries : List (String × α)} (h : (entries.map Prod.fst).Nodup)
    {key : String} {a : α} : entries.lookup key = some a ↔ (key, a) ∈ entries := by
  have hmem {a : α} (ha : entries.lookup key = some a) : (key, a) ∈ entries := by
    obtain ⟨before, after, rfl, -⟩ := List.lookup_eq_some_iff.mp ha
    exact List.mem_append_right _ List.mem_cons_self
  refine ⟨hmem, fun ha => ?_⟩
  have hsome : (entries.lookup key).isSome :=
    List.lookup_isSome_iff.mpr ⟨(key, a), ha, beq_self_eq_true key⟩
  obtain ⟨a', ha'⟩ := Option.isSome_iff_exists.mp hsome
  have heq : (key, a') = (key, a) := List.inj_on_of_nodup_map h (hmem ha') ha rfl
  rw [ha', (Prod.mk.inj heq).2]

theorem lookup_reverse {entries : List (String × α)} (h : (entries.map Prod.fst).Nodup)
    (key : String) : entries.reverse.lookup key = entries.lookup key := by
  have hreverse : (entries.reverse.map Prod.fst).Nodup := by
    rw [List.map_reverse]
    exact List.nodup_reverse.mpr h
  refine Option.ext fun a => ?_
  rw [lookup_eq_some_iff_mem h, lookup_eq_some_iff_mem hreverse, List.mem_reverse]

/-- If every value of a table can be read, the values that are read stand under the same keys. -/
theorem exists_mapM_values (h : ∀ e ∈ entries, (decode e.2).isSome) :
    ∃ decoded, entries.mapM (fun e => (decode e.2).map fun v => (e.1, v)) = some decoded ∧
      decoded.map Prod.fst = entries.map Prod.fst ∧
      ∀ key, decoded.lookup key = (entries.lookup key).bind decode := by
  induction entries with
  | nil => exact ⟨[], rfl, rfl, fun _ => rfl⟩
  | cons entry rest ih =>
    obtain ⟨hentry, hrest⟩ := List.forall_mem_cons.mp h
    obtain ⟨a, ha⟩ := Option.isSome_iff_exists.mp hentry
    obtain ⟨decoded, hdecoded, hkeys, hlookup⟩ := ih hrest
    refine ⟨(entry.1, a) :: decoded, ?_, ?_, fun key => ?_⟩
    · rw [List.mapM_cons, ha, hdecoded]
      rfl
    · rw [List.map_cons, List.map_cons, hkeys]
    · rw [List.lookup_cons, List.lookup_cons, hlookup]
      split
      · exact ha.symm
      · rfl

theorem reads_map {form : Form α} {m : SortedMap α}
    (h : ∀ e ∈ m.entries, Reads decode form e.2) : Reads (decodeMap decode) form.map m := by
  rintro _ ⟨entries, rfl, hnodup, hrel⟩
  have hread (key : String) : (entries.lookup key).bind decode = m.get? key :=
    bind_of_rel (hrel key) fun a ha => h (key, a) (SortedMap.mem_entries_of_get? ha)
  have hsome (e : String × Value) (he : e ∈ entries) : (decode e.2).isSome := by
    have hkey := hrel e.1
    have hvalue := hread e.1
    rw [(lookup_eq_some_iff_mem hnodup).mpr he] at hkey hvalue
    cases hm : m.get? e.1 with
    | none => rw [hm] at hkey; cases hkey
    | some a => rw [Option.bind_some, hm] at hvalue; rw [hvalue]; rfl
  obtain ⟨decoded, hdecoded, hkeys, hlookup⟩ := exists_mapM_values hsome
  -- no key stands twice, so it does not matter that the last entry of a key counts
  have hmap : SortedMap.ofList decoded = m := by
    refine SortedMap.eq_of_get? fun key => ?_
    rw [SortedMap.get?_ofList, lookup_reverse (hkeys ▸ hnodup), hlookup, hread]
  simp only [decodeMap, entriesOf, Option.bind_eq_bind, Option.bind_some, hdecoded, hmap]

end Map

/-! ## Fields -/

section Fields

variable {decode : Value → Option α} {entries : Table} {fields : List (Field ρ)} {r : ρ}

theorem sectionEntries_eq_some_iff {keys : List String} :
    sectionEntries keys (.table entries) = some entries ↔
      ∀ key ∈ entries.map Prod.fst, key ∈ keys := by
  simp only [sectionEntries, List.forall_mem_map, Option.ite_none_right_eq_some, and_true,
    List.all_eq_true, List.contains_iff_mem]

theorem optional_eq {key : String} {form : Form α} {get : ρ → Option α}
    (h : (Field.optional key form get).Allows r (entries.lookup key))
    (hread : ∀ a, get r = some a → Reads decode form a) :
    optional entries key decode = some (get r) := by
  have hrel : Option.Rel form.Writes (get r) (entries.lookup key) := h
  have hvalue : (entries.lookup key).bind decode = get r := bind_of_rel hrel hread
  rw [optional, setting]
  cases hv : entries.lookup key with
  | none =>
    rw [hv] at hvalue
    exact congrArg some hvalue
  | some v =>
    rw [hv] at hrel hvalue
    cases hget : get r with
    | none =>
      -- an absent value is never written
      rw [hget] at hrel
      cases hrel
    | some a =>
      rw [hget, Option.bind_some] at hvalue
      show (decode v).map some = some (some a)
      rw [hvalue, Option.map_some]

theorem setting_eq {key : String} {form : Form α} {get : ρ → α} {default : ρ}
    (h : (Field.defaulted default key form get).Allows r (entries.lookup key))
    (hread : Reads decode form (get r)) :
    setting entries key decode (get default) = some (get r) := by
  rw [setting]
  rcases h with hrel | ⟨hnone, hdefault⟩
  · cases hv : entries.lookup key with
    | none => rw [hv] at hrel; cases hrel
    | some v =>
      rw [hv] at hrel
      cases hrel with
      | some hwrites => exact hread v hwrites
  · rw [hnone, hdefault]

theorem required_eq {key : String} {form : Form α} {get : ρ → α}
    (h : (Field.required key form get).Allows r (entries.lookup key))
    (hread : Reads decode form (get r)) :
    (entries.lookup key).bind decode = some (get r) := by
  refine bind_of_rel h fun a ha => ?_
  cases ha
  exact hread

end Fields

/-! ## Sections -/

section Sections

variable {entries : Table}

theorem optional_properties_eq {key : String} {get : ρ → Option Properties} {r : ρ}
    (h : (Field.optional key propertiesForm get).Allows r (entries.lookup key))
    (hbounded : HasBoundedIntegers (get r)) :
    optional entries key decodeProperties = some (get r) := by
  refine optional_eq h fun m hm => reads_map fun e he => reads_property fun value hvalue => ?_
  exact hbounded m hm e.1 value (hvalue ▸ he)

theorem reads_image {image : ImageConfig} (himage : HasBoundedIntegers image.imageProperties)
    (hfigure : HasBoundedIntegers image.figureProperties)
    (hcaption : HasBoundedIntegers image.captionProperties)
    (helement : HasBoundedIntegers image.elementProperties) :
    Reads decodeImage imageForm image := by
  rintro _ ⟨entries, rfl, hrecord⟩
  have hentries : sectionEntries imageKeys (.table entries) = some entries :=
    sectionEntries_eq_some_iff.mpr hrecord.known
  have hallowed := hrecord.allowed
  simp only [imageFields, List.forall_mem_cons] at hallowed
  obtain ⟨halias, himg, hscope, hfig, hcap, helt, hstrip, -⟩ := hallowed
  simp [decodeImage, hentries, optional_eq halias fun a _ => reads_aliases a,
    optional_properties_eq himg himage, setting_eq hscope (reads_scope _),
    optional_properties_eq hfig hfigure, optional_properties_eq hcap hcaption,
    optional_properties_eq helt helement, setting_eq hstrip (reads_bool _)]

theorem reads_video {video : VideoConfig} (hframe : HasBoundedIntegers video.frameProperties) :
    Reads decodeVideo videoForm video := by
  rintro _ ⟨entries, rfl, hrecord⟩
  have hentries : sectionEntries videoKeys (.table entries) = some entries :=
    sectionEntries_eq_some_iff.mpr hrecord.known
  have hallowed := hrecord.allowed
  simp only [videoFields, List.forall_mem_cons] at hallowed
  obtain ⟨halias, hprops, hplatforms, hwrapper, -⟩ := hallowed
  simp [decodeVideo, hentries, optional_eq halias fun a _ => reads_aliases a,
    optional_properties_eq hprops hframe,
    setting_eq hplatforms (reads_map fun e _ => reads_string e.2),
    setting_eq hwrapper (reads_bool _)]

theorem reads_link {link : LinkConfig} (hanchor : HasBoundedIntegers link.anchorProperties)
    (hicon : HasBoundedIntegers link.iconProperties) : Reads decodeLink linkForm link := by
  rintro _ ⟨entries, rfl, hrecord⟩
  have hentries : sectionEntries linkKeys (.table entries) = some entries :=
    sectionEntries_eq_some_iff.mpr hrecord.known
  have hallowed := hrecord.allowed
  simp only [linkFields, List.forall_mem_cons] at hallowed
  obtain ⟨halias, ha, himg, hfavicon, hstyle, -⟩ := hallowed
  simp [decodeLink, hentries, optional_eq halias fun a _ => reads_aliases a,
    optional_properties_eq ha hanchor, optional_properties_eq himg hicon,
    optional_eq hfavicon fun s _ => reads_string s, setting_eq hstyle (reads_icon _)]

theorem reads_preset {preset : PresetConfig} (hprops : HasBoundedIntegers preset.properties) :
    Reads decodePreset presetForm preset := by
  rintro _ ⟨entries, rfl, hrecord⟩
  have hentries : sectionEntries presetKeys (.table entries) = some entries :=
    sectionEntries_eq_some_iff.mpr hrecord.known
  have hallowed := hrecord.allowed
  simp only [presetFields, List.forall_mem_cons] at hallowed
  obtain ⟨htext, hcolor, hproperties, -⟩ := hallowed
  simp [decodePreset, hentries, required_eq htext (reads_string _),
    optional_eq hcolor fun s _ => reads_string s, optional_properties_eq hproperties hprops]

theorem reads_badge {badge : BadgeConfig} (hspan : HasBoundedIntegers badge.spanProperties)
    (hpresets : ∀ e ∈ badge.presets.entries, HasBoundedIntegers e.2.properties) :
    Reads decodeBadge badgeForm badge := by
  rintro _ ⟨entries, rfl, hrecord⟩
  have hentries : sectionEntries badgeKeys (.table entries) = some entries :=
    sectionEntries_eq_some_iff.mpr hrecord.known
  have hallowed := hrecord.allowed
  simp only [badgeFields, List.forall_mem_cons] at hallowed
  obtain ⟨halias, hprops, hpres, hcolor, -⟩ := hallowed
  simp [decodeBadge, hentries, optional_eq halias fun a _ => reads_aliases a,
    optional_properties_eq hprops hspan,
    setting_eq hpres (reads_map fun e he => reads_preset (hpresets e he)),
    setting_eq hcolor (reads_string _)]

/-- **Settings are read back**, whatever is left out and in whatever order they are written. -/
theorem ofTable_of_writes {config : Config} {table : Table} (hbounded : config.IsBounded)
    (h : config.Writes table) : ofTable table = some config := by
  have hentries : sectionEntries keys (.table table) = some table :=
    sectionEntries_eq_some_iff.mpr h.known
  have hallowed := h.allowed
  simp only [fields, List.forall_mem_cons] at hallowed
  obtain ⟨hclass, himage, hvideo, hlink, hbadge, -⟩ := hallowed
  simp only [IsBounded, allProperties, List.cons_append, List.nil_append, List.forall_mem_cons,
    List.forall_mem_map] at hbounded
  obtain ⟨h₁, h₂, h₃, h₄, h₅, h₆, h₇, h₈, hpresets⟩ := hbounded
  simp [ofTable, hentries, setting_eq hclass (reads_string _),
    setting_eq himage (reads_image h₁ h₂ h₃ h₄), setting_eq hvideo (reads_video h₅),
    setting_eq hlink (reads_link h₆ h₇), setting_eq hbadge (reads_badge h₈ hpresets)]

end Sections

/-! ## Stray keys -/

section Stray

variable {entries entries' : Table} {key : String} {change : Table → Table → Prop}

theorem sectionEntries_table {keys : List String}
    (h : sectionEntries keys (.table entries) = some entries') : entries' = entries := by
  rw [sectionEntries, Option.ite_none_right_eq_some] at h
  exact (Option.some.inj h.2).symm

/-- A key that is no field stands in the way of reading a section. -/
theorem sectionEntries_bind_of_adds {fields : List (Field ρ)} (h : Adds fields entries entries')
    (f : Table → Option α) :
    (sectionEntries (fields.map Field.key) (.table entries')).bind f = none := by
  obtain ⟨before, after, key, value, -, hkey, rfl⟩ := h
  refine Option.bind_eq_none_iff.mpr fun entries hentries => absurd ?_ hkey
  cases sectionEntries_table hentries
  exact sectionEntries_eq_some_iff.mp hentries key (by simp)

/-- The changed table stands under the key. -/
theorem Changes.lookup_eq (h : Changes key change entries entries') :
    ∃ inner inner', change inner inner' ∧ entries'.lookup key = some (.table inner') := by
  obtain ⟨inner, inner', hlookup, hchange, rfl⟩ := h
  refine ⟨inner, inner', hchange, ?_⟩
  induction entries with
  | nil => cases hlookup
  | cons entry rest ih =>
    by_cases heq : entry.1 = key
    · rw [List.map_cons, if_pos heq, List.lookup_cons_self]
    · have hne : (key == entry.1) = false := beq_false_of_ne fun hkey => heq hkey.symm
      rw [List.lookup_cons, hne] at hlookup
      rw [List.map_cons, if_neg heq, List.lookup_cons, hne]
      exact ih hlookup

theorem Changes.setting_eq_none {decode : Value → Option α} {default : α}
    (h : Changes key change entries entries')
    (hdecode : ∀ inner inner', change inner inner' → decode (.table inner') = none) :
    setting entries' key decode default = none := by
  obtain ⟨inner, inner', hchange, hlookup⟩ := h.lookup_eq
  rw [setting, hlookup]
  exact hdecode inner inner' hchange

theorem Changes.decodeMap_eq_none {decode : Value → Option α}
    (h : Changes key change entries entries')
    (hdecode : ∀ inner inner', change inner inner' → decode (.table inner') = none) :
    decodeMap decode (.table entries') = none := by
  obtain ⟨inner, inner', hchange, hlookup⟩ := h.lookup_eq
  obtain ⟨before, after, rfl, -⟩ := List.lookup_eq_some_iff.mp hlookup
  simp [decodeMap, entriesOf, List.mapM_append, hdecode inner inner' hchange]

/-- Settings that are read have sections that are read. -/
theorem sections_of_ofTable {table : Table} {config : Config} (h : ofTable table = some config) :
    setting table "image" decodeImage {} = some config.image ∧
      setting table "video" decodeVideo {} = some config.video ∧
      setting table "link" decodeLink {} = some config.link ∧
      setting table "badge" decodeBadge {} = some config.badge := by
  simp only [ofTable, Option.bind_eq_bind, Option.pure_def, Option.bind_eq_some_iff,
    Option.some.injEq] at h
  obtain ⟨entries, hentries, _, _, image, himage, video, hvideo, link, hlink, badge, hbadge, rfl⟩ :=
    h
  cases sectionEntries_table hentries
  exact ⟨himage, hvideo, hlink, hbadge⟩

theorem presets_of_decodeBadge {badge : BadgeConfig}
    (h : decodeBadge (.table entries) = some badge) :
    setting entries "presets" (decodeMap decodePreset) SortedMap.empty = some badge.presets := by
  simp only [decodeBadge, Option.bind_eq_bind, Option.pure_def, Option.bind_eq_some_iff,
    Option.some.injEq] at h
  obtain ⟨entries, hentries, _, _, _, _, presets, hpresets, _, _, rfl⟩ := h
  cases sectionEntries_table hentries
  exact hpresets

/-- **A stray key is refused**, be it in the whole table, in a section or in a preset. -/
theorem ofTable_of_addsStrayKey {table table' : Table} (h : AddsStrayKey table table') :
    ofTable table' = none := by
  refine Option.eq_none_iff_forall_ne_some.mpr fun config hconfig => ?_
  obtain ⟨himage, hvideo, hlink, hbadge⟩ := sections_of_ofTable hconfig
  cases h with
  | top h =>
    have hnone : ofTable table' = none := sectionEntries_bind_of_adds h _
    rw [hnone] at hconfig
    cases hconfig
  | image h =>
    rw [h.setting_eq_none fun _ _ hadds => sectionEntries_bind_of_adds hadds _] at himage
    cases himage
  | video h =>
    rw [h.setting_eq_none fun _ _ hadds => sectionEntries_bind_of_adds hadds _] at hvideo
    cases hvideo
  | link h =>
    rw [h.setting_eq_none fun _ _ hadds => sectionEntries_bind_of_adds hadds _] at hlink
    cases hlink
  | badge h =>
    rw [h.setting_eq_none fun _ _ hadds => sectionEntries_bind_of_adds hadds _] at hbadge
    cases hbadge
  | preset name h =>
    -- the preset cannot be read, so neither can the presets, and so neither can the section
    rw [h.setting_eq_none fun entries entries' hpresets => ?_] at hbadge
    · cases hbadge
    · refine Option.eq_none_iff_forall_ne_some.mpr fun badge hread => ?_
      have hsetting := presets_of_decodeBadge hread
      rw [hpresets.setting_eq_none fun _ _ hname =>
        hname.decodeMap_eq_none fun _ _ hadds => sectionEntries_bind_of_adds hadds _] at hsetting
      cases hsetting

end Stray

/-! ## Texts -/

/-- **Reading settings undoes writing them.** Settings that keep the rules can be written as a
table, and a text with any such table is read as the settings. With a stray key in the table the
text is malformed. -/
theorem ofText_of_writes {config : Config} (hvalid : config.fault? = none)
    (hbounded : config.IsBounded) :
    config.Writes config.toTable ∧
      ∀ table, config.Writes table →
        (ofTable table = some config ∧
          ∀ text, Table.ofText text = some table → ofText text = .ok config) ∧
        ∀ table', AddsStrayKey table table' →
          ofTable table' = none ∧
            ∀ text, Table.ofText text = some table' → ofText text = .error .malformed := by
  refine ⟨writes_toTable config, fun table hwrites => ⟨?_, fun table' hstray => ?_⟩⟩
  · have hread : ofTable table = some config := ofTable_of_writes hbounded hwrites
    refine ⟨hread, fun text htext => ?_⟩
    rw [ofText, htext, Option.bind_some, hread]
    simp only [hvalid]
  · have hread : ofTable table' = none := ofTable_of_addsStrayKey hstray
    refine ⟨hread, fun text htext => ?_⟩
    rw [ofText, htext, Option.bind_some, hread]

/-- Settings with aliases, properties of every kind and a preset. -/
def sampleConfig : Config where
  classPrefix := "docs"
  image := {
    aliases := some (.many ["figure", "photo"])
    imageProperties := some ⟨[("className", .list ["wide", "tall"]), ("hidden", .bool true),
      ("loading", .string "lazy"), ("tabindex", .int (-1))], by decide⟩
    scope := .all }
  badge := { presets := ⟨[("new", { text := "NEW", color := some "green" })], by decide⟩ }

/-- The settings without the defaults, and not in the order of the fields. -/
def sampleTable : Table :=
  [("badge", .table [("presets", .table [("new", .table [("text", .string "NEW"),
      ("color", .string "green")])])]),
    ("image", .table [("img_props_scope", .string "all"),
      ("alias", .array [.string "figure", .string "photo"]),
      ("img_props", .table [("className", .array [.string "wide", .string "tall"]),
        ("hidden", .bool true), ("loading", .string "lazy"), ("tabindex", .int (-1))])]),
    ("class_prefix", .string "docs")]

/-- The settings with a misspelt key in the preset. -/
def sampleStrayTable : Table :=
  ("badge", .table [("presets", .table [("new", .table [("text", .string "NEW"),
      ("color", .string "green"), ("colour", .string "red")])])]) :: sampleTable.tail

theorem sampleConfig_isBounded : sampleConfig.IsBounded := by
  simp [IsBounded, allProperties, sampleConfig, HasBoundedIntegers]

theorem sampleTable_isRecord : IsRecord fields sampleConfig sampleTable where
  known := by decide
  nodup := by decide
  allowed := by
    simp only [fields, List.forall_mem_cons]
    refine ⟨.inl (.some rfl), .inl (.some ⟨_, rfl, by decide, by decide, ?_⟩), .inr ⟨rfl, rfl⟩,
      .inr ⟨rfl, rfl⟩, .inl (.some ⟨_, rfl, by decide, by decide, ?_⟩), List.forall_mem_nil _⟩
    · simp only [imageFields, List.forall_mem_cons]
      exact ⟨.some rfl, .some (propertiesForm.writes_encode _), .inl (.some rfl), .none, .none,
        .none, .inr ⟨rfl, rfl⟩, List.forall_mem_nil _⟩
    · simp only [badgeFields, List.forall_mem_cons]
      exact ⟨.none, .none, .inl (.some (presetForm.map.writes_encode _)), .inr ⟨rfl, rfl⟩,
        List.forall_mem_nil _⟩

theorem sampleTable_addsStrayKey : AddsStrayKey sampleTable sampleStrayTable := by
  have hadds : Adds presetFields [("text", .string "NEW"), ("color", .string "green")]
      [("text", .string "NEW"), ("color", .string "green"), ("colour", .string "red")] :=
    ⟨_, [], "colour", .string "red", (List.append_nil _).symm, by decide, rfl⟩
  exact .preset "new" ⟨_, _, rfl, ⟨_, _, rfl, ⟨_, _, rfl, hadds, rfl⟩, rfl⟩, rfl⟩

theorem ofText_of_writes_sample :
    sampleConfig.fault? = none ∧ sampleConfig.IsBounded ∧
      sampleConfig.Writes sampleConfig.toTable ∧ ofTable sampleTable = some sampleConfig ∧
      ofTable sampleStrayTable = none := by
  have hvalid : sampleConfig.fault? = none := by decide +kernel
  obtain ⟨hwrites, hread⟩ := ofText_of_writes hvalid sampleConfig_isBounded
  obtain ⟨⟨hsample, -⟩, hstray⟩ := hread sampleTable sampleTable_isRecord
  exact ⟨hvalid, sampleConfig_isBounded, hwrites, hsample,
    (hstray sampleStrayTable sampleTable_addsStrayKey).1⟩

/-- A text with a section and a preset in it. -/
example : (Table.ofText "link.icon = 'img'\n[badge.presets.new]\ntext = 'NEW'").bind ofTable =
    some {
      link := { icon := .img }
      badge := { presets := ⟨[("new", { text := "NEW" })], by decide⟩ } } := by
  decide +kernel

end Config

end MarkdownDirectives
