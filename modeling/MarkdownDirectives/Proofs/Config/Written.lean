import MarkdownDirectives.Config.Decode

/-!
# Settings written as tables

How settings are written: every field of a record stands under its own key, a value that is absent
is left out, and so may be a value that is the default. The order of the entries of a table is free.

A `Form` tells how the values of a type are written, a `Field` what may stand under a key of a
record. Each record has one list of fields, from which come both the table that has them all and
the tables that leave some out.

* `Form.record`, `Form.map` — tables with fixed keys, and tables with any keys
* `Config.Writes` — the tables that settings may be written as
* `Config.writes_toTable` — one of them has everything that can be written
* `Config.AddsStrayKey` — a table gets an entry under a key that is no field
-/

namespace MarkdownDirectives

open Toml

variable {α β ρ : Type}

/-! ## Forms of values -/

/-- How the values of a type are written. One of the ways is the complete one. -/
structure Form (α : Type) where
  encode : α → Value
  Writes : α → Value → Prop
  writes_encode : ∀ a, Writes a (encode a)

/-- Every value is written in one way. -/
def Form.only (encode : α → Value) : Form α where
  encode := encode
  Writes a v := v = encode a
  writes_encode _ := rfl

/-- Absent values are left out. -/
theorem Form.rel_map_encode (form : Form α) (a? : Option α) :
    Option.Rel form.Writes a? (a?.map form.encode) := by
  cases a? with
  | none => exact .none
  | some a => exact .some (form.writes_encode a)

/-- A map is a table with an entry for each of its entries. -/
def Form.map (form : Form α) : Form (SortedMap α) where
  encode m := .table (m.entries.map fun e => (e.1, form.encode e.2))
  Writes m v := ∃ entries : Table, v = .table entries ∧ (entries.map Prod.fst).Nodup ∧
    ∀ key, Option.Rel form.Writes (m.get? key) (entries.lookup key)
  writes_encode m := by
    refine ⟨_, rfl, ?_, fun key => ?_⟩
    · rw [List.map_map]
      exact m.nodup_keys
    · rw [SortedMap.lookup_map_snd]
      exact form.rel_map_encode (m.get? key)

/-! ## Records -/

/-- A field of a record: its key, and what may stand under the key, if anything. -/
structure Field (ρ : Type) where
  key : String
  encode : ρ → Option Value
  Allows : ρ → Option Value → Prop
  allows_encode : ∀ r, Allows r (encode r)

namespace Field

/-- A field that must be there. -/
def required (key : String) (form : Form α) (get : ρ → α) : Field ρ where
  key := key
  encode r := some (form.encode (get r))
  Allows r v? := Option.Rel form.Writes (some (get r)) v?
  allows_encode r := form.rel_map_encode (some (get r))

/-- A field that is left out when it has no value. -/
def optional (key : String) (form : Form α) (get : ρ → Option α) : Field ρ where
  key := key
  encode r := (get r).map form.encode
  Allows r v? := Option.Rel form.Writes (get r) v?
  allows_encode r := form.rel_map_encode (get r)

/-- A field that may be left out when it has the value it has in the default record. -/
def defaulted (default : ρ) (key : String) (form : Form α) (get : ρ → α) : Field ρ where
  key := key
  encode r := some (form.encode (get r))
  Allows r v? := Option.Rel form.Writes (some (get r)) v? ∨ v? = none ∧ get r = get default
  allows_encode r := .inl (form.rel_map_encode (some (get r)))

end Field

/-- A table in which the fields of a record stand, and nothing else. -/
structure IsRecord (fields : List (Field ρ)) (r : ρ) (entries : Table) : Prop where
  known : ∀ key ∈ entries.map Prod.fst, key ∈ fields.map Field.key
  nodup : (entries.map Prod.fst).Nodup
  allowed : ∀ field ∈ fields, field.Allows r (entries.lookup field.key)

/-- The table in which every field stands that has a value. -/
def recordTable (fields : List (Field ρ)) (r : ρ) : Table :=
  fields.filterMap fun field => (field.encode r).map fun v => (field.key, v)

theorem keys_recordTable_sublist (fields : List (Field ρ)) (r : ρ) :
    ((recordTable fields r).map Prod.fst).Sublist (fields.map Field.key) := by
  induction fields with
  | nil => exact .slnil
  | cons field rest ih =>
    cases hv : field.encode r with
    | none => simpa [recordTable, hv] using ih.cons field.key
    | some v => simpa [recordTable, hv] using ih

theorem lookup_recordTable {fields : List (Field ρ)} (hnodup : (fields.map Field.key).Nodup)
    {field : Field ρ} (hmem : field ∈ fields) (r : ρ) :
    (recordTable fields r).lookup field.key = field.encode r := by
  induction fields with
  | nil => cases hmem
  | cons head rest ih =>
    obtain ⟨hnew, hrest⟩ := List.nodup_cons.mp hnodup
    rcases List.mem_cons.mp hmem with rfl | hmem
    · cases hv : field.encode r with
      | none =>
        -- no later field has the key, so nothing is found
        have hnone : (recordTable rest r).lookup field.key = none := by
          refine List.lookup_eq_none_iff.mpr fun entry hentry => bne_iff_ne.mpr fun heq => ?_
          exact hnew ((keys_recordTable_sublist rest r).subset (heq ▸ List.mem_map_of_mem hentry))
        simpa [recordTable, hv] using hnone
      | some v => simp [recordTable, hv]
    · have hne : field.key ≠ head.key := fun heq => hnew (heq ▸ List.mem_map_of_mem hmem)
      rw [← ih hrest hmem]
      cases hv : head.encode r with
      | none => simp [recordTable, hv]
      | some v => simp [recordTable, hv, List.lookup_cons, beq_false_of_ne hne]

theorem isRecord_recordTable {fields : List (Field ρ)} (hnodup : (fields.map Field.key).Nodup)
    (r : ρ) : IsRecord fields r (recordTable fields r) where
  known _ hkey := (keys_recordTable_sublist fields r).subset hkey
  nodup := hnodup.sublist (keys_recordTable_sublist fields r)
  allowed field hmem := by
    rw [lookup_recordTable hnodup hmem r]
    exact field.allows_encode r

/-- A record is a table with its fields. -/
def Form.record (fields : List (Field ρ)) (hnodup : (fields.map Field.key).Nodup) : Form ρ where
  encode r := .table (recordTable fields r)
  Writes r v := ∃ entries : Table, v = .table entries ∧ IsRecord fields r entries
  writes_encode r := ⟨_, rfl, isRecord_recordTable hnodup r⟩

/-! ## Settings -/

namespace Config

/-- Strings. -/
def stringForm : Form String :=
  .only .string

/-- Truth values. -/
def boolForm : Form Bool :=
  .only .bool

/-- A property is a boolean, an integer, a string or an array of strings. -/
def propertyForm : Form Property :=
  .only fun
    | .bool value => .bool value
    | .int value => .int value
    | .string value => .string value
    | .list items => .array (items.map .string)

/-- Properties. -/
def propertiesForm : Form Properties :=
  propertyForm.map

/-- One name is a string, several are an array. -/
def aliasesForm : Form Aliases :=
  .only fun
    | .one name => .string name
    | .many names => .array (names.map .string)

/-- The scope of image properties is a word. -/
def scopeForm : Form ImageScope :=
  .only fun
    | .first => .string "first"
    | .all => .string "all"

/-- The style of icons is a word. -/
def iconForm : Form IconStyle :=
  .only fun
    | .background => .string "background"
    | .img => .string "img"

/-- The fields of image containers. -/
def imageFields : List (Field ImageConfig) :=
  [.optional "alias" aliasesForm ImageConfig.aliases,
    .optional "img_props" propertiesForm ImageConfig.imageProperties,
    .defaulted {} "img_props_scope" scopeForm ImageConfig.scope,
    .optional "figure_props" propertiesForm ImageConfig.figureProperties,
    .optional "figcaption_props" propertiesForm ImageConfig.captionProperties,
    .optional "element_props" propertiesForm ImageConfig.elementProperties,
    .defaulted {} "strip_paragraph" boolForm ImageConfig.stripParagraph]

/-- Settings of image containers. -/
def imageForm : Form ImageConfig :=
  .record imageFields (by decide)

/-- The fields of videos. -/
def videoFields : List (Field VideoConfig) :=
  [.optional "alias" aliasesForm VideoConfig.aliases,
    .optional "iframe_props" propertiesForm VideoConfig.frameProperties,
    .defaulted {} "platforms" stringForm.map VideoConfig.platforms,
    .defaulted {} "wrapper" boolForm VideoConfig.wrapper]

/-- Settings of videos. -/
def videoForm : Form VideoConfig :=
  .record videoFields (by decide)

/-- The fields of links. -/
def linkFields : List (Field LinkConfig) :=
  [.optional "alias" aliasesForm LinkConfig.aliases,
    .optional "a_props" propertiesForm LinkConfig.anchorProperties,
    .optional "img_props" propertiesForm LinkConfig.iconProperties,
    .optional "favicon" stringForm LinkConfig.favicon,
    .defaulted {} "icon" iconForm LinkConfig.icon]

/-- Settings of links. -/
def linkForm : Form LinkConfig :=
  .record linkFields (by decide)

/-- The fields of presets. -/
def presetFields : List (Field PresetConfig) :=
  [.required "text" stringForm PresetConfig.text,
    .optional "color" stringForm PresetConfig.color,
    .optional "props" propertiesForm PresetConfig.properties]

/-- Presets. -/
def presetForm : Form PresetConfig :=
  .record presetFields (by decide)

/-- The fields of badges. -/
def badgeFields : List (Field BadgeConfig) :=
  [.optional "alias" aliasesForm BadgeConfig.aliases,
    .optional "span_props" propertiesForm BadgeConfig.spanProperties,
    .defaulted {} "presets" presetForm.map BadgeConfig.presets,
    .defaulted {} "default_color" stringForm BadgeConfig.defaultColor]

/-- Settings of badges. -/
def badgeForm : Form BadgeConfig :=
  .record badgeFields (by decide)

/-- The fields of the whole text. -/
def fields : List (Field Config) :=
  [.defaulted {} "class_prefix" stringForm Config.classPrefix,
    .defaulted {} "image" imageForm Config.image,
    .defaulted {} "video" videoForm Config.video,
    .defaulted {} "link" linkForm Config.link,
    .defaulted {} "badge" badgeForm Config.badge]

/-- A table that settings may be written as. -/
def Writes (config : Config) (table : Table) : Prop :=
  IsRecord fields config table

/-- The table with everything that can be written. -/
def toTable (config : Config) : Table :=
  recordTable fields config

theorem writes_toTable (config : Config) : config.Writes config.toTable :=
  isRecord_recordTable (by decide) config

/-! ## Integers -/

/-- The integers of properties have 64 bits. -/
def HasBoundedIntegers (properties : Option Properties) : Prop :=
  ∀ m, properties = some m → ∀ key value, (key, Property.int value) ∈ m.entries →
    -0x8000000000000000 ≤ value ∧ value < 0x8000000000000000

/-- The properties in settings, whatever they are for. -/
def allProperties (config : Config) : List (Option Properties) :=
  [config.image.imageProperties, config.image.figureProperties, config.image.captionProperties,
    config.image.elementProperties, config.video.frameProperties, config.link.anchorProperties,
    config.link.iconProperties, config.badge.spanProperties] ++
  config.badge.presets.entries.map fun e => e.2.properties

/-- All integers in settings have 64 bits. -/
def IsBounded (config : Config) : Prop :=
  ∀ properties ∈ config.allProperties, HasBoundedIntegers properties

/-! ## Stray keys -/

/-- The table gets an entry under a key that is no field. -/
def Adds (fields : List (Field ρ)) (entries entries' : Table) : Prop :=
  ∃ before after key value, entries = before ++ after ∧ key ∉ fields.map Field.key ∧
    entries' = before ++ (key, value) :: after

/-- The table under a key is changed. -/
def Changes (key : String) (change : Table → Table → Prop) (entries entries' : Table) : Prop :=
  ∃ inner inner', entries.lookup key = some (.table inner) ∧ change inner inner' ∧
    entries' = entries.map fun e => if e.1 = key then (key, .table inner') else e

/-- A key that is no field is added to the whole table, to a section or to a preset. -/
inductive AddsStrayKey (table table' : Table) : Prop
  | top (h : Adds fields table table')
  | image (h : Changes "image" (Adds imageFields) table table')
  | video (h : Changes "video" (Adds videoFields) table table')
  | link (h : Changes "link" (Adds linkFields) table table')
  | badge (h : Changes "badge" (Adds badgeFields) table table')
  | preset (name : String)
    (h : Changes "badge" (Changes "presets" (Changes name (Adds presetFields))) table table')

end Config

end MarkdownDirectives
