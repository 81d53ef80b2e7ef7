import MarkdownDirectives.Config.Basic
import MarkdownDirectives.Toml.Value

/-!
# Settings in TOML

Every setting has a key in the table of its section, and no other key may stand there. A missing
key leaves the default. A section may also be written as an array of its settings in their order.
-/

namespace MarkdownDirectives.Config

open Toml

/-! ## Values -/

/-- A string. -/
def decodeString : Value → Option String
  | .string value => some value
  | _ => none

/-- A boolean. -/
def decodeBool : Value → Option Bool
  | .bool value => some value
  | _ => none

/-- An array of strings. -/
def decodeStrings : Value → Option (List String)
  | .array items => items.mapM decodeString
  | _ => none

/-- The least integer of a property, the one of 64 bits. -/
def minInt : Int := -0x8000000000000000

/-- The greatest integer of a property, the one of 64 bits. -/
def maxInt : Int := 0x7FFFFFFFFFFFFFFF

/-- A property. -/
def decodeProperty : Value → Option Property
  | .bool value => some (.bool value)
  | .int value => if minInt ≤ value && value ≤ maxInt then some (.int value) else none
  | .string value => some (.string value)
  | .array items => (items.mapM decodeString).map .list
  | _ => none

/-- The key of a moment where a table with any keys is asked for. -/
def momentKey : String := "$__toml_private_datetime"

/-- The entries of a table with any keys. A moment has its text under a key of its own. -/
def entriesOf : Value → Option Table
  | .table entries => some entries
  | .moment m => some [(momentKey, .string m.text)]
  | _ => none

/-- A table with any keys. -/
def decodeMap {α : Type} (decode : Value → Option α) (value : Value) :
    Option (SortedMap α) := do
  let entries ← entriesOf value
  let decoded ← entries.mapM fun e => (decode e.2).map fun v => (e.1, v)
  some (SortedMap.ofList decoded)

/-- Properties. -/
def decodeProperties : Value → Option Properties :=
  decodeMap decodeProperty

/-- One name or several. -/
def decodeAliases (value : Value) : Option Aliases :=
  match value with
  | .string name => some (.one name)
  | value => (decodeStrings value).map .many

/-- One of several words. The word may also be the only key of a table, with nothing under it. -/
def decodeChoice {α : Type} (choices : List (String × α)) : Value → Option α
  | .string word => choices.lookup word
  | .table [(word, .table [])] => choices.lookup word
  | .table [(word, .array [])] => choices.lookup word
  | _ => none

/-! ## Sections -/

/-- The entries of a section whose settings have the given keys. -/
def sectionEntries (keys : List String) : Value → Option Table
  | .table entries => if entries.all fun e => keys.contains e.1 then some entries else none
  | .array items => some (keys.zip items)
  | _ => none

/-- A setting with a default. -/
def setting {α : Type} (entries : Table) (key : String) (decode : Value → Option α)
    (default : α) : Option α :=
  match entries.lookup key with
  | some value => decode value
  | none => some default

/-- A setting that may be absent. -/
def optional {α : Type} (entries : Table) (key : String) (decode : Value → Option α) :
    Option (Option α) :=
  setting entries key (fun value => (decode value).map some) none

/-- The keys of image containers. -/
def imageKeys : List String :=
  ["alias", "img_props", "img_props_scope", "figure_props", "figcaption_props", "element_props",
    "strip_paragraph"]

/-- The words for the scope of image properties. -/
def scopeWords : List (String × ImageScope) :=
  [("first", .first), ("all", .all)]

/-- Settings of image containers. -/
def decodeImage (value : Value) : Option ImageConfig := do
  let entries ← sectionEntries imageKeys value
  return {
    aliases := ← optional entries "alias" decodeAliases
    imageProperties := ← optional entries "img_props" decodeProperties
    scope := ← setting entries "img_props_scope" (decodeChoice scopeWords) .first
    figureProperties := ← optional entries "figure_props" decodeProperties
    captionProperties := ← optional entries "figcaption_props" decodeProperties
    elementProperties := ← optional entries "element_props" decodeProperties
    stripParagraph := ← setting entries "strip_paragraph" decodeBool true }

/-- The keys of videos. -/
def videoKeys : List String :=
  ["alias", "iframe_props", "platforms", "wrapper"]

/-- Settings of videos. -/
def decodeVideo (value : Value) : Option VideoConfig := do
  let entries ← sectionEntries videoKeys value
  return {
    aliases := ← optional entries "alias" decodeAliases
    frameProperties := ← optional entries "iframe_props" decodeProperties
    platforms := ← setting entries "platforms" (decodeMap decodeString) SortedMap.empty
    wrapper := ← setting entries "wrapper" decodeBool false }

/-- The keys of links. -/
def linkKeys : List String :=
  ["alias", "a_props", "img_props", "favicon", "icon"]

/-- The words for the styles of icons. -/
def iconWords : List (String × IconStyle) :=
  [("background", .background), ("img", .img)]

/-- Settings of links. -/
def decodeLink (value : Value) : Option LinkConfig := do
  let entries ← sectionEntries linkKeys value
  return {
    aliases := ← optional entries "alias" decodeAliases
    anchorProperties := ← optional entries "a_props" decodeProperties
    iconProperties := ← optional entries "img_props" decodeProperties
    favicon := ← optional entries "favicon" decodeString
    icon := ← setting entries "icon" (decodeChoice iconWords) .background }

/-- The keys of presets. -/
def presetKeys : List String :=
  ["text", "color", "props"]

/-- A preset. As an array it is complete. -/
def decodePreset (value : Value) : Option PresetConfig := do
  let entries ← match value with
    | .array items => if 3 ≤ items.length then some (presetKeys.zip items) else none
    | value => sectionEntries presetKeys value
  return {
    text := ← (entries.lookup "text").bind decodeString
    color := ← optional entries "color" decodeString
    properties := ← optional entries "props" decodeProperties }

/-- The keys of badges. -/
def badgeKeys : List String :=
  ["alias", "span_props", "presets", "default_color"]

/-- Settings of badges. -/
def decodeBadge (value : Value) : Option BadgeConfig := do
  let entries ← sectionEntries badgeKeys value
  return {
    aliases := ← optional entries "alias" decodeAliases
    spanProperties := ← optional entries "span_props" decodeProperties
    presets := ← setting entries "presets" (decodeMap decodePreset) SortedMap.empty
    defaultColor := ← setting entries "default_color" decodeString defaultBadgeColor }

/-- The keys of the whole text. -/
def keys : List String :=
  ["class_prefix", "image", "video", "link", "badge"]

/-- All settings. -/
def ofTable (table : Table) : Option Config := do
  let entries ← sectionEntries keys (.table table)
  return {
    classPrefix := ← setting entries "class_prefix" decodeString defaultClassPrefix
    image := ← setting entries "image" decodeImage {}
    video := ← setting entries "video" decodeVideo {}
    link := ← setting entries "link" decodeLink {}
    badge := ← setting entries "badge" decodeBadge {} }

end MarkdownDirectives.Config
