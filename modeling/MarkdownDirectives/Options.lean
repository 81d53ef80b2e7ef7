import MarkdownDirectives.Config.Basic
import MarkdownDirectives.Layers

/-!
# Options

What the families need to know. Options are the settings with every default put in its place, and
with property sources that can depend on the directive.
-/

namespace MarkdownDirectives

/-- Options of image containers. -/
structure ImageOptions where
  aliases : List String := []
  imageProperties : Option PropertySource := none
  scope : ImageScope := .first
  figureProperties : Option PropertySource := none
  captionProperties : Option PropertySource := none
  elementProperties : Option PropertySource := none
  stripParagraph : Bool := true
deriving Inhabited

/-- Options of videos. -/
structure VideoOptions where
  aliases : List String := []
  frameProperties : Option PropertySource := none
  platforms : SortedMap String := SortedMap.empty
  wrapper : Bool := false
deriving Inhabited

/-- The address of the icon of a host. -/
def defaultFavicon : String :=
  "https://www.google.com/s2/favicons?domain=\x7bdomain\x7d&sz=128"

/-- Options of links. -/
structure LinkOptions where
  aliases : List String := []
  anchorProperties : Option PropertySource := none
  iconProperties : Option PropertySource := none
  favicon : String := defaultFavicon
  icon : IconStyle := .background
deriving Inhabited

/-- A badge that is known by its type. -/
structure BadgePreset where
  text : String
  color : Option String := none
  properties : Option PropertySource := none
deriving Inhabited

/-- Options of badges. -/
structure BadgeOptions where
  aliases : List String := []
  spanProperties : Option PropertySource := none
  presets : SortedMap BadgePreset := SortedMap.empty
  defaultColor : String := defaultBadgeColor
deriving Inhabited

/-- The options of all families. -/
structure Options where
  classPrefix : String := defaultClassPrefix
  image : ImageOptions := {}
  video : VideoOptions := {}
  link : LinkOptions := {}
  badge : BadgeOptions := {}
deriving Inhabited

/-! ## Options of settings -/

/-- The names in a setting, none if it is absent. -/
def aliasList (aliases : Option Aliases) : List String :=
  (aliases.map Aliases.toList).getD []

/-- Properties that are always the same. -/
def fixedSource (properties : Option Properties) : Option PropertySource :=
  properties.map .fixed

/-- A preset of settings. -/
def PresetConfig.toPreset (preset : PresetConfig) : BadgePreset :=
  ⟨preset.text, preset.color, fixedSource preset.properties⟩

/-- The options that settings amount to. -/
def Options.ofConfig (config : Config) : Options where
  classPrefix := config.classPrefix
  image := {
    aliases := aliasList config.image.aliases
    imageProperties := fixedSource config.image.imageProperties
    scope := config.image.scope
    figureProperties := fixedSource config.image.figureProperties
    captionProperties := fixedSource config.image.captionProperties
    elementProperties := fixedSource config.image.elementProperties
    stripParagraph := config.image.stripParagraph }
  video := {
    aliases := aliasList config.video.aliases
    frameProperties := fixedSource config.video.frameProperties
    platforms := config.video.platforms
    wrapper := config.video.wrapper }
  link := {
    aliases := aliasList config.link.aliases
    anchorProperties := fixedSource config.link.anchorProperties
    iconProperties := fixedSource config.link.iconProperties
    favicon := config.link.favicon.getD defaultFavicon
    icon := config.link.icon }
  badge := {
    aliases := aliasList config.badge.aliases
    spanProperties := fixedSource config.badge.spanProperties
    presets := config.badge.presets.mapValues PresetConfig.toPreset
    defaultColor := config.badge.defaultColor }

end MarkdownDirectives
