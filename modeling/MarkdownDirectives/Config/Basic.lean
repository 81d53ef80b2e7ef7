import MarkdownDirectives.Property
import MarkdownDirectives.Text.Search

/-!
# Settings

What an author of a site can set, with its defaults, and the rules that settings must keep. An
absent value is `none` where there is no default to put in its place.
-/

namespace MarkdownDirectives

/-- Further names of a family: one, or a list. -/
inductive Aliases where
  | one (name : String)
  | many (names : List String)
deriving DecidableEq, Inhabited

/-- The names as a list. -/
def Aliases.toList : Aliases → List String
  | one name => [name]
  | many names => names

/-- Which images of a container get the properties for images. -/
inductive ImageScope where
  | first
  | all
deriving DecidableEq, Inhabited

/-- How the icon of a link is shown. -/
inductive IconStyle where
  | background
  | img
deriving DecidableEq, Inhabited

/-- Settings of image containers. -/
structure ImageConfig where
  aliases : Option Aliases := none
  imageProperties : Option Properties := none
  scope : ImageScope := .first
  figureProperties : Option Properties := none
  captionProperties : Option Properties := none
  elementProperties : Option Properties := none
  /-- A paragraph that holds one image and nothing else gives way to the image. -/
  stripParagraph : Bool := true
deriving DecidableEq, Inhabited

/-- Settings of videos. -/
structure VideoConfig where
  aliases : Option Aliases := none
  frameProperties : Option Properties := none
  /-- Addresses by platform, with a placeholder for the video. -/
  platforms : SortedMap String := SortedMap.empty
  /-- The frame stands in an element of its own. -/
  wrapper : Bool := false
deriving DecidableEq, Inhabited

/-- Settings of links. -/
structure LinkConfig where
  aliases : Option Aliases := none
  anchorProperties : Option Properties := none
  iconProperties : Option Properties := none
  /-- The address of the icon of a host, with a placeholder for the host. -/
  favicon : Option String := none
  icon : IconStyle := .background
deriving DecidableEq, Inhabited

/-- A badge that is known by its type. -/
structure PresetConfig where
  text : String
  color : Option String := none
  properties : Option Properties := none
deriving DecidableEq, Inhabited

/-- The color of badges that have none of their own. -/
def defaultBadgeColor : String := "rgb(8, 109, 221)"

/-- Settings of badges. -/
structure BadgeConfig where
  aliases : Option Aliases := none
  spanProperties : Option Properties := none
  presets : SortedMap PresetConfig := SortedMap.empty
  defaultColor : String := defaultBadgeColor
deriving DecidableEq, Inhabited

/-- The beginning of the class names that are written. -/
def defaultClassPrefix : String := "rds"

/-- All settings. -/
structure Config where
  classPrefix : String := defaultClassPrefix
  image : ImageConfig := {}
  video : VideoConfig := {}
  link : LinkConfig := {}
  badge : BadgeConfig := {}
deriving DecidableEq, Inhabited

/-! ## Rules -/

/-- A rule that settings break. -/
inductive ConfigFault where
  /-- A setting is blank. -/
  | blank (setting : String)
  /-- A platform has the name that stands for an address. -/
  | reservedPlatform
  /-- The address of a platform has no place for the video. -/
  | noPlaceholder (platform : String)
deriving DecidableEq, Inhabited

/-- What a fault is reported as. -/
def ConfigFault.message : ConfigFault → String
  | blank setting => setting ++ " cannot be empty"
  | reservedPlatform => "video.platforms: the platform name `url` is reserved"
  | noPlaceholder platform =>
    "video.platforms." ++ platform ++ " must contain an \x7bid\x7d placeholder"

namespace Config

/-- The platform name that stands for an address given in full. -/
def directSource : String := "url"

/-- The place for the video in the address of a platform. -/
def videoPlaceholder : String := "\x7bid\x7d"

/-- A text that may not be blank. -/
def checkText (setting value : String) : Option ConfigFault :=
  if Text.isBlankString value then some (.blank setting) else none

/-- Names that may not be blank. -/
def checkAliases (setting : String) (aliases : Option Aliases) : Option ConfigFault :=
  ((aliases.map Aliases.toList).getD []).findSome? (checkText setting)

/-- Platforms: no name is reserved, every address has a place for the video. -/
def checkPlatforms (platforms : SortedMap String) : Option ConfigFault :=
  if platforms.contains directSource then some .reservedPlatform
  else platforms.entries.findSome? fun (name, address) =>
    if Text.holdsString videoPlaceholder address then none else some (.noPlaceholder name)

/-- Presets: no text is blank. -/
def checkPresets (presets : SortedMap PresetConfig) : Option ConfigFault :=
  presets.entries.findSome? fun (name, preset) =>
    checkText ("badge.presets." ++ name ++ ".text") preset.text

/-- The rule that is broken, the first one if there are several. -/
def fault? (config : Config) : Option ConfigFault :=
  (checkText "class_prefix" config.classPrefix).or <|
  (checkAliases "image.alias" config.image.aliases).or <|
  (checkAliases "video.alias" config.video.aliases).or <|
  (checkAliases "link.alias" config.link.aliases).or <|
  (checkAliases "badge.alias" config.badge.aliases).or <|
  (checkPlatforms config.video.platforms).or <|
  (config.link.favicon.bind (checkText "link.favicon")).or <|
  (checkText "badge.default_color" config.badge.defaultColor).or <|
  checkPresets config.badge.presets

end Config

end MarkdownDirectives
