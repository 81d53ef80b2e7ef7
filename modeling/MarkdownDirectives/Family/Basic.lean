import MarkdownDirectives.Document

/-!
# Families

Directives whose name belongs to a family are rendered as what the family stands for. A family
takes one kind of directive, and its names may carry a suffix that says more.
-/

namespace MarkdownDirectives

/-- What a directive can stand for. -/
inductive Family where
  | image
  | video
  | link
  | badge
deriving DecidableEq, Inhabited, Repr

/-- Whether a name of a family carries a suffix behind a hyphen. -/
inductive SuffixRule where
  | required
  | optional
  | none
deriving DecidableEq, Inhabited, Repr

namespace Family

/-- All families, in the order in which a name is tried. -/
def all : List Family :=
  [image, video, link, badge]

/-- The name of a family. It is no alias of another one. -/
def name : Family → String
  | image => "image"
  | video => "video"
  | link => "link"
  | badge => "badge"

/-- The kind of directives that a family takes. -/
def kind : Family → DirectiveKind
  | image => .container
  | video => .leaf
  | link => .text
  | badge => .text

/-- The suffix names its tag, its platform or its type. -/
def suffixRule : Family → SuffixRule
  | image => .required
  | video => .optional
  | link => .none
  | badge => .optional

/-- The article in front of the name. -/
def article : Family → String
  | image => "an"
  | video | link | badge => "a"

end Family

/-! ## Errors -/

/-- Why a directive of a family cannot be rendered. -/
inductive DirectiveFault where
  /-- The suffix is no tag that an image container can have. -/
  | unknownTag
  | imageMissing
  | captionMissing
  | idMissing
  | unknownPlatform
  /-- A video without a platform needs a full address. -/
  | notAddress
  /-- The id of a link is of no known form. -/
  | idInvalid
  | tabInvalid
  | unknownPreset
  | textMissing
  | tooManyColors
deriving DecidableEq, Inhabited, Repr

/-- What a fault is reported as. -/
def DirectiveFault.message : DirectiveFault → String
  | unknownTag => "The directive failed to match a valid HTML tag."
  | imageMissing => "The image is missing."
  | captionMissing => "The figcaption text is missing. Specify it in the `[]` of "
      ++ "`:::image-figure[]\x7b\x7d` or `![]()`."
  | idMissing => "The `id` is missing."
  | unknownPlatform => "The directive failed to match a valid video platform."
  | notAddress => "Ensure a valid URL is passed via `id` instead of `#`."
  | idInvalid => "The `id` is invalid."
  | tabInvalid => "The `tab` is invalid."
  | unknownPreset => "The directive failed to match a valid badge type. "
      ++ "Please check the `presets` option in the `badge` config."
  | textMissing => "The text is missing. Specify it in the `[]` of `:badge[]\x7b\x7d` "
      ++ "or in the `text` field of the `presets` option in the `badge` config."
  | tooManyColors => "The `color` expected one or two color values split by '|'."

/-- Why options cannot be used, or a directive cannot be rendered. -/
inductive DirectiveError where
  /-- An alias of the first family is the name of the second one. -/
  | reservedAlias (family owner : Family)
  /-- A platform has the name that stands for an address. -/
  | reservedPlatform
  /-- A directive has the name of a family, but is not of its kind. -/
  | wrongKind (family : Family) (found : DirectiveKind)
  | invalid (family : Family) (fault : DirectiveFault)
deriving DecidableEq, Inhabited, Repr

/-- What an error is reported as. -/
def DirectiveError.message : DirectiveError → String
  | reservedAlias family owner =>
    "The alias '" ++ owner.name ++ "' is reserved and cannot be used for the '" ++ family.name
      ++ "' directive."
  | reservedPlatform => "Invalid `video` directive config. The `url` is reserved."
  | wrongKind family found =>
    "Unexpected " ++ found.name ++ " directive. Use " ++ family.kind.fence ++ " for "
      ++ family.article ++ " `" ++ family.name ++ "` " ++ family.kind.name ++ " directive."
  | invalid family fault => "Invalid `" ++ family.name ++ "` directive. " ++ fault.message

/-- Refuses a directive that is not of the kind of a family. -/
def Family.checkKind (family : Family) (found : DirectiveKind) : Except DirectiveError Unit :=
  if found = family.kind then .ok () else .error (.wrongKind family found)

end MarkdownDirectives
