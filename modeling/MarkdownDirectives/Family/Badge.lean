import MarkdownDirectives.Family.Basic
import MarkdownDirectives.Options

/-!
# Badges

A short text with a color. The suffix of the name is the type of the badge, whose preset gives its
text; without a suffix the text is the label.
-/

namespace MarkdownDirectives

/-- The colors in light and in dark surroundings: one for both, or two with a bar between them. -/
def splitColors (color : String) : Except DirectiveFault (String × String) :=
  match (color.toList.splitOn '|').map fun part => String.ofList (Text.trim part) with
  | [both] => .ok (both, both)
  | [light, dark] => .ok (light, dark)
  | _ => .error .tooManyColors

/-- The preset that a suffix names, with its name. -/
def BadgeOptions.preset (options : BadgeOptions) (suffix : Option String) :
    Except DirectiveFault (Option (String × BadgePreset)) :=
  match suffix with
  | none => .ok none
  | some name =>
    match options.presets.get? name with
    | some preset => .ok (some (name, preset))
    | none => .error .unknownPreset

/-- The text of a badge. -/
def badgeText (preset : Option (String × BadgePreset)) (d : Directive) : Option String :=
  (match preset with
    | some (_, preset) => some preset.text
    | none => d.firstText?).filter (!·.isEmpty)

/-- The color of a badge: its own, that of its preset, or the default. -/
def BadgeOptions.colorOf (options : BadgeOptions) (preset : Option (String × BadgePreset))
    (d : Directive) : String :=
  ((d.given? "color").or (preset.bind fun p => p.2.color)).getD options.defaultColor

/-- The style of a badge in front of the style it has otherwise. -/
def badgeStyle (light dark : String) (style : Option Property) : String :=
  let own := "--badge-color-light:" ++ light ++ "; --badge-color-dark:" ++ dark
  match style with
  | some style => own ++ "; " ++ style.display
  | none => own

/-- What a badge is rendered as. -/
def BadgeOptions.resolve (options : BadgeOptions) (classPrefix : String) (d : Directive)
    (suffix : Option String) : Except DirectiveFault RenderTarget :=
  match options.preset suffix with
  | .error fault => .error fault
  | .ok preset =>
    match badgeText preset d with
    | none => .error .textMissing
    | some text =>
      match splitColors (options.colorOf preset d) with
      | .error fault => .error fault
      | .ok (light, dark) =>
        let properties := mergeLayers [classLayer (classPrefix ++ "-badge"),
          resolveSource options.spanProperties d,
          preset.bind fun p => stringLayer "data-badge" p.1,
          resolveSource (preset.bind fun p => p.2.properties) d,
          some (d.attributes.without ["color"]).toProperties]
        .ok {
          name := "span"
          properties := properties.insert "style"
            (.string (badgeStyle light dark (properties.get? "style")))
          children := some [.text text] }

end MarkdownDirectives
