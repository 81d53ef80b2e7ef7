import MarkdownDirectives.Family.Basic
import MarkdownDirectives.Options
import MarkdownDirectives.Text.Address

/-!
# Videos

A frame that shows a video. The suffix of the name is the platform, whose address has a place for
the id of the video; without a suffix the id is the address.
-/

namespace MarkdownDirectives

/-- The platforms that are always known. -/
def knownPlatforms : List (String × String) := [
  ("youtube", "https://www.youtube-nocookie.com/embed/\x7bid\x7d"),
  ("bilibili", "https://player.bilibili.com/player.html?bvid=\x7bid\x7d"),
  ("vimeo", "https://player.vimeo.com/video/\x7bid\x7d")]

/-- The title of a video without one. -/
def defaultVideoTitle : String := "Video Player"

/-- What the page in the frame of a video may do. -/
def frameAllow : String :=
  "accelerometer; clipboard-write; encrypted-media; gyroscope; picture-in-picture; web-share"

/-- The platforms of the options over those that are always known. -/
def VideoOptions.allPlatforms (options : VideoOptions) : SortedMap String :=
  (SortedMap.ofList knownPlatforms).overlay options.platforms

/-- The marker of a video and its address. -/
def VideoOptions.source (options : VideoOptions) (suffix : Option String) (id : String) :
    Except DirectiveFault (String × String) :=
  match suffix with
  | some platform =>
    match options.allPlatforms.get? platform with
    | some address => .ok (platform, Text.replaceString Config.videoPlaceholder id address)
    | none => .error .unknownPlatform
  | none =>
    if Text.isAddress id.toList then .ok (Config.directSource, id) else .error .notAddress

/-- The frame alone. -/
def VideoOptions.frame (options : VideoOptions) (className marker source title : String)
    (d : Directive) (attributes : Properties) : RenderTarget where
  name := "iframe"
  properties := mergeLayers [stringLayer "src" source, stringLayer "title" title,
    classLayer className, resolveSource options.frameProperties d,
    stringLayer "data-video" marker, some attributes]
  children := some []

/-- The frame in an element of its own. -/
def VideoOptions.wrapped (options : VideoOptions) (className marker source title : String)
    (d : Directive) (attributes : Properties) : RenderTarget where
  name := "div"
  properties := mergeLayers [classLayer className, stringLayer "data-video" marker]
  children := some [.element "iframe"
    ((mergeLayers [stringLayer "src" source, stringLayer "title" title,
      stringLayer "loading" "lazy", stringLayer "allow" frameAllow,
      resolveSource options.frameProperties d, some attributes]).insertIfNew
        "allowfullscreen" (.bool true)) []]

/-- What a video is rendered as. -/
def VideoOptions.resolve (options : VideoOptions) (classPrefix : String) (d : Directive)
    (suffix : Option String) : Except DirectiveFault RenderTarget :=
  match d.given? "id" with
  | none => .error .idMissing
  | some id =>
    match options.source suffix id with
    | .error fault => .error fault
    | .ok (marker, source) =>
      let title := d.firstText?.getD defaultVideoTitle
      let attributes := (d.attributes.without ["id"]).toProperties
      let className := classPrefix ++ "-video"
      .ok (if options.wrapper then options.wrapped className marker source title d attributes
        else options.frame className marker source title d attributes)

end MarkdownDirectives
