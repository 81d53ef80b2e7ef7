import MarkdownDirectives.Proofs.Family.LinkIds
import MarkdownDirectives.Proofs.Family.Names
import MarkdownDirectives.Proofs.Layers.Values
import MarkdownDirectives.Proofs.Text.Replacement

/-!
# What a video is rendered as

The suffix of a video is a platform, whose template has places for the id; without one the id is
the address of a page. A frame shows what is found there. It stands alone, with the marker and the
class of videos among its own properties, or in an element that has nothing but these two.

* `VideoOptions.HasTemplate` — the template of a platform, that of the options before a known one
* `VideoOptions.HasSource` — the marker of a video and the address that its frame shows
* `IsLoneFrame`, `IsInnerFrame` — the properties of the frame in the two forms, key by key
* `Transformer.resolve_video` — when a video is rendered, and as what
-/

namespace MarkdownDirectives

/-! ## Where a video is found -/

namespace VideoOptions

/-- The template of a platform. One in the options hides one that is always known. -/
inductive HasTemplate (options : VideoOptions) (platform : String) : String → Prop
  | own {template : String} (h : options.platforms.get? platform = some template) :
      HasTemplate options platform template
  | known {template : String} (hown : options.platforms.get? platform = none)
      (h : (platform, template) ∈ knownPlatforms) : HasTemplate options platform template

/-- A video can be shown: its platform has a template, or without one its id is an address. -/
inductive IsShown (options : VideoOptions) (id : String) : Option String → Prop
  | platform {name template : String} (h : options.HasTemplate name template) :
      IsShown options id (some name)
  | page (h : Text.IsPageAddress id.toList) : IsShown options id none

/-- The marker of a video and its address. The id stands in every place that the template has. -/
inductive HasSource (options : VideoOptions) (id : String) :
    Option String → String → String → Prop
  | platform {name template : String} {pieces : List String} (h : options.HasTemplate name template)
      (hcut : Text.IsCut Config.videoPlaceholder template pieces) :
      HasSource options id (some name) name (id.intercalate pieces)
  | page (h : Text.IsPageAddress id.toList) : HasSource options id none "url" id

end VideoOptions

/-- The id of a video, which is not empty. -/
structure Directive.HasId (d : Directive) (id : String) : Prop where
  present : d.attribute? "id" = some id
  nonempty : id ≠ ""

/-- The title of a video: its label, if that is a text. -/
def Directive.videoTitle (d : Directive) : String :=
  d.firstText?.getD "Video Player"

/-! ## What is rendered -/

/-- The properties of a frame that stands alone. -/
structure IsLoneFrame (options : VideoOptions) (classPrefix : String) (d : Directive)
    (marker address : String) (properties : Properties) : Prop where
  property : ∀ key, isClassKey key = false → properties.get? key = lastGiven [
    namedValue "src" (some address) key,
    namedValue "title" (some d.videoTitle) key,
    sourceValue options.frameProperties d key,
    namedValue "data-video" (some marker) key,
    d.ownValue ["id"] key]
  className : ∃ more, properties.get? "className"
    = some (.list ((classPrefix ++ "-video") :: more))

/-- The properties of a frame in an element of its own: neither the marker nor the class of videos
is among them. -/
structure IsInnerFrame (options : VideoOptions) (d : Directive) (address : String)
    (properties : Properties) : Prop where
  property : ∀ key, isClassKey key = false → properties.get? key = (lastGiven [
    namedValue "src" (some address) key,
    namedValue "title" (some d.videoTitle) key,
    namedValue "loading" (some "lazy") key,
    namedValue "allow" (some frameAllow) key,
    sourceValue options.frameProperties d key,
    d.ownValue ["id"] key]).or (if key = "allowfullscreen" then some (.bool true) else none)
  className : properties.get? "className" =
    let classes := listedClasses [resolveSource options.frameProperties d,
      some (d.attributes.without ["id"]).toProperties]
    if classes = [] then none else some (.list classes)

/-- What a video is rendered as, in the form that the options ask for. -/
inductive RendersVideo (options : VideoOptions) (classPrefix : String) (d : Directive)
    (marker address : String) : RenderTarget → Prop
  | frame {properties : Properties} (h : options.wrapper = false)
      (hframe : IsLoneFrame options classPrefix d marker address properties) :
      RendersVideo options classPrefix d marker address
        { name := "iframe", properties, children := some [] }
  | wrapped {properties : Properties} (h : options.wrapper = true)
      (hframe : IsInnerFrame options d address properties) :
      RendersVideo options classPrefix d marker address {
        name := "div"
        properties := SortedMap.ofList [
          ("className", .list [classPrefix ++ "-video"]), ("data-video", .string marker)]
        children := some [.element "iframe" properties []] }

namespace VideoOptions

variable {options : VideoOptions} {d : Directive} {suffix : Option String}
  {id marker address : String}

/-! ## Templates and sources -/

theorem get?_knownPlatforms {platform template : String} :
    (SortedMap.ofList knownPlatforms).get? platform = some template
      ↔ (platform, template) ∈ knownPlatforms := by
  rw [SortedMap.get?_ofList]
  constructor
  · intro h
    obtain ⟨before, after, hsplit, -⟩ := List.lookup_eq_some_iff.mp h
    rw [← List.mem_reverse, hsplit]
    simp
  · intro h
    simp only [knownPlatforms, List.mem_cons, Prod.mk.injEq, List.not_mem_nil, or_false] at h
    rcases h with ⟨rfl, rfl⟩ | ⟨rfl, rfl⟩ | ⟨rfl, rfl⟩ <;> rfl

/-- The platforms of the options stand over the known ones. -/
theorem get?_allPlatforms {platform template : String} :
    options.allPlatforms.get? platform = some template
      ↔ options.HasTemplate platform template := by
  rw [allPlatforms, SortedMap.get?_overlay]
  constructor
  · intro h
    cases hown : options.platforms.get? platform with
    | some own =>
      rw [hown, Option.some_or] at h
      cases h
      exact .own hown
    | none =>
      rw [hown, Option.none_or] at h
      exact .known hown (get?_knownPlatforms.mp h)
  · intro h
    cases h with
    | own h => rw [h, Option.some_or]
    | known hown h => rw [hown, Option.none_or, get?_knownPlatforms.mpr h]

theorem videoPlaceholder_ne_empty : Config.videoPlaceholder ≠ "" := by decide

/-- Templates are filled in as replacing does it. -/
theorem replace_template {template : String} {pieces : List String}
    (hcut : Text.IsCut Config.videoPlaceholder template pieces) (id : String) :
    Text.replaceString Config.videoPlaceholder id template = id.intercalate pieces := by
  have hmark : Config.videoPlaceholder.toList = '\x7b' :: "id\x7d".toList := by decide
  exact Text.replaceString_of_isCut hmark (by decide) hcut id

theorem source_eq_ok_iff :
    options.source suffix id = .ok (marker, address)
      ↔ options.HasSource id suffix marker address := by
  constructor
  · intro h
    cases suffix with
    | some name =>
      rw [source] at h
      split at h
      · next template htemplate =>
        cases h
        obtain ⟨pieces, hcut⟩ := Text.exists_isCut videoPlaceholder_ne_empty template
        rw [replace_template hcut]
        exact .platform (get?_allPlatforms.mp htemplate) hcut
      · cases h
    | none =>
      rw [source] at h
      split at h
      · next htest =>
        cases h
        exact .page ((Text.isAddress_iff _).mp htest)
      · cases h
  · intro h
    cases h with
    | platform htemplate hcut =>
      rw [source, get?_allPlatforms.mpr htemplate]
      dsimp only
      rw [replace_template hcut]
    | page haddress =>
      rw [source]
      exact if_pos ((Text.isAddress_iff _).mpr haddress)

/-- What can be shown has a source. -/
theorem exists_hasSource_iff :
    (∃ marker address, options.HasSource id suffix marker address) ↔ options.IsShown id suffix := by
  constructor
  · rintro ⟨marker, address, h⟩
    cases h with
    | platform htemplate => exact .platform htemplate
    | page haddress => exact .page haddress
  · intro h
    cases h with
    | @platform name template htemplate =>
      obtain ⟨pieces, hcut⟩ := Text.exists_isCut videoPlaceholder_ne_empty template
      exact ⟨_, _, .platform htemplate hcut⟩
    | page haddress => exact ⟨_, _, .page haddress⟩

/-! ## The element -/

variable {classPrefix : String}

theorem isLoneFrame (classPrefix marker address : String) (d : Directive) :
    IsLoneFrame options classPrefix d marker address
      (options.frame (classPrefix ++ "-video") marker address d.videoTitle d
        (d.attributes.without ["id"]).toProperties).properties where
  property := by
    intro key hkey
    rw [frame, get?_mergeLayers_property hkey]
    simp only [List.map_cons, List.map_nil, get?_stringLayer, get?_classLayer _ hkey,
      Option.bind_some, get?_ownAttributes]
    rfl
  className := by
    have hname : (classPrefix ++ "-video").isEmpty = false := by simp
    rw [frame, className_stringLayer (by decide), className_stringLayer (by decide)]
    exact className_mergeLayers hname _

theorem isInnerFrame (address : String) (d : Directive) :
    IsInnerFrame options d address
      ((mergeLayers [stringLayer "src" address, stringLayer "title" d.videoTitle,
        stringLayer "loading" "lazy", stringLayer "allow" frameAllow,
        resolveSource options.frameProperties d,
        some (d.attributes.without ["id"]).toProperties]).insertIfNew
          "allowfullscreen" (.bool true)) where
  property := by
    intro key hkey
    rw [SortedMap.get?_insertIfNew, get?_mergeLayers_property hkey]
    simp only [List.map_cons, List.map_nil, get?_stringLayer, Option.bind_some,
      get?_ownAttributes]
    rfl
  className := by
    rw [SortedMap.get?_insertIfNew, if_neg (by decide), Option.or_none,
      className_stringLayer (by decide), className_stringLayer (by decide),
      className_stringLayer (by decide), className_stringLayer (by decide), get?_className]

/-- The element around a frame has the class and the marker. -/
theorem mergeLayers_marked {name marker : String} (hname : name.isEmpty = false)
    (hmarker : marker.isEmpty = false) :
    mergeLayers [classLayer name, stringLayer "data-video" marker]
      = SortedMap.ofList [("className", .list [name]), ("data-video", .string marker)] := by
  have hclasses : addClass [] name = [name] := addClass_of_not_mem hname List.not_mem_nil
  have hclass : ({} : Merged).addLayer (Properties.single "className" (.list [name]))
      = { classes := [name] } := congrArg (Merged.mk SortedMap.empty) hclasses
  have hdata : (Merged.mk SortedMap.empty [name]).addLayer
      (Properties.single "data-video" (.string marker))
        = { properties := Properties.single "data-video" (.string marker), classes := [name] } := by
    have htruthy : (Property.string marker).truthy = true := by
      simp [Property.truthy, hmarker]
    exact Merged.addEntry_property htruthy (show isClassKey "data-video" = false by decide)
  have hmerge : mergeLayers [classLayer name, stringLayer "data-video" marker]
      = (Merged.mk (Properties.single "data-video" (.string marker)) [name]).finish := by
    rw [← hdata, ← hclass]
    rfl
  have hlist : SortedMap.ofList [("className", .list [name]), ("data-video", .string marker)]
      = (Properties.single "className" (.list [name])).insert "data-video" (.string marker) := rfl
  refine SortedMap.eq_of_get? fun key => ?_
  rw [hmerge, hlist, Merged.finish, if_neg (by simp), SortedMap.get?_insert, SortedMap.get?_insert,
    get?_single, get?_single]
  by_cases hkey : key = "className"
  · rw [if_pos hkey, if_pos hkey, hkey]
    rfl
  · rw [if_neg hkey, if_neg hkey]

theorem rendersVideo_wrapped {marker : String} (hmarker : marker.isEmpty = false)
    (h : options.wrapper = true) (classPrefix address : String) (d : Directive) :
    RendersVideo options classPrefix d marker address
      (options.wrapped (classPrefix ++ "-video") marker address d.videoTitle d
        (d.attributes.without ["id"]).toProperties) := by
  rw [wrapped, mergeLayers_marked (by simp) hmarker]
  exact .wrapped h (isInnerFrame address d)

/-! ## One video -/

/-- A video that has a source is rendered. -/
theorem resolve_of_hasSource (hid : d.HasId id) (hmarker : marker.isEmpty = false)
    (hsource : options.HasSource id suffix marker address) (classPrefix : String) :
    ∃ target, options.resolve classPrefix d suffix = .ok target ∧
      RendersVideo options classPrefix d marker address target := by
  have hgiven : d.given? "id" = some id :=
    Directive.given?_eq_some_iff.mpr ⟨hid.present, hid.nonempty⟩
  rw [resolve, hgiven]
  dsimp only
  rw [source_eq_ok_iff.mpr hsource]
  dsimp only
  refine ⟨_, rfl, ?_⟩
  cases hwrapper : options.wrapper with
  | false => exact .frame hwrapper (isLoneFrame classPrefix marker address d)
  | true => exact rendersVideo_wrapped hmarker hwrapper classPrefix address d

/-- Nothing else is rendered as a video. -/
theorem exists_id_of_resolve {target : RenderTarget}
    (h : options.resolve classPrefix d suffix = .ok target) :
    ∃ id, d.HasId id ∧ options.IsShown id suffix := by
  rw [resolve] at h
  split at h
  · cases h
  · next id hid =>
    obtain ⟨hpresent, hne⟩ := Directive.given?_eq_some_iff.mp hid
    split at h
    · cases h
    · next marker address hsource =>
      exact ⟨id, ⟨hpresent, hne⟩,
        exists_hasSource_iff.mp ⟨marker, address, source_eq_ok_iff.mp hsource⟩⟩

/-- Whether a video is rendered, and which fault it has, does not depend on the form. -/
theorem map_resolve_wrapper (options : VideoOptions) (wrapper : Bool) (classPrefix : String)
    (d : Directive) (suffix : Option String) :
    (({ options with wrapper } : VideoOptions).resolve classPrefix d suffix).map (fun _ => ())
      = (options.resolve classPrefix d suffix).map (fun _ => ()) := by
  have hsource (id : String) :
      ({ options with wrapper } : VideoOptions).source suffix id = options.source suffix id := rfl
  rw [resolve, resolve]
  cases d.given? "id" with
  | none => rfl
  | some id =>
    dsimp only
    rw [hsource]
    cases options.source suffix id with
    | error fault => rfl
    | ok found => rfl

/-- The marker says `url` for a page only, as no platform can have this name. -/
theorem HasSource.marker_eq_url_iff (hreserved : options.platforms.contains "url" = false)
    (h : options.HasSource id suffix marker address) : marker = "url" ↔ suffix = none := by
  cases h with
  | page => simp
  | platform htemplate =>
    have hne : marker ≠ "url" := by
      rintro rfl
      cases htemplate with
      | own h =>
        rw [SortedMap.contains, h] at hreserved
        cases hreserved
      | known _ h => simp [knownPlatforms] at h
    simp [hne]

theorem HasSource.marker_ne_empty (hsuffix : ∀ name, suffix = some name → name ≠ "")
    (h : options.HasSource id suffix marker address) : marker.isEmpty = false := by
  cases h with
  | page => decide
  | platform => simpa using hsuffix marker rfl

end VideoOptions

/-! ## Options that can be used -/

/-- The same options with videos in the other form. -/
def Options.withWrapper (options : Options) (wrapper : Bool) : Options :=
  { options with video := { options.video with wrapper } }

namespace Transformer

variable {options : Options} {t : Transformer} {d : Directive} {found : NameMatch}

/-- The form of videos has no part in whether options can be used. -/
theorem exists_ofOptions_withWrapper (h : ofOptions options = .ok t) (wrapper : Bool) :
    ∃ t', ofOptions (options.withWrapper wrapper) = .ok t' := by
  obtain ⟨-, hurl, hbuild⟩ := ofOptions_eq_ok_iff.mp h
  have haliases : (options.withWrapper wrapper).aliases = options.aliases := by
    funext family
    cases family <;> rfl
  refine ⟨{ t with options := options.withWrapper wrapper },
    ofOptions_eq_ok_iff.mpr ⟨rfl, hurl, ?_⟩⟩
  rw [haliases]
  exact hbuild

/-- A suffix is not empty. -/
theorem suffix_ne_empty {name : String} {family : Family}
    (hroute : t.route name = some (family, found)) :
    ∀ suffix, found.suffix = some suffix → suffix ≠ "" := by
  rintro suffix hsuffix rfl
  rw [route_eq] at hroute
  obtain ⟨other, -, hother⟩ := List.exists_of_findSome?_eq_some hroute
  obtain ⟨found', hmatch, heq⟩ := Option.map_eq_some_iff.mp hother
  cases heq
  obtain ⟨own, -, hown⟩ := List.exists_of_findSome?_eq_some hmatch
  cases Pattern.matchName?_eq_some_iff.mp hown with
  | bare => cases hsuffix
  | suffixed _ hs =>
    cases hsuffix
    exact hs.nonempty rfl

theorem resolve_withWrapper {t' : Transformer} {wrapper : Bool} (h : ofOptions options = .ok t)
    (h' : ofOptions (options.withWrapper wrapper) = .ok t')
    (hroute : t.route d.name = some (.video, found)) (hkind : d.kind = .leaf) :
    (t'.resolve d).2 = (t.resolve d).2 := by
  have hroute' : t'.route d.name = some (.video, found) := by
    rw [route_of_aliases h h' (funext fun family => by cases family <;> rfl), hroute]
  have hvideo : (t'.target .video d found.suffix).2.map (fun _ => ())
      = (t.target .video d found.suffix).2.map (fun _ => ()) := by
    have hsame := options.video.map_resolve_wrapper wrapper options.classPrefix d found.suffix
    rw [target, target, (ofOptions_ok h).1, (ofOptions_ok h').1]
    exact hsame
  rw [snd_resolve hroute' hkind, snd_resolve hroute hkind]
  cases hnew : (t'.target .video d found.suffix).2 with
  | ok target' =>
    cases hold : (t.target .video d found.suffix).2 with
    | ok target => rfl
    | error fault =>
      rw [hnew, hold] at hvideo
      cases hvideo
  | error fault' =>
    cases hold : (t.target .video d found.suffix).2 with
    | ok target =>
      rw [hnew, hold] at hvideo
      cases hvideo
    | error fault =>
      rw [hnew, hold] at hvideo
      cases hvideo
      rfl

end Transformer

/--
**When a video is rendered, and as what.**

A video is rendered exactly if it has an id, and either its platform has a template or it has no
platform and the id is the address of a page; the form that videos have in the options makes no
difference to that. The id stands in every place of the template, and the marker is the name of
the platform, or `url` for a page. The title, the properties of the options and the attributes of
the author apply to the frame in both forms; the marker and the class of videos are on the outside.
-/
theorem Transformer.resolve_video {options : Options} {t : Transformer} (d : Directive)
    (found : NameMatch) (h : ofOptions options = .ok t)
    (hroute : t.route d.name = some (.video, found)) (hkind : d.kind = .leaf) :
    ((∃ resolution, (t.resolve d).2 = .ok resolution) ↔
        ∃ id, d.HasId id ∧ options.video.IsShown id found.suffix) ∧
      (∀ wrapper, ∃ t', ofOptions (options.withWrapper wrapper) = .ok t' ∧
        (t'.resolve d).2 = (t.resolve d).2) ∧
      ∀ id, d.HasId id → options.video.IsShown id found.suffix →
        ∃ marker address, options.video.HasSource id found.suffix marker address ∧
          (marker = "url" ↔ found.suffix = none) ∧
          (options.video.wrapper = false → ∃ properties,
            t.resolve d = ({ d with data := { d.data with
                name := some "iframe"
                properties := some properties
                children := some [] } }, .ok (.family .video)) ∧
            IsLoneFrame options.video options.classPrefix d marker address properties) ∧
          (options.video.wrapper = true → ∃ properties,
            t.resolve d = ({ d with data := { d.data with
                name := some "div"
                properties := some (.ofList [
                  ("className", .list [options.classPrefix ++ "-video"]),
                  ("data-video", .string marker)])
                children := some [.element "iframe" properties []] } }, .ok (.family .video)) ∧
            IsInnerFrame options.video d address properties) := by
  obtain ⟨hoptions, hurl, -⟩ := ofOptions_eq_ok_iff.mp h
  have hshown (id : String) (hid : d.HasId id) (hshow : options.video.IsShown id found.suffix) :
      ∃ marker address, options.video.HasSource id found.suffix marker address ∧
        ∃ target, (t.target .video d found.suffix).2 = .ok target ∧
          RendersVideo options.video options.classPrefix d marker address target := by
    obtain ⟨marker, address, hsource⟩ := VideoOptions.exists_hasSource_iff.mpr hshow
    have hmarker := hsource.marker_ne_empty (suffix_ne_empty hroute)
    obtain ⟨target, htarget, hrenders⟩ :=
      VideoOptions.resolve_of_hasSource hid hmarker hsource options.classPrefix
    refine ⟨marker, address, hsource, target, ?_, hrenders⟩
    rw [Transformer.target, hoptions]
    exact htarget
  refine ⟨?_, fun wrapper => ?_, fun id hid hshow => ?_⟩
  · rw [exists_ok_iff hroute hkind]
    constructor
    · rintro ⟨target, htarget⟩
      rw [Transformer.target, hoptions] at htarget
      exact VideoOptions.exists_id_of_resolve htarget
    · rintro ⟨id, hid, hshow⟩
      obtain ⟨-, -, -, target, htarget, -⟩ := hshown id hid hshow
      exact ⟨target, htarget⟩
  · obtain ⟨t', h'⟩ := exists_ofOptions_withWrapper h wrapper
    exact ⟨t', h', resolve_withWrapper h h' hroute hkind⟩
  · obtain ⟨marker, address, hsource, target, htarget, hrenders⟩ := hshown id hid hshow
    have hresolve := resolve_of_target hroute hkind (by simp) htarget
    refine ⟨marker, address, hsource, hsource.marker_eq_url_iff hurl, fun hlone => ?_,
      fun hinner => ?_⟩
    · cases hrenders with
      | frame _ hframe => exact ⟨_, hresolve, hframe⟩
      | wrapped hwrapper => exact absurd (hlone.symm.trans hwrapper) Bool.false_ne_true
    · cases hrenders with
      | frame hwrapper => exact absurd (hwrapper.symm.trans hinner) Bool.false_ne_true
      | wrapped _ hframe => exact ⟨_, hresolve, hframe⟩

/-! ### A platform with another template -/

/-- Options with a template of their own for a platform that is always known. -/
def mirrorOptions : Options where
  video := {
    frameProperties := some (.fixed (.ofList [
      ("allowfullscreen", .bool false), ("width", .int 560)]))
    platforms := .ofList [("youtube", "https://mirror.example/\x7bid\x7d#\x7bid\x7d")]
    wrapper := true }

/-- A video whose id looks like a place for it. -/
def mirrorVideo : Directive where
  kind := .leaf
  name := "video-youtube"
  attributes := .ofList [("class", "wide"), ("id", "a\x7bid\x7d"), ("loading", "eager")]
  children := [.text "A talk"]

/-- The template of the options is used, and the id is put into it as it is. -/
theorem resolve_video_mirror :
    Transformer.ofOptions mirrorOptions = .ok (.plain mirrorOptions) ∧
      (Transformer.plain mirrorOptions).route mirrorVideo.name
        = some (.video, ⟨some "youtube"⟩) ∧
      mirrorVideo.kind = .leaf ∧
      ∃ properties : Properties, (Transformer.plain mirrorOptions).resolve mirrorVideo
          = ({ mirrorVideo with data := {
              name := some "div"
              properties := some (.ofList [
                ("className", .list ["rds-video"]), ("data-video", .string "youtube")])
              children := some [.element "iframe" properties []] } }, .ok (.family .video)) ∧
        properties.get? "src" = some
          (.string "https://mirror.example/a\x7bid\x7d#a\x7bid\x7d") ∧
        properties.get? "title" = some (.string "A talk") ∧
        properties.get? "loading" = some (.string "eager") ∧
        properties.get? "width" = some (.int 560) ∧
        properties.get? "allowfullscreen" = some (.bool true) ∧
        properties.get? "data-video" = none ∧
        properties.get? "className" = some (.list ["wide"]) := by
  have hok : Transformer.ofOptions mirrorOptions = .ok (.plain mirrorOptions) := rfl
  have hroute : (Transformer.plain mirrorOptions).route mirrorVideo.name
      = some (.video, ⟨some "youtube"⟩) := rfl
  obtain ⟨-, -, hresolve⟩ :=
    Transformer.resolve_video mirrorVideo ⟨some "youtube"⟩ hok hroute rfl
  have hid : mirrorVideo.HasId "a\x7bid\x7d" := ⟨rfl, by decide⟩
  obtain ⟨marker, address, hsource, -, -, hwrapped⟩ := hresolve _ hid (.platform (.own rfl))
  have hcut : Text.IsCut Config.videoPlaceholder "https://mirror.example/\x7bid\x7d#\x7bid\x7d"
      ["https://mirror.example/", "#", ""] := ⟨by decide, by decide, by decide⟩
  have hfound : mirrorOptions.video.HasSource "a\x7bid\x7d" (some "youtube") "youtube"
      "https://mirror.example/a\x7bid\x7d#a\x7bid\x7d" := .platform (.own rfl) hcut
  cases (VideoOptions.source_eq_ok_iff.mpr hfound).symm.trans
    (VideoOptions.source_eq_ok_iff.mpr hsource)
  obtain ⟨properties, hresult, hinner⟩ := hwrapped rfl
  refine ⟨hok, hroute, rfl, properties, hresult, ?_, ?_, ?_, ?_, ?_, ?_, ?_⟩
  · exact hinner.property "src" (by decide)
  · exact hinner.property "title" (by decide)
  · exact hinner.property "loading" (by decide)
  · exact hinner.property "width" (by decide)
  · exact hinner.property "allowfullscreen" (by decide)
  · exact hinner.property "data-video" (by decide)
  · exact hinner.className

end MarkdownDirectives
