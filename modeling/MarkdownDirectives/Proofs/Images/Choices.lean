import Mathlib.Data.List.Rotate
import MarkdownDirectives.Proofs.Images.Content
import MarkdownDirectives.Proofs.Images.Visits

/-!
# What the choices for image containers change

Two options can be chosen freely for image containers: whether paragraphs around single images are
taken off, and whether the first image gets the properties or all of them do. Neither of them
decides whether a directive is refused or what it is rendered as. A container comes to the same end
with either choice (`finish_paragraphs`, `finish_scopes`), and all other directives do not look at
it (`resolve_unless_container`).

* `resolve_paragraph_choice` — the children differ in paragraphs around single images
* `resolve_scope_choice` — the children differ in properties of images behind the first one

## Which options are meant

A property source that looks at the directive can see its children as they have been edited by then.
So the options have fixed sources.
-/

namespace MarkdownDirectives

/-! ## Directives that are no containers -/

namespace Transformer

section Options

variable {options : Options} {image image' : ImageOptions} {t t' : Transformer}

theorem pattern_congr (h : ofOptions { options with image } = .ok t)
    (h' : ofOptions { options with image := image' } = .ok t')
    (haliases : image'.aliases = image.aliases) (family : Family) :
    t'.pattern family = t.pattern family := by
  rw [((ofOptions_ok h).2 family).1, ((ofOptions_ok h').2 family).1]
  cases family with
  | image => rw [Options.aliases, Options.aliases, haliases]
  | video | link | badge => rfl

theorem route_congr (h : ofOptions { options with image } = .ok t)
    (h' : ofOptions { options with image := image' } = .ok t')
    (haliases : image'.aliases = image.aliases) (name : String) : t'.route name = t.route name := by
  refine route_of_aliases h h' (funext fun family => ?_) name
  cases family with
  | image => exact haliases
  | video | link | badge => rfl

theorem isContainer_congr (h : ofOptions { options with image } = .ok t)
    (h' : ofOptions { options with image := image' } = .ok t')
    (haliases : image'.aliases = image.aliases) {d : Directive} {tag : String}
    (hd : t.IsContainer d tag) : t'.IsContainer d tag where
  kind := hd.kind
  named := by
    have himage : t'.image = t.image := pattern_congr h h' haliases .image
    rw [himage]
    exact hd.named
  valid := hd.valid

theorem target_unless_image (h : ofOptions { options with image } = .ok t)
    (h' : ofOptions { options with image := image' } = .ok t') {family : Family}
    (hf : family ≠ .image) (d : Directive) (suffix : Option String) :
    t'.target family d suffix = t.target family d suffix := by
  cases family with
  | image => exact absurd rfl hf
  | video | link | badge => rw [target, target, (ofOptions_ok h).1, (ofOptions_ok h').1]

/-- The image family refuses a container whose tag it does not know. -/
theorem target_untagged (h : ofOptions options = .ok t) {d : Directive} {found : NameMatch}
    (hroute : t.route d.name = some (.image, found)) (hkind : d.kind = .container)
    (hd : ∀ tag, ¬ t.IsContainer d tag) :
    t.target .image d found.suffix = (d.children, .error .unknownTag) := by
  have htag : found.suffix.filter imageTags.contains = none := by
    rw [Option.filter_eq_none_iff]
    intro tag hsuffix hvalid
    refine hd tag ⟨hkind, ?_, List.contains_iff_mem.mp hvalid⟩
    rw [← hsuffix]
    exact (route_image_iff h).mp hroute
  rw [target]
  exact ImageOptions.resolve_untagged htag

/-- Options of image containers matter to nothing else. -/
theorem resolve_unless_container (h : ofOptions { options with image } = .ok t)
    (h' : ofOptions { options with image := image' } = .ok t')
    (haliases : image'.aliases = image.aliases) {d : Directive}
    (hd : ∀ tag, ¬ t.IsContainer d tag) :
    t'.resolve d = t.resolve d ∧ (t.resolve d).1.children = d.children := by
  have hroute' := route_congr h h' haliases d.name
  have hd' : ∀ tag, ¬ t'.IsContainer d tag := fun tag hcontainer =>
    hd tag (isContainer_congr h' h haliases.symm hcontainer)
  rw [resolve, resolve, hroute']
  cases hroute : t.route d.name with
  | none => exact ⟨rfl, rfl⟩
  | some found =>
    obtain ⟨family, found⟩ := found
    dsimp only
    rw [Family.checkKind]
    by_cases hkind : d.kind = family.kind
    · rw [if_pos hkind]
      dsimp only
      by_cases himage : family = .image
      · subst himage
        rw [target_untagged h hroute hkind hd, target_untagged h' (hroute'.trans hroute) hkind hd']
        exact ⟨rfl, rfl⟩
      · have hchildren := target_children himage t d found.suffix
        rw [target_unless_image h h' himage d found.suffix]
        cases htarget : t.target family d found.suffix with
        | mk children result =>
          rw [htarget] at hchildren
          cases result <;> exact ⟨rfl, hchildren⟩
    · rw [if_neg hkind]
      exact ⟨rfl, rfl⟩

end Options

end Transformer

/-! ## Paragraphs -/

/--
A container ends the same way with both lists of children.

If it is rendered, the children differ in paragraphs around single images, and a caption does not.
-/
inductive EndsAlike (tag : String) :
    List Node × Except DirectiveFault RenderTarget →
      List Node × Except DirectiveFault RenderTarget → Prop
  | refused {children children' : List Node} {fault : DirectiveFault} :
      EndsAlike tag (children, .error fault) (children', .error fault)
  | element {children children' : List Node} {target : RenderTarget} (hne : tag ≠ "figure")
      (hchildren : List.Forall₂ Unwraps children children') :
      EndsAlike tag (children, .ok target) (children', .ok target)
  | figure {kept kept' content : List Node} {properties : Properties} {target : RenderTarget}
      (hfigure : tag = "figure") (hkept : List.Forall₂ Unwraps kept kept') :
      EndsAlike tag (kept ++ [captionNode properties content], .ok target)
        (kept' ++ [captionNode properties content], .ok target)

section Fixed

variable {options : ImageOptions} {d : Directive} {children children' : List Node} {tag : String}
  (hfigure : IsFixedSource options.figureProperties)
  (hcaption : IsFixedSource options.captionProperties)
  (helement : IsFixedSource options.elementProperties)

include hfigure hcaption helement

theorem finish_paragraphs (tag : String) (h : List.Forall₂ Unwraps children children') :
    EndsAlike tag (options.finish d tag children) (options.finish d tag children') := by
  by_cases htag : tag = "figure"
  · subst htag
    have hdropped := unwraps_dropEmptyLabels h
    by_cases hcaptioned : HasCaption (dropEmptyLabels children)
    · obtain ⟨rest, content, hcontent⟩ := hcaptioned
      obtain ⟨rest', hcontent', hrest⟩ := hcontent.unwraps hdropped
      rw [ImageOptions.finish_figure hcontent, ImageOptions.finish_figure hcontent',
        mergeSources_fixed hcaption { d with children := children' } { d with children },
        mergeSources_fixed hfigure { d with children := children' } { d with children }]
      exact .figure rfl hrest
    · have hcaptioned' : ¬ HasCaption (dropEmptyLabels children') := by
        rwa [hasCaption_unwraps_iff hdropped]
      rw [ImageOptions.finish_captionless hcaptioned, ImageOptions.finish_captionless hcaptioned']
      exact .refused
  · rw [ImageOptions.finish_element htag, ImageOptions.finish_element htag,
      mergeSources_fixed helement { d with children := children' } { d with children }]
    exact .element htag h

/-! ## Scopes -/

theorem finish_scopes (tag : String) (h : Node.bareList children' = Node.bareList children) :
    (options.finish d tag children').2 = (options.finish d tag children).2 ∧
      Node.bareList (options.finish d tag children').1
        = Node.bareList (options.finish d tag children).1 := by
  by_cases htag : tag = "figure"
  · subst htag
    have hdropped : Node.bareList (dropEmptyLabels children')
        = Node.bareList (dropEmptyLabels children) := by
      rw [bareList_dropEmptyLabels, h, bareList_dropEmptyLabels]
    by_cases hcaptioned : HasCaption (dropEmptyLabels children)
    · obtain ⟨rest, content, hcontent⟩ := hcaptioned
      have hbare := hcontent.bareList
      rw [← hdropped] at hbare
      obtain ⟨rest', content', hcontent', hrest, heq⟩ := hbare.of_bareList
      rw [ImageOptions.finish_figure hcontent, ImageOptions.finish_figure hcontent',
        mergeSources_fixed hcaption { d with children := children' } { d with children },
        mergeSources_fixed hfigure { d with children := children' } { d with children }]
      refine ⟨rfl, ?_⟩
      dsimp only
      rw [Node.bareList, Node.bareList, List.map_append, List.map_append, List.map_singleton,
        List.map_singleton, captionNode, captionNode, Node.bare_paragraph, Node.bare_paragraph, heq]
      exact congrArg (· ++ _) hrest
    · have hcaptioned' : ¬ HasCaption (dropEmptyLabels children') := by
        rwa [← hasCaption_bareList_iff, hdropped, hasCaption_bareList_iff]
      rw [ImageOptions.finish_captionless hcaptioned, ImageOptions.finish_captionless hcaptioned']
      exact ⟨rfl, hdropped⟩
  · rw [ImageOptions.finish_element htag, ImageOptions.finish_element htag,
      mergeSources_fixed helement { d with children := children' } { d with children }]
    exact ⟨rfl, h⟩

omit hfigure hcaption helement in
/-- The images of a consumed label are moved to the end, however the images have been changed. -/
theorem exists_finish_images (options : ImageOptions) (d : Directive) (tag : String)
    (children : List Node) :
    ∃ moved, ∀ children', Node.bareList children' = Node.bareList children →
      Node.imagesList (options.finish d tag children').1
        = (Node.imagesList children').rotate moved := by
  by_cases htag : tag = "figure"
  · subst htag
    -- The caption of the bare children is the same for all `children'`, and so is its length.
    by_cases hcaptioned : HasCaption (Node.bareList (dropEmptyLabels children))
    · obtain ⟨left, found, hfound⟩ := hcaptioned
      refine ⟨(Node.imagesList found).length, fun children' h => ?_⟩
      rw [bareList_dropEmptyLabels, ← h, ← bareList_dropEmptyLabels] at hfound
      obtain ⟨rest, content, hcontent, -, rfl⟩ := hfound.of_bareList
      rw [ImageOptions.finish_figure hcontent, imagesList_captionNode,
        ← imagesList_dropEmptyLabels children', hcontent.imagesList, Node.images_bareList,
        List.length_map, List.rotate_append_length_eq]
    · refine ⟨0, fun children' h => ?_⟩
      rw [bareList_dropEmptyLabels, ← h, ← bareList_dropEmptyLabels, hasCaption_bareList_iff]
        at hcaptioned
      rw [ImageOptions.finish_captionless hcaptioned, List.rotate_zero, imagesList_dropEmptyLabels]
  · refine ⟨0, fun children' _ => ?_⟩
    rw [ImageOptions.finish_element htag, List.rotate_zero]

/-! ## One container -/

theorem imageResolve_paragraphs (htag : (some tag).filter imageTags.contains = some tag) :
    EndsAlike tag (ImageOptions.resolve { options with stripParagraph := false } d (some tag))
      (ImageOptions.resolve { options with stripParagraph := true } d (some tag)) := by
  cases hmapped : options.scope.mapImages?
      (Image.addProperties (resolveSource options.imageProperties d)) d.children with
  | none =>
    have himages := ImageScope.mapImages?_eq_none_iff.mp hmapped
    rw [ImageOptions.resolve_imageless htag himages, ImageOptions.resolve_imageless htag himages]
    exact .refused
  | some mapped =>
    have hresolve : ∀ strip,
        ImageOptions.resolve { options with stripParagraph := strip } d (some tag)
          = options.finish d tag (if strip then mapped.map stripNode else mapped) := fun strip =>
      ImageOptions.resolve_eq { options with stripParagraph := strip } htag hmapped
    rw [hresolve, hresolve]
    exact finish_paragraphs hfigure hcaption helement tag (unwraps_map_stripNode mapped)

theorem imageResolve_scopes (htag : (some tag).filter imageTags.contains = some tag) :
    let run := fun scope => ImageOptions.resolve { options with scope } d (some tag)
    (run .all).2 = (run .first).2 ∧
      Node.bareList (run .all).1 = Node.bareList (run .first).1 ∧
      ∃ moved, ∀ scope, Node.imagesList (run scope).1
        = (scope.change (Image.addProperties (resolveSource options.imageProperties d))
            (Node.imagesList d.children)).rotate moved := by
  intro run
  by_cases himages : Node.imagesList d.children = []
  · have hrun : ∀ scope, run scope = (d.children, .error .imageMissing) := fun scope =>
      ImageOptions.resolve_imageless htag himages
    rw [hrun, hrun]
    refine ⟨rfl, rfl, 0, fun scope => ?_⟩
    rw [hrun, List.rotate_zero, himages]
    exact (ImageScope.change_eq_nil_iff.mpr rfl).symm
  · have hexists : ∀ scope : ImageScope, ∃ mapped, scope.mapImages?
        (Image.addProperties (resolveSource options.imageProperties d)) d.children
          = some mapped := fun scope =>
      Option.ne_none_iff_exists'.mp (ImageScope.mapImages?_eq_none_iff.not.mpr himages)
    choose mapped hmapped using hexists
    have hrun : ∀ scope, run scope = options.finish d tag (options.unwrap (mapped scope)) :=
      fun scope => ImageOptions.resolve_eq { options with scope } htag (hmapped scope)
    have hbare : ∀ scope, Node.bareList (options.unwrap (mapped scope))
        = Node.bareList (options.unwrap d.children) := by
      intro scope
      rw [bareList_unwrap, ImageScope.bareList_mapImages? (hmapped scope), ← bareList_unwrap]
    obtain ⟨hresult, hchildren⟩ := finish_scopes (d := d) hfigure hcaption helement tag
      ((hbare .all).trans (hbare .first).symm)
    obtain ⟨moved, hmoved⟩ := exists_finish_images options d tag (options.unwrap d.children)
    rw [hrun, hrun]
    refine ⟨hresult, hchildren, moved, fun scope => ?_⟩
    rw [hrun, hmoved _ (hbare scope), imagesList_unwrap,
      ImageScope.imagesList_mapImages? (hmapped scope)]

end Fixed

/-! ## The choice of paragraphs -/

/--
**Taking paragraphs off changes nothing but the paragraphs.**

With either choice the directive has the same result, and if it is rendered, it is rendered as the
same. The children are equally many. Each of them is the same with both choices, or it is an image
here and a paragraph around that image there; the caption of a figure is the same.
-/
theorem resolve_paragraph_choice (options : Options) (t : Bool → Transformer)
    (h : ∀ strip, Transformer.ofOptions { options with image.stripParagraph := strip }
      = .ok (t strip))
    (hfixed : options.IsFixed) (d : Directive) :
    let kept := (t false).resolve d
    let stripped := (t true).resolve d
    stripped.2 = kept.2 ∧
      ∀ resolution, kept.2 = .ok resolution →
        stripped.1.toDirectiveHead = kept.1.toDirectiveHead ∧
        stripped.1.children.length = kept.1.children.length ∧
        (¬ (t false).IsFigure d.name →
          List.Forall₂ Unwraps kept.1.children stripped.1.children) ∧
        ((t false).IsFigure d.name → ∃ others others' properties content,
          kept.1.children = others ++ [captionNode properties content] ∧
          stripped.1.children = others' ++ [captionNode properties content] ∧
          List.Forall₂ Unwraps others others') := by
  intro kept stripped
  by_cases hcontainer : ∃ tag, (t false).IsContainer d tag
  · obtain ⟨tag, hd⟩ := hcontainer
    have hd' : (t true).IsContainer d tag := Transformer.isContainer_congr (h false) (h true) rfl hd
    have hkept : kept = d.containerResult
        (ImageOptions.resolve { options.image with stripParagraph := false } d (some tag)) :=
      Transformer.resolve_container (h false) hd
    have hstripped : stripped = d.containerResult
        (ImageOptions.resolve { options.image with stripParagraph := true } d (some tag)) :=
      Transformer.resolve_container (h true) hd'
    have hends := imageResolve_paragraphs hfixed.figure hfixed.caption hfixed.element (d := d)
      hd.filter_tag
    rw [hkept, hstripped, hd.isFigure_iff (h false)]
    generalize ImageOptions.resolve { options.image with stripParagraph := false } d (some tag)
      = run at hends ⊢
    generalize ImageOptions.resolve { options.image with stripParagraph := true } d (some tag)
      = run' at hends ⊢
    cases hends with
    | refused => exact ⟨rfl, nofun⟩
    | element hne hchildren =>
      exact ⟨rfl, fun _ _ => ⟨rfl, hchildren.length_eq.symm, fun _ => hchildren,
        fun hfigure => absurd hfigure hne⟩⟩
    | figure hfigure hothers =>
      refine ⟨rfl, fun _ _ => ⟨rfl, ?_, fun hne => absurd hfigure hne,
        fun _ => ⟨_, _, _, _, rfl, rfl, hothers⟩⟩⟩
      show (_ ++ [_]).length = (_ ++ [_]).length
      rw [List.length_append, List.length_append, hothers.length_eq]
  · have hnone : ∀ tag, ¬ (t false).IsContainer d tag := fun tag hd => hcontainer ⟨tag, hd⟩
    have hsame : stripped = kept :=
      (Transformer.resolve_unless_container (h false) (h true) rfl hnone).1
    rw [hsame]
    refine ⟨rfl, fun resolution hok => ⟨rfl, rfl, fun _ => unwraps_refl _, fun hfigure => ?_⟩⟩
    exact absurd (hfigure.isContainer (h false) hok) (hnone "figure")

/-- The image of `catFigure` is the first child, in its paragraph or alone; the caption stays. -/
theorem resolve_paragraph_choice_catFigure :
    let options := fun strip => { lazyOptions with image.stripParagraph := strip }
    let t := fun strip => { Transformer.standard with options := options strip }
    let kept := (t false).resolve catFigure
    let stripped := (t true).resolve catFigure
    let cat : Image := {
      url := "cat.png", data := { properties := some (.single "loading" (.string "lazy")) } }
    (∀ strip, Transformer.ofOptions (options strip) = .ok (t strip)) ∧ lazyOptions.IsFixed ∧
      kept.2 = .ok (.family .image) ∧ (t false).IsFigure catFigure.name ∧
      kept.1.children.head? = some (.paragraph {} [.image cat]) ∧
      stripped.1.children.head? = some (.image cat) ∧ stripped.2 = kept.2 ∧
      ∃ others others' properties content,
        kept.1.children = others ++ [captionNode properties content] ∧
        stripped.1.children = others' ++ [captionNode properties content] ∧
        List.Forall₂ Unwraps others others' := by
  intro options t kept stripped cat
  have hoptions : ∀ strip, Transformer.ofOptions (options strip) = .ok (t strip) := fun _ => rfl
  have hok : kept.2 = .ok (.family .image) := rfl
  have hfigure : (t false).IsFigure catFigure.name := rfl
  obtain ⟨hsame, hrendered⟩ :=
    resolve_paragraph_choice lazyOptions t hoptions isFixed_lazyOptions catFigure
  obtain ⟨-, -, -, hcaption⟩ := hrendered _ hok
  exact ⟨hoptions, isFixed_lazyOptions, hok, hfigure, rfl, rfl, hsame, hcaption hfigure⟩

/-! ## The choice of a scope -/

/-- The image with the properties of the options over its own, if they set any. -/
def ImageOptions.update (options : ImageOptions) (image : Image) : Image :=
  match options.imageProperties with
  | some (.fixed added) =>
    { image with data.properties := some (mergeLayers [image.data.properties, some added]) }
  | _ => image

theorem ImageOptions.addProperties_eq_update {options : ImageOptions}
    (hfixed : IsFixedSource options.imageProperties) (d : Directive) :
    Image.addProperties (resolveSource options.imageProperties d) = options.update := by
  funext image
  rw [update]
  cases hsource : options.imageProperties with
  | none => rfl
  | some source =>
    cases source with
    | fixed added => rfl
    | computed f => exact absurd hsource (hfixed f)

theorem ImageOptions.update_eq_id {options : ImageOptions} (h : options.imageProperties = none) :
    options.update = id := by
  funext image
  rw [update, h]
  rfl

theorem ImageScope.change_id (scope : ImageScope) (images : List Image) :
    scope.change id images = images := by
  cases scope with
  | first => exact congrFun List.modifyHead_id images
  | all => exact List.map_id images

/--
**Both scopes find the same images, and differ in the properties of those behind the first one.**

A scope visits the images in document order, and only if there is none it has no result. So the
directive has the same result with either scope and is rendered as the same. In a container the
first image gets the properties of the options, and with the scope `all` the other ones do too; the
images of a label that is the caption now have moved to the end.
-/
theorem resolve_scope_choice (options : Options) (t : ImageScope → Transformer)
    (h : ∀ scope, Transformer.ofOptions { options with image.scope := scope } = .ok (t scope))
    (hfixed : options.IsFixed) (d : Directive) :
    let first := (t .first).resolve d
    let all := (t .all).resolve d
    let visited := Node.visitedImages d.children
    (∀ (scope : ImageScope) f, scope.mapImages? f d.children =
        if visited = [] then none
        else some ((Node.visitImagesList (scope.visit f) d.children).run false).1) ∧
      all.2 = first.2 ∧ all.1.toDirectiveHead = first.1.toDirectiveHead ∧
      Node.bareList all.1.children = Node.bareList first.1.children ∧
      (∀ tag, (t .first).IsContainer d tag → ∃ moved,
        Node.imagesList first.1.children
          = (visited.modifyHead options.image.update).rotate moved ∧
        Node.imagesList all.1.children = (visited.map options.image.update).rotate moved ∧
        (options.image.imageProperties = none →
          Node.imagesList first.1.children = visited.rotate moved ∧
          Node.imagesList all.1.children = visited.rotate moved)) ∧
      ((∀ tag, ¬ (t .first).IsContainer d tag) →
        first.1.children = d.children ∧ all.1.children = d.children) := by
  intro first all visited
  refine ⟨fun scope f => scope.mapImages?_eq_visit f d.children, ?_⟩
  by_cases hcontainer : ∃ tag, (t .first).IsContainer d tag
  · obtain ⟨tag, hd⟩ := hcontainer
    have hrun : ∀ scope, (t scope).resolve d
        = d.containerResult (ImageOptions.resolve { options.image with scope } d (some tag)) :=
      fun scope => Transformer.resolve_container (h scope)
        (Transformer.isContainer_congr (h .first) (h scope) rfl hd)
    obtain ⟨hresult, hbare, moved, himages⟩ := imageResolve_scopes hfixed.figure hfixed.caption
      hfixed.element (d := d) hd.filter_tag
    obtain ⟨hsame, hhead⟩ := d.containerResult_congr hresult
    have hchange : ∀ scope : ImageScope, Node.imagesList ((t scope).resolve d).1.children
        = (scope.change options.image.update visited).rotate moved := by
      intro scope
      rw [hrun, Directive.children_containerResult, himages,
        ImageOptions.addProperties_eq_update hfixed.image d]
      exact congrArg (fun images => (scope.change options.image.update images).rotate moved)
        (Node.visitedImages_eq d.children).symm
    have hfirst : first = d.containerResult
        (ImageOptions.resolve { options.image with scope := .first } d (some tag)) := hrun .first
    have hall : all = d.containerResult
        (ImageOptions.resolve { options.image with scope := .all } d (some tag)) := hrun .all
    refine ⟨?_, ?_, ?_, fun _ _ => ⟨moved, hchange .first, hchange .all, fun hnone => ?_⟩,
      fun hno => absurd hd (hno tag)⟩
    · rw [hall, hfirst, hsame]
    · rw [hall, hfirst, hhead]
    · rw [hall, hfirst, Directive.children_containerResult, Directive.children_containerResult]
      exact hbare
    · have hid : options.image.update = id := ImageOptions.update_eq_id hnone
      have hunchanged : ∀ scope : ImageScope, scope.change options.image.update visited = visited :=
        fun scope => by rw [hid, ImageScope.change_id]
      exact ⟨(hchange .first).trans (by rw [hunchanged]),
        (hchange .all).trans (by rw [hunchanged])⟩
  · have hnone : ∀ tag, ¬ (t .first).IsContainer d tag := fun tag hd => hcontainer ⟨tag, hd⟩
    obtain ⟨hsame, hchildren⟩ :=
      Transformer.resolve_unless_container (h .first) (h .all) rfl hnone
    have hall : all = first := hsame
    rw [hall]
    exact ⟨rfl, rfl, rfl, fun tag hd => absurd hd (hnone tag), fun _ => ⟨hchildren, hchildren⟩⟩

/-- The image in the label of `catFigure` comes first, and last in the caption. -/
theorem resolve_scope_choice_catFigure :
    let options := fun scope => { lazyOptions with image.scope := scope }
    let t := fun scope => { Transformer.standard with options := options scope }
    let first := (t .first).resolve catFigure
    let all := (t .all).resolve catFigure
    let visited := Node.visitedImages catFigure.children
    let lazyUrls := fun nodes =>
      ((Node.imagesList nodes).filter (·.data.properties.isSome)).map Image.url
    (∀ scope, Transformer.ofOptions (options scope) = .ok (t scope)) ∧ lazyOptions.IsFixed ∧
      (t .first).IsContainer catFigure "figure" ∧ all.2 = first.2 ∧
      visited.map Image.url = ["paw.png", "cat.png", "far.png"] ∧
      lazyUrls first.1.children = ["paw.png"] ∧
      lazyUrls all.1.children = ["cat.png", "far.png", "paw.png"] ∧
      ∃ moved,
        Node.imagesList first.1.children
          = (visited.modifyHead lazyOptions.image.update).rotate moved ∧
        Node.imagesList all.1.children = (visited.map lazyOptions.image.update).rotate moved := by
  intro options t first all visited lazyUrls
  have hoptions : ∀ scope, Transformer.ofOptions (options scope) = .ok (t scope) := fun _ => rfl
  have hd : (t .first).IsContainer catFigure "figure" :=
    { kind := rfl, named := rfl, valid := List.mem_cons_self }
  obtain ⟨-, hsame, -, -, hcontainer, -⟩ :=
    resolve_scope_choice lazyOptions t hoptions isFixed_lazyOptions catFigure
  obtain ⟨moved, hfirst, hall, -⟩ := hcontainer "figure" hd
  exact ⟨hoptions, isFixed_lazyOptions, hd, hsame, rfl, rfl, rfl, moved, hfirst, hall⟩

end MarkdownDirectives
