import MarkdownDirectives.Proofs.Images.Children
import MarkdownDirectives.Proofs.Walk.Overwrite

/-!
# Image containers keep their content

An image container may drop empty labels, take images out of their paragraphs, and move its label
behind the rest; besides that it only adds properties to images. `Reshaped` compares the children in
front of these edits with those behind them. From it follows what a container can be refused for
(`isError_imageResolve_iff`) and what it is left with.

* `resolve_keeps_content` — a container that is rendered has lost no child and no image
* `resolve_refused` — a directive that is refused is as it was; only a figure without a caption has
  been edited by then
-/

namespace MarkdownDirectives

/-! ## Edited children -/

/--
The second nodes are the first ones edited by a container.

Properties of images aside, each of them stays, or it is the image alone that a paragraph held.
-/
def Reshaped (nodes nodes' : List Node) : Prop :=
  List.Forall₂ Unwraps (Node.bareList nodes) (Node.bareList nodes')

section Reshaped

variable {nodes nodes' rest' caption' : List Node}

theorem reshaped_unwrap {options : ImageOptions} {scope : ImageScope}
    {properties : Option Properties} {mapped : List Node}
    (h : scope.mapImages? (Image.addProperties properties) nodes = some mapped) :
    Reshaped nodes (options.unwrap mapped) := by
  rw [Reshaped, bareList_unwrap, ImageScope.bareList_mapImages? h]
  exact unwraps_unwrap options _

theorem Reshaped.dropEmptyLabels (h : Reshaped nodes nodes') :
    Reshaped (dropEmptyLabels nodes) (dropEmptyLabels nodes') := by
  rw [Reshaped, bareList_dropEmptyLabels, bareList_dropEmptyLabels]
  exact unwraps_dropEmptyLabels h

/-- The same images in the same order, their properties aside. -/
theorem Reshaped.images (h : Reshaped nodes nodes') :
    (Node.imagesList nodes').map Image.bare = (Node.imagesList nodes).map Image.bare := by
  rw [← Node.images_bareList, ← Node.images_bareList, imagesList_of_unwraps h]

theorem Reshaped.hasCaption_iff (h : Reshaped nodes nodes') :
    HasCaption nodes' ↔ HasCaption nodes := by
  rw [← hasCaption_bareList_iff, hasCaption_unwraps_iff h, hasCaption_bareList_iff]

/-- The caption of edited children is one of the children as they were. -/
theorem Captioned.of_reshaped (h : Captioned nodes' rest' caption')
    (hnodes : Reshaped nodes nodes') :
    ∃ rest caption, Captioned nodes rest caption ∧ Reshaped rest rest' ∧
      Node.bareList caption' = Node.bareList caption := by
  obtain ⟨left, hleft, hrest⟩ := h.bareList.of_unwraps hnodes
  obtain ⟨rest, caption, hcaption, rfl, heq⟩ := hleft.of_bareList
  exact ⟨rest, caption, hcaption, hrest, heq.symm⟩

end Reshaped

/-! ## One container -/

section Container

variable {options : ImageOptions} {d : Directive} {tag : String}

/-- There is no image, or the children are edited and then rendered. -/
theorem imageResolve_cases (options : ImageOptions) (d : Directive)
    (htag : (some tag).filter imageTags.contains = some tag) :
    (Node.imagesList d.children = [] ∧
        options.resolve d (some tag) = (d.children, .error .imageMissing)) ∨
      (Node.imagesList d.children ≠ [] ∧ ∃ children, Reshaped d.children children ∧
        options.resolve d (some tag) = options.finish d tag children) := by
  cases hmapped : options.scope.mapImages?
      (Image.addProperties (resolveSource options.imageProperties d)) d.children with
  | none =>
    have himages := ImageScope.mapImages?_eq_none_iff.mp hmapped
    exact .inl ⟨himages, ImageOptions.resolve_imageless htag himages⟩
  | some mapped =>
    refine .inr ⟨fun himages => ?_, _, reshaped_unwrap hmapped,
      ImageOptions.resolve_eq options htag hmapped⟩
    rw [ImageScope.mapImages?_eq_none_iff.mpr himages] at hmapped
    cases hmapped

/-- A container is refused if it has no image, and a figure if it has no caption. -/
theorem isError_imageResolve_iff (options : ImageOptions) (d : Directive)
    (htag : (some tag).filter imageTags.contains = some tag) :
    (∃ fault, (options.resolve d (some tag)).2 = .error fault) ↔
      Node.imagesList d.children = [] ∨
        tag = "figure" ∧ ¬ HasCaption (dropEmptyLabels d.children) := by
  obtain ⟨himages, hresolve⟩ | ⟨himages, children, hchildren, hresolve⟩ :=
    imageResolve_cases options d htag
  · rw [hresolve]
    exact ⟨fun _ => .inl himages, fun _ => ⟨_, rfl⟩⟩
  · rw [hresolve, or_iff_right himages]
    by_cases hfigure : tag = "figure"
    · subst hfigure
      rw [← hchildren.dropEmptyLabels.hasCaption_iff]
      by_cases hcaption : HasCaption (dropEmptyLabels children)
      · obtain ⟨rest, caption, hcaptioned⟩ := hcaption
        rw [ImageOptions.finish_figure hcaptioned]
        refine ⟨?_, fun h => absurd ⟨rest, caption, hcaptioned⟩ h.2⟩
        rintro ⟨fault, ⟨⟩⟩
      · rw [ImageOptions.finish_captionless hcaption]
        exact ⟨fun _ => ⟨rfl, hcaption⟩, fun _ => ⟨_, rfl⟩⟩
    · rw [ImageOptions.finish_element hfigure]
      refine ⟨?_, fun h => absurd h.1 hfigure⟩
      rintro ⟨fault, ⟨⟩⟩

variable {children : List Node} {target : RenderTarget}

theorem reshaped_of_element (htag : (some tag).filter imageTags.contains = some tag)
    (hne : tag ≠ "figure") (h : options.resolve d (some tag) = (children, .ok target)) :
    Reshaped d.children children := by
  obtain ⟨-, hresolve⟩ | ⟨-, edited, hedited, hresolve⟩ :=
    imageResolve_cases options d htag
  · rw [h] at hresolve
    cases hresolve
  · rw [h, ImageOptions.finish_element hne] at hresolve
    cases hresolve
    exact hedited

/-- A figure ends with its caption; in front of it are the other children. -/
theorem captioned_of_figure (hfixed : IsFixedSource options.captionProperties)
    (htag : (some "figure").filter imageTags.contains = some "figure")
    (h : options.resolve d (some "figure") = (children, .ok target)) :
    ∃ rest caption kept content, Captioned (dropEmptyLabels d.children) rest caption ∧
      Reshaped rest kept ∧ Node.bareList content = Node.bareList caption ∧
      children = kept ++ [captionNode
        (mergeSources [options.captionProperties] d (some d.attributes)) content] := by
  obtain ⟨-, hresolve⟩ | ⟨-, edited, hedited, hresolve⟩ :=
    imageResolve_cases options d htag
  · rw [h] at hresolve
    cases hresolve
  · rw [h] at hresolve
    by_cases hcaption : HasCaption (dropEmptyLabels edited)
    · obtain ⟨kept, content, hcontent⟩ := hcaption
      rw [ImageOptions.finish_figure hcontent] at hresolve
      cases hresolve
      obtain ⟨rest, caption, hcaptioned, hkept, heq⟩ :=
        hcontent.of_reshaped hedited.dropEmptyLabels
      rw [mergeSources_fixed hfixed { d with children := edited } d]
      exact ⟨rest, caption, kept, content, hcaptioned, hkept, heq, rfl⟩
    · rw [ImageOptions.finish_captionless hcaption] at hresolve
      cases hresolve

/-- Only a figure without a caption is refused with its children edited. -/
theorem children_of_imageResolve_error {suffix : Option String} {fault : DirectiveFault}
    (h : options.resolve d suffix = (children, .error fault)) :
    (fault ≠ .captionMissing → children = d.children) ∧
      (fault = .captionMissing →
        suffix = some "figure" ∧ Reshaped (dropEmptyLabels d.children) children) := by
  cases htag : suffix.filter imageTags.contains with
  | none =>
    rw [ImageOptions.resolve_untagged htag] at h
    cases h
    exact ⟨fun _ => rfl, nofun⟩
  | some tag =>
    obtain rfl : suffix = some tag := (Option.filter_eq_some_iff.mp htag).1
    obtain ⟨-, hresolve⟩ | ⟨-, edited, hedited, hresolve⟩ := imageResolve_cases options d htag
    · rw [h] at hresolve
      cases hresolve
      exact ⟨fun _ => rfl, nofun⟩
    · rw [h] at hresolve
      by_cases hfigure : tag = "figure"
      · subst hfigure
        by_cases hcaption : HasCaption (dropEmptyLabels edited)
        · obtain ⟨rest, caption, hcaptioned⟩ := hcaption
          rw [ImageOptions.finish_figure hcaptioned] at hresolve
          cases hresolve
        · rw [ImageOptions.finish_captionless hcaption] at hresolve
          cases hresolve
          exact ⟨fun hne => absurd rfl hne, fun _ => ⟨rfl, hedited.dropEmptyLabels⟩⟩
      · rw [ImageOptions.finish_element hfigure] at hresolve
        cases hresolve

end Container

/-! ## Containers that are rendered -/

/--
**An image container that is rendered has lost no child and no image.**

It is refused if there is no image in it, or if it is a figure and nothing gives it a caption. Else
its children are those it had, edited. A figure has no empty labels, and the label that it took its
caption from stands behind the other children now, with its images.
-/
theorem resolve_keeps_content (options : Options) (t : Transformer)
    (h : Transformer.ofOptions options = .ok t) (hfixed : options.IsFixed) (d : Directive)
    (tag : String) (hd : t.IsContainer d tag) :
    let before := d.children
    let after := (t.resolve d).1.children
    ((∃ e, (t.resolve d).2 = .error e) ↔
        Node.imagesList before = [] ∨ tag = "figure" ∧ ¬ HasCaption (dropEmptyLabels before)) ∧
      ∀ resolution, (t.resolve d).2 = .ok resolution →
        resolution = .family .image ∧
        (tag ≠ "figure" →
          (Node.imagesList after).map Image.bare = (Node.imagesList before).map Image.bare ∧
          Reshaped before after) ∧
        (tag = "figure" → ∃ rest caption kept content,
          Captioned (dropEmptyLabels before) rest caption ∧
          Node.imagesList before = Node.imagesList caption ++ Node.imagesList rest ∧
          (Node.imagesList after).map Image.bare
            = (Node.imagesList rest ++ Node.imagesList caption).map Image.bare ∧
          Reshaped rest kept ∧ Node.bareList content = Node.bareList caption ∧
          after = kept ++ [.paragraph {
              name := some "figcaption"
              properties := some
                (mergeSources [options.image.captionProperties] d (some d.attributes)) }
            content]) := by
  have htag := hd.filter_tag
  have hresolve := Transformer.resolve_container h hd
  intro before after
  have hafter : after = (t.resolve d).1.children := rfl
  rw [← isError_imageResolve_iff options.image d htag]
  cases hrun : options.image.resolve d (some tag) with
  | mk children result =>
    rw [hrun] at hresolve
    cases result with
    | error fault =>
      rw [hresolve]
      refine ⟨⟨fun _ => ⟨fault, rfl⟩, fun _ => ⟨_, rfl⟩⟩, ?_⟩
      rintro resolution ⟨⟩
    | ok target =>
      rw [hresolve] at hafter ⊢
      replace hafter : after = children := hafter
      refine ⟨⟨?_, ?_⟩, ?_⟩
      · rintro ⟨e, ⟨⟩⟩
      · rintro ⟨fault, ⟨⟩⟩
      · rintro resolution ⟨⟩
        rw [hafter]
        refine ⟨rfl, fun hne => ?_, ?_⟩
        · have hreshaped := reshaped_of_element htag hne hrun
          exact ⟨hreshaped.images, hreshaped⟩
        · rintro rfl
          obtain ⟨rest, caption, kept, content, hcaptioned, hkept, hcontent, rfl⟩ :=
            captioned_of_figure hfixed.caption htag hrun
          refine ⟨rest, caption, kept, content, hcaptioned, ?_, ?_, hkept, hcontent, rfl⟩
          · rw [← hcaptioned.imagesList, imagesList_dropEmptyLabels]
          · rw [imagesList_captionNode, List.map_append, List.map_append, hkept.images,
              ← Node.images_bareList content, hcontent, Node.images_bareList]

/-! ### A figure with a label -/

/-- Options that load every image in a container late. -/
def lazyOptions : Options where
  image := {
    imageProperties := some (.fixed (.single "loading" (.string "lazy")))
    scope := .all }

/-- The transformer of these options. -/
def lazyTransformer : Transformer :=
  { Transformer.standard with options := lazyOptions }

theorem isFixed_lazyOptions : lazyOptions.IsFixed :=
  { isFixed_standard with
    image := by
      intro f h
      cases h }

/-- A figure with an image in its label, and with an empty label in front of that. -/
def catFigure : Directive where
  kind := .container
  name := "image-figure"
  attributes := SortedMap.ofList [("class", "wide")]
  children := [
    .paragraph { label := true } [],
    .paragraph { label := true } [.text "A ", .image { url := "paw.png" }],
    .paragraph {} [.image { url := "cat.png" }],
    .blockquote [.paragraph {} [.image { url := "far.png" }]]]

theorem isContainer_catFigure : lazyTransformer.IsContainer catFigure "figure" where
  kind := rfl
  named := rfl
  valid := List.mem_cons_self

/-- The image of the label is the last one now, and the caption has the class of the figure. -/
theorem resolve_keeps_content_catFigure :
    let run := lazyTransformer.resolve catFigure
    Transformer.ofOptions lazyOptions = .ok lazyTransformer ∧ lazyOptions.IsFixed ∧
      lazyTransformer.IsContainer catFigure "figure" ∧ run.2 = .ok (.family .image) ∧
      (Node.imagesList run.1.children).map Image.url = ["cat.png", "far.png", "paw.png"] ∧
      ∃ kept content, run.1.children = kept ++ [.paragraph {
        name := some "figcaption", properties := some (.single "className" (.list ["wide"])) }
          content] := by
  have hoptions : Transformer.ofOptions lazyOptions = .ok lazyTransformer := rfl
  have hok : (lazyTransformer.resolve catFigure).2 = .ok (.family .image) := rfl
  have hkept := resolve_keeps_content lazyOptions lazyTransformer hoptions isFixed_lazyOptions
    catFigure "figure" isContainer_catFigure
  obtain ⟨-, -, hfigure⟩ := hkept.2 _ hok
  obtain ⟨-, -, kept, content, -, -, -, -, -, hafter⟩ := hfigure rfl
  exact ⟨hoptions, isFixed_lazyOptions, isContainer_catFigure, hok, rfl, kept, content, hafter⟩

/-! ## Directives that are refused -/

/--
**A directive that is refused is as it was, unless it is a figure without a caption.**

The name, the kind, the attributes and the data stay in any case. A figure without a caption has
lost its empty labels, and its other children are edited.
-/
theorem resolve_refused (t : Transformer) (d : Directive) (e : DirectiveError)
    (h : (t.resolve d).2 = .error e) :
    (t.resolve d).1.toDirectiveHead = d.toDirectiveHead ∧
      (e ≠ .invalid .image .captionMissing → (t.resolve d).1.children = d.children) ∧
      (e = .invalid .image .captionMissing →
        t.IsFigure d.name ∧
          Reshaped (dropEmptyLabels d.children) (t.resolve d).1.children) := by
  have hhead : (t.resolve d).1.toDirectiveHead = d.toDirectiveHead :=
    Transformer.head_of_resolve_error (Prod.ext rfl h)
  refine ⟨hhead, ?_⟩
  generalize hx : t.resolve d = x at h
  cases Transformer.outcome_of_resolve hx with
  | fallback => cases h
  | rendered => cases h
  | wrongKind =>
    cases h
    exact ⟨fun _ => rfl, nofun⟩
  | @invalid family found children fault hr _ ht =>
    cases h
    by_cases himage : family = .image
    · subst himage
      obtain ⟨hsame, hfigure⟩ := children_of_imageResolve_error ht
      refine ⟨fun hne => hsame fun hfault => hne (by rw [hfault]), fun heq => ?_⟩
      cases heq
      obtain ⟨hsuffix, hchildren⟩ := hfigure rfl
      refine ⟨?_, hchildren⟩
      rw [Transformer.IsFigure, hr, ← hsuffix]
    · refine ⟨fun _ => Transformer.eq_children_of_target himage ht, fun heq => ?_⟩
      cases heq
      exact absurd rfl himage

/-! ### A figure without a caption -/

/-- A figure whose image says nothing, with an empty label. -/
def muteFigure : Directive where
  kind := .container
  name := "image-figure"
  children := [.paragraph { label := true } [], .paragraph {} [.image { url := "cat.png" }]]

/-- The empty label and the paragraph are gone, and the image has got its property. -/
theorem resolve_refused_muteFigure :
    let run := lazyTransformer.resolve muteFigure
    run.2 = .error (.invalid .image .captionMissing) ∧
      run.1.children = [.image {
        url := "cat.png", data := { properties := some (.single "loading" (.string "lazy")) } }] ∧
      run.1.toDirectiveHead = muteFigure.toDirectiveHead ∧
      lazyTransformer.IsFigure muteFigure.name ∧
      Reshaped [.paragraph {} [.image { url := "cat.png" }]] run.1.children := by
  have herror : (lazyTransformer.resolve muteFigure).2
      = .error (.invalid .image .captionMissing) := rfl
  obtain ⟨hhead, -, hfigure⟩ := resolve_refused lazyTransformer muteFigure _ herror
  exact ⟨herror, rfl, hhead, hfigure rfl⟩

end MarkdownDirectives
