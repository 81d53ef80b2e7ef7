import MarkdownDirectives.Proofs.Layers.Merging
import MarkdownDirectives.Proofs.Walk.Frame
import MarkdownDirectives.Proofs.Walk.Images
import MarkdownDirectives.Proofs.Walk.Overwrite

/-!
# Transforming a document again

A document that has been transformed may be transformed again. If there is no figure in it, nothing
changes: every directive is resolved as before, and the tree stays as it is (`transform_again`).

An image container has changed its images and unwrapped some of them when the walk goes on inside
it, and the containers there do the same. So the first run does not leave behind what the container
saw, and two things are carried through the walk:

* `updated_of_succeeds` — an image stays, or it gets the properties of the options, once
* `outlineList_of_succeeds` — what is no directive keeps its form, a text and a lone image as well

Both leave a container nothing to do the second time (`imageResolve_again`). What the other families
read, no one writes (`resolve_again`).

## Figures

The caption of a figure is taken from its label, which is gone afterwards. So figures are left out.
-/

namespace MarkdownDirectives

/-! ## What outlines show -/

namespace Node

variable {hides : String → Bool}

theorem outline_eq_image_iff {node : Node} {img : Image} :
    outline hides node = .image img ↔ node = .image img := by
  cases node <;> simp [outline]

/-- A paragraph around a single image has no other outline than itself. -/
theorem outline_eq_lone_iff {node : Node} {data : Data} {img : Image} :
    outline hides node = .paragraph data [.image img] ↔ node = .paragraph data [.image img] := by
  cases node with
  | paragraph data' children =>
    rw [outline, paragraph.injEq, paragraph.injEq]
    cases children with
    | nil => simp [outlineList]
    | cons child rest =>
      cases rest with
      | nil => simp [outlineList, outline_eq_image_iff]
      | cons next rest => simp [outlineList]
  | _ => simp [outline]

/-- Nodes of the same outline have the same text in front. -/
theorem firstText_of_outline {head : DirectiveHead} {nodes nodes' : List Node}
    (h : outlineList hides nodes' = outlineList hides nodes) :
    Directive.firstText? ⟨head, nodes'⟩ = Directive.firstText? ⟨head, nodes⟩ := by
  have hread : ∀ nodes : List Node, Directive.firstText? ⟨head, nodes⟩
      = Directive.firstText? ⟨head, outlineList hides nodes⟩ := by
    intro nodes
    cases nodes with
    | nil => rfl
    | cons node rest =>
      rw [outlineList_cons]
      cases node <;> rfl
  rw [hread nodes', h, ← hread nodes]

end Node

theorem map_stripNode_of_outline {hides : String → Bool} {nodes nodes' : List Node}
    (h : Node.outlineList hides nodes' = Node.outlineList hides nodes)
    (hs : nodes.map stripNode = nodes) : nodes'.map stripNode = nodes' := by
  induction nodes' generalizing nodes with
  | nil => rfl
  | cons node' rest' ih =>
    cases nodes with
    | nil => cases h
    | cons node rest =>
      rw [Node.outlineList_cons, Node.outlineList_cons, List.cons.injEq] at h
      rw [List.map_cons, List.cons.injEq] at hs
      have hnode : stripNode node' = node' := by
        rw [stripNode_eq_self_iff]
        rintro data image rfl
        have hlone : node = .paragraph data [.image image] :=
          Node.outline_eq_lone_iff.mp (h.1.symm.trans (Node.outline_eq_lone_iff.mpr rfl))
        exact stripNode_eq_self_iff.mp hs.1 data image hlone
      rw [List.map_cons, hnode, ih h.2 hs.2]

theorem unwrap_of_outline {options : ImageOptions} {hides : String → Bool}
    {nodes nodes' : List Node}
    (h : Node.outlineList hides nodes' = Node.outlineList hides (options.unwrap nodes)) :
    options.unwrap nodes' = nodes' := by
  unfold ImageOptions.unwrap at *
  split
  · next hstrip =>
    rw [if_pos hstrip] at h
    refine map_stripNode_of_outline h ?_
    rw [List.map_map]
    exact List.map_congr_left fun node _ => stripNode_stripNode node
  · rfl

/-! ## One directive -/

/-- An image container finds what it would leave behind. -/
theorem imageResolve_again {options : ImageOptions} {d : Directive} {suffix : Option String}
    {children inner : List Node} {target : RenderTarget} {hides : String → Bool}
    (himage : IsFixedSource options.imageProperties)
    (helement : IsFixedSource options.elementProperties) (hf : suffix ≠ some "figure")
    (h : options.resolve d suffix = (children, .ok target))
    (himages : List.Forall₂
      (Updated (Image.addProperties (resolveSource options.imageProperties d)))
      (Node.imagesList children) (Node.imagesList inner))
    (houtline : Node.outlineList hides inner = Node.outlineList hides children) :
    options.resolve { d with children := inner } suffix = (inner, .ok target) := by
  obtain ⟨tag, mapped, htag, hmapped, rfl, rfl⟩ := (imageResolve_eq_ok_iff hf).mp h
  have hsource := resolveSource_fixed himage { d with children := inner } d
  refine (imageResolve_eq_ok_iff hf).mpr ⟨tag, inner, htag, ?_, ?_, ?_⟩
  · rw [hsource]
    rw [imagesList_unwrap] at himages
    exact mapImages?_again (addProperties_addProperties _) hmapped himages
  · exact (unwrap_of_outline houtline).symm
  · rw [mergeSources_fixed helement { d with children := options.unwrap mapped }
      { d with children := inner }]

namespace Transformer

variable {t : Transformer} {d d' : Directive} {resolution : Resolution}
  {nodes out inner : List Node} {visits : List Visit} {hides : String → Bool}

/-- What an image container does to an image, if the options do not look at the directive. -/
def imageUpdate (t : Transformer) : Image → Image :=
  Image.addProperties (resolveSource t.options.image.imageProperties default)

theorem imageUpdate_imageUpdate (t : Transformer) (image : Image) :
    t.imageUpdate (t.imageUpdate image) = t.imageUpdate image :=
  addProperties_addProperties _ image

theorem imageUpdate_eq (hfixed : t.options.IsFixed) (d : Directive) :
    Image.addProperties (resolveSource t.options.image.imageProperties d) = t.imageUpdate := by
  rw [imageUpdate, resolveSource_fixed hfixed.image d default]

/-- The images in a directive stay or get the properties of the options. -/
theorem updated_of_resolve (hfixed : t.options.IsFixed) (hfig : ¬ t.IsFigure d.name)
    (hd : t.resolve d = (d', .ok resolution)) :
    List.Forall₂ (Updated t.imageUpdate) (Node.imagesList d.children)
      (Node.imagesList d'.children) := by
  cases outcome_of_resolve hd with
  | fallback => exact updated_self _ _
  | @rendered family found children target hr hk ht =>
    by_cases hf : family = .image
    · subst hf
      obtain ⟨tag, mapped, -, hmapped, rfl, -⟩ :=
        (imageResolve_eq_ok_iff (suffix_ne_figure hr hfig)).mp ht
      rw [imageUpdate_eq hfixed] at hmapped
      show List.Forall₂ _ _ (Node.imagesList (t.options.image.unwrap mapped))
      rw [imagesList_unwrap, ImageScope.imagesList_mapImages? hmapped]
      exact updated_change _ _ _
    · obtain rfl := eq_children_of_target hf ht
      exact updated_self _ _

/-- **A directive that has been resolved is resolved as it is.** -/
theorem resolve_again (hfixed : t.options.IsFixed) (hfig : ¬ t.IsFigure d.name)
    (hd : t.resolve d = (d', .ok resolution))
    (himages : List.Forall₂ (Updated t.imageUpdate) (Node.imagesList d'.children)
      (Node.imagesList inner))
    (houtline : Node.outlineList hides inner = Node.outlineList hides d'.children) :
    t.resolve { d' with children := inner } = ({ d' with children := inner }, .ok resolution) := by
  cases outcome_of_resolve hd with
  | fallback hr => exact resolve_unrouted (d := { applyFallback d with children := inner }) hr
  | @rendered family found children target hr hk ht =>
    have htarget : t.target family { d with children := inner } found.suffix
        = (inner, .ok target) := by
      by_cases hf : family = .image
      · subst hf
        rw [← imageUpdate_eq hfixed d] at himages
        exact imageResolve_again hfixed.image hfixed.element (suffix_ne_figure hr hfig) ht himages
          houtline
      · obtain rfl := eq_children_of_target hf ht
        have hreading : d.SameReading { d with children := inner } :=
          ⟨rfl, Node.firstText_of_outline houtline⟩
        rw [target_of_reading hreading hfixed hf, ht]
    have hagain := target_congr (Directive.sameContent_data { d with children := inner }
      (target.apply d.data)) found.suffix hfixed family
    rw [htarget] at hagain
    exact resolve_rendered (d := { d with children := inner, data := target.apply d.data }) hr hk
      hagain

/-! ## A whole walk -/

/-- There is no figure among the nodes or inside them. -/
def NoFigure (t : Transformer) (nodes : List Node) : Prop :=
  ∀ head ∈ Node.directivesList nodes, ¬ t.IsFigure head.name

theorem NoFigure.cons {node : Node} {rest : List Node} (h : t.NoFigure (node :: rest)) :
    (∀ head ∈ Node.directives node, ¬ t.IsFigure head.name) ∧ t.NoFigure rest :=
  List.forall_mem_append.mp h

theorem NoFigure.plain {node : Node} {children rest : List Node} (h : t.NoFigure (node :: rest))
    (hp : node.IsPlain) (hc : node.children? = some children) : t.NoFigure children := by
  have hnode := h.cons.1
  rw [Node.directives_plain hp hc] at hnode
  exact hnode

/-- Resolving a directive brings no figure into it. -/
theorem NoFigure.directive {rest : List Node} (h : t.NoFigure (d.toNode :: rest))
    (hd : t.resolve d = (d', .ok resolution)) :
    ¬ t.IsFigure d.name ∧ t.NoFigure d'.children := by
  obtain ⟨hhead, hchildren⟩ := List.forall_mem_cons.mp h.cons.1
  refine ⟨hhead, ?_⟩
  rw [NoFigure, directivesList_of_resolve hd hhead]
  exact hchildren

theorem updated_of_succeeds (hfixed : t.options.IsFixed) (h : t.Succeeds nodes out visits)
    (hfig : t.NoFigure nodes) :
    List.Forall₂ (Updated t.imageUpdate) (Node.imagesList nodes) (Node.imagesList out) := by
  induction h with
  | nil => exact .nil
  | childless _ _ ih =>
    rw [Node.imagesList_cons, Node.imagesList_cons]
    exact List.rel_append (updated_self _ _) (ih hfig.cons.2)
  | plain hp hc _ _ ihi ihr =>
    rw [Node.imagesList_cons, Node.imagesList_cons, Node.images_of_children hc,
      Node.images_of_children (Node.children_withChildren hc _)]
    exact List.rel_append (ihi (hfig.plain hp hc)) (ihr hfig.cons.2)
  | directive hd _ _ ihi ihr =>
    obtain ⟨hhead, hinside⟩ := hfig.directive hd
    rw [Node.imagesList_cons, Node.imagesList_cons]
    refine List.rel_append ?_ (ihr hfig.cons.2)
    -- the directive itself comes first, then those inside it
    exact updated_trans t.imageUpdate_imageUpdate (updated_of_resolve hfixed hhead hd) (ihi hinside)

/-- **A walk over what a walk has left behind changes nothing.** -/
theorem succeeds_again (hfixed : t.options.IsFixed) (h : t.Succeeds nodes out visits)
    (hfig : t.NoFigure nodes) : t.Succeeds out out visits := by
  induction h with
  | nil => exact .nil
  | childless hn _ ih => exact .childless hn (ih hfig.cons.2)
  | @plain node children inner rest out within behind hp hc _ _ ihi ihr =>
    have hagain := Succeeds.plain (Node.isPlain_withChildren hp inner)
      (Node.children_withChildren hc inner) (ihi (hfig.plain hp hc)) (ihr hfig.cons.2)
    rwa [Node.withChildren_withChildren] at hagain
  | @directive d d' resolution inner rest out within behind hd hi _ ihi ihr =>
    obtain ⟨hhead, hinside⟩ := hfig.directive hd
    have himages := updated_of_succeeds hfixed hi hinside
    -- what directives have inside does not matter for the form of what is around them
    have houtline : Node.outlineList (fun _ => true) inner
        = Node.outlineList (fun _ => true) d'.children :=
      outlineList_of_succeeds (fun _ _ => rfl) hi
    have hnode := Succeeds.directive (resolve_again hfixed hhead hd himages houtline)
      (ihi hinside) (ihr hfig.cons.2)
    exact hnode

end Transformer

/-! ## The whole document -/

/--
**Transforming a document twice is transforming it once, if it has no figure.**

The second run ends well like the first, with the same report and the same visits, and it leaves
the tree as it finds it. The property sources of the options must not look at the directive, which
has changed between the runs.
-/
theorem transform_again (options : Options) (t : Transformer)
    (h : Transformer.ofOptions options = .ok t) (hfixed : options.IsFixed) (document : Document)
    (hfig : ∀ head ∈ Node.directivesList document.children,
      t.image.match? head.name ≠ some ⟨some "figure"⟩)
    (report : Report) (hok : (t.transform document).result = .ok report) :
    let once := t.transform document
    let again := t.transform once.document
    again.result = .ok report ∧ again.visits = once.visits ∧ again.document = once.document := by
  intro once again
  have hoptions : t.options = options := (Transformer.ofOptions_ok h).1
  rw [← hoptions] at hfixed
  have hnone : t.NoFigure document.children := fun head hhead hfigure =>
    hfig head hhead ((Transformer.route_image_iff h).mp hfigure)
  obtain ⟨hs, hreport⟩ := Transformer.succeeds_transform hok
  have hrun : again = ⟨once.document, once.visits, .ok (.ofVisits once.visits)⟩ :=
    Transformer.transform_of_succeeds (Transformer.succeeds_again hfixed hs hnone)
  rw [hrun, hreport]
  exact ⟨rfl, rfl, rfl⟩

/-! ### An image in two containers -/

/-- Options that give a class to every image in a container. -/
def shotOptions : Options where
  image := {
    imageProperties := some (.fixed (SortedMap.ofList [("class", .string "shot"),
      ("loading", .string "lazy")])) }

/-- The transformer of these options. -/
def shotTransformer : Transformer :=
  { Transformer.standard with options := shotOptions }

theorem isFixed_shotOptions : shotOptions.IsFixed :=
  { isFixed_standard with
    image := by
      intro f h
      cases h }

/-- Two containers around an image with a class of its own, and a link beside it. -/
def shotGallery : Directive where
  kind := .container
  name := "image-div"
  children := [
    .directive { kind := .container, name := "image-span" } [.paragraph {} [.image {
      url := "a.png", data := { properties := some (.single "className" (.list ["wide"])) } }]],
    .paragraph {} [.directive {
      kind := .text, name := "link", attributes := SortedMap.ofList [("id", "@octocat")] } []]]

theorem succeeds_shotGallery : ∃ out,
    shotTransformer.Succeeds [shotGallery.toNode] out
        [⟨"image-div", .container, .family .image⟩, ⟨"image-span", .container, .family .image⟩,
          ⟨"link", .text, .family .link⟩] ∧
      (Node.imagesList out).map (fun image => image.data.properties)
        = [some (SortedMap.ofList [("className", .list ["wide", "shot"]),
            ("loading", .string "lazy")])] := by
  have hlink := Transformer.Succeeds.directive (t := shotTransformer)
    (d := ⟨{ kind := .text, name := "link", attributes := SortedMap.ofList [("id", "@octocat")] },
      []⟩) rfl .nil .nil
  have hinner : shotTransformer.Succeeds (shotTransformer.resolve shotGallery).1.children _ _ :=
    .directive (d := ⟨{ kind := .container, name := "image-span" }, _⟩) rfl (.childless rfl .nil)
      (.plain (by rintro head children ⟨⟩) rfl hlink .nil)
  exact ⟨_, .directive rfl hinner .nil, rfl⟩

/-- The image gets the class from both containers, and has it once behind both runs. -/
theorem transform_again_shotGallery :
    let once := shotTransformer.transform ⟨[shotGallery.toNode]⟩
    let again := shotTransformer.transform once.document
    Transformer.ofOptions shotOptions = .ok shotTransformer ∧
      shotOptions.IsFixed ∧
      (∀ head ∈ Node.directivesList [shotGallery.toNode],
        shotTransformer.image.match? head.name ≠ some ⟨some "figure"⟩) ∧
      once.result = .ok { image := 2, link := 1 } ∧
      (Node.imagesList once.document.children).map (fun image => image.data.properties)
        = [some (SortedMap.ofList [("className", .list ["wide", "shot"]),
            ("loading", .string "lazy")])] ∧
      again.result = .ok { image := 2, link := 1 } ∧
      again.visits = once.visits ∧
      again.document = once.document := by
  obtain ⟨out, hs, himages⟩ := succeeds_shotGallery
  have hrun := Transformer.transform_of_succeeds hs
  have haccepted : Transformer.ofOptions shotOptions = .ok shotTransformer := rfl
  have hfig : ∀ head ∈ Node.directivesList [shotGallery.toNode],
      shotTransformer.image.match? head.name ≠ some ⟨some "figure"⟩ := by decide
  have hok : (shotTransformer.transform ⟨[shotGallery.toNode]⟩).result
      = .ok { image := 2, link := 1 } := by rw [hrun]; rfl
  have hagain := transform_again shotOptions shotTransformer haccepted isFixed_shotOptions
    ⟨[shotGallery.toNode]⟩ hfig _ hok
  exact ⟨haccepted, isFixed_shotOptions, hfig, hok, by rw [hrun]; exact himages, hagain⟩

end MarkdownDirectives
