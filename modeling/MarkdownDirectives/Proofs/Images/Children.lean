import MarkdownDirectives.Proofs.Family.Names
import MarkdownDirectives.Proofs.Walk.Everywhere
import MarkdownDirectives.Proofs.Walk.Images

/-!
# The children of an image container

An image container edits one list of children several times: images get properties, paragraphs
around single images go, empty labels are dropped, and a figure takes its caption. Here each edit
is said once, apart from the function that does it.

* `Node.bareList` — nodes without the properties of their images, which is all that the first edit
  changes (`ImageScope.bareList_mapImages?`)
* `Unwraps` — a child and what the second edit leaves of it
* `Captioned` — where a caption is taken from, and what is left of the children
* `ImageOptions.resolve_eq` — the edits in a row; the last one is `ImageOptions.finish`

Whether there is a caption shows on the children as they were: properties of images and paragraphs
around them make no difference (`hasCaption_bareList_iff`, `hasCaption_unwraps_iff`).
-/

namespace MarkdownDirectives

/-! ## Images without their properties -/

/-- The image without its properties. -/
def Image.bare (image : Image) : Image :=
  { image with data.properties := none }

theorem Image.bare_addProperties (properties : Option Properties) (image : Image) :
    (image.addProperties properties).bare = image.bare := by
  cases properties <;> rfl

namespace Node

/-- The node without the properties of the images under it. -/
def bare (node : Node) : Node :=
  mapImages Image.bare node

/-- The nodes without the properties of the images under them. -/
def bareList (nodes : List Node) : List Node :=
  nodes.map bare

theorem bareList_eq_mapImagesList (nodes : List Node) :
    bareList nodes = mapImagesList Image.bare nodes :=
  (mapImagesList_eq_map Image.bare nodes).symm

theorem bare_paragraph (data : Data) (children : List Node) :
    bare (.paragraph data children) = .paragraph data (bareList children) := by
  rw [bare, mapImages, bareList_eq_mapImagesList]

theorem bare_image (img : Image) : bare (.image img) = .image img.bare := by
  rw [bare, mapImages]

theorem bare_eq_paragraph_iff {node : Node} {data : Data} {inner : List Node} :
    bare node = .paragraph data inner ↔
      ∃ children, node = .paragraph data children ∧ bareList children = inner := by
  cases node <;> simp [bare, mapImages, bareList_eq_mapImagesList]

theorem bare_eq_image_iff {node : Node} {img : Image} :
    bare node = .image img ↔ ∃ image, node = .image image ∧ image.bare = img := by
  cases node <;> simp [bare, mapImages]

theorem imagesList_append (xs ys : List Node) :
    imagesList (xs ++ ys) = imagesList xs ++ imagesList ys := by
  induction xs with
  | nil => rfl
  | cons x xs ih => rw [List.cons_append, imagesList_cons, imagesList_cons, ih, List.append_assoc]

theorem images_bareList (nodes : List Node) :
    imagesList (bareList nodes) = (imagesList nodes).map Image.bare := by
  rw [bareList_eq_mapImagesList, imagesList_mapImages]

/-! ### Changing images that are not looked at -/

section Unseen

variable {f g : Image → Image}

mutual

theorem mapImages_unseen (h : ∀ image, g (f image) = g image) (node : Node) :
    mapImages g (mapImages f node) = mapImages g node := by
  cases node <;> simp [mapImages, h, mapImagesList_unseen h]

theorem mapImagesList_unseen (h : ∀ image, g (f image) = g image) (nodes : List Node) :
    mapImagesList g (mapImagesList f nodes) = mapImagesList g nodes := by
  cases nodes with
  | nil => rfl
  | cons node rest =>
    rw [mapImagesList, mapImagesList, mapImages_unseen h node, mapImagesList_unseen h rest,
      mapImagesList]

end

mutual

theorem mapFirstImage_unseen (h : ∀ image, g (f image) = g image) {node node' : Node}
    (hfirst : mapFirstImage? f node = some node') : mapImages g node' = mapImages g node := by
  cases node <;> simp only [mapFirstImage?, Option.map_eq_some_iff, Option.some.injEq,
    reduceCtorEq] at hfirst
  case image img =>
    subst hfirst
    rw [mapImages, mapImages, h]
  all_goals
    obtain ⟨children, hchildren, rfl⟩ := hfirst
    simp only [mapImages, mapFirstImageList_unseen h hchildren]

theorem mapFirstImageList_unseen (h : ∀ image, g (f image) = g image) {nodes nodes' : List Node}
    (hfirst : mapFirstImageList? f nodes = some nodes') :
    mapImagesList g nodes' = mapImagesList g nodes := by
  cases nodes with
  | nil => cases hfirst
  | cons node rest =>
    rw [mapFirstImageList?] at hfirst
    split at hfirst
    · next node' hnode =>
      cases hfirst
      rw [mapImagesList, mapImagesList, mapFirstImage_unseen h hnode]
    · obtain ⟨rest', hrest, rfl⟩ := Option.map_eq_some_iff.mp hfirst
      rw [mapImagesList, mapImagesList, mapFirstImageList_unseen h hrest]

end

end Unseen

end Node

/-- Properties of images are all that a container changes under its children at first. -/
theorem ImageScope.bareList_mapImages? {scope : ImageScope} {properties : Option Properties}
    {nodes nodes' : List Node}
    (h : scope.mapImages? (Image.addProperties properties) nodes = some nodes') :
    Node.bareList nodes' = Node.bareList nodes := by
  rw [Node.bareList_eq_mapImagesList, Node.bareList_eq_mapImagesList]
  cases scope with
  | first => exact Node.mapFirstImageList_unseen (Image.bare_addProperties properties) h
  | all =>
    unfold mapImages? at h
    dsimp only at h
    split at h
    · cases h
    · cases h
      exact Node.mapImagesList_unseen (Image.bare_addProperties properties) nodes

/-! ## Images without their paragraphs -/

/-- What becomes of a child: it stays, or it is the image alone that a paragraph held. -/
inductive Unwraps : Node → Node → Prop
  | stays (node : Node) : Unwraps node node
  | unwrapped {data : Data} (image : Image) (hlabel : data.label = false) :
      Unwraps (.paragraph data [.image image]) (.image image)

section Unwraps

variable {node node' : Node} {nodes nodes' : List Node}

theorem unwraps_refl (nodes : List Node) : List.Forall₂ Unwraps nodes nodes :=
  List.forall₂_same.mpr fun node _ => .stays node

theorem unwraps_stripNode (node : Node) : Unwraps node (stripNode node) := by
  unfold stripNode
  split
  · split
    · exact .stays _
    · next hlabel => exact .unwrapped _ (Bool.eq_false_iff.mpr hlabel)
  · exact .stays _

theorem unwraps_map_stripNode (nodes : List Node) :
    List.Forall₂ Unwraps nodes (nodes.map stripNode) :=
  List.forall₂_map_right_iff.mpr (List.forall₂_same.mpr fun node _ => unwraps_stripNode node)

theorem unwraps_unwrap (options : ImageOptions) (nodes : List Node) :
    List.Forall₂ Unwraps nodes (options.unwrap nodes) := by
  unfold ImageOptions.unwrap
  split
  · exact unwraps_map_stripNode nodes
  · exact unwraps_refl nodes

theorem Unwraps.images (h : Unwraps node node') : Node.images node' = Node.images node := by
  cases h with
  | stays => rfl
  | unwrapped image hlabel => simp [Node.images, Node.imagesList]

theorem imagesList_of_unwraps (h : List.Forall₂ Unwraps nodes nodes') :
    Node.imagesList nodes' = Node.imagesList nodes := by
  induction h with
  | nil => rfl
  | cons hnode _ ih => rw [Node.imagesList_cons, Node.imagesList_cons, hnode.images, ih]

theorem stripNode_bare (node : Node) : stripNode node.bare = (stripNode node).bare := by
  by_cases h : ∃ data image, node = .paragraph data [.image image]
  · obtain ⟨data, image, rfl⟩ := h
    rw [Node.bare_paragraph, Node.bareList, List.map_singleton, Node.bare_image, stripNode,
      stripNode]
    split
    · rw [Node.bare_paragraph, Node.bareList, List.map_singleton, Node.bare_image]
    · rw [Node.bare_image]
  · have hnode : stripNode node = node :=
      stripNode_eq_self_iff.mpr fun data image heq => absurd ⟨data, image, heq⟩ h
    have hbare : stripNode node.bare = node.bare := by
      refine stripNode_eq_self_iff.mpr fun data image heq => absurd ?_ h
      obtain ⟨children, rfl, hchildren⟩ := Node.bare_eq_paragraph_iff.mp heq
      obtain ⟨child, rfl, hchild⟩ := List.map_eq_singleton_iff.mp hchildren
      obtain ⟨image, rfl, -⟩ := Node.bare_eq_image_iff.mp hchild
      exact ⟨data, image, rfl⟩
    rw [hnode, hbare]

theorem bareList_unwrap (options : ImageOptions) (nodes : List Node) :
    Node.bareList (options.unwrap nodes) = options.unwrap (Node.bareList nodes) := by
  unfold ImageOptions.unwrap
  split
  · rw [Node.bareList, Node.bareList, List.map_map, List.map_map]
    exact List.map_congr_left fun node _ => (stripNode_bare node).symm
  · rfl

end Unwraps

/-! ## Empty labels -/

/-- The nodes without empty labels. -/
def dropEmptyLabels (nodes : List Node) : List Node :=
  nodes.filter (!isEmptyLabel ·)

section EmptyLabels

variable {node node' : Node} {nodes nodes' : List Node}

theorem isEmptyLabel_bare (node : Node) : isEmptyLabel node.bare = isEmptyLabel node := by
  cases node with
  | paragraph data children =>
    rw [Node.bare_paragraph]
    cases children <;> rfl
  | _ => rfl

theorem Unwraps.isEmptyLabel (h : Unwraps node node') : isEmptyLabel node' = isEmptyLabel node := by
  cases h <;> rfl

theorem bareList_dropEmptyLabels (nodes : List Node) :
    Node.bareList (dropEmptyLabels nodes) = dropEmptyLabels (Node.bareList nodes) := by
  rw [Node.bareList, Node.bareList, dropEmptyLabels, dropEmptyLabels, List.filter_map]
  congr 1
  exact List.filter_congr fun node _ => by rw [Function.comp_apply, isEmptyLabel_bare]

theorem unwraps_dropEmptyLabels (h : List.Forall₂ Unwraps nodes nodes') :
    List.Forall₂ Unwraps (dropEmptyLabels nodes) (dropEmptyLabels nodes') := by
  refine List.rel_filter (fun node node' hnode => ?_) h
  show (!isEmptyLabel node) = true ↔ (!isEmptyLabel node') = true
  rw [hnode.isEmptyLabel]

theorem imagesList_dropEmptyLabels (nodes : List Node) :
    Node.imagesList (dropEmptyLabels nodes) = Node.imagesList nodes := by
  induction nodes with
  | nil => rfl
  | cons node rest ih =>
    rw [dropEmptyLabels, List.filter_cons, Node.imagesList_cons]
    split
    · rw [Node.imagesList_cons, ← ih]
      rfl
    · next hempty =>
      have hnone : Node.images node = [] := by
        unfold isEmptyLabel at hempty
        split at hempty
        · rw [Node.images, Node.imagesList]
        · exact absurd rfl hempty
      rw [hnone, List.nil_append, ← ih]
      rfl

end EmptyLabels

/-! ## Captions -/

/--
A figure with these children has a caption.

After the children come those that are left, and the caption. It is the label in front, which is
taken away, or else the text of an image in front, which stays.
-/
inductive Captioned : List Node → List Node → List Node → Prop
  | label {data : Data} {children rest : List Node} (hlabel : data.label = true)
      (hne : children ≠ []) : Captioned (.paragraph data children :: rest) rest children
  | image {img : Image} {rest : List Node} (halt : img.alt ≠ "") :
      Captioned (.image img :: rest) (.image img :: rest) [.text img.alt]
  | paragraph {data : Data} {img : Image} {behind rest : List Node} (hlabel : data.label = false)
      (halt : img.alt ≠ "") :
      Captioned (.paragraph data (.image img :: behind) :: rest)
        (.paragraph data (.image img :: behind) :: rest) [.text img.alt]

/-- A figure with these children has a caption. -/
def HasCaption (nodes : List Node) : Prop :=
  ∃ rest caption, Captioned nodes rest caption

section Captioned

variable {nodes nodes' rest rest' caption : List Node}

theorem hasCaption_of_leadingImage? {img : Image} (h : leadingImage? nodes = some img)
    (halt : img.alt ≠ "") : HasCaption nodes := by
  unfold leadingImage? at h
  split at h
  · cases h
    exact ⟨_, _, .image halt⟩
  · next data _ behind _ =>
    cases h
    cases hlabel : data.label with
    | true => exact ⟨_, _, .label hlabel (List.cons_ne_nil _ _)⟩
    | false => exact ⟨_, _, .paragraph hlabel halt⟩
  · cases h

theorem imageCaption_of_not (h : ¬ HasCaption nodes) :
    imageCaption nodes = .error .captionMissing := by
  unfold imageCaption
  split
  · next img himg =>
    have halt : img.alt = "" := by
      by_contra halt
      exact h (hasCaption_of_leadingImage? himg halt)
    rw [halt]
    rfl
  · rfl

theorem takeCaption_of_captioned (h : Captioned (dropEmptyLabels nodes) rest caption) :
    takeCaption nodes = (rest, .ok caption) := by
  unfold takeCaption
  rw [dropEmptyLabels] at h
  generalize nodes.filter (!isEmptyLabel ·) = kept at h
  cases h with
  | label hlabel hne => simp [hlabel, hne]
  | image halt => simp [imageCaption, leadingImage?, halt]
  | paragraph hlabel halt => simp [hlabel, imageCaption, leadingImage?, halt]

theorem takeCaption_of_not (h : ¬ HasCaption (dropEmptyLabels nodes)) :
    takeCaption nodes = (dropEmptyLabels nodes, .error .captionMissing) := by
  unfold takeCaption
  rw [dropEmptyLabels] at h ⊢
  generalize nodes.filter (!isEmptyLabel ·) = kept at h
  split
  · next data children rest =>
    have hlabel : ¬ (data.label && !children.isEmpty) = true := by
      intro hlabel
      rw [Bool.and_eq_true, Bool.not_eq_true', List.isEmpty_eq_false_iff] at hlabel
      exact h ⟨_, _, .label hlabel.1 hlabel.2⟩
    rw [if_neg hlabel, imageCaption_of_not h]
  · rw [imageCaption_of_not h]

/-- A label that is taken away takes its images along; all other images are left. -/
theorem Captioned.imagesList (h : Captioned nodes rest caption) :
    Node.imagesList nodes = Node.imagesList caption ++ Node.imagesList rest := by
  cases h with
  | label => rw [Node.imagesList_cons, Node.images]
  | image | paragraph => simp [Node.imagesList, Node.images]

/-- The images of a caption come last. -/
theorem imagesList_captionNode (properties : Properties) (kept content : List Node) :
    Node.imagesList (kept ++ [captionNode properties content])
      = Node.imagesList kept ++ Node.imagesList content := by
  rw [Node.imagesList_append, captionNode, Node.imagesList_cons, Node.images, Node.imagesList,
    List.append_nil]

/-! ### The same caption from other children -/

theorem Captioned.bareList (h : Captioned nodes rest caption) :
    Captioned (Node.bareList nodes) (Node.bareList rest) (Node.bareList caption) := by
  cases h with
  | @label data children rest hlabel hne =>
    rw [Node.bareList, List.map_cons, Node.bare_paragraph]
    exact .label hlabel (List.map_eq_nil_iff.not.mpr hne)
  | @image img rest halt =>
    have hbare : img.bare.alt ≠ "" := halt
    rw [Node.bareList, List.map_cons, Node.bare_image]
    exact .image hbare
  | @paragraph data img behind rest hlabel halt =>
    have hbare : img.bare.alt ≠ "" := halt
    rw [Node.bareList, List.map_cons, Node.bare_paragraph, Node.bareList, List.map_cons,
      Node.bare_image]
    exact .paragraph hlabel hbare

/-- A caption does not come from properties of images. -/
theorem Captioned.of_bareList {left found : List Node}
    (h : Captioned (Node.bareList nodes) left found) :
    ∃ rest caption, Captioned nodes rest caption ∧ Node.bareList rest = left ∧
      Node.bareList caption = found := by
  cases nodes with
  | nil => cases h
  | cons node rest =>
    rw [Node.bareList, List.map_cons] at h
    generalize hnode : node.bare = node' at h
    cases h with
    | label hlabel hne =>
      obtain ⟨children, rfl, hchildren⟩ := Node.bare_eq_paragraph_iff.mp hnode
      have hne' : children ≠ [] := by
        rintro rfl
        exact hne hchildren.symm
      exact ⟨rest, children, .label hlabel hne', rfl, hchildren⟩
    | image halt =>
      obtain ⟨img, rfl, rfl⟩ := Node.bare_eq_image_iff.mp hnode
      exact ⟨_, _, .image halt, by rw [Node.bareList, List.map_cons, Node.bare_image], rfl⟩
    | paragraph hlabel halt =>
      obtain ⟨children, rfl, hchildren⟩ := Node.bare_eq_paragraph_iff.mp hnode
      obtain ⟨child, behind, rfl, hchild, hbehind⟩ := List.map_eq_cons_iff.mp hchildren
      obtain ⟨img, rfl, rfl⟩ := Node.bare_eq_image_iff.mp hchild
      refine ⟨_, _, .paragraph hlabel halt, ?_, rfl⟩
      rw [Node.bareList, List.map_cons, hnode]

theorem Captioned.unwraps (h : Captioned nodes rest caption)
    (hnodes : List.Forall₂ Unwraps nodes nodes') :
    ∃ rest', Captioned nodes' rest' caption ∧ List.Forall₂ Unwraps rest rest' := by
  cases hnodes with
  | nil => cases h
  | cons hnode hrest =>
    cases hnode with
    | stays =>
      cases h with
      | label hlabel hne => exact ⟨_, .label hlabel hne, hrest⟩
      | image halt => exact ⟨_, .image halt, .cons (.stays _) hrest⟩
      | paragraph hlabel halt => exact ⟨_, .paragraph hlabel halt, .cons (.stays _) hrest⟩
    | unwrapped image hfree =>
      cases h with
      | label hlabel => rw [hfree] at hlabel; cases hlabel
      | paragraph _ halt => exact ⟨_, .image halt, .cons (.unwrapped image hfree) hrest⟩

/-- An image in front gives the same caption in its paragraph. -/
theorem Captioned.of_unwraps (h : Captioned nodes' rest' caption)
    (hnodes : List.Forall₂ Unwraps nodes nodes') :
    ∃ rest, Captioned nodes rest caption ∧ List.Forall₂ Unwraps rest rest' := by
  cases hnodes with
  | nil => cases h
  | cons hnode hrest =>
    cases hnode with
    | stays =>
      cases h with
      | label hlabel hne => exact ⟨_, .label hlabel hne, hrest⟩
      | image halt => exact ⟨_, .image halt, .cons (.stays _) hrest⟩
      | paragraph hlabel halt => exact ⟨_, .paragraph hlabel halt, .cons (.stays _) hrest⟩
    | unwrapped image hfree =>
      cases h with
      | image halt => exact ⟨_, .paragraph hfree halt, .cons (.unwrapped image hfree) hrest⟩

theorem hasCaption_unwraps_iff (h : List.Forall₂ Unwraps nodes nodes') :
    HasCaption nodes' ↔ HasCaption nodes := by
  constructor
  · rintro ⟨rest', caption, hcaption⟩
    obtain ⟨rest, hcaption, -⟩ := hcaption.of_unwraps h
    exact ⟨rest, caption, hcaption⟩
  · rintro ⟨rest, caption, hcaption⟩
    obtain ⟨rest', hcaption, -⟩ := hcaption.unwraps h
    exact ⟨rest', caption, hcaption⟩

theorem hasCaption_bareList_iff : HasCaption (Node.bareList nodes) ↔ HasCaption nodes := by
  constructor
  · rintro ⟨_, _, hcaption⟩
    obtain ⟨rest, caption, hcaption, -⟩ := hcaption.of_bareList
    exact ⟨rest, caption, hcaption⟩
  · rintro ⟨_, _, hcaption⟩
    exact ⟨_, _, hcaption.bareList⟩

end Captioned

/-! ## The last edit -/

namespace ImageOptions

/-- What a container is rendered as, and with which children, once they have been edited. -/
def finish (options : ImageOptions) (d : Directive) (tag : String) (children : List Node) :
    List Node × Except DirectiveFault RenderTarget :=
  if tag = "figure" then options.figure { d with children }
  else (children, .ok {
    name := tag
    properties := mergeSources [options.elementProperties] { d with children }
      (some d.attributes) })

variable {options : ImageOptions} {d : Directive} {tag : String} {suffix : Option String}
  {mapped children rest caption : List Node}

/-! ### The edits in a row -/

theorem resolve_untagged (htag : suffix.filter imageTags.contains = none) :
    options.resolve d suffix = (d.children, .error .unknownTag) := by
  rw [resolve, htag]

theorem resolve_imageless (htag : suffix.filter imageTags.contains = some tag)
    (himages : Node.imagesList d.children = []) :
    options.resolve d suffix = (d.children, .error .imageMissing) := by
  rw [resolve, htag]
  dsimp only
  rw [ImageScope.mapImages?_eq_none_iff.mpr himages]

theorem resolve_eq (options : ImageOptions) (htag : suffix.filter imageTags.contains = some tag)
    (hmapped : options.scope.mapImages?
      (Image.addProperties (resolveSource options.imageProperties d)) d.children = some mapped) :
    options.resolve d suffix = options.finish d tag (options.unwrap mapped) := by
  rw [resolve, htag]
  dsimp only
  rw [hmapped]
  rfl

/-! ### How it ends -/

theorem finish_element (hne : tag ≠ "figure") :
    options.finish d tag children = (children, .ok {
      name := tag
      properties := mergeSources [options.elementProperties] { d with children }
        (some d.attributes) }) :=
  if_neg hne

theorem finish_figure (h : Captioned (dropEmptyLabels children) rest caption) :
    options.finish d "figure" children =
      (rest ++ [captionNode (mergeSources [options.captionProperties] { d with children }
          (some d.attributes)) caption],
        .ok {
          name := "figure"
          properties := mergeSources [options.figureProperties] { d with children } none }) := by
  rw [finish, if_pos rfl, figure]
  dsimp only
  rw [takeCaption_of_captioned h]

theorem finish_captionless (h : ¬ HasCaption (dropEmptyLabels children)) :
    options.finish d "figure" children
      = (dropEmptyLabels children, .error .captionMissing) := by
  rw [finish, if_pos rfl, figure]
  dsimp only
  rw [takeCaption_of_not h]

end ImageOptions

/-! ## Containers -/

/-- The directive with the children that a container ends up with. -/
def Directive.containerResult (d : Directive) :
    List Node × Except DirectiveFault RenderTarget → Directive × Except DirectiveError Resolution
  | (children, .error fault) => ({ d with children }, .error (.invalid .image fault))
  | (children, .ok target) =>
    ({ d with children, data := target.apply d.data }, .ok (.family .image))

section ContainerResult

variable (d : Directive) {run run' : List Node × Except DirectiveFault RenderTarget}

theorem Directive.children_containerResult : (d.containerResult run).1.children = run.1 := by
  obtain ⟨children, result⟩ := run
  cases result <;> rfl

/-- Only the children of the result depend on the children. -/
theorem Directive.containerResult_congr (h : run'.2 = run.2) :
    (d.containerResult run').2 = (d.containerResult run).2 ∧
      (d.containerResult run').1.toDirectiveHead = (d.containerResult run).1.toDirectiveHead := by
  obtain ⟨children, result⟩ := run
  obtain ⟨children', result'⟩ := run'
  obtain rfl : result' = result := h
  cases result' <;> exact ⟨rfl, rfl⟩

end ContainerResult

namespace Transformer

/-- The directive is an image container with a tag that it can have. -/
structure IsContainer (t : Transformer) (d : Directive) (tag : String) : Prop where
  kind : d.kind = .container
  named : t.image.match? d.name = some ⟨some tag⟩
  valid : tag ∈ imageTags

variable {options : Options} {t : Transformer} {d : Directive} {tag : String}

theorem IsContainer.filter_tag (hd : t.IsContainer d tag) :
    (some tag).filter imageTags.contains = some tag := by
  rw [Option.filter_eq_some_iff]
  exact ⟨rfl, List.contains_iff_mem.mpr hd.valid⟩

/-- The image family decides on a container. -/
theorem resolve_container (h : ofOptions options = .ok t) (hd : t.IsContainer d tag) :
    t.resolve d = d.containerResult (options.image.resolve d (some tag)) := by
  have hroute : t.route d.name = some (.image, ⟨some tag⟩) := (route_image_iff h).mpr hd.named
  have hkind : d.kind = Family.image.kind := hd.kind
  rw [resolve, hroute]
  dsimp only
  rw [Family.checkKind, if_pos hkind]
  dsimp only
  rw [target, (ofOptions_ok h).1]
  rfl

theorem IsContainer.isFigure_iff (h : ofOptions options = .ok t) (hd : t.IsContainer d tag) :
    t.IsFigure d.name ↔ tag = "figure" := by
  rw [IsFigure, (route_image_iff h).mpr hd.named]
  simp

/-- A figure that is rendered is a container. -/
theorem IsFigure.isContainer (h : ofOptions options = .ok t) (hfigure : t.IsFigure d.name)
    {resolution : Resolution} (hok : (t.resolve d).2 = .ok resolution) :
    t.IsContainer d "figure" where
  kind := by
    rw [IsFigure] at hfigure
    generalize hx : t.resolve d = x at hok
    cases outcome_of_resolve hx with
    | fallback hr =>
      rw [hfigure] at hr
      cases hr
    | wrongKind => cases hok
    | invalid => cases hok
    | rendered hr hk =>
      rw [hfigure] at hr
      cases hr
      exact hk
  named := (route_image_iff h).mp hfigure
  valid := List.mem_cons_self

end Transformer

end MarkdownDirectives
