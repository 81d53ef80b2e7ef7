import Mathlib.Data.List.Forall2
import MarkdownDirectives.Transform

/-!
# The images of a tree

An image container changes the images under it as its scope says, the first one or all of them. In
the list of these images (`Node.imagesList`) that is `ImageScope.change`, whatever the nodes are in
between (`imagesList_mapImages?`), and nothing happens if the list is as it would be changed
(`mapImages?_of_fixed`). Taking an image out of its paragraph leaves the list as it is.

Several containers around one image change it one after the other. If the change is idempotent, the
image is `Updated` by all of them or by none, and a container that has changed its images finds
nothing to do when it is asked again (`mapImages?_again`).
-/

namespace MarkdownDirectives

namespace Node

variable {f : Image → Image}

theorem imagesList_cons (node : Node) (rest : List Node) :
    imagesList (node :: rest) = images node ++ imagesList rest := by
  rw [imagesList]

theorem images_of_children {node : Node} {children : List Node}
    (h : node.children? = some children) : images node = imagesList children := by
  cases node with
  | code | html | thematicBreak | text | inlineCode | lineBreak | image => cases h
  | _ =>
    cases h
    rw [images]

/-! ## Every image -/

mutual

theorem images_mapImages (f : Image → Image) (node : Node) :
    images (mapImages f node) = (images node).map f := by
  cases node <;> simp [mapImages, images, imagesList_mapImages]

theorem imagesList_mapImages (f : Image → Image) (nodes : List Node) :
    imagesList (mapImagesList f nodes) = (imagesList nodes).map f := by
  cases nodes with
  | nil => rfl
  | cons node rest =>
    rw [mapImagesList, imagesList_cons, imagesList_cons, List.map_append, images_mapImages f node,
      imagesList_mapImages f rest]

end

mutual

theorem mapImages_of_fixed {node : Node} (h : ∀ image ∈ images node, f image = image) :
    mapImages f node = node := by
  cases node with
  | image img => rw [mapImages, h img (List.mem_singleton_self img)]
  | code | html | thematicBreak | text | inlineCode | lineBreak => rw [mapImages] <;> nofun
  | _ => rw [mapImages, mapImagesList_of_fixed h]

theorem mapImagesList_of_fixed {nodes : List Node}
    (h : ∀ image ∈ imagesList nodes, f image = image) : mapImagesList f nodes = nodes := by
  cases nodes with
  | nil => rfl
  | cons node rest =>
    obtain ⟨hnode, hrest⟩ := List.forall_mem_append.mp h
    rw [mapImagesList, mapImages_of_fixed hnode, mapImagesList_of_fixed hrest]

end

/-! ## The first image -/

mutual

theorem mapFirstImage?_eq_none_iff (node : Node) :
    mapFirstImage? f node = none ↔ images node = [] := by
  cases node <;> simp [mapFirstImage?, images, mapFirstImageList?_eq_none_iff]

theorem mapFirstImageList?_eq_none_iff (nodes : List Node) :
    mapFirstImageList? f nodes = none ↔ imagesList nodes = [] := by
  cases nodes with
  | nil => simp [mapFirstImageList?, imagesList]
  | cons node rest =>
    rw [mapFirstImageList?, imagesList_cons, List.append_eq_nil_iff,
      ← mapFirstImage?_eq_none_iff node, ← mapFirstImageList?_eq_none_iff rest]
    cases mapFirstImage? f node with
    | none => simp
    | some node' => simp

end

mutual

theorem images_mapFirstImage {node node' : Node} (h : mapFirstImage? f node = some node') :
    images node' = (images node).modifyHead f := by
  cases node <;> simp only [mapFirstImage?, Option.map_eq_some_iff, Option.some.injEq,
    reduceCtorEq] at h
  case image => subst h; rfl
  all_goals
    obtain ⟨children, hc, rfl⟩ := h
    simp only [images, imagesList_mapFirstImage hc]

theorem imagesList_mapFirstImage {nodes nodes' : List Node}
    (h : mapFirstImageList? f nodes = some nodes') :
    imagesList nodes' = (imagesList nodes).modifyHead f := by
  cases nodes with
  | nil => cases h
  | cons node rest =>
    rw [mapFirstImageList?] at h
    rw [imagesList_cons]
    cases hnode : mapFirstImage? f node with
    | some node' =>
      rw [hnode] at h
      cases h
      have hne : images node ≠ [] := by
        rw [ne_eq, ← mapFirstImage?_eq_none_iff (f := f), hnode]
        exact Option.some_ne_none node'
      rw [imagesList_cons, images_mapFirstImage hnode]
      cases himages : images node with
      | nil => exact absurd himages hne
      | cons first later => rfl
    | none =>
      rw [hnode] at h
      obtain ⟨rest', hrest, rfl⟩ := Option.map_eq_some_iff.mp h
      rw [imagesList_cons, (mapFirstImage?_eq_none_iff node).mp hnode,
        imagesList_mapFirstImage hrest]
      rfl

end

mutual

theorem mapFirstImage_of_fixed {node : Node} (hne : images node ≠ [])
    (h : (images node).modifyHead f = images node) : mapFirstImage? f node = some node := by
  cases node with
  | image img =>
    have himg : f img = img := List.cons.inj h |>.1
    rw [mapFirstImage?, himg]
  | code | html | thematicBreak | text | inlineCode | lineBreak => exact absurd rfl hne
  | _ =>
    rw [mapFirstImage?, mapFirstImageList_of_fixed hne h]
    rfl

theorem mapFirstImageList_of_fixed {nodes : List Node} (hne : imagesList nodes ≠ [])
    (h : (imagesList nodes).modifyHead f = imagesList nodes) :
    mapFirstImageList? f nodes = some nodes := by
  cases nodes with
  | nil => exact absurd rfl hne
  | cons node rest =>
    rw [imagesList_cons] at hne h
    rw [mapFirstImageList?]
    cases himages : images node with
    | nil =>
      rw [himages, List.nil_append] at hne h
      rw [(mapFirstImage?_eq_none_iff node).mpr himages, mapFirstImageList_of_fixed hne h]
      rfl
    | cons first later =>
      rw [himages, List.cons_append, List.modifyHead_cons, List.cons.injEq] at h
      have hnode : mapFirstImage? f node = some node :=
        mapFirstImage_of_fixed (by rw [himages]; exact List.cons_ne_nil _ _)
          (by rw [himages, List.modifyHead_cons, h.1])
      rw [hnode]

end

end Node

/-! ## The images of a scope -/

namespace ImageScope

variable {scope : ImageScope} {f : Image → Image} {nodes nodes' : List Node}

/-- What happens to the images under a container. -/
def change (scope : ImageScope) (f : Image → Image) (images : List Image) : List Image :=
  match scope with
  | .first => images.modifyHead f
  | .all => images.map f

theorem change_eq_nil_iff {images : List Image} : scope.change f images = [] ↔ images = [] := by
  cases scope with
  | first => exact List.modifyHead_eq_nil_iff
  | all => exact List.map_eq_nil_iff

/-- There is nothing to change exactly where there is no image. -/
theorem mapImages?_eq_none_iff :
    scope.mapImages? f nodes = none ↔ Node.imagesList nodes = [] := by
  cases scope with
  | first => exact Node.mapFirstImageList?_eq_none_iff nodes
  | all => simp [mapImages?]

theorem imagesList_mapImages? (h : scope.mapImages? f nodes = some nodes') :
    Node.imagesList nodes' = scope.change f (Node.imagesList nodes) := by
  cases scope with
  | first => exact Node.imagesList_mapFirstImage h
  | all =>
    unfold mapImages? at h
    dsimp only at h
    split at h
    · cases h
    · cases h
      exact Node.imagesList_mapImages f nodes

theorem mapImages?_of_fixed (hne : Node.imagesList nodes ≠ [])
    (h : scope.change f (Node.imagesList nodes) = Node.imagesList nodes) :
    scope.mapImages? f nodes = some nodes := by
  cases scope with
  | first => exact Node.mapFirstImageList_of_fixed hne h
  | all =>
    have hfixed : ∀ image ∈ Node.imagesList nodes, f image = image :=
      List.map_inj_left.mp (h.trans (List.map_id _).symm)
    have hany : (Node.imagesList nodes).isEmpty = false := List.isEmpty_eq_false_iff.mpr hne
    rw [mapImages?, hany, Node.mapImagesList_of_fixed hfixed]
    rfl

/-- Changing a second time does nothing if it does nothing to one image. -/
theorem change_change (hf : ∀ image, f (f image) = f image) (images : List Image) :
    scope.change f (scope.change f images) = scope.change f images := by
  have hcomp : f ∘ f = f := funext hf
  cases scope with
  | first => rw [change, change, List.modifyHead_modifyHead, hcomp]
  | all => rw [change, change, List.map_map, hcomp]

end ImageScope

/-! ## Images without their paragraphs -/

theorem images_stripNode (node : Node) : Node.images (stripNode node) = Node.images node := by
  unfold stripNode
  split
  · split
    · rfl
    · simp [Node.images, Node.imagesList]
  · rfl

theorem imagesList_map_stripNode (nodes : List Node) :
    Node.imagesList (nodes.map stripNode) = Node.imagesList nodes := by
  induction nodes with
  | nil => rfl
  | cons node rest ih =>
    rw [List.map_cons, Node.imagesList_cons, Node.imagesList_cons, images_stripNode, ih]

/-- A node stays unless it is an image in a paragraph that is no label. -/
theorem stripNode_eq_self_iff {node : Node} :
    stripNode node = node ↔
      ∀ data image, node = .paragraph data [.image image] → data.label = true := by
  constructor
  · rintro h data image rfl
    rw [stripNode] at h
    split at h
    · next hlabel => exact hlabel
    · cases h
  · intro h
    unfold stripNode
    split
    · next data image => rw [if_pos (h data image rfl)]
    · rfl

theorem stripNode_stripNode (node : Node) : stripNode (stripNode node) = stripNode node := by
  by_cases h : stripNode node = node
  · rw [h, h]
  · have himage : ∃ image, stripNode node = .image image := by
      rw [stripNode_eq_self_iff] at h
      push Not at h
      obtain ⟨data, image, rfl, hlabel⟩ := h
      exact ⟨image, if_neg hlabel⟩
    obtain ⟨image, himage⟩ := himage
    rw [himage]
    rfl

/-- The children of a container, without the paragraphs around single images if they go. -/
def ImageOptions.unwrap (options : ImageOptions) (nodes : List Node) : List Node :=
  if options.stripParagraph then nodes.map stripNode else nodes

theorem imagesList_unwrap (options : ImageOptions) (nodes : List Node) :
    Node.imagesList (options.unwrap nodes) = Node.imagesList nodes := by
  unfold ImageOptions.unwrap
  split
  · exact imagesList_map_stripNode nodes
  · rfl

/-- What an image container that is no figure is rendered as, and with which children. -/
theorem imageResolve_eq_ok_iff {options : ImageOptions} {d : Directive} {suffix : Option String}
    {children : List Node} {target : RenderTarget} (hf : suffix ≠ some "figure") :
    options.resolve d suffix = (children, .ok target) ↔
      ∃ tag mapped, suffix.filter imageTags.contains = some tag ∧
        options.scope.mapImages? (Image.addProperties (resolveSource options.imageProperties d))
          d.children = some mapped ∧
        children = options.unwrap mapped ∧
        target = { name := tag, properties :=
          mergeSources [options.elementProperties] { d with children } (some d.attributes) } := by
  unfold ImageOptions.resolve
  cases htag : suffix.filter imageTags.contains with
  | none => simp
  | some tag =>
    have hne : tag ≠ "figure" := by
      rintro rfl
      exact hf (Option.filter_eq_some_iff.mp htag).1
    dsimp only
    cases hmapped : options.scope.mapImages?
        (Image.addProperties (resolveSource options.imageProperties d)) d.children with
    | none => simp
    | some mapped =>
      dsimp only
      rw [if_neg hne]
      constructor
      · intro h
        cases h
        exact ⟨tag, mapped, rfl, rfl, rfl, rfl⟩
      · rintro ⟨tag', mapped', htag', hmapped', rfl, rfl⟩
        cases htag'
        cases hmapped'
        rfl

/-! ## Images that several containers change -/

/-- The image as it was, or as `f` makes it. -/
def Updated (f : Image → Image) (image image' : Image) : Prop :=
  image' = image ∨ image' = f image

section Updated

variable {f : Image → Image} {images images' images'' : List Image}

theorem updated_self (f : Image → Image) (images : List Image) :
    List.Forall₂ (Updated f) images images :=
  List.forall₂_same.mpr fun _ _ => Or.inl rfl

theorem updated_change (scope : ImageScope) (f : Image → Image) (images : List Image) :
    List.Forall₂ (Updated f) images (scope.change f images) := by
  cases scope with
  | first =>
    cases images with
    | nil => exact .nil
    | cons image rest => exact .cons (Or.inr rfl) (updated_self f rest)
  | all => exact List.forall₂_map_right_iff.mpr (List.forall₂_same.mpr fun _ _ => Or.inr rfl)

theorem updated_trans (hf : ∀ image, f (f image) = f image)
    (h : List.Forall₂ (Updated f) images images') (h' : List.Forall₂ (Updated f) images' images'') :
    List.Forall₂ (Updated f) images images'' := by
  induction h generalizing images'' with
  | nil => exact h'
  | @cons image image' rest rest' hfirst _ ih =>
    cases h' with
    | @cons _ image'' _ rest'' hsecond hrest =>
      refine .cons ?_ (ih hrest)
      rcases hfirst with rfl | rfl
      · exact hsecond
      · rcases hsecond with rfl | rfl
        · exact Or.inr rfl
        · exact Or.inr (hf image)

theorem Updated.fixed {image image' : Image} (h : Updated f image image')
    (hfixed : f image = image) : f image' = image' := by
  rcases h with rfl | rfl
  · exact hfixed
  · rw [hfixed, hfixed]

/-- What a container leaves unchanged stays so behind all other containers. -/
theorem change_of_updated {scope : ImageScope} (h : List.Forall₂ (Updated f) images images')
    (hfixed : scope.change f images = images) : scope.change f images' = images' := by
  cases scope with
  | first =>
    cases h with
    | nil => rfl
    | cons hfirst _ =>
      have hhead := (List.cons.inj hfixed).1
      show _ :: _ = _ :: _
      rw [hfirst.fixed hhead]
  | all =>
    induction h with
    | nil => rfl
    | cons hfirst _ ih =>
      obtain ⟨hhead, htail⟩ := List.cons.inj hfixed
      show _ :: _ = _ :: _
      rw [hfirst.fixed hhead]
      exact congrArg _ (ih htail)

/-- A container that has changed its images leaves them alone when it finds them again. -/
theorem mapImages?_again {scope : ImageScope} (hf : ∀ image, f (f image) = f image)
    {nodes mapped inner : List Node} (h : scope.mapImages? f nodes = some mapped)
    (himages : List.Forall₂ (Updated f) (Node.imagesList mapped) (Node.imagesList inner)) :
    scope.mapImages? f inner = some inner := by
  rw [ImageScope.imagesList_mapImages? h] at himages
  refine ImageScope.mapImages?_of_fixed ?_
    (change_of_updated himages (ImageScope.change_change hf _))
  intro hempty
  rw [hempty, List.forall₂_nil_right_iff, ImageScope.change_eq_nil_iff] at himages
  rw [ImageScope.mapImages?_eq_none_iff.mpr himages] at h
  cases h

end Updated

end MarkdownDirectives
