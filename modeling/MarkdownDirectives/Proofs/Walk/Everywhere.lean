import MarkdownDirectives.Proofs.Walk.Rules

/-!
# What holds of every node of a tree

`Node.Everywhere P` says that a node is of the kind `P`, and so is every node under it. An image
container changes images, takes paragraphs off and moves its label, but it makes no new nodes
besides. So what does not depend on the children of a node, and is kept by the change of an image,
stays true of every node.

* `Node.everywhere_mapImages?` — changing images as a scope says
* `Node.everywhere_takeCaption` — taking the caption of a figure out of its children
-/

namespace MarkdownDirectives

namespace Node

/-- The children of a node; there are none if its kind has none. -/
def content (node : Node) : List Node :=
  node.children?.getD []

theorem content_of_children? {node : Node} {children : List Node}
    (h : node.children? = some children) : node.content = children := by
  rw [content, h]
  rfl

end Node

/-- The node and everything under it is of a kind. -/
inductive Node.Everywhere (P : Node → Prop) : Node → Prop where
  | intro {node : Node} (hnode : P node) (hcontent : ∀ child ∈ node.content, Everywhere P child) :
      Everywhere P node

namespace Node

/-- The kind does not depend on the children of a node. -/
def IsShallow (P : Node → Prop) : Prop :=
  ∀ node children, P node → P (node.withChildren children)

section Everywhere

variable {P : Node → Prop} {node : Node}

theorem Everywhere.self (h : Everywhere P node) : P node := by
  cases h with
  | intro hnode _ => exact hnode

theorem Everywhere.child (h : Everywhere P node) : ∀ child ∈ node.content, Everywhere P child := by
  cases h with
  | intro _ hcontent => exact hcontent

theorem everywhere_childless (hchildren : node.children? = none) (hnode : P node) :
    Everywhere P node := by
  refine .intro hnode ?_
  rw [content, hchildren]
  exact List.forall_mem_nil _

theorem everywhere_withChildren (hP : IsShallow P) {new : List Node} (hnode : P node)
    (hnew : ∀ child ∈ new, Everywhere P child) : Everywhere P (node.withChildren new) := by
  cases hchildren : node.children? with
  | none =>
    have hsame : node.withChildren new = node := by
      cases node <;> first | rfl | cases hchildren
    rw [hsame]
    exact everywhere_childless hchildren hnode
  | some children =>
    refine .intro (hP node new hnode) ?_
    rw [content_of_children? (children_withChildren hchildren new)]
    exact hnew

/-! ### Changing images -/

variable {f : Image → Image}

theorem mapImagesList_eq_map (f : Image → Image) (nodes : List Node) :
    mapImagesList f nodes = nodes.map (mapImages f) := by
  induction nodes with
  | nil => rfl
  | cons node rest ih => rw [mapImagesList, ih, List.map_cons]

theorem mapImages_eq (f : Image → Image) (h : ∀ img, node ≠ .image img) :
    mapImages f node = node.withChildren (mapImagesList f node.content) := by
  cases node with
  | image img => exact absurd rfl (h img)
  | _ => rfl

theorem everywhere_mapImages (hP : IsShallow P)
    (hf : ∀ img, P (.image img) → P (.image (f img))) (h : Everywhere P node) :
    Everywhere P (mapImages f node) := by
  induction h with
  | @intro node hnode _ ih =>
    by_cases himage : ∃ img, node = .image img
    · obtain ⟨img, rfl⟩ := himage
      exact everywhere_childless rfl (hf img hnode)
    · rw [mapImages_eq f fun img heq => himage ⟨img, heq⟩, mapImagesList_eq_map]
      exact everywhere_withChildren hP hnode (List.forall_mem_map.mpr ih)

theorem mapFirstImage?_eq {node' : Node} (h : ∀ img, node ≠ .image img)
    (heq : mapFirstImage? f node = some node') :
    ∃ children, mapFirstImageList? f node.content = some children ∧
      node' = node.withChildren children := by
  cases node with
  | image img => exact absurd rfl (h img)
  | code | html | thematicBreak | text | inlineCode | lineBreak => cases heq
  | _ =>
    obtain ⟨children, hchildren, hnode'⟩ := Option.map_eq_some_iff.mp heq
    exact ⟨children, hchildren, hnode'.symm⟩

theorem everywhere_mapFirstImageList {nodes nodes' : List Node}
    (h : ∀ node ∈ nodes, Everywhere P node ∧
      ∀ node', mapFirstImage? f node = some node' → Everywhere P node')
    (heq : mapFirstImageList? f nodes = some nodes') : ∀ node' ∈ nodes', Everywhere P node' := by
  induction nodes generalizing nodes' with
  | nil => cases heq
  | cons node rest ih =>
    obtain ⟨⟨hnode, hchanged⟩, hrest⟩ := List.forall_mem_cons.mp h
    rw [mapFirstImageList?] at heq
    split at heq
    · next node' hnode' =>
      cases heq
      exact List.forall_mem_cons.mpr
        ⟨hchanged node' hnode', fun other hother => (hrest other hother).1⟩
    · obtain ⟨rest', hrest', rfl⟩ := Option.map_eq_some_iff.mp heq
      exact List.forall_mem_cons.mpr ⟨hnode, ih hrest hrest'⟩

theorem everywhere_mapFirstImage (hP : IsShallow P)
    (hf : ∀ img, P (.image img) → P (.image (f img))) (h : Everywhere P node) :
    ∀ node', mapFirstImage? f node = some node' → Everywhere P node' := by
  induction h with
  | @intro node hnode hcontent ih =>
    intro node' heq
    by_cases himage : ∃ img, node = .image img
    · obtain ⟨img, rfl⟩ := himage
      cases heq
      exact everywhere_childless rfl (hf img hnode)
    · obtain ⟨children, hchildren, rfl⟩ :=
        mapFirstImage?_eq (fun img heq => himage ⟨img, heq⟩) heq
      refine everywhere_withChildren hP hnode (everywhere_mapFirstImageList ?_ hchildren)
      exact fun child hchild => ⟨hcontent child hchild, ih child hchild⟩

/-- Changing images as a scope says keeps the kind of every node, if it keeps that of images. -/
theorem everywhere_mapImages? (hP : IsShallow P)
    (hf : ∀ img, P (.image img) → P (.image (f img))) {scope : ImageScope}
    {nodes nodes' : List Node} (h : ∀ node ∈ nodes, Everywhere P node)
    (heq : scope.mapImages? f nodes = some nodes') : ∀ node' ∈ nodes', Everywhere P node' := by
  cases scope with
  | first =>
    exact everywhere_mapFirstImageList
      (fun node hnode => ⟨h node hnode, everywhere_mapFirstImage hP hf (h node hnode)⟩) heq
  | all =>
    unfold ImageScope.mapImages? at heq
    dsimp only at heq
    split at heq
    · cases heq
    · cases heq
      rw [mapImagesList_eq_map]
      exact List.forall_mem_map.mpr fun node hnode => everywhere_mapImages hP hf (h node hnode)

/-! ### Paragraphs and captions -/

theorem everywhere_stripNode (h : Everywhere P node) : Everywhere P (stripNode node) := by
  unfold stripNode
  split
  · next data img =>
    split
    · exact h
    · exact h.child (.image img) (List.mem_singleton_self _)
  · exact h

theorem everywhere_imageCaption (htext : ∀ value, P (.text value)) {nodes caption : List Node}
    (heq : imageCaption nodes = .ok caption) : ∀ node ∈ caption, Everywhere P node := by
  unfold imageCaption at heq
  split at heq
  · split at heq
    · cases heq
    · cases heq
      exact List.forall_mem_singleton.mpr (everywhere_childless rfl (htext _))
  · cases heq

theorem everywhere_takeCaption (htext : ∀ value, P (.text value)) {nodes : List Node}
    (h : ∀ node ∈ nodes, Everywhere P node) :
    (∀ node ∈ (takeCaption nodes).1, Everywhere P node) ∧
      ∀ caption, (takeCaption nodes).2 = .ok caption → ∀ node ∈ caption, Everywhere P node := by
  have hkept : ∀ node ∈ nodes.filter (!isEmptyLabel ·), Everywhere P node :=
    fun node hnode => h node (List.mem_filter.mp hnode).1
  unfold takeCaption
  split
  · next data children rest heq =>
    rw [heq] at hkept
    obtain ⟨hlabel, hrest⟩ := List.forall_mem_cons.mp hkept
    split
    · refine ⟨hrest, fun caption hcaption => ?_⟩
      cases hcaption
      exact hlabel.child
    · exact ⟨hkept, fun caption hcaption => everywhere_imageCaption htext hcaption⟩
  · exact ⟨hkept, fun caption hcaption => everywhere_imageCaption htext hcaption⟩

end Everywhere

end Node

end MarkdownDirectives
