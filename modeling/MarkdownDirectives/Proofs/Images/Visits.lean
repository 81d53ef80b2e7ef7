import MarkdownDirectives.Proofs.Walk.Images

/-!
# Visiting images

`Node.visitImages` goes from image to image in document order; what happens at one of them may
depend on those before it. A scope decides at each image whether to change it, and it needs to know
only whether this is the first one (`ImageScope.visit`).

* `Node.visitedImages_eq` — the order of a visit is that of `Node.imagesList`
* `ImageScope.mapImages?_eq_visit` — both scopes are visits, so the image that is changed alone is
  the one that a visit to all of them changes first
-/

namespace MarkdownDirectives

namespace Node

variable {σ : Type}

mutual

/-- Visits the images under a node. -/
def visitImages (visit : Image → StateM σ Image) : Node → StateM σ Node
  | image img => image <$> visit img
  | paragraph data children => paragraph data <$> visitImagesList visit children
  | heading depth children => heading depth <$> visitImagesList visit children
  | blockquote children => blockquote <$> visitImagesList visit children
  | list start children => list start <$> visitImagesList visit children
  | listItem children => listItem <$> visitImagesList visit children
  | emphasis children => emphasis <$> visitImagesList visit children
  | strong children => strong <$> visitImagesList visit children
  | delete children => delete <$> visitImagesList visit children
  | link url title children => link url title <$> visitImagesList visit children
  | directive head children => directive head <$> visitImagesList visit children
  | node => pure node

/-- Visits the images under the nodes. -/
def visitImagesList (visit : Image → StateM σ Image) : List Node → StateM σ (List Node)
  | [] => pure []
  | node :: rest => do
    let node ← visitImages visit node
    let rest ← visitImagesList visit rest
    return node :: rest

end

/-! ## Every image -/

/-- Notes the image behind those that were visited before. -/
def record (img : Image) : StateM (List Image) Image := do
  modify (· ++ [img])
  return img

/-- The images under the nodes in the order of a visit. -/
def visitedImages (nodes : List Node) : List Image :=
  ((visitImagesList record nodes).run []).2

/-- Changes the image, and notes that there is one. -/
def changeEvery (f : Image → Image) (img : Image) : StateM Bool Image := do
  set true
  return f img

variable {f : Image → Image}

mutual

theorem visitImages_record (node : Node) (seen : List Image) :
    (visitImages record node).run seen = pure (node, seen ++ images node) := by
  cases node <;> simp [visitImages, images, record, visitImagesList_record]

/-- The images are listed in the order in which they are visited. -/
theorem visitImagesList_record (nodes : List Node) (seen : List Image) :
    (visitImagesList record nodes).run seen = pure (nodes, seen ++ imagesList nodes) := by
  cases nodes with
  | nil => simp [visitImagesList, imagesList]
  | cons node rest =>
    simp [visitImagesList, imagesList, visitImages_record node, visitImagesList_record rest]

end

mutual

theorem visitImages_every (node : Node) (found : Bool) :
    (visitImages (changeEvery f) node).run found
      = pure (mapImages f node, found || !(images node).isEmpty) := by
  cases node <;> simp [visitImages, mapImages, images, changeEvery, visitImagesList_every]

/-- Every image is changed, and it is told whether there is one. -/
theorem visitImagesList_every (nodes : List Node) (found : Bool) :
    (visitImagesList (changeEvery f) nodes).run found
      = pure (mapImagesList f nodes, found || !(imagesList nodes).isEmpty) := by
  cases nodes with
  | nil => simp [visitImagesList, mapImagesList, imagesList]
  | cons node rest =>
    have hany : (!(images node ++ imagesList rest).isEmpty)
        = (!(images node).isEmpty || !(imagesList rest).isEmpty) := by
      cases images node <;> simp
    simp [visitImagesList, mapImagesList, imagesList, visitImages_every node,
      visitImagesList_every rest, hany, Bool.or_assoc]

end

theorem visitedImages_eq (nodes : List Node) : visitedImages nodes = imagesList nodes := by
  rw [visitedImages, visitImagesList_record, List.nil_append]
  rfl

/-! ## The first image -/

/-- Changes the image if there was none before. -/
def changeFirst (f : Image → Image) (img : Image) : StateM Bool Image := do
  let found ← get
  set true
  return if found then img else f img

mutual

/-- Behind the first image nothing is changed. -/
theorem visitImages_changed (node : Node) :
    (visitImages (changeFirst f) node).run true = pure (node, true) := by
  cases node <;> simp [visitImages, changeFirst, visitImagesList_changed]

theorem visitImagesList_changed (nodes : List Node) :
    (visitImagesList (changeFirst f) nodes).run true = pure (nodes, true) := by
  cases nodes with
  | nil => simp [visitImagesList]
  | cons node rest =>
    simp [visitImagesList, visitImages_changed node, visitImagesList_changed rest]

end

mutual

theorem visitImages_first (node : Node) :
    (visitImages (changeFirst f) node).run false
      = pure ((mapFirstImage? f node).getD node, (mapFirstImage? f node).isSome) := by
  cases node <;> simp [visitImages, mapFirstImage?, changeFirst, visitImagesList_first]

theorem visitImagesList_first (nodes : List Node) :
    (visitImagesList (changeFirst f) nodes).run false
      = pure ((mapFirstImageList? f nodes).getD nodes, (mapFirstImageList? f nodes).isSome) := by
  cases nodes with
  | nil => simp [visitImagesList, mapFirstImageList?]
  | cons node rest =>
    cases hnode : mapFirstImage? f node with
    | some node' =>
      simp [visitImagesList, mapFirstImageList?, visitImages_first node, hnode,
        visitImagesList_changed rest]
    | none =>
      simp [visitImagesList, mapFirstImageList?, visitImages_first node, hnode,
        visitImagesList_first rest]

end

end Node

/-! ## Scopes -/

namespace ImageScope

/-- What a scope does to an image that is visited. It notes that there is one. -/
def visit (scope : ImageScope) (f : Image → Image) : Image → StateM Bool Image :=
  match scope with
  | .first => Node.changeFirst f
  | .all => Node.changeEvery f

/-- **A scope visits the images one after the other; if there is none, there is no result.** -/
theorem mapImages?_eq_visit (scope : ImageScope) (f : Image → Image) (nodes : List Node) :
    scope.mapImages? f nodes =
      if Node.visitedImages nodes = [] then none
      else some ((Node.visitImagesList (scope.visit f) nodes).run false).1 := by
  rw [Node.visitedImages_eq]
  by_cases himages : Node.imagesList nodes = []
  · rw [if_pos himages, mapImages?_eq_none_iff.mpr himages]
  · rw [if_neg himages]
    cases scope with
    | first =>
      rw [visit, Node.visitImagesList_first, mapImages?]
      cases hfirst : Node.mapFirstImageList? f nodes with
      | none => exact absurd ((Node.mapFirstImageList?_eq_none_iff nodes).mp hfirst) himages
      | some nodes' => rfl
    | all =>
      have hany : (Node.imagesList nodes).isEmpty = false := List.isEmpty_eq_false_iff.mpr himages
      rw [visit, Node.visitImagesList_every, mapImages?, hany]
      rfl

end ImageScope

end MarkdownDirectives
