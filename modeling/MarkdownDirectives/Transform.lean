import MarkdownDirectives.Family.Badge
import MarkdownDirectives.Family.Image
import MarkdownDirectives.Family.Link
import MarkdownDirectives.Family.Pattern
import MarkdownDirectives.Family.Video

/-!
# Transforming documents

Every directive of a document gets a render target. A directive is resolved before the directives
inside it; the first error ends the walk, and what was done before stays.

## Termination

Resolving a directive may change its children, but the directives inside stay the same up to their
order (`perm_directives_resolve`). So the walk goes down by the number of directives, and by the
size of the nodes where that number stays.
-/

namespace MarkdownDirectives

/-- How a directive was resolved. -/
inductive Resolution where
  | family (family : Family)
  /-- No family has its name: it becomes the element of its name. -/
  | fallback
deriving DecidableEq, Inhabited, Repr

/-- The name of a resolution. -/
def Resolution.name : Resolution → String
  | family f => f.name
  | fallback => "fallback"

/-- What resolves directives: options, and the names of every family. -/
structure Transformer where
  options : Options
  image : Pattern
  video : Pattern
  link : Pattern
  badge : Pattern
deriving Inhabited

namespace Transformer

/-- The transformer of options that can be used. -/
def ofOptions (options : Options) : Except DirectiveError Transformer := do
  let image ← Pattern.build .image options.image.aliases
  let video ← Pattern.build .video options.video.aliases
  if options.video.platforms.contains Config.directSource then throw .reservedPlatform
  let link ← Pattern.build .link options.link.aliases
  let badge ← Pattern.build .badge options.badge.aliases
  return { options, image, video, link, badge }

/-- The family that a name belongs to. -/
def route (t : Transformer) (name : String) : Option (Family × NameMatch) :=
  [t.image, t.video, t.link, t.badge].findSome? fun p => (p.match? name).map (p.family, ·)

/-- The children that a directive of a family ends up with, and what it is rendered as. -/
def target (t : Transformer) (family : Family) (d : Directive) (suffix : Option String) :
    List Node × Except DirectiveFault RenderTarget :=
  let classPrefix := t.options.classPrefix
  match family with
  | .image => t.options.image.resolve d suffix
  | .video => (d.children, t.options.video.resolve classPrefix d suffix)
  | .link => (d.children, t.options.link.resolve classPrefix d)
  | .badge => (d.children, t.options.badge.resolve classPrefix d suffix)

/-- A directive as the element of its name. -/
def applyFallback (d : Directive) : Directive :=
  let element := Element.generic d.name d.attributes
  { d with data := { d.data with
      name := some element.tagName, properties := some element.properties } }

/-- Resolves one directive; those inside it are left alone. -/
def resolve (t : Transformer) (d : Directive) : Directive × Except DirectiveError Resolution :=
  match t.route d.name with
  | none => (applyFallback d, .ok .fallback)
  | some (family, found) =>
    match family.checkKind d.kind with
    | .error e => (d, .error e)
    | .ok () =>
      match t.target family d found.suffix with
      | (children, .error fault) => ({ d with children }, .error (.invalid family fault))
      | (children, .ok target) =>
        ({ d with children, data := target.apply d.data }, .ok (.family family))

end Transformer

/-! ## Directives stay -/

namespace Node

theorem directivesList_append (xs ys : List Node) :
    directivesList (xs ++ ys) = directivesList xs ++ directivesList ys := by
  induction xs with
  | nil => rfl
  | cons x xs ih => simp [directivesList, ih]

theorem directivesList_cons (x : Node) (xs : List Node) :
    directivesList (x :: xs) = directives x ++ directivesList xs := rfl

mutual

theorem directives_mapImages (f : Image → Image) (node : Node) :
    directives (mapImages f node) = directives node := by
  cases node <;> simp [mapImages, directives, directivesList_mapImages]

theorem directivesList_mapImages (f : Image → Image) (nodes : List Node) :
    directivesList (mapImagesList f nodes) = directivesList nodes := by
  cases nodes with
  | nil => rfl
  | cons node rest =>
    simp [mapImagesList, directivesList, directives_mapImages f node,
      directivesList_mapImages f rest]

end

mutual

theorem directives_mapFirstImage {f : Image → Image} {node node' : Node}
    (h : mapFirstImage? f node = some node') : directives node' = directives node := by
  cases node <;> simp only [mapFirstImage?, Option.map_eq_some_iff, Option.some.injEq,
    reduceCtorEq] at h
  case image => subst h; rfl
  all_goals
    obtain ⟨children, hc, rfl⟩ := h
    simp [directives, directivesList_mapFirstImage hc]

theorem directivesList_mapFirstImage {f : Image → Image} {nodes nodes' : List Node}
    (h : mapFirstImageList? f nodes = some nodes') :
    directivesList nodes' = directivesList nodes := by
  cases nodes with
  | nil => simp [mapFirstImageList?] at h
  | cons node rest =>
    rw [mapFirstImageList?] at h
    split at h
    · next node' hn =>
      simp only [Option.some.injEq] at h
      subst h
      simp [directivesList, directives_mapFirstImage hn]
    · simp only [Option.map_eq_some_iff] at h
      obtain ⟨rest', hr, rfl⟩ := h
      simp [directivesList, directivesList_mapFirstImage hr]

end

end Node

theorem directivesList_mapImages? {scope : ImageScope} {f : Image → Image}
    {nodes nodes' : List Node} (h : scope.mapImages? f nodes = some nodes') :
    Node.directivesList nodes' = Node.directivesList nodes := by
  cases scope with
  | first => exact Node.directivesList_mapFirstImage h
  | all =>
    simp only [ImageScope.mapImages?] at h
    split at h
    · simp at h
    · simp only [Option.some.injEq] at h
      subst h
      exact Node.directivesList_mapImages f nodes

theorem directives_stripNode (node : Node) :
    Node.directives (stripNode node) = Node.directives node := by
  unfold stripNode
  split
  · split
    · rfl
    · simp [Node.directives, Node.directivesList]
  · rfl

theorem directivesList_map_stripNode (nodes : List Node) :
    Node.directivesList (nodes.map stripNode) = Node.directivesList nodes := by
  induction nodes with
  | nil => rfl
  | cons node rest ih => simp [Node.directivesList, directives_stripNode, ih]

theorem directivesList_filter_isEmptyLabel (nodes : List Node) :
    Node.directivesList (nodes.filter (!isEmptyLabel ·)) = Node.directivesList nodes := by
  induction nodes with
  | nil => rfl
  | cons node rest ih =>
    rw [List.filter_cons]
    split
    · simp [Node.directivesList, ih]
    · next h =>
      rw [ih, Node.directivesList]
      unfold isEmptyLabel at h
      split at h
      · simp [Node.directives, Node.directivesList]
      · simp at h

theorem directivesList_imageCaption {nodes caption : List Node}
    (h : imageCaption nodes = .ok caption) : Node.directivesList caption = [] := by
  unfold imageCaption at h
  split at h
  · split at h
    · simp at h
    · simp only [Except.ok.injEq] at h
      subst h; rfl
  · simp at h

/-- Taking the caption out moves its directives to the end. -/
theorem directivesList_takeCaption {nodes rest caption : List Node}
    (h : takeCaption nodes = (rest, .ok caption)) :
    (Node.directivesList rest ++ Node.directivesList caption).Perm
      (Node.directivesList nodes) := by
  rw [← directivesList_filter_isEmptyLabel nodes]
  unfold takeCaption at h
  split at h
  · next data children tail heq =>
    rw [heq]
    split at h
    · simp only [Prod.mk.injEq, Except.ok.injEq] at h
      obtain ⟨rfl, rfl⟩ := h
      simp only [Node.directivesList, Node.directives]
      exact List.perm_append_comm
    · simp only [Prod.mk.injEq] at h
      obtain ⟨rfl, hc⟩ := h
      rw [directivesList_imageCaption hc, List.append_nil]
  · simp only [Prod.mk.injEq] at h
    obtain ⟨rfl, hc⟩ := h
    rw [directivesList_imageCaption hc, List.append_nil]

theorem directivesList_takeCaption_error {nodes rest : List Node} {fault : DirectiveFault}
    (h : takeCaption nodes = (rest, .error fault)) :
    Node.directivesList rest = Node.directivesList nodes := by
  rw [← directivesList_filter_isEmptyLabel nodes]
  unfold takeCaption at h
  split at h
  · next data children tail heq =>
    rw [heq]
    split at h
    · simp at h
    · simp only [Prod.mk.injEq] at h
      rw [← h.1]
  · simp only [Prod.mk.injEq] at h
    rw [← h.1]

theorem perm_directives_figure (options : ImageOptions) (d : Directive) :
    (Node.directivesList (options.figure d).1).Perm (Node.directivesList d.children) := by
  unfold ImageOptions.figure
  dsimp only
  split
  · next heq => rw [directivesList_takeCaption_error heq]
  · next heq =>
    rw [Node.directivesList_append]
    simpa [captionNode, Node.directivesList, Node.directives] using
      directivesList_takeCaption heq

theorem perm_directives_imageResolve (options : ImageOptions) (d : Directive)
    (suffix : Option String) :
    (Node.directivesList (options.resolve d suffix).1).Perm (Node.directivesList d.children) := by
  unfold ImageOptions.resolve
  split
  · exact .refl _
  · dsimp only
    split
    · exact .refl _
    · next children hm =>
      have hc : Node.directivesList
          (if options.stripParagraph then children.map stripNode else children)
            = Node.directivesList d.children := by
        split
        · rw [directivesList_map_stripNode, directivesList_mapImages? hm]
        · exact directivesList_mapImages? hm
      split
      · exact (perm_directives_figure _ _).trans (.of_eq hc)
      · exact .of_eq hc

/-- **Resolving a directive keeps the directives inside it up to their order.** -/
theorem perm_directives_resolve (t : Transformer) (d : Directive) :
    (Node.directivesList (t.resolve d).1.children).Perm (Node.directivesList d.children) := by
  have ht : ∀ family suffix,
      (Node.directivesList (t.target family d suffix).1).Perm
        (Node.directivesList d.children) := by
    intro family suffix
    cases family
    · exact perm_directives_imageResolve _ _ _
    all_goals exact .refl _
  unfold Transformer.resolve
  split
  · exact .refl _
  · next family found _ =>
    split
    · exact .refl _
    · have hf := ht family found.suffix
      split
      · next heq => rw [heq] at hf; exact hf
      · next heq => rw [heq] at hf; exact hf

/-! ## Reports -/

/-- How many directives were resolved in which way. -/
structure Report where
  image : Nat := 0
  video : Nat := 0
  link : Nat := 0
  badge : Nat := 0
  fallback : Nat := 0
deriving DecidableEq, Inhabited, Repr

namespace Report

/-- Counts one more directive. -/
def record (r : Report) : Resolution → Report
  | .family .image => { r with image := r.image + 1 }
  | .family .video => { r with video := r.video + 1 }
  | .family .link => { r with link := r.link + 1 }
  | .family .badge => { r with badge := r.badge + 1 }
  | .fallback => { r with fallback := r.fallback + 1 }

/-- The number of directives. -/
def total (r : Report) : Nat :=
  r.image + r.video + r.link + r.badge + r.fallback

end Report

/-! ## The walk -/

/-- A directive that was resolved. -/
structure Visit where
  name : String
  kind : DirectiveKind
  resolution : Resolution
deriving DecidableEq, Inhabited, Repr

/-- How a walk ended: the nodes as they are now, the directives that were resolved, the report, and
the error that ended it, if any. -/
structure Walk where
  nodes : List Node
  visits : List Visit := []
  report : Report := {}
  error : Option DirectiveError := none
deriving Inhabited

/-- The walk over one more node in front, which ended well. -/
def Walk.cons (node : Node) (visits : List Visit) (w : Walk) : Walk :=
  { w with nodes := node :: w.nodes, visits := visits ++ w.visits }

theorem sizeOf_children {node : Node} {children : List Node} (h : node.children? = some children) :
    sizeOf children < sizeOf node := by
  cases node <;> simp only [Node.children?, Option.some.injEq, reduceCtorEq] at h <;>
    (subst h; simp; try omega)

theorem directives_of_children {node : Node} {children : List Node}
    (h : node.children? = some children) :
    (Node.directivesList children).length ≤ (Node.directives node).length := by
  cases node <;> simp only [Node.children?, Option.some.injEq, reduceCtorEq] at h <;>
    (subst h; simp [Node.directives])

theorem lex_of_le {m n i j : Nat} (h : m ≤ n) (h' : i < j) :
    Prod.Lex (· < ·) (· < ·) (m, i) (n, j) := by
  rcases Nat.lt_or_eq_of_le h with h | rfl
  · exact .left _ _ h
  · exact .right _ h'

/-- Resolves the directives of nodes, those of a node before those of the next one. The report goes
on from the one that the walk starts with. -/
def Transformer.visit (t : Transformer) (nodes : List Node) (report : Report) : Walk :=
  match nodes with
  | [] => ⟨[], [], report, none⟩
  | .directive head children :: rest =>
    match _h : t.resolve ⟨head, children⟩ with
    | (d, .error e) => ⟨d.toNode :: rest, [], report, some e⟩
    | (d, .ok resolution) =>
      let inner := t.visit d.children (report.record resolution)
      let node := Node.directive d.toDirectiveHead inner.nodes
      let visits := ⟨d.name, d.kind, resolution⟩ :: inner.visits
      match inner.error with
      | some e => ⟨node :: rest, visits, inner.report, some e⟩
      | none => (t.visit rest inner.report).cons node visits
  | node :: rest =>
    match _hc : node.children? with
    | none => (t.visit rest report).cons node []
    | some children =>
      let inner := t.visit children report
      let node := node.withChildren inner.nodes
      match inner.error with
      | some e => ⟨node :: rest, inner.visits, inner.report, some e⟩
      | none => (t.visit rest inner.report).cons node inner.visits
termination_by ((Node.directivesList nodes).length, sizeOf nodes)
decreasing_by
  · apply Prod.Lex.left
    have := (perm_directives_resolve t ⟨head, children⟩).length_eq
    rw [_h] at this
    simp only [Node.directivesList, Node.directives, List.length_append, List.length_cons]
    simp only at this
    omega
  · apply Prod.Lex.left
    simp only [Node.directivesList, Node.directives, List.length_append, List.length_cons]
    omega
  · refine lex_of_le ?_ ?_
    · simp [Node.directivesList]
    · simp only [List.cons.sizeOf_spec]
      omega
  · have h1 := directives_of_children _hc
    have h2 := sizeOf_children _hc
    refine lex_of_le ?_ ?_
    · simp only [Node.directivesList, List.length_append]
      omega
    · simp only [List.cons.sizeOf_spec]
      omega
  · refine lex_of_le ?_ ?_
    · simp [Node.directivesList]
    · simp only [List.cons.sizeOf_spec]
      omega

/-- The outcome of a transformation. -/
structure Transformed where
  document : Document
  visits : List Visit
  result : Except DirectiveError Report
deriving Inhabited

/-- Resolves every directive of a document. -/
def Transformer.transform (t : Transformer) (document : Document) : Transformed :=
  let walk := t.visit document.children {}
  { document := ⟨walk.nodes⟩
    visits := walk.visits
    result := match walk.error with
      | some e => .error e
      | none => .ok walk.report }

end MarkdownDirectives
