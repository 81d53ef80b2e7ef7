import MarkdownDirectives.Edit
import MarkdownDirectives.Proofs.Walk.Resolve

/-!
# Where directives stand

Two directives of a tree can be alike, so a directive is told by its path. `Node.locatedList` lists
the directives with their paths in document order. Paths are compared as lists of numbers: an
ancestor comes before what stands under it, and a node before its later siblings, so the order of
the paths is document order as well.
-/

namespace MarkdownDirectives

/-- A directive and where it stands. -/
structure Located where
  path : List Nat
  directive : Directive

namespace Located

/-- What the directive says of itself. -/
def head (l : Located) : DirectiveHead :=
  l.directive.toDirectiveHead

/-- The place as seen from the list whose first node the directive lies in. -/
def inFirst (l : Located) : Located :=
  { l with path := 0 :: l.path }

/-- The place as seen with one more node in front. -/
def inRest (l : Located) : Located :=
  { l with path := l.path.modifyHead (· + 1) }

end Located

namespace Node

mutual

/-- The directives in a node with their paths from there, in document order. -/
def located : Node → List Located
  | directive head children => ⟨[], ⟨head, children⟩⟩ :: locatedList children
  | paragraph _ children | heading _ children | blockquote children | list _ children
  | listItem children | emphasis children | strong children | delete children
  | link _ _ children => locatedList children
  | code .. | html _ | thematicBreak | text _ | inlineCode _ | lineBreak | image _ => []

/-- The directives in the nodes with their paths, in document order. -/
def locatedList : List Node → List Located
  | [] => []
  | node :: rest => (located node).map .inFirst ++ (locatedList rest).map .inRest

end

mutual

theorem head_located (node : Node) : (located node).map Located.head = directives node := by
  cases node with
  | directive head children =>
    rw [located, directives, List.map_cons, head_locatedList]
    rfl
  | code | html | thematicBreak | text | inlineCode | lineBreak | image => rfl
  | _ => exact head_locatedList _

/-- The located directives are the directives. -/
theorem head_locatedList (nodes : List Node) :
    (locatedList nodes).map Located.head = directivesList nodes := by
  cases nodes with
  | nil => rfl
  | cons node rest =>
    rw [locatedList, directivesList, List.map_append, List.map_map, List.map_map,
      ← head_located node, ← head_locatedList rest]
    rfl

end

theorem located_plain {node : Node} {children : List Node} (hp : ∀ head children,
    node ≠ .directive head children) (h : node.children? = some children) :
    located node = locatedList children := by
  cases node with
  | directive head children => exact absurd rfl (hp head children)
  | code | html | thematicBreak | text | inlineCode | lineBreak | image => cases h
  | _ => cases h; rfl

/-! ## Nodes at paths -/

theorem at?_zero (node : Node) (rest : List Node) : at? [0] (node :: rest) = some node := by
  rw [at?, List.getElem?_cons_zero]

/-- A path through the first node goes on among its children. -/
theorem at?_zero_cons {node : Node} {children : List Node} (h : node.children? = some children)
    (rest : List Node) {path : List Nat} (hne : path ≠ []) :
    at? (0 :: path) (node :: rest) = at? path children := by
  cases path with
  | nil => exact absurd rfl hne
  | cons i path =>
    rw [at?, List.getElem?_cons_zero]
    show node.children?.bind (at? (i :: path)) = _
    rw [h, Option.bind_some]

theorem at?_succ (node : Node) (rest : List Node) (i : Nat) (path : List Nat) :
    at? ((i + 1) :: path) (node :: rest) = at? (i :: path) rest := by
  rw [at?, at?, List.getElem?_cons_succ]

theorem ne_nil_of_at? {path : List Nat} {nodes : List Node} {node : Node}
    (h : at? path nodes = some node) : path ≠ [] := by
  rintro rfl
  cases h

end Node

namespace Transformer

/-- The path leads through a directive of the image family. -/
def InsideImage (t : Transformer) (nodes : List Node) (path : List Nat) : Prop :=
  ∃ outer head children, outer <+: path ∧ outer ≠ path ∧
    Node.at? outer nodes = some (.directive head children) ∧ t.IsImage head.name

variable {t : Transformer}

theorem insideImage_directive {head : DirectiveHead} {children rest : List Node} {path : List Nat}
    (hne : path ≠ []) (hi : t.IsImage head.name) :
    t.InsideImage (.directive head children :: rest) (0 :: path) :=
  ⟨[0], head, children, by simp, by simpa using hne.symm, rfl, hi⟩

theorem insideImage_zero_cons {node : Node} {children rest : List Node} {path : List Nat}
    (hc : node.children? = some children) (h : t.InsideImage children path) :
    t.InsideImage (node :: rest) (0 :: path) := by
  obtain ⟨outer, head, inner, hpre, hne, hat, hi⟩ := h
  -- the image directive has a path of its own, which is longer by the same step
  refine ⟨0 :: outer, head, inner, List.cons_prefix_cons.mpr ⟨rfl, hpre⟩, by simpa using hne, ?_,
    hi⟩
  rw [Node.at?_zero_cons hc rest (Node.ne_nil_of_at? hat), hat]

theorem insideImage_succ {node : Node} {rest : List Node} {i : Nat} {path : List Nat}
    (h : t.InsideImage rest (i :: path)) : t.InsideImage (node :: rest) ((i + 1) :: path) := by
  obtain ⟨outer, head, inner, hpre, hne, hat, hi⟩ := h
  cases outer with
  | nil => exact absurd rfl (Node.ne_nil_of_at? hat)
  | cons j outer =>
    obtain ⟨rfl, htail⟩ := List.cons_prefix_cons.mp hpre
    refine ⟨(j + 1) :: outer, head, inner, List.cons_prefix_cons.mpr ⟨rfl, htail⟩, ?_, ?_, hi⟩
    · simpa using hne
    · rw [Node.at?_succ, hat]

end Transformer

end MarkdownDirectives
