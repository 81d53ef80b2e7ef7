import MarkdownDirectives.Proofs.Reader.Fits
import MarkdownDirectives.Proofs.Walk.Position

/-!
# What is read is well formed

`Document.WellFormed` says of the nodes of a document by their paths what `Node.Fits` says of them
one inside the other.

* `Node.stands_at?` — what is found at a path stands right in what is found at the path above
* `Node.Fits.isRead` — all directives and images in a node
* `Document.wellFormed_read` — every document that is read is well formed
-/

namespace MarkdownDirectives

/-! ## Documents -/

namespace Document

/-- A document that can have been read. -/
structure WellFormed (document : Document) : Prop where
  /-- Every directive has a name. -/
  name : ∀ head ∈ Node.directivesList document.children,
    Source.isName head.name.toList = true
  /-- Every attribute of a directive can be written. -/
  keys : ∀ head ∈ Node.directivesList document.children, ∀ key ∈ head.attributes.keys,
    Html.isAttributeName key.toList = true
  /-- Nothing is set of a directive. -/
  directive : ∀ head ∈ Node.directivesList document.children, head.data = {}
  /-- Nothing is set of an image. -/
  image : ∀ img ∈ Node.imagesList document.children, img.data = {}
  /-- A paragraph is at most a label: not empty, and the first child of a container. -/
  paragraph : ∀ outer i data children,
    document.node? (outer ++ [i]) = some (.paragraph data children) →
    data = {} ∨ data = { label := true } ∧ children ≠ [] ∧ i = 0 ∧
      ∃ head siblings, document.node? outer = some (.directive head siblings) ∧
        head.kind = .container
  /-- Containers and leaves stand at the top or in a container. -/
  block : ∀ outer i head children,
    document.node? (outer ++ [i]) = some (.directive head children) → head.kind ≠ .text →
    outer = [] ∨ ∃ around siblings, document.node? outer = some (.directive around siblings) ∧
      around.kind = .container
  /-- Text directives stand neither at the top nor directly in a quote or a list. -/
  text : ∀ outer i head children,
    document.node? (outer ++ [i]) = some (.directive head children) → head.kind = .text →
    ∃ parent, document.node? outer = some parent ∧ (∀ siblings, parent ≠ .blockquote siblings) ∧
      ∀ start siblings, parent ≠ .list start siblings

end Document

/-! ## Nodes and their parents -/

namespace Node

/-- A node stands right in its parent, or it is the label of a container. -/
def Stands (parent : Option Node) (i : Nat) (node : Node) : Prop :=
  Fits (parent.elim .top inner) node ∨
    ∃ head siblings label, parent = some (.directive head siblings) ∧ head.kind = .container ∧
      i = 0 ∧ node = .paragraph { label := true } label ∧ label ≠ [] ∧
      ∀ child ∈ label, Fits .running child

theorem inner_container {head : DirectiveHead} (hkind : head.kind = .container)
    (children : List Node) : (directive head children).inner = .top :=
  if_pos hkind

/-- Only in a container stands a node as it does in the document. -/
theorem isContainer_of_inner {node : Node} (h : node.inner = .top) :
    ∃ head children, node = .directive head children ∧ head.kind = .container := by
  cases node with
  | directive head children =>
    by_cases hkind : head.kind = .container
    · exact ⟨head, children, rfl, hkind⟩
    · rw [inner, if_neg hkind] at h
      cases h
  | _ => cases h

theorem inner_of_ne_container {head : DirectiveHead} (hkind : head.kind ≠ .container)
    (children : List Node) : (directive head children).inner = .running :=
  if_neg hkind

/-- The children of a node that stands right stand right. -/
theorem Fits.stands_child {place : NodePlace} {node child : Node} (h : Fits place node) {i : Nat}
    (hchild : node.content[i]? = some child) : Stands (some node) i child := by
  cases h with
  | plain _ _ hcontent => exact Or.inl (hcontent child (List.mem_of_getElem? hchild))
  | directive _ hkind _ hchildren =>
    refine Or.inl ?_
    rw [Option.elim_some, inner_of_ne_container hkind]
    exact hchildren child (List.mem_of_getElem? hchild)
  | @container head label body hkind _ hlabel hbody =>
    have hbelow : ∀ below ∈ body, Fits (Option.elim (some (Node.directive head
        (Source.labelParagraph label ++ body))) .top inner) below := by
      rw [Option.elim_some, inner_container hkind]
      exact hbody
    have hcontent : (Source.labelParagraph label ++ body)[i]? = some child := hchild
    -- the label is the first child, if there is one
    cases label with
    | nil => exact Or.inl (hbelow child (List.mem_of_getElem? hcontent))
    | cons first more =>
      cases i with
      | zero =>
        cases hcontent
        exact Or.inr ⟨head, _, _, rfl, hkind, rfl, rfl, List.cons_ne_nil _ _, hlabel⟩
      | succ i => exact Or.inl (hbelow child (List.mem_of_getElem? hcontent))

theorem Fits.data_paragraph {place : NodePlace} {data : Data} {children : List Node}
    (h : Fits place (.paragraph data children)) : data = {} := by
  cases h with
  | plain _ hunset => exact hunset

theorem Fits.takes {place : NodePlace} {head : DirectiveHead} {children : List Node}
    (h : Fits place (.directive head children)) : place.Takes head.kind := by
  cases h with
  | plain hplain => exact absurd rfl (hplain _ _)
  | directive hplace => exact hplace
  | container hkind =>
    rw [hkind]
    exact nofun

/-- A directive stands in something that takes its kind. -/
theorem Stands.takes {parent : Option Node} {i : Nat} {head : DirectiveHead} {children : List Node}
    (h : Stands parent i (.directive head children)) :
    (parent.elim NodePlace.top inner).Takes head.kind := by
  rcases h with hfits | ⟨_, _, _, -, -, -, hnode, -⟩
  · exact hfits.takes
  · cases hnode

theorem Stands.stands_child {parent : Option Node} {node child : Node} {i j : Nat}
    (h : Stands parent j node) (hchild : node.content[i]? = some child) :
    Stands (some node) i child := by
  rcases h with hfits | ⟨_, _, label, -, -, -, rfl, -, hlabel⟩
  · exact hfits.stands_child hchild
  · exact Or.inl (hlabel child (List.mem_of_getElem? hchild))

/-- **All nodes below nodes that stand right stand right.** -/
theorem stands_at? {node : Node} {i : Nat} : ∀ (outer : List Nat) (parent : Option Node)
    (nodes : List Node), (∀ j n, nodes[j]? = some n → Stands parent j n) →
    at? (outer ++ [i]) nodes = some node →
    outer = [] ∧ Stands parent i node ∨
      ∃ around, at? outer nodes = some around ∧ Stands (some around) i node
  | [], parent, nodes, hnodes, hat => by
    have hnode : nodes[i]? = some node := by
      rw [List.nil_append, at?] at hat
      cases hi : nodes[i]? with
      | none => rw [hi] at hat; cases hat
      | some n => rw [hi] at hat; exact hat
    exact Or.inl ⟨rfl, hnodes i node hnode⟩
  | j :: outer, parent, nodes, hnodes, hat => by
    obtain ⟨k, path, hpath⟩ : ∃ k path, outer ++ [i] = k :: path :=
      List.exists_cons_of_ne_nil (List.append_ne_nil_of_right_ne_nil _ (List.cons_ne_nil _ _))
    rw [List.cons_append, hpath, at?] at hat
    cases hj : nodes[j]? with
    | none => rw [hj] at hat; cases hat
    | some n =>
      rw [hj] at hat
      obtain ⟨children, hchildren, hinner⟩ := Option.bind_eq_some_iff.mp hat
      rw [← hpath] at hinner
      have hbelow : ∀ l c, children[l]? = some c → Stands (some n) l c := by
        intro l c hc
        have hcontent : n.content = children := by rw [content, hchildren]; rfl
        rw [← hcontent] at hc
        exact (hnodes j n hj).stands_child hc
      -- the parent is `n` if the path ends there, and otherwise lies below it
      refine Or.inr ?_
      rcases stands_at? outer (some n) children hbelow hinner with ⟨rfl, hn⟩ | ⟨around, hat', hn⟩
      · exact ⟨n, by rw [at?, hj], hn⟩
      · obtain ⟨l, outer', rfl⟩ := List.exists_cons_of_ne_nil (ne_nil_of_at? hat')
        refine ⟨around, ?_, hn⟩
        rw [at?, hj]
        dsimp only
        rw [hchildren]
        exact hat'

end Node

/-! ## Everything under a node -/

namespace Node

/-- Every directive and every image in a node is as it is read. -/
structure IsRead (node : Node) : Prop where
  directives : ∀ head ∈ node.directives, head.IsRead
  images : ∀ img ∈ node.images, img.data = {}

theorem isRead_list {nodes : List Node} (h : ∀ node ∈ nodes, node.IsRead) :
    (∀ head ∈ directivesList nodes, head.IsRead) ∧ ∀ img ∈ imagesList nodes, img.data = {} := by
  induction nodes with
  | nil => exact ⟨List.forall_mem_nil _, List.forall_mem_nil _⟩
  | cons node rest ih =>
    obtain ⟨hnode, hrest⟩ := List.forall_mem_cons.mp h
    obtain ⟨hdirectives, himages⟩ := ih hrest
    exact ⟨List.forall_mem_append.mpr ⟨hnode.directives, hdirectives⟩,
      List.forall_mem_append.mpr ⟨hnode.images, himages⟩⟩

theorem isRead_plain {node : Node} (hplain : node.IsPlain) (hunset : node.IsUnset)
    (hcontent : ∀ child ∈ node.content, child.IsRead) : node.IsRead := by
  obtain ⟨hdirectives, himages⟩ := isRead_list hcontent
  cases node with
  | directive head children => exact absurd rfl (hplain head children)
  | image img => exact ⟨List.forall_mem_nil _, List.forall_mem_singleton.mpr hunset⟩
  | code | html | thematicBreak | text | inlineCode | lineBreak =>
    exact ⟨List.forall_mem_nil _, List.forall_mem_nil _⟩
  | _ => exact ⟨hdirectives, himages⟩

theorem isRead_directive {head : DirectiveHead} {children : List Node} (hread : head.IsRead)
    (hchildren : ∀ child ∈ children, child.IsRead) : (directive head children).IsRead := by
  obtain ⟨hdirectives, himages⟩ := isRead_list hchildren
  exact ⟨List.forall_mem_cons.mpr ⟨hread, hdirectives⟩, himages⟩

/-- **In a node that stands right everything is as it is read.** -/
theorem Fits.isRead {place : NodePlace} {node : Node} (h : Fits place node) : node.IsRead := by
  induction h with
  | plain hplain hunset _ ih => exact isRead_plain hplain hunset ih
  | directive _ _ hread _ ih => exact isRead_directive hread ih
  | container _ hread _ _ ihlabel ihbody =>
    refine isRead_directive hread (List.forall_mem_append.mpr ⟨?_, ihbody⟩)
    unfold Source.labelParagraph
    split
    · exact List.forall_mem_nil _
    · obtain ⟨hdirectives, himages⟩ := isRead_list ihlabel
      exact List.forall_mem_singleton.mpr ⟨hdirectives, himages⟩

end Node

/-! ## What is read -/

namespace Document

/-- A document whose nodes stand right is well formed. -/
theorem wellFormed_of_fits {document : Document}
    (h : ∀ node ∈ document.children, Node.Fits .top node) : document.WellFormed := by
  obtain ⟨hread, himages⟩ := Node.isRead_list fun node hnode => (h node hnode).isRead
  have hstands {outer : List Nat} {i : Nat} {node : Node}
      (hat : document.node? (outer ++ [i]) = some node) :
      outer = [] ∧ Node.Stands none i node ∨
        ∃ around, document.node? outer = some around ∧ Node.Stands (some around) i node :=
    Node.stands_at? outer none document.children
      (fun i node hnode => Or.inl (h node (List.mem_of_getElem? hnode))) hat
  refine ⟨fun head hhead => (hread head hhead).name, fun head hhead => (hread head hhead).keys,
    fun head hhead => (hread head hhead).data, himages, ?_, ?_, ?_⟩
  · intro outer i data children hat
    rcases hstands hat with ⟨-, hnode⟩ | ⟨around, haround, hnode⟩
    · rcases hnode with hfits | ⟨_, _, _, hnone, -⟩
      · exact Or.inl hfits.data_paragraph
      · cases hnone
    · rcases hnode with hfits | ⟨head, siblings, label, hsome, hkind, hi, hnode, hlabel, -⟩
      · exact Or.inl hfits.data_paragraph
      · cases hsome
        cases hnode
        exact Or.inr ⟨rfl, hlabel, hi, head, siblings, haround, hkind⟩
  · intro outer i head children hat hkind
    rcases hstands hat with ⟨houter, -⟩ | ⟨around, haround, hnode⟩
    · exact Or.inl houter
    · obtain ⟨container, siblings, rfl, hcontainer⟩ :=
        Node.isContainer_of_inner (hnode.takes.eq_top hkind)
      exact Or.inr ⟨container, siblings, haround, hcontainer⟩
  · intro outer i head children hat hkind
    rcases hstands hat with ⟨-, hnode⟩ | ⟨around, haround, hnode⟩
    · exact absurd hkind hnode.takes
    · have hrunning : around.inner = .running := hnode.takes.eq_running hkind
      refine ⟨around, haround, ?_, ?_⟩
      · rintro siblings rfl
        cases hrunning
      · rintro start siblings rfl
        cases hrunning

/-- **Whatever events its Markdown gives, a document that is read is well formed.** -/
theorem wellFormed_read (parse : MarkdownParser) (source : String) :
    (Document.read parse source).WellFormed :=
  wellFormed_of_fits (top_read source)

end Document

end MarkdownDirectives
