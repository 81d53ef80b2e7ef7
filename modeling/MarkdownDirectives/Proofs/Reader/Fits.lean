import MarkdownDirectives.Proofs.Reader.Marks
import MarkdownDirectives.Proofs.Walk.Everywhere
import MarkdownDirectives.Reader

/-!
# Where the nodes that are read stand

`Node.Fits` says of a node, by what it stands in, that it and everything under it stand right:
directives are where their kind may be, and nothing is set of a node that only a transformation
sets. This holds whatever events the Markdown between directives gives. The events may even end
something that has not started.

* `fits_expandTexts` — taking text directives out of texts
* `bare_take`, `bare_foldl` — what one event, and a run, leaves open
* `bare_readMarkdown` — Markdown gives no directives outside of paragraphs and the like
* `top_read` — the nodes of every document that is read

## Why no event is ruled out

Nodes that have not finished yet are never directives: a text directive comes into being only when
what holds its text finishes, and then it is a child. So nothing hangs on the order of the events.
-/

namespace MarkdownDirectives

/-! ## Places -/

/-- What a node stands in. -/
inductive NodePlace where
  /-- The document or a container. -/
  | top
  /-- A quote or a list. -/
  | bare
  /-- Anything else. -/
  | running
deriving DecidableEq

/-- The directives that may stand there. -/
def NodePlace.Takes : NodePlace → DirectiveKind → Prop
  | .top, kind => kind ≠ .text
  | .bare, _ => False
  | .running, kind => kind = .text

theorem NodePlace.Takes.eq_top {place : NodePlace} {kind : DirectiveKind} (h : place.Takes kind)
    (hkind : kind ≠ .text) : place = .top := by
  cases place with
  | top => rfl
  | bare => exact h.elim
  | running => exact absurd h hkind

theorem NodePlace.Takes.eq_running {place : NodePlace} {kind : DirectiveKind} (h : place.Takes kind)
    (hkind : kind = .text) : place = .running := by
  cases place with
  | top => exact absurd hkind h
  | bare => exact h.elim
  | running => rfl

namespace Node

/-- What the children of a node stand in. -/
def inner : Node → NodePlace
  | blockquote _ | list _ _ => .bare
  | directive head _ => if head.kind = .container then .top else .running
  | _ => .running

/-- Nothing is set of a node that is no directive. -/
def IsUnset : Node → Prop
  | paragraph data _ => data = {}
  | image img => img.data = {}
  | _ => True

end Node

/-- A directive as it is read, its kind aside. -/
structure DirectiveHead.IsRead (head : DirectiveHead) : Prop where
  name : Source.isName head.name.toList = true
  keys : ∀ key ∈ head.attributes.keys, Html.isAttributeName key.toList = true
  data : head.data = {}

/-- A node and everything under it stand right. -/
inductive Node.Fits : NodePlace → Node → Prop where
  | plain {place : NodePlace} {node : Node} (hplain : node.IsPlain) (hunset : node.IsUnset)
      (hcontent : ∀ child ∈ node.content, Fits node.inner child) : Fits place node
  | directive {place : NodePlace} {head : DirectiveHead} {children : List Node}
      (hplace : place.Takes head.kind) (hkind : head.kind ≠ .container) (hread : head.IsRead)
      (hchildren : ∀ child ∈ children, Fits .running child) : Fits place (.directive head children)
  | container {head : DirectiveHead} {label body : List Node}
      (hkind : head.kind = .container) (hread : head.IsRead)
      (hlabel : ∀ child ∈ label, Fits .running child) (hbody : ∀ child ∈ body, Fits .top child) :
      Fits .top (.directive head (Source.labelParagraph label ++ body))

namespace Node.Fits

variable {place : NodePlace} {node : Node}

/-- A node that stands right without any directive around stands right anywhere. -/
theorem of_bare (h : Fits .bare node) (place : NodePlace) : Fits place node := by
  cases h with
  | plain hplain hunset hcontent => exact .plain hplain hunset hcontent
  | directive hplace => exact hplace.elim

theorem childless (hchildren : node.children? = none) (hunset : node.IsUnset) :
    Fits place node := by
  refine .plain (isPlain_of_childless hchildren) hunset ?_
  rw [content, hchildren]
  exact List.forall_mem_nil _

theorem text (value : String) : Fits place (.text value) :=
  childless rfl trivial

end Node.Fits

/-! ## Text directives -/

/-- Labels are read as content that can stand in a line. -/
def LabelReader.IsSound (readLabel : LabelReader) : Prop :=
  ∀ label, ∀ node ∈ readLabel label, Node.Fits .running node

/-- A directive with its label stands right wherever its kind may stand. -/
theorem fits_mark {readLabel : LabelReader} (hlabel : readLabel.IsSound) {place : NodePlace}
    {kind : DirectiveKind} (hplace : place.Takes kind) (hkind : kind ≠ .container)
    {mark : Source.Mark} (hmark : mark.IsSound) : Node.Fits place (mark.toNode readLabel kind) :=
  .directive hplace hkind ⟨hmark.name, hmark.keys, rfl⟩ (hlabel mark.label)

/-- What holds of all texts is kept when neighbouring texts are joined. -/
theorem forall_joinTexts {P : Node → Prop} (htext : ∀ value, P (.text value)) {nodes : List Node}
    (h : ∀ node ∈ nodes, P node) : ∀ node ∈ joinTexts nodes, P node := by
  induction nodes using joinTexts.induct with
  | case1 => exact h
  | case2 value rest next more heq ih =>
    have hrest := ih fun node hnode => h node (List.mem_cons_of_mem _ hnode)
    rw [heq] at hrest
    rw [joinTexts, heq]
    exact List.forall_mem_cons.mpr
      ⟨htext _, fun node hnode => hrest node (List.mem_cons_of_mem _ hnode)⟩
  | case3 value rest hne ih =>
    have hrest := ih fun node hnode => h node (List.mem_cons_of_mem _ hnode)
    rw [joinTexts]
    split
    · next heq => exact absurd heq (hne _ _)
    · exact List.forall_mem_cons.mpr ⟨htext _, hrest⟩
  | case4 node rest hne ih =>
    have hrest := ih fun node hnode => h node (List.mem_cons_of_mem _ hnode)
    rw [joinTexts]
    · exact List.forall_mem_cons.mpr ⟨h node List.mem_cons_self, hrest⟩
    · exact hne

/-- **Taking text directives out of texts leaves nodes that can stand in a line.** -/
theorem fits_expandTexts {readLabel : LabelReader} (hlabel : readLabel.IsSound) {nodes : List Node}
    (h : ∀ node ∈ nodes, Node.Fits .bare node) :
    ∀ node ∈ expandTexts readLabel nodes, Node.Fits .running node := by
  intro node hnode
  obtain ⟨joined, hjoined, hsplit⟩ := List.mem_flatMap.mp hnode
  unfold splitNode at hsplit
  split at hsplit
  · obtain ⟨piece, hpiece, rfl⟩ := List.mem_map.mp hsplit
    cases piece with
    | text value => exact .text _
    | directive mark =>
      have hplace : NodePlace.running.Takes .text := rfl
      exact fits_mark hlabel hplace nofun (Source.isSound_pieces _ mark hpiece)
  · rw [List.mem_singleton.mp hsplit]
    exact (forall_joinTexts Node.Fits.text h joined hjoined).of_bare _

/-! ## Events -/

namespace OpenNode

/-- Nothing in it is a directive. -/
def IsBare (n : OpenNode) : Prop :=
  ∀ node ∈ n.content, Node.Fits .bare node

theorem bare_finish {readLabel : LabelReader} (hlabel : readLabel.IsSound) {n : OpenNode}
    (h : n.IsBare) : ∀ node ∈ n.finish readLabel, Node.Fits .bare node := by
  have hcontent : ∀ node ∈ n.content.reverse, Node.Fits .bare node :=
    fun node hnode => h node (List.mem_reverse.mp hnode)
  have hexpanded := fits_expandTexts hlabel hcontent
  have hplain {node : Node} (hplain : node.IsPlain) (hunset : node.IsUnset)
      (hinner : ∀ child ∈ node.content, Node.Fits node.inner child) :
      ∀ made ∈ [node], Node.Fits .bare made :=
    List.forall_mem_singleton.mpr (.plain hplain hunset hinner)
  unfold OpenNode.finish
  dsimp only
  cases n.tag with
  | paragraph => exact hplain nofun rfl hexpanded
  | heading level => exact hplain nofun trivial hexpanded
  | quote => exact hplain nofun trivial hcontent
  | list start => exact hplain nofun trivial hcontent
  | item => exact hplain nofun trivial hexpanded
  | code info => exact hplain nofun trivial (List.forall_mem_nil _)
  | emphasis => exact hplain nofun trivial hexpanded
  | strong => exact hplain nofun trivial hexpanded
  | delete => exact hplain nofun trivial hexpanded
  | link url title => exact hplain nofun trivial hexpanded
  | image url title => exact hplain nofun rfl (List.forall_mem_nil _)
  | other => exact hcontent

end OpenNode

namespace TreeBuilder

variable {readLabel : LabelReader} {b : TreeBuilder}

/-- Nothing outside of what has finished is a directive. -/
structure IsBare (b : TreeBuilder) : Prop where
  root : ∀ node ∈ b.root, Node.Fits .bare node
  opened : ∀ n ∈ b.opened, n.IsBare

theorem bare_push {node : Node} (h : b.IsBare) (hnode : Node.Fits .bare node) :
    (b.push node).IsBare := by
  obtain ⟨root, opened⟩ := b
  cases opened with
  | nil => exact ⟨List.forall_mem_cons.mpr ⟨hnode, h.root⟩, h.opened⟩
  | cons inner outer =>
    obtain ⟨hinner, houter⟩ := List.forall_mem_cons.mp h.opened
    refine ⟨h.root, List.forall_mem_cons.mpr ⟨?_, houter⟩⟩
    exact List.forall_mem_cons.mpr ⟨hnode, hinner⟩

theorem bare_foldl_push {nodes : List Node} (h : b.IsBare)
    (hnodes : ∀ node ∈ nodes, Node.Fits .bare node) :
    (nodes.foldl (fun b node => b.push node) b).IsBare := by
  induction nodes generalizing b with
  | nil => exact h
  | cons node rest ih =>
    obtain ⟨hnode, hrest⟩ := List.forall_mem_cons.mp hnodes
    exact ih (bare_push h hnode) hrest

theorem bare_close (hlabel : readLabel.IsSound) (h : b.IsBare) : (b.close readLabel).IsBare := by
  unfold close
  split
  · exact h
  · next inner outer hopened =>
    have hall := h.opened
    rw [hopened] at hall
    obtain ⟨hinner, houter⟩ := List.forall_mem_cons.mp hall
    exact bare_foldl_push ⟨h.root, houter⟩ (OpenNode.bare_finish hlabel hinner)

/-- **Whatever the event, nothing becomes a directive before it has finished.** -/
theorem bare_take (hlabel : readLabel.IsSound) (h : b.IsBare) (event : Markdown.Event) :
    (b.take readLabel event).IsBare := by
  cases event with
  | start tag => exact ⟨h.root, List.forall_mem_cons.mpr ⟨List.forall_mem_nil _, h.opened⟩⟩
  | finish => exact bare_close hlabel h
  | text value => exact bare_push h (.text _)
  | code value => exact bare_push h (.childless rfl trivial)
  | html value => exact bare_push h (.childless rfl trivial)
  | softBreak => exact bare_push h (.text _)
  | hardBreak => exact bare_push h (.childless rfl trivial)
  | rule => exact bare_push h (.childless rfl trivial)
  | ignored => exact h

theorem bare_foldl (hlabel : readLabel.IsSound) (h : b.IsBare) (events : List Markdown.Event) :
    (events.foldl (take readLabel) b).IsBare := by
  induction events generalizing b with
  | nil => exact h
  | cons event rest ih => exact ih (bare_take hlabel h event)

theorem bare_finish (hlabel : readLabel.IsSound) (h : b.IsBare) :
    ∀ node ∈ b.finish readLabel, Node.Fits .bare node := by
  have hclosed : ∀ (opened : List OpenNode) (b : TreeBuilder), b.IsBare →
      (opened.foldl (fun b _ => b.close readLabel) b).IsBare := by
    intro opened
    induction opened with
    | nil => exact fun _ h => h
    | cons _ rest ih => exact fun b h => ih _ (bare_close hlabel h)
  intro node hnode
  exact (hclosed b.opened b h).root node (List.mem_reverse.mp hnode)

end TreeBuilder

theorem bare_nodesOfEvents {readLabel : LabelReader} (hlabel : readLabel.IsSound)
    (events : List Markdown.Event) :
    ∀ node ∈ nodesOfEvents readLabel events, Node.Fits .bare node :=
  TreeBuilder.bare_finish hlabel
    (TreeBuilder.bare_foldl hlabel ⟨List.forall_mem_nil _, List.forall_mem_nil _⟩ events)

/-! ## Markdown -/

/-- The content of a label can stand in a line, whether or not its paragraph is taken off. -/
theorem fits_labelNodes {nodes : List Node} (h : ∀ node ∈ nodes, Node.Fits .bare node) :
    ∀ node ∈ labelNodes nodes, Node.Fits .running node := by
  unfold labelNodes
  split
  · next data children =>
    cases List.forall_mem_singleton.mp h with
    | plain _ _ hcontent => exact hcontent
  · exact fun node hnode => (h node hnode).of_bare _

variable {parse : MarkdownParser}

/-- **Markdown gives no directives outside of what it consists of.** -/
theorem bare_readMarkdown (source : List Char) :
    ∀ node ∈ readMarkdown parse source, Node.Fits .bare node := by
  rw [readMarkdown]
  refine bare_nodesOfEvents (fun label => ?_) _
  split
  · exact List.forall_mem_nil _
  · split
    · exact fits_labelNodes (bare_readMarkdown label)
    · exact List.forall_mem_nil _
termination_by source.length

theorem isSound_labelContent : LabelReader.IsSound (labelContent parse) := by
  intro label
  unfold labelContent
  split
  · exact List.forall_mem_nil _
  · exact fits_labelNodes (bare_readMarkdown label)

/-! ## Source blocks -/

namespace Source

mutual

theorem Block.top_toNodes : ∀ block : Block,
    (∀ mark ∈ (Block.parts block).filterMap Part.mark?, mark.IsSound) →
    ∀ node ∈ Block.toNodes parse block, Node.Fits .top node
  | .markdown source, _ => fun node hnode => (bare_readMarkdown source node hnode).of_bare _
  | .leaf mark, hmarks => by
    have hmark : mark.IsSound := hmarks mark List.mem_cons_self
    have hplace : NodePlace.top.Takes .leaf := nofun
    exact List.forall_mem_singleton.mpr (fits_mark isSound_labelContent hplace nofun hmark)
  | .container mark body, hmarks => by
    have hmark : mark.IsSound := hmarks mark List.mem_cons_self
    have hbody : ∀ inner ∈ (Block.partsList body).filterMap Part.mark?, inner.IsSound := by
      intro inner hinner
      refine hmarks inner (List.mem_cons_of_mem _ ?_)
      rw [List.filterMap_append]
      exact List.mem_append_left _ hinner
    exact List.forall_mem_singleton.mpr (.container rfl ⟨hmark.name, hmark.keys, rfl⟩
      (isSound_labelContent mark.label) (Block.top_listToNodes body hbody))

/-- Source blocks give nodes that can stand at the top. -/
theorem Block.top_listToNodes : ∀ blocks : List Block,
    (∀ mark ∈ (Block.partsList blocks).filterMap Part.mark?, mark.IsSound) →
    ∀ node ∈ Block.listToNodes parse blocks, Node.Fits .top node
  | [], _ => List.forall_mem_nil _
  | block :: rest, hmarks => by
    rw [Block.partsList, List.filterMap_append] at hmarks
    obtain ⟨hblock, hrest⟩ := List.forall_mem_append.mp hmarks
    exact List.forall_mem_append.mpr
      ⟨Block.top_toNodes block hblock, Block.top_listToNodes rest hrest⟩

end

end Source

theorem top_read (source : String) :
    ∀ node ∈ (Document.read parse source).children, Node.Fits .top node :=
  Source.Block.top_listToNodes _ (Source.isSound_splitBlocks source.toList)

end MarkdownDirectives
