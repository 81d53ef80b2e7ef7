import Mathlib.Data.List.Forall2
import MarkdownDirectives.Proofs.Reader.Fits

/-!
# The nodes that blocks become

The events of a block, or of inline content, close all that they open. So they add nodes to whatever
is open around them, and which nodes these are does not hang on it: `Builds`.

* `Builds.around` — what has content becomes a node of its own
* `Markdown.Inline.builds_eventsList` — inline content becomes inline nodes
* `Markdown.Block.HasEvents` — what a parser may give for blocks
* `Markdown.Block.HasEvents.showAs` — a block becomes one node, inline only if the block is raw HTML
-/

namespace MarkdownDirectives

open Markdown

variable {readLabel : LabelReader}

/-! ## Inline nodes -/

/-- A node that stands in a line. -/
def Node.IsInline : Node → Prop
  | text _ | emphasis _ | strong _ | delete _ | inlineCode _ | lineBreak | link .. | image _
  | html _ => True
  | directive head _ => head.kind = .text
  | paragraph .. | heading .. | blockquote _ | list .. | listItem _ | code ..
  | thematicBreak => False

theorem inline_expandTexts {nodes : List Node} (h : ∀ node ∈ nodes, node.IsInline) :
    ∀ node ∈ expandTexts readLabel nodes, node.IsInline := by
  intro node hnode
  obtain ⟨joined, hjoined, hsplit⟩ := List.mem_flatMap.mp hnode
  unfold splitNode at hsplit
  split at hsplit
  · obtain ⟨piece, -, rfl⟩ := List.mem_map.mp hsplit
    cases piece with
    | text value => trivial
    | directive mark => rfl
  · rw [List.mem_singleton.mp hsplit]
    exact forall_joinTexts (fun _ => trivial) h joined hjoined

/-! ## Events that close what they open -/

/-- Whatever is open, the events add the nodes to it and leave nothing else open. -/
def Builds (readLabel : LabelReader) (events : List Event) (nodes : List Node) : Prop :=
  ∀ b : TreeBuilder,
    events.foldl (TreeBuilder.take readLabel) b = nodes.foldl (fun b node => b.push node) b

namespace Builds

variable {events more : List Event} {nodes others : List Node}

theorem append (h : Builds readLabel events nodes) (hmore : Builds readLabel more others) :
    Builds readLabel (events ++ more) (nodes ++ others) := by
  intro b
  rw [List.foldl_append, List.foldl_append, h, hmore]

theorem foldl_push_inner (nodes : List Node) (root : List Node) (inner : OpenNode)
    (outer : List OpenNode) :
    nodes.foldl (fun b node => b.push node) (⟨root, inner :: outer⟩ : TreeBuilder)
      = ⟨root, { inner with content := nodes.reverse ++ inner.content } :: outer⟩ := by
  induction nodes generalizing inner with
  | nil => rfl
  | cons node rest ih =>
    rw [List.foldl_cons, TreeBuilder.push, ih, List.reverse_cons, List.append_assoc]
    rfl

theorem foldl_push_root (nodes root : List Node) :
    nodes.foldl (fun b node => b.push node) (⟨root, []⟩ : TreeBuilder)
      = ⟨nodes.reverse ++ root, []⟩ := by
  induction nodes generalizing root with
  | nil => rfl
  | cons node rest ih =>
    rw [List.foldl_cons, TreeBuilder.push, ih, List.reverse_cons, List.append_assoc]
    rfl

/-- **What has content is finished with the nodes of its content.** -/
theorem around (tag : Tag) (h : Builds readLabel events nodes) :
    Builds readLabel (tag.around events) (OpenNode.finish readLabel ⟨tag, nodes.reverse⟩) := by
  intro b
  rw [Tag.around, List.foldl_cons, List.foldl_append, TreeBuilder.take, h, foldl_push_inner,
    List.append_nil]
  rfl

/-- Texts stay apart until what is around them finishes. -/
theorem texts (pieces : List (List Char)) :
    Builds readLabel (pieces.map Event.text)
      (pieces.map fun piece => .text (String.ofList piece)) := by
  intro b
  rw [List.foldl_map, List.foldl_map]
  rfl

theorem nodesOfEvents_eq (h : Builds readLabel events nodes) :
    nodesOfEvents readLabel events = nodes := by
  rw [nodesOfEvents, h, foldl_push_root, List.append_nil]
  exact List.reverse_reverse nodes

end Builds

/-! ## Inline content -/

namespace Markdown

mutual

theorem Inline.builds_events : ∀ content : Inline,
    ∃ nodes, Builds readLabel content.events nodes ∧ ∀ node ∈ nodes, node.IsInline
  | .text value => ⟨[.text (String.ofList value)], fun _ => rfl, by simp [Node.IsInline]⟩
  | .code value => ⟨[.inlineCode (String.ofList value)], fun _ => rfl, by simp [Node.IsInline]⟩
  | .html value => ⟨[.html (String.ofList value)], fun _ => rfl, by simp [Node.IsInline]⟩
  | .softBreak => ⟨[.text "\n"], fun _ => rfl, by simp [Node.IsInline]⟩
  | .hardBreak => ⟨[.lineBreak], fun _ => rfl, by simp [Node.IsInline]⟩
  | .emphasis content =>
    have ⟨_, hbuilds, _⟩ := Inline.builds_eventsList content
    ⟨_, hbuilds.around .emphasis, List.forall_mem_singleton.mpr trivial⟩
  | .strong content =>
    have ⟨_, hbuilds, _⟩ := Inline.builds_eventsList content
    ⟨_, hbuilds.around .strong, List.forall_mem_singleton.mpr trivial⟩
  | .delete content =>
    have ⟨_, hbuilds, _⟩ := Inline.builds_eventsList content
    ⟨_, hbuilds.around .delete, List.forall_mem_singleton.mpr trivial⟩
  | .link url title content =>
    have ⟨_, hbuilds, _⟩ := Inline.builds_eventsList content
    ⟨_, hbuilds.around (.link url title), List.forall_mem_singleton.mpr trivial⟩
  | .image url title content =>
    have ⟨_, hbuilds, _⟩ := Inline.builds_eventsList content
    ⟨_, hbuilds.around (.image url title), List.forall_mem_singleton.mpr trivial⟩

/-- **Inline content becomes inline nodes.** -/
theorem Inline.builds_eventsList : ∀ contents : List Inline,
    ∃ nodes, Builds readLabel (Inline.eventsList contents) nodes ∧ ∀ node ∈ nodes, node.IsInline
  | [] => ⟨[], fun _ => rfl, List.forall_mem_nil _⟩
  | content :: rest =>
    have ⟨_, hbuilds, hinline⟩ := Inline.builds_events content
    have ⟨_, hrest, hrestInline⟩ := Inline.builds_eventsList rest
    ⟨_, hbuilds.append hrest, List.forall_mem_append.mpr ⟨hinline, hrestInline⟩⟩

end

/-! ## Blocks -/

/-- Not the paragraph of an item in a tight list, whose content stands in the item itself. -/
def Block.IsLoose : Block → Prop
  | .tight _ => False
  | _ => True

/-- Raw HTML or its indentation. -/
def Block.IsRaw : Block → Prop
  | .html _ | .space _ => True
  | _ => False

/-- What a block has in common with the node that it becomes. -/
structure Block.Shows (block : Block) (node : Node) : Prop where
  isInline_iff : node.IsInline ↔ block.IsRaw
  isParagraph_iff : (∃ passage, block = .paragraph passage) ↔
    ∃ data children, node = .paragraph data children
  inline : ∀ data children, node = .paragraph data children →
    ∀ child ∈ children, child.IsInline

/-- A block that is no paragraph becomes a node that is none. -/
theorem Block.Shows.of_not_paragraph {block : Block} {node : Node}
    (hinline : node.IsInline ↔ block.IsRaw) (hblock : ∀ passage, block ≠ .paragraph passage)
    (hnode : ∀ data children, node ≠ .paragraph data children) : block.Shows node where
  isInline_iff := hinline
  isParagraph_iff := ⟨fun ⟨_, h⟩ => absurd h (hblock _), fun ⟨_, _, h⟩ => absurd h (hnode _ _)⟩
  inline _ _ h := absurd h (hnode _ _)

/-! ## The events of blocks -/

/-- What a parser may give for blocks that stand one after the other. Inline content may be read in
any way, code may come in pieces, and blocks may be put together in a tag without a node. -/
inductive Block.HasEvents : List Block → List Event → Prop
  | nil : HasEvents [] []
  | paragraph {passage : Passage} {rest : List Block} {events : List Event}
      (content : List Inline) (hrest : HasEvents rest events) :
      HasEvents (.paragraph passage :: rest)
        (Tag.paragraph.around (Inline.eventsList content) ++ events)
  | tight {passage : Passage} {rest : List Block} {events : List Event}
      (content : List Inline) (hrest : HasEvents rest events) :
      HasEvents (.tight passage :: rest) (Inline.eventsList content ++ events)
  | heading {level : Nat} {passage : Passage} {rest : List Block} {events : List Event}
      (content : List Inline) (hrest : HasEvents rest events) :
      HasEvents (.heading level passage :: rest)
        ((Tag.heading level).around (Inline.eventsList content) ++ events)
  | quote {content rest : List Block} {inner events : List Event}
      (hcontent : HasEvents content inner) (hrest : HasEvents rest events) :
      HasEvents (.quote content :: rest) (Tag.quote.around inner ++ events)
  | list {start : Option Nat} {items rest : List Block} {inner events : List Event}
      (hitems : HasEvents items inner) (hrest : HasEvents rest events) :
      HasEvents (.list start items :: rest) ((Tag.list start).around inner ++ events)
  | item {content rest : List Block} {inner events : List Event}
      (hcontent : HasEvents content inner) (hrest : HasEvents rest events) :
      HasEvents (.item content :: rest) (Tag.item.around inner ++ events)
  | code {info info' : Option (List Char)} {value : List Char} {rest : List Block}
      {events : List Event} (pieces : List (List Char)) (hrest : HasEvents rest events) :
      HasEvents (.code info value :: rest)
        ((Tag.code info').around (pieces.map Event.text) ++ events)
  | html {value : List Char} {rest : List Block} {events : List Event}
      (hrest : HasEvents rest events) : HasEvents (.html value :: rest) (.html value :: events)
  | space {columns : Nat} {rest : List Block} {events : List Event}
      (hrest : HasEvents rest events) :
      HasEvents (.space columns :: rest) (.text (List.replicate columns ' ') :: events)
  | rule {rest : List Block} {events : List Event} (hrest : HasEvents rest events) :
      HasEvents (.rule :: rest) (.rule :: events)
  | together {blocks rest : List Block} {inner events : List Event}
      (hblocks : HasEvents blocks inner) (hrest : HasEvents rest events) :
      HasEvents (blocks ++ rest) (Tag.other.around inner ++ events)

mutual

theorem Block.hasEvents_cons (definitions : List Definition) : ∀ (block : Block)
    {rest : List Block} {events : List Event}, HasEvents rest events →
      HasEvents (block :: rest) (block.events definitions ++ events)
  | .paragraph _, _, _, hrest => .paragraph _ hrest
  | .tight _, _, _, hrest => .tight _ hrest
  | .heading _ _, _, _, hrest => .heading _ hrest
  | .quote content, _, _, hrest => .quote (Block.hasEvents_eventsList definitions content) hrest
  | .list _ items, _, _, hrest => .list (Block.hasEvents_eventsList definitions items) hrest
  | .item content, _, _, hrest => .item (Block.hasEvents_eventsList definitions content) hrest
  | .code _ value, _, _, hrest => .code [value] hrest
  | .html _, _, _, hrest => .html hrest
  | .space _, _, _, hrest => .space hrest
  | .rule, _, _, hrest => .rule hrest

/-- The events of blocks are some that a parser may give for them. -/
theorem Block.hasEvents_eventsList (definitions : List Definition) :
    ∀ blocks : List Block, HasEvents blocks (Block.eventsList definitions blocks)
  | [] => .nil
  | block :: rest =>
    Block.hasEvents_cons definitions block (Block.hasEvents_eventsList definitions rest)

end

/-- The events become one node for each of the blocks, if none of these is the paragraph of an item
in a tight list. -/
def Block.ShowAs (readLabel : LabelReader) (blocks : List Block) (events : List Event) : Prop :=
  ∃ nodes, Builds readLabel events nodes ∧
    ((∀ block ∈ blocks, block.IsLoose) → List.Forall₂ Block.Shows blocks nodes)

theorem Block.ShowAs.cons {block : Block} {rest : List Block} {front events : List Event}
    {node : Node} (hbuilds : Builds readLabel front [node]) (hshows : block.Shows node)
    (hrest : Block.ShowAs readLabel rest events) :
    Block.ShowAs readLabel (block :: rest) (front ++ events) := by
  obtain ⟨nodes, hmore, hall⟩ := hrest
  exact ⟨_, hbuilds.append hmore, fun hloose =>
    .cons hshows (hall (List.forall_mem_cons.mp hloose).2)⟩

/-- **Blocks become nodes, one for each.** -/
theorem Block.HasEvents.showAs {blocks : List Block} {events : List Event}
    (h : HasEvents blocks events) : Block.ShowAs readLabel blocks events := by
  induction h with
  | nil => exact ⟨[], fun _ => rfl, fun _ => .nil⟩
  | paragraph content _ ih =>
    obtain ⟨nodes, hbuilds, hinline⟩ := @Inline.builds_eventsList readLabel content
    refine .cons (hbuilds.around .paragraph)
      ⟨Iff.rfl, ⟨fun _ => ⟨_, _, rfl⟩, fun _ => ⟨_, rfl⟩⟩, ?_⟩ ih
    rintro _ _ ⟨rfl, rfl⟩
    rw [List.reverse_reverse]
    exact inline_expandTexts hinline
  | tight content _ ih =>
    obtain ⟨others, hmore, -⟩ := ih
    obtain ⟨nodes, hbuilds, -⟩ := @Inline.builds_eventsList readLabel content
    exact ⟨_, hbuilds.append hmore, fun hloose => (hloose _ List.mem_cons_self).elim⟩
  | heading content _ ih =>
    obtain ⟨nodes, hbuilds, -⟩ := @Inline.builds_eventsList readLabel content
    exact .cons (hbuilds.around (.heading _)) (.of_not_paragraph Iff.rfl nofun nofun) ih
  | quote _ _ ihcontent ih =>
    obtain ⟨nodes, hbuilds, -⟩ := ihcontent
    exact .cons (hbuilds.around .quote) (.of_not_paragraph Iff.rfl nofun nofun) ih
  | list _ _ ihitems ih =>
    obtain ⟨nodes, hbuilds, -⟩ := ihitems
    exact .cons (hbuilds.around (.list _)) (.of_not_paragraph Iff.rfl nofun nofun) ih
  | item _ _ ihcontent ih =>
    obtain ⟨nodes, hbuilds, -⟩ := ihcontent
    exact .cons (hbuilds.around .item) (.of_not_paragraph Iff.rfl nofun nofun) ih
  | code pieces _ ih =>
    exact .cons ((Builds.texts pieces).around (.code _)) (.of_not_paragraph Iff.rfl nofun nofun) ih
  | @html value _ _ _ ih =>
    have hbuilds : Builds readLabel [.html value] [.html (String.ofList value)] := fun _ => rfl
    exact .cons hbuilds (.of_not_paragraph Iff.rfl nofun nofun) ih
  | @space columns _ _ _ ih =>
    exact .cons (Builds.texts [List.replicate columns ' '])
      (.of_not_paragraph Iff.rfl nofun nofun) ih
  | rule _ ih =>
    have hbuilds : Builds readLabel [.rule] [.thematicBreak] := fun _ => rfl
    have hnode : ∀ data children, Node.thematicBreak ≠ .paragraph data children := by simp
    exact .cons hbuilds (.of_not_paragraph Iff.rfl nofun hnode) ih
  | together _ _ ihblocks ih =>
    obtain ⟨nodes, hbuilds, hshows⟩ := ihblocks
    obtain ⟨others, hmore, hrest⟩ := ih
    -- the tag has no node, so the nodes in it stand among the others
    have hcontent : OpenNode.finish readLabel ⟨.other, nodes.reverse⟩ = nodes :=
      List.reverse_reverse nodes
    refine ⟨_, (hbuilds.around .other).append hmore, fun hloose => ?_⟩
    obtain ⟨hfirst, hsecond⟩ := List.forall_mem_append.mp hloose
    rw [hcontent]
    exact List.rel_append (hshows hfirst) (hrest hsecond)

end Markdown

end MarkdownDirectives
