import MarkdownDirectives.Proofs.Reader.TopBlocks

/-!
# Labels that stand in a line

The label of a directive is read as Markdown of its own, blocks and all, and what stands for it in
the line of the directive depends on those: only a paragraph gives way to its content.

* `CutsInto` — the blocks that a parser cuts a text into
* `forall₂_readMarkdown` — a text becomes the nodes of its blocks, one for each
* `labelContent_inline` — the labels that become inline nodes only

## Marks at the start of a label

A label is meant to be inline content whatever it starts with. But a label that starts with a mark
of another block is that block: the badge of `# NEW` is a heading, and has no text of its own.
-/

namespace MarkdownDirectives

open Markdown Text

/-- The parser cuts the text into these blocks. What the content of a block is read as is up to the
parser, but the content of a paragraph stands in the place of the paragraph in items only. -/
structure CutsInto (parse : MarkdownParser) (text : List Char) (blocks : List Block) : Prop where
  hasEvents : Block.HasEvents blocks (parse text)
  loose : ∀ block ∈ blocks, block.IsLoose

/-- The events of a text are those of its blocks. -/
theorem cutsInto_events (text : List Char) : CutsInto events text (Outline.ofText text).blocks :=
  ⟨Block.hasEvents_eventsList _ _, Outline.isLoose_ofText text⟩

variable {parse : MarkdownParser} {label : List Char} {blocks : List Block}

/-- **A text becomes the nodes of its blocks.** -/
theorem forall₂_readMarkdown (h : CutsInto parse label blocks) :
    List.Forall₂ Block.Shows blocks (readMarkdown parse label) := by
  rw [readMarkdown]
  obtain ⟨nodes, hbuilds, hshows⟩ := h.hasEvents.showAs
  rw [hbuilds.nodesOfEvents_eq]
  exact hshows h.loose

/-- The nodes of a label are inline if its blocks are one paragraph or nothing but raw HTML. -/
theorem inline_labelNodes_iff {nodes : List Node} (h : List.Forall₂ Block.Shows blocks nodes) :
    (∀ node ∈ labelNodes nodes, node.IsInline) ↔
      (∃ passage, blocks = [.paragraph passage]) ∨ ∀ block ∈ blocks, block.IsRaw := by
  have hraw : (∀ node ∈ nodes, node.IsInline) ↔ ∀ block ∈ blocks, block.IsRaw := by
    induction h with
    | nil => simp
    | cons hshows _ ih => rw [List.forall_mem_cons, List.forall_mem_cons, hshows.isInline_iff, ih]
  unfold labelNodes
  split
  · next data children =>
    obtain ⟨block, _, hshows, hnil, rfl⟩ := List.forall₂_cons_right_iff.mp h
    cases List.forall₂_nil_right_iff.mp hnil
    obtain ⟨passage, rfl⟩ := hshows.isParagraph_iff.mpr ⟨data, children, rfl⟩
    exact iff_of_true (hshows.inline data children rfl) (Or.inl ⟨passage, rfl⟩)
  · next hother =>
    -- the nodes stay as they are, and a paragraph alone would not have
    rw [hraw, or_iff_right]
    rintro ⟨passage, rfl⟩
    obtain ⟨node, _, hshows, hnil, rfl⟩ := List.forall₂_cons_left_iff.mp h
    cases List.forall₂_nil_left_iff.mp hnil
    obtain ⟨data, children, rfl⟩ := hshows.isParagraph_iff.mp ⟨passage, rfl⟩
    exact hother data children rfl

theorem inline_labelContent_iff (h : CutsInto parse label blocks) :
    (∀ node ∈ labelContent parse label, node.IsInline) ↔
      blank label = true ∨ (∃ passage, blocks = [.paragraph passage]) ∨
        ∀ block ∈ blocks, block.IsRaw := by
  rw [labelContent]
  split
  · next hblank => exact iff_of_true (List.forall_mem_nil _) (Or.inl hblank)
  · next hblank => rw [inline_labelNodes_iff (forall₂_readMarkdown h), or_iff_right hblank]

/--
**Labels that stand in a line.**

With any parser a label becomes inline nodes exactly if it is blank, or the blocks that the parser
cuts it into are one paragraph or nothing but raw HTML. A parser that finds the blocks of the label
makes a paragraph of a label of one line if its first character starts no other block.
-/
theorem labelContent_inline (label : List Char) :
    (∀ (parse : MarkdownParser) (blocks : List Block), CutsInto parse label blocks →
      ((∀ node ∈ labelContent parse label, node.IsInline) ↔
        blank label = true ∨ (∃ passage, blocks = [.paragraph passage]) ∨
          ∀ block ∈ blocks, block.IsRaw)) ∧
    CutsInto events label (Outline.ofText label).blocks ∧
    (IsPlainLine label → ∀ parse : MarkdownParser,
      CutsInto parse label (Outline.ofText label).blocks →
        ∀ node ∈ labelContent parse label, node.IsInline) := by
  refine ⟨fun parse blocks h => inline_labelContent_iff h, cutsInto_events label,
    fun hplain parse h => ?_⟩
  exact (inline_labelContent_iff h).mpr (Or.inr (Or.inl (Outline.blocks_of_plainLine hplain)))

/-- The label is a paragraph whether its letters are read as one text or as two. -/
theorem labelContent_inline_word :
    let parse : MarkdownParser := fun _ => Tag.paragraph.around [.text ['N'], .text ['E', 'W']]
    IsPlainLine "NEW".toList ∧
      CutsInto events "NEW".toList (Outline.ofText "NEW".toList).blocks ∧
      (∀ node ∈ labelContent events "NEW".toList, node.IsInline) ∧
      CutsInto parse "NEW".toList (Outline.ofText "NEW".toList).blocks ∧
      ∀ node ∈ labelContent parse "NEW".toList, node.IsInline := by
  intro parse
  have hline : ∀ c ∈ ['N', 'E', 'W'], c ≠ '\n' ∧ c ≠ '\r' := by simp
  have hplain : IsPlainLine "NEW".toList :=
    ⟨hline, 'N', ['E', 'W'], rfl, by decide, by decide, by decide⟩
  obtain ⟨hiff, hevents, hinline⟩ := labelContent_inline "NEW".toList
  obtain ⟨passage, hblocks⟩ := Outline.blocks_of_plainLine hplain
  have hparse : CutsInto parse "NEW".toList (Outline.ofText "NEW".toList).blocks := by
    rw [hblocks]
    exact ⟨.paragraph [.text ['N'], .text ['E', 'W']] .nil, by simp [Block.IsLoose]⟩
  refine ⟨hplain, hevents, hinline hplain _ hevents, hparse, ?_⟩
  exact (hiff _ _ hparse).mpr (.inr (.inl ⟨passage, hblocks⟩))

/-- A label that starts with a number sign is a heading. -/
theorem labelContent_heading :
    labelContent events "# NEW".toList = [.heading 1 [.text "NEW"]] ∧
      ¬ ∀ node ∈ labelContent events "# NEW".toList, node.IsInline := by
  have hblank : blank "# NEW".toList = false := by decide
  have hevents : events "# NEW".toList = [.start (.heading 1), .text "NEW".toList, .finish] := by
    decide +kernel
  have hpieces : Source.pieces "NEW".toList = [.text "NEW".toList] := by decide +kernel
  have hbuilds (readLabel : LabelReader) : Builds readLabel
      [.start (.heading 1), .text "NEW".toList, .finish] [.heading 1 [.text "NEW"]] := by
    have hword : Builds readLabel [.text "NEW".toList] [.text "NEW"] := fun _ => rfl
    have hexpanded : expandTexts readLabel [.text "NEW"] = [.text "NEW"] := by
      rw [expandTexts, joinTexts, joinTexts, List.flatMap_singleton, splitNode, hpieces]
      rfl
    rw [← hexpanded]
    exact hword.around (.heading 1)
  have hcontent : labelContent events "# NEW".toList = [.heading 1 [.text "NEW"]] := by
    rw [labelContent, hblank, readMarkdown, hevents, (hbuilds _).nodesOfEvents_eq]
    rfl
  refine ⟨hcontent, fun hinline => ?_⟩
  rw [hcontent] at hinline
  exact hinline _ List.mem_cons_self

end MarkdownDirectives
