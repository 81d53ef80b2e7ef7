import MarkdownDirectives.Proofs.Reader.Built

/-!
# The blocks at the top of a text

Two facts about the blocks that a text is cut into. A paragraph whose content stands in the item
itself is found in items and nowhere else: no step of the block builder puts one anywhere. And a
text of one line is a paragraph if it starts with a character that no other block starts with.

* `Builder.IsLoose.takeLine`, `Builder.IsLoose.takeLines` — what one line keeps, and what all keep
* `Outline.isLoose_ofText` — the blocks of a text
* `Outline.blocks_of_plainLine` — a text of one plain line
-/

namespace MarkdownDirectives.Markdown

open Text

namespace Builder

/-- Nothing that is not in an item is the paragraph of an item in a tight list. -/
structure IsLoose (b : Builder) : Prop where
  root : ∀ block ∈ b.root, block.IsLoose
  frames : ∀ frame ∈ b.frames, ∀ block ∈ frame.content, block.IsLoose

variable {b : Builder}

/-- Nothing else of the state matters. -/
theorem IsLoose.congr {b' : Builder} (h : b.IsLoose) (hroot : b'.root = b.root)
    (hframes : b'.frames = b.frames) : b'.IsLoose :=
  ⟨hroot ▸ h.root, hframes ▸ h.frames⟩

theorem IsLoose.frames_cons {inner : Frame} {outer : List Frame} (h : b.IsLoose)
    (hframes : b.frames = inner :: outer) :
    (∀ block ∈ inner.content, block.IsLoose) ∧
      ∀ frame ∈ outer, ∀ block ∈ frame.content, block.IsLoose :=
  List.forall_mem_cons.mp (hframes ▸ h.frames)

/-! ## Containers -/

-- A list changes the paragraphs of its items, and these stand one level further down.
theorem loose_toBlock (frame : Frame) : frame.toBlock.IsLoose := by
  unfold Frame.toBlock
  dsimp only
  split
  · trivial
  · trivial
  · trivial

theorem IsLoose.push {block : Block} (h : b.IsLoose) (hblock : block.IsLoose) :
    (b.push block).IsLoose := by
  unfold Builder.push
  split
  · exact ⟨List.forall_mem_cons.mpr ⟨hblock, h.root⟩, h.frames⟩
  · next inner outer hframes =>
    obtain ⟨hinner, houter⟩ := h.frames_cons hframes
    exact ⟨h.root, List.forall_mem_cons.mpr ⟨List.forall_mem_cons.mpr ⟨hblock, hinner⟩, houter⟩⟩

theorem IsLoose.openContainer (h : b.IsLoose) (container : Container) :
    (b.openContainer container).IsLoose :=
  ⟨h.root, List.forall_mem_cons.mpr ⟨List.forall_mem_nil _, h.frames⟩⟩

theorem IsLoose.close (h : b.IsLoose) : b.close.IsLoose := by
  unfold Builder.close
  split
  · exact h
  · next inner outer hframes =>
    have houter : ({ b with frames := outer } : Builder).IsLoose :=
      ⟨h.root, (h.frames_cons hframes).2⟩
    have hclosed := houter.push (loose_toBlock inner)
    dsimp only
    split
    · exact hclosed.congr rfl rfl
    · exact hclosed

theorem IsLoose.closeTo (h : b.IsLoose) (depth : Nat) : (b.closeTo depth).IsLoose := by
  unfold Builder.closeTo
  generalize b.frames.drop depth = frames
  induction frames generalizing b with
  | nil => exact h
  | cons _ rest ih => exact ih h.close

theorem IsLoose.loosen (h : b.IsLoose) (n : Nat) : (b.loosen n).IsLoose := by
  refine ⟨h.root, fun frame hframe => ?_⟩
  obtain ⟨i, hi, rfl⟩ := List.mem_iff_getElem.mp hframe
  have hsame := h.frames _ (List.getElem_mem (by simpa [Builder.loosen] using hi))
  simp only [Builder.loosen, List.getElem_modify]
  split
  · split
    · exact hsame
    · exact hsame
  · exact hsame

theorem IsLoose.finishEmptyItem (h : b.IsLoose) : b.finishEmptyItem.IsLoose := by
  unfold Builder.finishEmptyItem
  dsimp only
  split
  · exact h.close.congr rfl rfl
  · exact h.congr rfl rfl

theorem IsLoose.finishList (h : b.IsLoose) : b.finishList.IsLoose := by
  have hloosen {b : Builder} (h : b.IsLoose) :
      (if b.lastBlank then { b.loosen 1 with lastBlank := false } else b).IsLoose := by
    split
    · exact (h.loosen 1).congr rfl rfl
    · exact h
  unfold Builder.finishList
  dsimp only
  split
  · exact hloosen h.finishEmptyItem.close
  · exact hloosen h.finishEmptyItem

theorem IsLoose.continueList (h : b.IsLoose) (mark : Char) (start : Nat) :
    (b.continueList mark start).IsLoose := by
  have hnew {b : Builder} (h : b.IsLoose) :
      ({ b.openContainer (.list true mark start) with lastBlank := false } : Builder).IsLoose :=
    (h.openContainer _).congr rfl rfl
  have hitem := h.finishEmptyItem
  unfold Builder.continueList
  dsimp only
  split
  · split
    · split
      · exact (hitem.loosen 0).congr rfl rfl
      · exact hitem
    · exact hnew hitem.finishList
  · exact hnew hitem.finishList
  · exact hnew hitem

theorem IsLoose.takeBlank (h : b.IsLoose) : b.takeBlank.IsLoose := by
  unfold Builder.takeBlank
  split
  · exact h.congr rfl rfl
  · next inner outer hframes =>
    obtain ⟨hinner, houter⟩ := h.frames_cons hframes
    split
    · exact h
    · split
      · exact ⟨h.root, List.forall_mem_cons.mpr ⟨hinner, houter⟩⟩
      · exact h.congr rfl rfl
    · exact h.congr rfl rfl

theorem IsLoose.openContainers (h : b.IsLoose) (c : Cursor) : (b.openContainers c).1.IsLoose := by
  fun_induction Builder.openContainers b c with
  | case1 => exact h
  | case2 => exact ((h.continueList _ _).openContainer _).congr rfl rfl
  | case3 _ _ _ _ _ _ _ _ _ _ ih => exact ih ((h.continueList _ _).openContainer _)
  | case4 _ _ _ _ _ _ _ ih => exact ih (h.finishList.openContainer _)
  | case5 => exact h

/-! ## Leaf blocks -/

theorem IsLoose.foldl_push {blocks : List Block} (h : b.IsLoose)
    (hblocks : ∀ block ∈ blocks, block.IsLoose) :
    (blocks.foldl (fun b block => b.push block) b).IsLoose := by
  induction blocks generalizing b with
  | nil => exact h
  | cons block rest ih =>
    obtain ⟨hblock, hrest⟩ := List.forall_mem_cons.mp hblocks
    exact ih (h.push hblock) hrest

theorem loose_htmlLine (columns : Nat) (raw : List Char) :
    ∀ block ∈ htmlLine columns raw, block.IsLoose := by
  unfold htmlLine
  refine List.forall_mem_append.mpr ⟨?_, ?_⟩
  · split
    · exact List.forall_mem_nil _
    · exact List.forall_mem_singleton.mpr trivial
  · split
    · simp [Block.IsLoose]
    · exact List.forall_mem_singleton.mpr trivial

theorem loose_gatherHtml (containers : List Container) (extent : HtmlExtent)
    (lines : List Line) : ∀ block ∈ (gatherHtml containers extent lines).1, block.IsLoose := by
  fun_induction gatherHtml containers extent lines with
  | case1 => exact List.forall_mem_nil _
  | case2 => exact List.forall_mem_nil _
  | case3 =>
    next ih => exact List.forall_mem_append.mpr ⟨loose_htmlLine _ _, ih⟩
  | case4 => exact loose_htmlLine _ _

theorem IsLoose.takeHtml (h : b.IsLoose) (extent : HtmlExtent) (columns : Nat) (body : Cursor)
    (line : Line) (rest : List Line) : (b.takeHtml extent columns body line rest).1.IsLoose := by
  unfold Builder.takeHtml
  dsimp only
  refine h.foldl_push (List.forall_mem_append.mpr ⟨loose_htmlLine _ _, ?_⟩)
  split
  · exact loose_gatherHtml _ _ _
  · exact List.forall_mem_nil _

theorem IsLoose.pushLines (h : b.IsLoose) (lines : List PassageLine)
    (underline : Option Underline) : (b.pushLines lines underline).IsLoose := by
  unfold Builder.pushLines
  dsimp only
  split
  · exact h.push trivial
  · exact h.push trivial

theorem IsLoose.takeParagraph (h : b.IsLoose) (first : PassageLine) (rest : List Line) :
    (b.takeParagraph first rest).1.IsLoose := by
  have hdefined (definitions : List Definition) :
      ({ b with definitions } : Builder).IsLoose := h.congr rfl rfl
  unfold Builder.takeParagraph
  dsimp only
  split
  · exact hdefined _
  · split
    · exact hdefined _
    · exact (hdefined _).pushLines _ _
  · exact (hdefined _).pushLines _ _

theorem IsLoose.takeLeaf (h : b.IsLoose) (c : Cursor) (line : Line) (rest : List Line) :
    (b.takeLeaf c line rest).1.IsLoose := by
  unfold Builder.takeLeaf
  dsimp only
  split
  · have hcode {value : List Char} : (b.push (.code none value)).IsLoose := h.push trivial
    exact hcode.congr rfl rfl
  · split
    · exact h.takeHtml _ _ _ _ _
    · split
      · exact h.push trivial
      · split
        · exact h.push trivial
        · split
          · exact h.push trivial
          · exact h.takeParagraph _ _

/-! ## Lines -/

theorem IsLoose.takeLine (h : b.IsLoose) (line : Line) (rest : List Line) :
    (b.takeLine line rest).1.IsLoose := by
  -- what the line does not belong to is closed before it opens anything
  have hclosed := h.closeTo (Container.enterAll b.containers (.ofLine line)).1
  have hopened := hclosed.openContainers (Container.enterAll b.containers (.ofLine line)).2
  unfold Builder.takeLine
  dsimp only
  split
  · next heq =>
    rw [heq] at hopened
    exact hopened
  · next heq =>
    rw [heq] at hopened
    split
    · exact hopened.takeBlank
    · exact hopened.finishList.takeLeaf _ _ _

theorem IsLoose.takeLines (h : b.IsLoose) (lines : List Line) : (b.takeLines lines).IsLoose := by
  fun_induction Builder.takeLines b lines with
  | case1 => exact h
  | case2 b line rest next ih => exact ih (h.takeLine line rest)

end Builder

/-- **No block of a text is the paragraph of an item.** -/
theorem Outline.isLoose_ofText (text : List Char) :
    ∀ block ∈ (Outline.ofText text).blocks, block.IsLoose := by
  have hstart : ({} : Builder).IsLoose := ⟨List.forall_mem_nil _, List.forall_mem_nil _⟩
  intro block hblock
  exact ((hstart.takeLines (Line.ofText text)).closeTo 0).root block (List.mem_reverse.mp hblock)

/-! ## Plain lines -/

/-- The marks with which a line may start something else than a paragraph. -/
def blockMarks : List Char :=
  ['#', '>', '-', '+', '*', '_', '`', '~', '<', '[']

/-- A character with which a line starts a paragraph and nothing else. -/
structure IsPlainStart (c : Char) : Prop where
  notSpace : isSpace c = false
  notDigit : c.isDigit = false
  notMark : c ∉ blockMarks

/-- A text of one line that starts with such a character. -/
structure IsPlainLine (cs : List Char) : Prop where
  oneLine : ∀ c ∈ cs, c ≠ '\n' ∧ c ≠ '\r'
  start : ∃ c rest, cs = c :: rest ∧ IsPlainStart c

theorem Line.ofText_of_oneLine {c : Char} {rest : List Char}
    (h : ∀ d ∈ c :: rest, d ≠ '\n' ∧ d ≠ '\r') : Line.ofText (c :: rest) = [⟨c :: rest, []⟩] := by
  induction rest generalizing c with
  | nil =>
    obtain ⟨hfeed, hreturn⟩ := h c List.mem_cons_self
    rw [Line.ofText, Line.ofText]
    · exact hfeed
    · exact fun _ heq => absurd heq hreturn
    · exact hreturn
  | cons d rest ih =>
    obtain ⟨⟨hfeed, hreturn⟩, hrest⟩ := List.forall_mem_cons.mp h
    rw [Line.ofText, ih hrest]
    · exact hfeed
    · exact fun _ heq => absurd heq hreturn
    · exact hreturn

namespace IsPlainStart

variable {c : Char} (h : IsPlainStart c) (rest : List Char)

include h

theorem ne {mark : Char} (hmark : mark ∈ blockMarks) : c ≠ mark :=
  fun heq => h.notMark (heq ▸ hmark)

/-- The line is not indented. -/
theorem skip_ofLine (ending : List Char) (n : Nat) :
    (Cursor.ofLine ⟨c :: rest, ending⟩).skip (n + 1) = (n + 1, ⟨c :: rest, 0, 0⟩) := by
  have hspace := h.notSpace
  simp only [isSpace, Bool.or_eq_false_iff, beq_eq_false_iff_ne] at hspace
  rw [Cursor.skip, if_neg (by simp [Cursor.ofLine]), Cursor.ofLine, Cursor.skipChars]
  · rfl
  · exact fun _ heq => hspace.1.1.1 (List.cons.inj heq).1
  · exact fun _ heq => hspace.1.1.2 (List.cons.inj heq).1

theorem readItem_eq (column pending : Nat) : readItem ⟨c :: rest, column, pending⟩ = none := by
  have hminus : c ≠ '-' := h.ne (by decide)
  have hplus : c ≠ '+' := h.ne (by decide)
  have hstar : c ≠ '*' := h.ne (by decide)
  have hmark : itemMark? (c :: rest) = none := by
    simp [itemMark?, hminus, hplus, hstar, h.notDigit]
  rw [readItem, hmark]

theorem quoteMark_eq (column pending : Nat) :
    Container.quoteMark ⟨c :: rest, column, pending⟩ = none := by
  have hquote : c ≠ '>' := h.ne (by decide)
  simp [Container.quoteMark, Cursor.skipChar, hquote]

theorem html?_eq : html? (c :: rest) = none := by
  have hangle : c ≠ '<' := h.ne (by decide)
  simp [html?, strongHtml?, hangle]

theorem isRule_eq : isRule (c :: rest) = false := by
  have hstar : c ≠ '*' := h.ne (by decide)
  have hminus : c ≠ '-' := h.ne (by decide)
  have hunderscore : c ≠ '_' := h.ne (by decide)
  simp [isRule, hstar, hminus, hunderscore]

theorem numberSignLevel?_eq : numberSignLevel? (c :: rest) = none := by
  have hsign : c ≠ '#' := h.ne (by decide)
  simp [numberSignLevel?, cut, hsign]

theorem codeFence?_eq : codeFence? (c :: rest) = none := by
  have htilde : c ≠ '~' := h.ne (by decide)
  have htick : c ≠ '`' := h.ne (by decide)
  simp [codeFence?, htilde, htick]

theorem readDefinition_eq {p : Passage} (hp : p.text = c :: rest) : readDefinition p = none := by
  have hbracket : c ≠ '[' := h.ne (by decide)
  simp [readDefinition, hp, hbracket]

theorem onlySpace_eq : onlySpace (c :: rest) = false := by
  simp [onlySpace, h.notSpace]

/-- No container starts with the line. -/
theorem openContainers_eq (b : Builder) (ending : List Char) :
    b.openContainers (Cursor.ofLine ⟨c :: rest, ending⟩)
      = (b, some (Cursor.ofLine ⟨c :: rest, ending⟩)) := by
  have hskip := h.skip_ofLine rest ending 3
  rw [Builder.openContainers]
  dsimp only
  rw [if_neg (by simp [hskip])]
  split
  · next hitem =>
    rw [hskip, h.readItem_eq] at hitem
    cases hitem
  · split
    · next hquote =>
      rw [hskip, h.quoteMark_eq] at hquote
      cases hquote
    · rfl

/-- The last line of a text makes a paragraph of its own. -/
theorem takeParagraph_eq (b : Builder) (ending : List Char) :
    b.takeParagraph (.of ⟨c :: rest, ending⟩ (c :: rest)) []
      = (b.pushLines [.of ⟨c :: rest, ending⟩ (c :: rest)] none, []) := by
  have htext : (Passage.ofLines b.containers [.of ⟨c :: rest, ending⟩ (c :: rest)]).text
      = c :: rest := by
    simp [Passage.ofLines, PassageLine.of, List.intercalate]
  have hdefinitions : Builder.readDefinitions b.containers [.of ⟨c :: rest, ending⟩ (c :: rest)]
      = ([], [.of ⟨c :: rest, ending⟩ (c :: rest)]) := by
    rw [Builder.readDefinitions, h.readDefinition_eq rest htext]
  rw [Builder.takeParagraph, gatherParagraph]
  dsimp only
  rw [hdefinitions]
  rfl

theorem takeLeaf_eq (b : Builder) :
    b.takeLeaf (Cursor.ofLine ⟨c :: rest, []⟩) ⟨c :: rest, []⟩ []
      = (b.pushLines [.of ⟨c :: rest, []⟩ (c :: rest)] none, []) := by
  simp [Builder.takeLeaf, h.skip_ofLine, h.html?_eq, h.isRule_eq, h.numberSignLevel?_eq,
    Line.rawRest, h.codeFence?_eq, h.takeParagraph_eq]

end IsPlainStart

/-- **A text of one plain line is a paragraph.** -/
theorem Outline.blocks_of_plainLine {cs : List Char} (h : IsPlainLine cs) :
    ∃ passage, (Outline.ofText cs).blocks = [.paragraph passage] := by
  obtain ⟨hline, c, rest, rfl, hstart⟩ := h
  -- the steps of `takeLine` in their order: no container is left or opened, and no list ends
  have htake : ({} : Builder).takeLine ⟨c :: rest, []⟩ []
      = (Builder.pushLines [.of ⟨c :: rest, []⟩ (c :: rest)] none {}, []) := by
    have hentered : Container.enterAll ({} : Builder).containers (.ofLine ⟨c :: rest, []⟩)
        = (0, .ofLine ⟨c :: rest, []⟩) := rfl
    have hclosed : ({} : Builder).closeTo 0 = {} := rfl
    have hfinished : ({} : Builder).finishList = {} := rfl
    have hspace : onlySpace (Cursor.ofLine ⟨c :: rest, []⟩).rest = false := hstart.onlySpace_eq rest
    simp only [Builder.takeLine, hentered, hclosed, hstart.openContainers_eq, hspace,
      Bool.false_eq_true, if_false, hfinished, hstart.takeLeaf_eq]
  refine ⟨(Passage.ofLines [] [.of ⟨c :: rest, []⟩ (c :: rest)]).trimmed, ?_⟩
  rw [Outline.ofText, Line.ofText_of_oneLine hline, Builder.takeLines]
  dsimp only
  rw [htake, Builder.takeLines]
  rfl

end MarkdownDirectives.Markdown
