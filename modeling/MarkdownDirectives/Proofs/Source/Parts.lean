import MarkdownDirectives.Proofs.Source.Printed

/-!
# Lines and the parts of blocks

What a line is depends only on the colons of the open containers and on the open fence
(`Standing`), not on the blocks so far. Blocks are compared with lines part by part: `Block.parts`
lists what the blocks are made of in document order, and `partsOfLines` what the lines amount to.

* `Standing.reads_take` — what a line reads as, from the lines above it
* `Splitter.parts_takeLine`, `Splitter.parts_foldl` — what one line, and a run, adds to the parts
* `partsList_splitBlocks` — the parts of a source are those of its lines

## Why parts and not blocks

A block is finished only when the container around it ends, so behind a line the tree is incomplete
at every level. The parts up to a line are complete: nothing is put in front of them later.
-/

namespace MarkdownDirectives.Source

open Text

/-! ## Lines -/

namespace LineKind

/-- The line is no text. -/
def isConsumed : LineKind → Bool
  | .kept => false
  | _ => true

/-- The directive that the line opens a container of. -/
def opened? : LineKind → Option Mark
  | .opening _ mark => some mark
  | _ => none

/-- The leaf directive that the line is. -/
def leaf? : LineKind → Option Mark
  | .leaf mark => some mark
  | _ => none

/-- The colons of the open containers behind the line, innermost first. -/
def colonsBehind (colons : List Nat) : LineKind → List Nat
  | .opening count _ => count :: colons
  | .closing => colons.tail
  | .leaf _ | .kept => colons

/-- What the line has to be like to be taken for this, if `fence` is open in front of it and the
innermost container has `innermost` colons. Fenced code is kept whatever it looks like; of the other
lines those are kept that are no directive and close no container. -/
def Reads (fence : Option Fence) (innermost : Option Nat) (line : List Char) : LineKind → Prop
  | .opening colons mark =>
    Fence.covers fence line = false ∧ containerOpening? line = some (colons, mark)
  | .closing => Fence.covers fence line = false ∧ ∃ least colons, innermost = some least ∧
    containerClosing? line = some colons ∧ least ≤ colons
  | .leaf mark => Fence.covers fence line = false ∧ leafLine? line = some mark
  | .kept => Fence.covers fence line = true ∨
    containerOpening? line = none ∧ leafLine? line = none ∧
      ∀ least colons, innermost = some least → containerClosing? line = some colons →
        colons < least

end LineKind

/-- The colons of the containers that lines leave open, innermost first. -/
def openColons (taken : List (List Char × LineKind)) : List Nat :=
  taken.foldl (fun colons entry => entry.2.colonsBehind colons) []

theorem closes_iff {innermost : Option Nat} {line : List Char} :
    closes innermost line = true ↔ ∃ least colons, innermost = some least ∧
      containerClosing? line = some colons ∧ least ≤ colons := by
  cases innermost with
  | none => simp [closes]
  | some least => cases hline : containerClosing? line <;> simp [closes, hline]

/-- What the lines so far leave open: the colons of the containers, innermost first, and a fence. -/
structure Standing where
  colons : List Nat := []
  fence : Option Fence := none

namespace Standing

/-- What a line is. Fenced code is kept. -/
def kindOf (p : Standing) (line : List Char) : LineKind :=
  if Fence.covers p.fence line then .kept else .ofLine p.colons.head? line

/-- What is open behind a line. -/
def after (p : Standing) (line : List Char) : Standing where
  colons := (p.kindOf line).colonsBehind p.colons
  fence := Fence.after p.fence line

/-- Lines with what each of them is. -/
def take (p : Standing) : List (List Char) → List (List Char × LineKind)
  | [] => []
  | line :: rest => (line, p.kindOf line) :: (p.after line).take rest

theorem map_fst_take (p : Standing) (ls : List (List Char)) : (p.take ls).map Prod.fst = ls := by
  induction ls generalizing p with
  | nil => rfl
  | cons line rest ih => rw [take, List.map_cons, ih]

theorem take_append (p : Standing) (first second : List (List Char)) :
    p.take (first ++ second) = p.take first ++ (first.foldl after p).take second := by
  induction first generalizing p with
  | nil => rfl
  | cons line rest ih => rw [List.cons_append, take, take, ih, List.foldl_cons, List.cons_append]

theorem fence_foldl_after (p : Standing) (ls : List (List Char)) :
    (ls.foldl after p).fence = ls.foldl Fence.after p.fence := by
  induction ls generalizing p with
  | nil => rfl
  | cons line rest ih => rw [List.foldl_cons, ih, List.foldl_cons]; rfl

theorem reads_kindOf (p : Standing) (line : List Char) :
    (p.kindOf line).Reads p.fence p.colons.head? line := by
  rw [kindOf]
  by_cases hcovers : Fence.covers p.fence line = true
  · rw [if_pos hcovers]
    exact .inl hcovers
  rw [if_neg hcovers, LineKind.ofLine]
  rw [Bool.not_eq_true] at hcovers
  by_cases hclose : closes p.colons.head? line = true
  · rw [if_pos hclose]
    exact ⟨hcovers, closes_iff.mp hclose⟩
  rw [if_neg hclose]
  cases hopening : containerOpening? line with
  | some found => exact ⟨hcovers, hopening⟩
  | none =>
    cases hleaf : leafLine? line with
    | some mark => exact ⟨hcovers, hleaf⟩
    | none =>
      refine .inr ⟨hopening, hleaf, fun least colons hleast hcolons => ?_⟩
      refine Nat.lt_of_not_le fun hle => hclose ?_
      exact closes_iff.mpr ⟨least, colons, hleast, hcolons, hle⟩

/-- **A line reads as one thing only.** -/
theorem reads_iff {p : Standing} {line : List Char} {kind : LineKind} :
    kind.Reads p.fence p.colons.head? line ↔ kind = p.kindOf line := by
  refine ⟨fun h => ?_, fun h => h ▸ reads_kindOf p line⟩
  rw [kindOf]
  by_cases hcovers : Fence.covers p.fence line = true
  · rw [if_pos hcovers]
    cases kind with
    | kept => rfl
    | opening | closing | leaf => exact absurd (h.1.symm.trans hcovers) Bool.false_ne_true
  rw [if_neg hcovers]
  cases kind with
  | opening colons mark => exact (LineKind.ofLine_opening h.2 _).symm
  | closing => rw [LineKind.ofLine, if_pos (closes_iff.mpr h.2)]
  | leaf mark => exact (LineKind.ofLine_leaf h.2 _).symm
  | kept =>
    obtain ⟨hopening, hleaf, hclosing⟩ := h.resolve_left hcovers
    have hclose : ¬ closes p.colons.head? line = true := by
      rw [closes_iff]
      rintro ⟨least, colons, hleast, hcolons, hle⟩
      exact absurd hle (Nat.not_le_of_lt (hclosing least colons hleast hcolons))
    rw [LineKind.ofLine, if_neg hclose, hopening, hleaf]

/-- Every line is what it reads as where it stands, behind the lines above it. -/
theorem reads_take {p : Standing} {ls : List (List Char)} {line : List Char}
    {above below : List (List Char × LineKind)} {kind : LineKind}
    (h : p.take ls = above ++ (line, kind) :: below) (other : LineKind) :
    other.Reads ((above.map Prod.fst).foldl Fence.after p.fence)
        (above.foldl (fun colons entry => entry.2.colonsBehind colons) p.colons).head? line
      ↔ other = kind := by
  induction above generalizing p ls with
  | nil =>
    cases ls with
    | nil => cases h
    | cons first rest =>
      cases h
      exact reads_iff
  | cons entry more ih =>
    cases ls with
    | nil => cases h
    | cons first rest =>
      obtain ⟨rfl, hrest⟩ := List.cons.inj h
      exact ih hrest

theorem exists_reads {p : Standing} {ls : List (List Char)} {line : List Char} {kind : LineKind}
    (h : (line, kind) ∈ p.take ls) : ∃ fence innermost, kind.Reads fence innermost line := by
  obtain ⟨above, below, hsplit⟩ := List.append_of_mem h
  exact ⟨_, _, (reads_take hsplit kind).mpr rfl⟩

end Standing

/-! ## Parts -/

/-- What blocks are made of. -/
inductive Part where
  | markdown (source : List Char)
  | leaf (mark : Mark)
  | opening (mark : Mark)
  | closing

namespace Part

/-- The source of a part that is Markdown. -/
def source? : Part → Option (List Char)
  | .markdown source => some source
  | _ => none

/-- The directive of a container that starts. -/
def opened? : Part → Option Mark
  | .opening mark => some mark
  | _ => none

/-- The directive of a leaf. -/
def leaf? : Part → Option Mark
  | .leaf mark => some mark
  | _ => none

end Part

mutual

/-- The parts of a block in document order. -/
def Block.parts : Block → List Part
  | .markdown source => [.markdown source]
  | .leaf mark => [.leaf mark]
  | .container mark body => .opening mark :: (Block.partsList body ++ [.closing])

/-- The parts of blocks in document order. -/
def Block.partsList : List Block → List Part
  | [] => []
  | block :: rest => Block.parts block ++ Block.partsList rest

end

theorem Block.partsList_append (first second : List Block) :
    Block.partsList (first ++ second) = Block.partsList first ++ Block.partsList second := by
  induction first with
  | nil => rfl
  | cons block rest ih => rw [List.cons_append, partsList, ih, partsList, List.append_assoc]

/-- The part that a line is, if it is no text. -/
def LineKind.part? : LineKind → Option Part
  | .opening _ mark => some (.opening mark)
  | .closing => some .closing
  | .leaf mark => some (.leaf mark)
  | .kept => none

/-- Kept lines as a part. They are dropped if there is nothing on them. -/
def passage (ls : List (List Char)) : List Part :=
  if blank (unlines ls) then [] else [.markdown (unlines ls)]

/-- The parts that lines amount to; `pending` are the kept lines in front of them. -/
def partsOfLines (pending : List (List Char)) : List (List Char × LineKind) → List Part
  | [] => passage pending
  | (line, .kept) :: rest => partsOfLines (pending ++ [line]) rest
  | (_, .opening _ mark) :: rest => passage pending ++ .opening mark :: partsOfLines [] rest
  | (_, .closing) :: rest => passage pending ++ .closing :: partsOfLines [] rest
  | (_, .leaf mark) :: rest => passage pending ++ .leaf mark :: partsOfLines [] rest

theorem partsOfLines_consumed {kind : LineKind} {part : Part} (h : kind.part? = some part)
    (pending : List (List Char)) (line : List Char) (rest : List (List Char × LineKind)) :
    partsOfLines pending ((line, kind) :: rest)
      = passage pending ++ part :: partsOfLines [] rest := by
  cases kind with
  | kept => cases h
  | opening | closing | leaf => cases h; rfl

/-- A line without a part is text. -/
theorem LineKind.eq_kept {kind : LineKind} (h : kind.part? = none) : kind = .kept := by
  cases kind with
  | kept => rfl
  | opening | closing | leaf => cases h

/-! ## Parts of a splitter -/

namespace Section

/-- The parts of a section, its pending lines aside. -/
def parts (s : Section) : List Part :=
  Block.partsList s.blocks.reverse

/-- The pending lines in order. -/
def lines (s : Section) : List (List Char) :=
  s.pending.reverse

theorem parts_flush (s : Section) : s.flush.parts = s.parts ++ passage s.lines := by
  have hsource : source s.pending = unlines s.lines := rfl
  rw [flush, hsource, passage]
  split
  · rw [List.append_nil]; rfl
  · rw [parts, List.reverse_cons, Block.partsList_append]; rfl

theorem parts_pushBlock (s : Section) (block : Block) :
    (s.pushBlock block).parts = s.parts ++ passage s.lines ++ Block.parts block := by
  have hblocks : (s.pushBlock block).parts
      = Block.partsList (s.flush.blocks.reverse ++ [block]) := by
    rw [← List.reverse_cons]; rfl
  rw [hblocks, Block.partsList_append, ← parts_flush, Block.partsList, Block.partsList,
    List.append_nil]
  rfl

theorem partsList_finish (s : Section) :
    Block.partsList s.finish = s.parts ++ passage s.lines := by
  rw [← parts_flush]; rfl

end Section

/-- The parts of an open container. -/
def OpenContainer.parts (c : OpenContainer) : List Part :=
  .opening c.mark :: c.body.parts

namespace Splitter

/-- The parts so far, the pending lines aside. -/
def parts (s : Splitter) : List Part :=
  s.root.parts ++ s.containers.reverse.flatMap OpenContainer.parts

/-- What is open. -/
def standing (s : Splitter) : Standing where
  colons := s.containers.map OpenContainer.colons
  fence := s.fence

/-- The sections around the innermost one. -/
def outer (s : Splitter) : List Section :=
  match s.containers with
  | [] => []
  | _ :: outer => s.root :: outer.map OpenContainer.body

/-- Only the innermost section has pending lines. -/
def Settled (s : Splitter) : Prop :=
  ∀ sec ∈ s.outer, sec.pending = []

@[simp] theorem standing_mapSection (f : Section → Section) (s : Splitter) :
    (s.mapSection f).standing = s.standing := by
  obtain ⟨root, containers, fence⟩ := s
  cases containers <;> rfl

@[simp] theorem outer_mapSection (f : Section → Section) (s : Splitter) :
    (s.mapSection f).outer = s.outer := by
  obtain ⟨root, containers, fence⟩ := s
  cases containers <;> rfl

/-- What the innermost section gets comes behind everything else. -/
theorem parts_mapSection {f : Section → Section} {s : Splitter} (added : List Part)
    (h : (f s.current).parts = s.current.parts ++ added) :
    (s.mapSection f).parts = s.parts ++ added := by
  obtain ⟨root, containers, fence⟩ := s
  cases containers with
  | nil =>
    have hroot : (f root).parts = root.parts ++ added := h
    show (f root).parts ++ [] = root.parts ++ [] ++ added
    rw [hroot, List.append_nil, List.append_nil]
  | cons inner outer =>
    have hbody : (f inner.body).parts = inner.body.parts ++ added := h
    simp only [parts, mapSection, List.reverse_cons, List.flatMap_append, List.flatMap_cons,
      List.flatMap_nil, OpenContainer.parts, hbody, List.append_nil, List.append_assoc,
      List.cons_append]

/-! ## One line -/

variable {s : Splitter}

theorem head?_standing (s : Splitter) : s.standing.colons.head? = s.innermost :=
  List.head?_map

/-- What a splitter does with a line. -/
theorem takeLine_eq (s : Splitter) (line : List Char) :
    s.takeLine line =
      let next := { s with fence := Fence.after s.fence line }
      match s.standing.kindOf line with
      | .closing => next.close
      | .opening colons mark => next.enter colons mark
      | .leaf mark => next.mapSection (·.pushBlock (.leaf mark))
      | .kept => next.mapSection (·.pushLine line) := by
  rw [takeLine, Standing.kindOf, head?_standing]
  by_cases hcovers : Fence.covers s.fence line = true
  · have hcovers' : Fence.covers s.standing.fence line = true := hcovers
    rw [if_pos hcovers, if_pos hcovers']
  · have hcovers' : ¬ Fence.covers s.standing.fence line = true := hcovers
    rw [if_neg hcovers, if_neg hcovers']
    rfl

/-! ### Opening and closing -/

theorem settled_mapSection {f : Section → Section} : (s.mapSection f).Settled ↔ s.Settled := by
  rw [Settled, Settled, outer_mapSection]

theorem parts_enter (s : Splitter) (colons : Nat) (mark : Mark) :
    (s.enter colons mark).parts = s.parts ++ (passage s.current.lines ++ [.opening mark]) := by
  have hflush : (s.mapSection Section.flush).parts = s.parts ++ passage s.current.lines :=
    parts_mapSection _ (Section.parts_flush s.current)
  have hnew : (s.enter colons mark).parts
      = (s.mapSection Section.flush).parts ++ [.opening mark] := by
    simp only [parts, enter, List.reverse_cons, List.flatMap_append, List.append_assoc]
    rfl
  rw [hnew, hflush, List.append_assoc]

theorem settled_enter (h : s.Settled) (colons : Nat) (mark : Mark) :
    (s.enter colons mark).Settled := by
  -- the section that was innermost has just been flushed
  have houter : (s.enter colons mark).outer = match s.containers with
      | [] => [s.root.flush]
      | inner :: outer => s.root :: inner.body.flush :: outer.map OpenContainer.body := by
    obtain ⟨root, containers, fence⟩ := s
    cases containers <;> rfl
  intro sec hsec
  rw [houter] at hsec
  obtain ⟨root, containers, fence⟩ := s
  cases containers with
  | nil =>
    rw [List.mem_singleton] at hsec
    rw [hsec, Section.pending_flush]
  | cons inner outer =>
    rcases List.mem_cons.mp hsec with rfl | hsec
    · exact h _ List.mem_cons_self
    rcases List.mem_cons.mp hsec with rfl | hsec
    · exact Section.pending_flush _
    · exact h sec (List.mem_cons_of_mem _ hsec)

theorem standing_enter (s : Splitter) (colons : Nat) (mark : Mark) :
    (s.enter colons mark).standing = ⟨colons :: s.standing.colons, s.fence⟩ := by
  obtain ⟨root, containers, fence⟩ := s
  cases containers <;> rfl

/-- The splitter around the innermost container. -/
def around (s : Splitter) : Splitter :=
  { s with containers := s.containers.tail }

theorem close_eq (s : Splitter) {inner : OpenContainer} {outer : List OpenContainer}
    (h : s.containers = inner :: outer) :
    s.close = s.around.mapSection (·.pushBlock (.container inner.mark inner.body.finish)) := by
  rw [close, h, around, h]
  rfl

theorem settled_around (h : s.Settled) : s.around.Settled := by
  obtain ⟨root, containers, fence⟩ := s
  cases containers with
  | nil => exact h
  | cons inner outer =>
    cases outer with
    | nil => exact List.forall_mem_nil _
    | cons next outer =>
      intro sec hsec
      rcases List.mem_cons.mp hsec with rfl | hsec
      · exact h _ List.mem_cons_self
      · exact h sec (List.mem_cons_of_mem _ (List.mem_cons_of_mem _ hsec))

theorem pending_around (h : s.Settled) (hopen : s.containers ≠ []) :
    s.around.current.pending = [] := by
  obtain ⟨root, containers, fence⟩ := s
  cases containers with
  | nil => exact absurd rfl hopen
  | cons inner outer =>
    cases outer with
    | nil => exact h root List.mem_cons_self
    | cons next outer => exact h next.body (List.mem_cons_of_mem _ List.mem_cons_self)

theorem settled_close (h : s.Settled) : s.close.Settled := by
  cases hc : s.containers with
  | nil => rwa [close, hc]
  | cons inner outer =>
    rw [close_eq s hc, settled_mapSection]
    exact settled_around h

theorem standing_close (s : Splitter) :
    s.close.standing = ⟨s.standing.colons.tail, s.fence⟩ := by
  cases hc : s.containers with
  | nil => rw [close, hc, standing, hc]; rfl
  | cons inner outer =>
    rw [close_eq s hc, standing_mapSection, standing, standing, hc, around, hc]
    rfl

theorem lines_close (s : Splitter) (hopen : s.containers ≠ []) : s.close.current.lines = [] := by
  obtain ⟨inner, outer, hc⟩ := List.exists_cons_of_ne_nil hopen
  rw [close_eq s hc, current_mapSection, Section.lines, Section.pushBlock, Section.pending_flush]
  rfl

theorem parts_close (h : s.Settled) (hopen : s.containers ≠ []) :
    s.close.parts = s.parts ++ (passage s.current.lines ++ [.closing]) := by
  obtain ⟨inner, outer, hc⟩ := List.exists_cons_of_ne_nil hopen
  have hlines : s.around.current.lines = [] := by
    rw [Section.lines, pending_around h hopen]
    rfl
  have hcurrent : s.current = inner.body := by rw [current, hc]
  -- the parts of the container are those it had while it was open
  have hinner : s.parts = s.around.parts ++ inner.parts := by
    simp only [parts, around, hc, List.tail_cons, List.reverse_cons, List.flatMap_append,
      List.flatMap_cons, List.flatMap_nil, List.append_nil, List.append_assoc]
  rw [close_eq s hc, parts_mapSection
    (Block.parts (.container inner.mark inner.body.finish))]
  · rw [Block.parts, Section.partsList_finish, hinner, hcurrent, OpenContainer.parts]
    simp only [List.append_assoc, List.cons_append]
  · rw [Section.parts_pushBlock, hlines]
    exact congrArg (· ++ _) (List.append_nil _)

/-! ### Every line -/

/-- Only a line behind an open container can close one. -/
theorem containers_ne_nil_of_closing {line : List Char} (h : s.standing.kindOf line = .closing) :
    s.containers ≠ [] := by
  intro hc
  have hnone : s.standing.colons.head? = none := by rw [standing, hc]; rfl
  rw [Standing.kindOf, hnone] at h
  split at h
  · cases h
  · have hclosed : closes none line = false := rfl
    rw [LineKind.ofLine, hclosed, if_neg Bool.false_ne_true] at h
    split at h
    · cases h
    · split at h <;> cases h

theorem standing_takeLine (s : Splitter) (line : List Char) :
    (s.takeLine line).standing = s.standing.after line := by
  rw [takeLine_eq, Standing.after]
  cases s.standing.kindOf line with
  | closing => exact standing_close _
  | opening colons mark => exact standing_enter _ colons mark
  | leaf mark => exact standing_mapSection _ _
  | kept => exact standing_mapSection _ _

theorem settled_takeLine (h : s.Settled) (line : List Char) : (s.takeLine line).Settled := by
  have hnext : ({ s with fence := Fence.after s.fence line } : Splitter).Settled := h
  rw [takeLine_eq]
  cases s.standing.kindOf line with
  | closing => exact settled_close hnext
  | opening colons mark => exact settled_enter hnext colons mark
  | leaf mark => exact settled_mapSection.mpr hnext
  | kept => exact settled_mapSection.mpr hnext

/-- **A line adds its part behind the parts so far, or stays pending.** -/
theorem parts_takeLine (h : s.Settled) (line : List Char) (rest : List (List Char × LineKind)) :
    (s.takeLine line).parts ++ partsOfLines (s.takeLine line).current.lines rest
      = s.parts ++ partsOfLines s.current.lines ((line, s.standing.kindOf line) :: rest) := by
  have hnext : ({ s with fence := Fence.after s.fence line } : Splitter).Settled := h
  rw [takeLine_eq]
  cases hkind : s.standing.kindOf line with
  | closing =>
    have hopen := containers_ne_nil_of_closing hkind
    have hlines := lines_close { s with fence := Fence.after s.fence line } hopen
    rw [partsOfLines]
    dsimp only
    rw [parts_close hnext hopen, hlines, List.append_assoc, List.append_assoc]
    rfl
  | opening colons mark =>
    have hlines : (({ s with fence := Fence.after s.fence line } : Splitter).enter
        colons mark).current.lines = [] := rfl
    rw [partsOfLines]
    dsimp only
    rw [parts_enter, hlines, List.append_assoc, List.append_assoc]
    rfl
  | leaf mark =>
    have hparts : ∀ sec : Section, (sec.pushBlock (.leaf mark)).parts
        = sec.parts ++ (passage sec.lines ++ [.leaf mark]) := fun sec => by
      rw [Section.parts_pushBlock, List.append_assoc, Block.parts]
    have hlines : ∀ sec : Section, (sec.pushBlock (.leaf mark)).lines = [] := fun sec => by
      rw [Section.lines, Section.pushBlock, Section.pending_flush]
      rfl
    rw [partsOfLines]
    dsimp only
    rw [parts_mapSection _ (hparts _), current_mapSection, hlines, List.append_assoc,
      List.append_assoc]
    rfl
  | kept =>
    have hlines : ∀ sec : Section, (sec.pushLine line).lines = sec.lines ++ [line] :=
      fun sec => List.reverse_cons
    rw [partsOfLines]
    dsimp only
    rw [parts_mapSection [] (List.append_nil _).symm, current_mapSection, hlines,
      List.append_nil]
    rfl

/-- **The parts of a run are those of its lines.** -/
theorem parts_foldl (h : s.Settled) (ls : List (List Char)) :
    (ls.foldl takeLine s).parts ++ passage (ls.foldl takeLine s).current.lines
      = s.parts ++ partsOfLines s.current.lines (s.standing.take ls) := by
  induction ls generalizing s with
  | nil => rfl
  | cons line rest ih =>
    rw [List.foldl_cons, ih (settled_takeLine h line), standing_takeLine, Standing.take]
    exact parts_takeLine h line _

theorem settled_foldl (h : s.Settled) (ls : List (List Char)) : (ls.foldl takeLine s).Settled := by
  induction ls generalizing s with
  | nil => exact h
  | cons line rest ih => exact ih (settled_takeLine h line)

theorem standing_foldl (s : Splitter) (ls : List (List Char)) :
    (ls.foldl takeLine s).standing = ls.foldl Standing.after s.standing := by
  induction ls generalizing s with
  | nil => rfl
  | cons line rest ih => rw [List.foldl_cons, ih, standing_takeLine, List.foldl_cons]

/-! ## The end of the source -/

theorem parts_closeAll : ∀ (opened : List OpenContainer) (s : Splitter), s.Settled →
    s.containers.length = opened.length →
    Block.partsList (opened.foldl (fun s _ => s.close) s).root.finish
      = s.parts ++ passage s.current.lines ++ List.replicate opened.length .closing
  | [], s, _, hlength => by
    have hc : s.containers = [] := List.eq_nil_of_length_eq_zero hlength
    rw [List.foldl_nil, Section.partsList_finish, parts, current, hc]
    simp
  | _ :: opened, s, h, hlength => by
    have hopen : s.containers ≠ [] := List.ne_nil_of_length_eq_add_one hlength
    have hrest : s.close.containers.length = opened.length := by
      have := congrArg (fun p : Standing => p.colons.length) (standing_close s)
      simp only [standing, List.length_map, List.length_tail] at this
      rw [this, hlength, List.length_cons, Nat.add_sub_cancel]
    have hblank : passage [] = [] := rfl
    rw [List.foldl_cons, parts_closeAll opened s.close (settled_close h) hrest, parts_close h hopen,
      lines_close s hopen, hblank, List.length_cons, List.replicate_succ]
    simp only [List.append_assoc, List.append_nil, List.singleton_append]

/-- Every container that is still open ends behind the pending lines. -/
theorem parts_finish (h : s.Settled) :
    Block.partsList s.finish = s.parts ++ passage s.current.lines
      ++ List.replicate s.standing.colons.length .closing := by
  rw [finish, parts_closeAll s.containers s h rfl, standing, List.length_map]

end Splitter

/-- **The parts of a source are those of its lines, and the ends of what is left open.** -/
theorem partsList_splitBlocks (source : List Char) :
    Block.partsList (splitBlocks source)
      = partsOfLines [] (Standing.take {} (lines source))
        ++ List.replicate ((lines source).foldl Standing.after {}).colons.length .closing := by
  have hstart : (({} : Splitter)).Settled := List.forall_mem_nil _
  have hrun := Splitter.parts_foldl hstart (lines source)
  have hstanding := Splitter.standing_foldl {} (lines source)
  rw [splitBlocks, Splitter.parts_finish (Splitter.settled_foldl hstart _), hrun, hstanding]
  rfl

end MarkdownDirectives.Source
