import MarkdownDirectives.Proofs.Source.Line

/-!
# Splitting undoes printing

Blocks can be printed in many ways: the line that opens a container is free in its indentation, its
number of colons and the spelling of its attributes, and the line that closes it may have more
colons. `Printed` is the relation between blocks and the lines that print them.

* `takeLine_leaf`, `takeLine_opening`, `takeLine_closing`, `foldl_takeLine_kept` — what printed
  lines do to a splitter
* `foldl_takeLine_printed` — printed blocks add themselves to the innermost section
* `splitBlocks_printed` — the blocks of a printed source are the printed ones

## Why the state is compared after a flush

A Markdown block is written down only when the next block starts or its section ends. So behind
the lines of some blocks the last of them may still be pending. `Section.flush` takes that
difference away, and nothing else.
-/

namespace MarkdownDirectives.Source

open Text

/-! ## Printing -/

/-- A line that is text inside a container of `enclosing` colons, if it is not fenced code. -/
def isText (enclosing : Option Nat) (line : List Char) : Bool :=
  (containerOpening? line).isNone && (leafLine? line).isNone && !closes enclosing line

theorem LineKind.ofLine_of_isText {enclosing : Option Nat} {line : List Char}
    (h : isText enclosing line = true) : LineKind.ofLine enclosing line = .kept := by
  simp only [isText, Bool.and_eq_true, Option.isNone_iff_eq_none, Bool.not_eq_true'] at h
  rw [LineKind.ofLine, h.2, if_neg Bool.false_ne_true, h.1.1, h.1.2]

/-- Lines of which each is text or fenced code; `fence` is open in front of them. -/
def keepsAll (enclosing : Option Nat) (fence : Option Fence) : List (List Char) → Bool
  | [] => true
  | line :: rest =>
    (Fence.covers fence line || isText enclosing line)
      && keepsAll enclosing (Fence.after fence line) rest

/-- Lines that make one Markdown block. -/
structure IsPassage (enclosing : Option Nat) (lines : List (List Char)) : Prop where
  /-- They are lines, and no carriage return gets lost at their ends. -/
  ends : ∀ line ∈ lines, '\n' ∉ line ∧ line.getLast? ≠ some '\r'
  /-- There is something on them. -/
  visible : blank (unlines lines) = false
  /-- Every fence is closed again. -/
  closed : lines.foldl Fence.after none = none
  /-- None of them is a directive. -/
  kept : keepsAll enclosing none lines = true

/-- Whether the first block is Markdown. -/
def startsWithMarkdown : List Block → Bool
  | .markdown _ :: _ => true
  | _ => false

/--
The lines print the blocks, inside a container of `enclosing` colons if there is one.

Two Markdown blocks in a row would be read as one, so they are not printed.
-/
inductive Printed : Option Nat → List Block → List (List Char) → Prop
  | nil {enclosing : Option Nat} : Printed enclosing [] []
  | leaf {enclosing : Option Nat} {line : List Char} {mark : Mark} {blocks : List Block}
      {lines : List (List Char)} (hfree : '\n' ∉ line) (hline : leafLine? line = some mark)
      (hrest : Printed enclosing blocks lines) :
      Printed enclosing (.leaf mark :: blocks) (line :: lines)
  | container {enclosing : Option Nat} {line : List Char} {colons count : Nat} {mark : Mark}
      {body blocks : List Block} {inner lines : List (List Char)} (hfree : '\n' ∉ line)
      (hopen : containerOpening? line = some (colons, mark))
      (hbody : Printed (some colons) body inner) (hclose : colons ≤ count)
      (hrest : Printed enclosing blocks lines) :
      Printed enclosing (.container mark body :: blocks)
        (line :: (inner ++ List.replicate count ':' :: lines))
  | markdown {enclosing : Option Nat} {passage : List (List Char)} {blocks : List Block}
      {lines : List (List Char)} (hpassage : IsPassage enclosing passage)
      (hnext : startsWithMarkdown blocks = false) (hrest : Printed enclosing blocks lines) :
      Printed enclosing (.markdown (unlines passage) :: blocks) (passage ++ lines)

/-! ## Sections -/

namespace Section

/-- Adds blocks behind the pending lines. -/
def add (blocks : List Block) (s : Section) : Section :=
  { s.flush with blocks := blocks.reverse ++ s.flush.blocks }

/-- Adds lines. -/
def pushLines (lines : List (List Char)) (s : Section) : Section :=
  { s with pending := lines.reverse ++ s.pending }

@[simp] theorem pending_flush (s : Section) : s.flush.pending = [] := by
  unfold flush
  dsimp only
  split <;> rfl

theorem flush_of_pending {s : Section} (h : s.pending = []) : s.flush = s := by
  obtain ⟨blocks, pending⟩ := s
  obtain rfl : pending = [] := h
  rfl

@[simp] theorem flush_flush (s : Section) : s.flush.flush = s.flush :=
  flush_of_pending (pending_flush s)

@[simp] theorem flush_pushBlock (s : Section) (block : Block) :
    (s.pushBlock block).flush = s.pushBlock block :=
  flush_of_pending (pending_flush s)

@[simp] theorem pushBlock_flush (s : Section) (block : Block) :
    s.flush.pushBlock block = s.pushBlock block := by
  rw [pushBlock, flush_flush, pushBlock]

@[simp] theorem add_flush (blocks : List Block) (s : Section) :
    s.flush.add blocks = s.add blocks := by
  rw [add, flush_flush, add]

theorem add_pushBlock (block : Block) (blocks : List Block) (s : Section) :
    (s.pushBlock block).add blocks = s.add (block :: blocks) := by
  rw [add, flush_pushBlock, pushBlock, add, List.reverse_cons, List.append_assoc]
  rfl

/-- Pending lines with something on them are the first block that follows. -/
theorem add_pushLines {lines : List (List Char)} (h : blank (unlines lines) = false)
    (blocks : List Block) {s : Section} (hs : s.pending = []) :
    (s.pushLines lines).add blocks = s.add (.markdown (unlines lines) :: blocks) := by
  have hflush : (s.pushLines lines).flush = s.pushBlock (.markdown (unlines lines)) := by
    have hsource : source (s.pushLines lines).pending = unlines lines := by
      rw [pushLines, hs, List.append_nil, source, List.reverse_reverse]
      rfl
    rw [flush, hsource, h, if_neg Bool.false_ne_true, pushBlock, flush_of_pending hs, hs]
    rfl
  rw [← add_flush, hflush, add_pushBlock]

/-- The blocks of a section are those that were added to it. -/
theorem finish_of_flush {s : Section} {blocks : List Block} (h : s.flush = add blocks {}) :
    s.finish = blocks := by
  have hadd : (add blocks {}).blocks = blocks.reverse := List.append_nil _
  rw [finish, h, hadd, List.reverse_reverse]

end Section

/-! ## Steps of the splitter -/

namespace Splitter

variable {s : Splitter} {line : List Char} {mark : Mark} {colons : Nat}

/-- The innermost section. -/
def current (s : Splitter) : Section :=
  match s.containers with
  | [] => s.root
  | inner :: _ => inner.body

/-- Starts a container. -/
def enter (s : Splitter) (colons : Nat) (mark : Mark) : Splitter :=
  let flushed := s.mapSection Section.flush
  { flushed with containers := { mark, colons } :: flushed.containers }

@[simp] theorem fence_mapSection (f : Section → Section) (s : Splitter) :
    (s.mapSection f).fence = s.fence := by
  unfold mapSection
  split <;> rfl

@[simp] theorem innermost_mapSection (f : Section → Section) (s : Splitter) :
    (s.mapSection f).innermost = s.innermost := by
  obtain ⟨root, containers, fence⟩ := s
  cases containers <;> rfl

@[simp] theorem current_mapSection (f : Section → Section) (s : Splitter) :
    (s.mapSection f).current = f s.current := by
  obtain ⟨root, containers, fence⟩ := s
  cases containers <;> rfl

theorem mapSection_id (s : Splitter) : s.mapSection (fun sec => sec) = s := by
  obtain ⟨root, containers, fence⟩ := s
  cases containers <;> rfl

@[simp] theorem mapSection_mapSection (f g : Section → Section) (s : Splitter) :
    (s.mapSection f).mapSection g = s.mapSection (fun sec => g (f sec)) := by
  obtain ⟨root, containers, fence⟩ := s
  cases containers <;> rfl

theorem mapSection_congr {f g : Section → Section} (h : f s.current = g s.current) :
    s.mapSection f = s.mapSection g := by
  obtain ⟨root, containers, fence⟩ := s
  cases containers with
  | nil => exact congrArg (Splitter.mk · [] fence) h
  | cons inner outer =>
    exact congrArg (fun body => Splitter.mk root ({ inner with body } :: outer) fence) h

@[simp] theorem fence_enter (s : Splitter) : (s.enter colons mark).fence = s.fence :=
  fence_mapSection Section.flush s

@[simp] theorem innermost_enter (s : Splitter) :
    (s.enter colons mark).innermost = some colons := rfl

theorem takeLine_outside (hfence : s.fence = none) (hline : Fence.opening? line = none) :
    s.takeLine line = s.takeOutside line := by
  obtain ⟨root, containers, fence⟩ := s
  obtain rfl : fence = none := hfence
  rw [takeLine, Fence.after, Fence.covers, hline]
  rfl

theorem takeLine_leaf (hfence : s.fence = none) (hline : leafLine? line = some mark) :
    s.takeLine line = s.mapSection (·.pushBlock (.leaf mark)) := by
  obtain ⟨rest, hcolons, -⟩ := leafLine?_eq_some hline
  rw [takeLine_outside hfence (opening?_of_lineColons hcolons (by decide)), takeOutside,
    LineKind.ofLine_leaf hline]

theorem takeLine_opening (hfence : s.fence = none)
    (hline : containerOpening? line = some (colons, mark)) :
    s.takeLine line = s.enter colons mark := by
  obtain ⟨rest, hcolons, hleast, -⟩ := containerOpening?_eq_some hline
  rw [takeLine_outside hfence (opening?_of_lineColons hcolons (by omega)), takeOutside,
    LineKind.ofLine_opening hline]
  rfl

/-- A line of enough colons ends the innermost container. -/
theorem takeLine_closing {count : Nat} (hfence : s.fence = none)
    (hstack : s.innermost = some colons) (hleast : 3 ≤ colons) (hcount : colons ≤ count) :
    s.takeLine (List.replicate count ':') = s.close := by
  have hline : lineColons (List.replicate count ':') = some (count, []) :=
    lineColons_replicate (by omega)
  rw [takeLine_outside hfence (opening?_of_lineColons hline (by omega)), takeOutside,
    LineKind.ofLine, hstack, closes_replicate hleast hcount, if_pos rfl]

/-- A container whose body has been added to it becomes a block of the section around it. -/
theorem close_of_flush {s' : Splitter} {body : List Block}
    (h : s'.mapSection Section.flush = (s.enter colons mark).mapSection (Section.add body)) :
    s'.close = s.mapSection (·.pushBlock (.container mark body)) := by
  obtain ⟨root', containers', fence'⟩ := s'
  cases containers' with
  | nil => exact absurd (congrArg Splitter.containers h) (List.cons_ne_nil _ _).symm
  | cons inner outer =>
    -- a flush touches the body of the container and nothing around it
    have hcontainers := List.cons.inj (congrArg Splitter.containers h)
    have hmark : inner.mark = mark := congrArg OpenContainer.mark hcontainers.1
    have hbody : inner.body.finish = body :=
      Section.finish_of_flush (congrArg OpenContainer.body hcontainers.1)
    have hsplit : (Splitter.mk root' outer fence') = s.mapSection Section.flush := by
      rw [hcontainers.2, show root' = _ from congrArg Splitter.root h,
        show fence' = _ from congrArg Splitter.fence h]
      rfl
    rw [close]
    show (Splitter.mk root' outer fence').mapSection
      (·.pushBlock (.container inner.mark inner.body.finish)) = _
    rw [hsplit, hmark, hbody, mapSection_mapSection]
    exact mapSection_congr (Section.pushBlock_flush ..)

/-- Lines that are kept are pending lines, and only the fence is followed in them. -/
theorem foldl_takeLine_kept : ∀ (lines : List (List Char)) (s : Splitter),
    keepsAll s.innermost s.fence lines = true →
    lines.foldl takeLine s
      = { s with fence := lines.foldl Fence.after s.fence }.mapSection (Section.pushLines lines)
  | [], s, _ => by
    rw [List.foldl_nil, List.foldl_nil]
    exact (mapSection_id s).symm
  | line :: rest, s, h => by
    rw [keepsAll, Bool.and_eq_true, Bool.or_eq_true] at h
    have hline : s.takeLine line
        = { s with fence := Fence.after s.fence line }.mapSection (·.pushLine line) := by
      rw [takeLine]
      split
      · rfl
      · next hcovers =>
        -- outside of fenced code the line is no directive either
        have htext := LineKind.ofLine_of_isText (h.1.resolve_left hcovers)
        have hsame : { s with fence := Fence.after s.fence line }.innermost = s.innermost := rfl
        rw [takeOutside, hsame, htext]
    have hlines (sec : Section) :
        (sec.pushLine line).pushLines rest = sec.pushLines (line :: rest) := by
      rw [Section.pushLines, Section.pushLines, List.reverse_cons, List.append_assoc]
      rfl
    rw [List.foldl_cons, hline, foldl_takeLine_kept rest, fence_mapSection, List.foldl_cons]
    · obtain ⟨root, containers, fence⟩ := s
      cases containers <;> simp only [mapSection, hlines]
    · rw [innermost_mapSection, fence_mapSection]
      exact h.2

/-- **Printed blocks add themselves to the innermost section.** -/
theorem foldl_takeLine_printed {enclosing : Option Nat} {blocks : List Block}
    {lines : List (List Char)} (h : Printed enclosing blocks lines) {s : Splitter}
    (hfence : s.fence = none) (hstack : s.innermost = enclosing)
    (hpending : startsWithMarkdown blocks = true → s.current.pending = []) :
    (lines.foldl takeLine s).mapSection Section.flush = s.mapSection (Section.add blocks) := by
  -- by the printing; lines that are pending in front of Markdown would be read as part of it
  induction h generalizing s with
  | nil => rfl
  | @leaf _ line mark blocks lines _ hline _ ih =>
    have hrest := ih (s := s.mapSection (·.pushBlock (.leaf mark))) (by rwa [fence_mapSection])
      (by rwa [innermost_mapSection]) (by simp [Section.pushBlock])
    rw [List.foldl_cons, takeLine_leaf hfence hline, hrest, mapSection_mapSection]
    exact mapSection_congr (Section.add_pushBlock ..)
  | @container _ line colons count mark body blocks inner lines _ hopen _ hcount _ ihbody ihrest =>
    -- the body starts in an empty section and leaves the fence and the stack as they are there
    have hbody := ihbody (s := s.enter colons mark) (by rwa [fence_enter]) (innermost_enter s)
      (fun _ => rfl)
    generalize hs : inner.foldl takeLine (s.enter colons mark) = s' at hbody
    have hfence' : s'.fence = none := by
      have := congrArg Splitter.fence hbody
      simpa [hfence] using this
    have hstack' : s'.innermost = some colons := by
      have := congrArg Splitter.innermost hbody
      simpa using this
    obtain ⟨_, -, hleast, -⟩ := containerOpening?_eq_some hopen
    have hrest := ihrest (s := s.mapSection (·.pushBlock (.container mark body)))
      (by rwa [fence_mapSection]) (by rwa [innermost_mapSection]) (by simp [Section.pushBlock])
    rw [List.foldl_cons, takeLine_opening hfence hopen, List.foldl_append, hs, List.foldl_cons,
      takeLine_closing hfence' hstack' hleast hcount, close_of_flush hbody, hrest,
      mapSection_mapSection]
    exact mapSection_congr (Section.add_pushBlock ..)
  | @markdown _ passage blocks lines hpassage hnext _ ih =>
    -- the passage stays pending: what follows it is no Markdown, so that flushes it
    have hkept : keepsAll s.innermost s.fence passage = true := by
      rw [hstack, hfence]
      exact hpassage.kept
    have hclosed : { s with fence := passage.foldl Fence.after s.fence } = s := by
      rw [hfence, hpassage.closed, ← hfence]
    have hrest := ih (s := s.mapSection (Section.pushLines passage)) (by rwa [fence_mapSection])
      (by rwa [innermost_mapSection]) (by simp [hnext])
    rw [List.foldl_append, foldl_takeLine_kept passage s hkept, hclosed, hrest,
      mapSection_mapSection]
    exact mapSection_congr (Section.add_pushLines hpassage.visible blocks (hpending rfl))

end Splitter

/-- The lines of some printed blocks hold no line feed. -/
theorem Printed.free {enclosing : Option Nat} {blocks : List Block} {lines : List (List Char)}
    (h : Printed enclosing blocks lines) : ∀ line ∈ lines, '\n' ∉ line := by
  induction h with
  | nil => exact fun line hline => absurd hline List.not_mem_nil
  | leaf hfree _ _ ih =>
    intro line hline
    rcases List.mem_cons.mp hline with rfl | hline
    · exact hfree
    · exact ih line hline
  | container hfree _ _ _ _ ihbody ihrest =>
    intro line hline
    rcases List.mem_cons.mp hline with rfl | hline
    · exact hfree
    rcases List.mem_append.mp hline with hline | hline
    · exact ihbody line hline
    rcases List.mem_cons.mp hline with rfl | hline
    · intro hmem
      exact absurd (List.eq_of_mem_replicate hmem) (by decide)
    · exact ihrest line hline
  | markdown hpassage _ _ ih =>
    intro line hline
    rcases List.mem_append.mp hline with hline | hline
    · exact (hpassage.ends line hline).1
    · exact ih line hline

/-- The lines print the same blocks without the carriage returns at their ends. -/
theorem Printed.dropReturn {enclosing : Option Nat} {blocks : List Block} {lines : List (List Char)}
    (h : Printed enclosing blocks lines) :
    Printed enclosing blocks (lines.map Text.dropReturn) := by
  induction h with
  | nil => exact .nil
  | leaf hfree hline _ ih =>
    exact .leaf (fun hmem => hfree (mem_of_mem_dropReturn hmem))
      (by rwa [leafLine?_dropReturn]) ih
  | @container _ _ _ count _ _ _ _ _ hfree hopen _ hcount _ ihbody ihrest =>
    have hclose : Text.dropReturn (List.replicate count ':') = List.replicate count ':' := by
      refine dropReturn_of_ne fun hlast => ?_
      exact absurd (List.eq_of_mem_replicate (List.mem_of_getLast? hlast)) (by decide)
    rw [List.map_cons, List.map_append, List.map_cons, hclose]
    exact .container (fun hmem => hfree (mem_of_mem_dropReturn hmem))
      (by rwa [containerOpening?_dropReturn]) ihbody hcount ihrest
  | @markdown _ passage _ _ hpassage hnext _ ih =>
    have hsame : passage.map Text.dropReturn = passage :=
      (List.map_congr_left fun line hline => dropReturn_of_ne (hpassage.ends line hline).2).trans
        (List.map_id' passage)
    rw [List.map_append, hsame]
    exact .markdown hpassage hnext ih

/-- **The blocks of a printed source are the printed ones.** -/
theorem splitBlocks_printed {blocks : List Block} {lines : List (List Char)}
    (h : Printed none blocks lines) : splitBlocks (unlines lines) = blocks := by
  have hrun := Splitter.foldl_takeLine_printed h.dropReturn (s := {}) rfl rfl (fun _ => rfl)
  rw [splitBlocks, lines_unlines lines h.free]
  generalize (lines.map Text.dropReturn).foldl Splitter.takeLine {} = s at hrun
  obtain ⟨root, containers, fence⟩ := s
  -- no container is open any more, so nothing is closed at the end
  cases containers with
  | nil => exact Section.finish_of_flush (congrArg Splitter.root hrun)
  | cons inner outer => exact absurd (congrArg Splitter.containers hrun) (List.cons_ne_nil _ _)

/-! ### A container with more colons than the one around it -/

/-- Blocks in a container of four colons in a container of three. -/
def nestedBlocks : List Block := [
  .container { name := "outer" } [
    .markdown "before\n".toList,
    .container { name := "inner", label := "label".toList } [
      .markdown "~~~\n::::\n~~~\n:::\n".toList,
      .leaf { name := "leaf" }]],
  .markdown "after\n".toList]

/-- The same printed. Three colons do not close the inner container, nor do four inside a fence. -/
def nestedLines : List (List Char) :=
  [":::outer\r".toList, "before".toList, "  ::::inner[label]".toList, "~~~".toList, "::::".toList,
    "~~~".toList, ":::".toList, "::leaf".toList, ":::::".toList, ":::".toList, "after".toList]

theorem printed_nested : Printed none nestedBlocks nestedLines := by
  have hbefore : IsPassage (some 3) ["before".toList] :=
    ⟨by decide, by decide, by decide, by decide⟩
  have hfenced : IsPassage (some 4) ["~~~".toList, "::::".toList, "~~~".toList, ":::".toList] :=
    ⟨by decide, by decide, by decide, by decide⟩
  have hafter : IsPassage none ["after".toList] := ⟨by decide, by decide, by decide, by decide⟩
  have hinner : containerOpening? "  ::::inner[label]".toList
      = some (4, { name := "inner", label := "label".toList }) := by decide
  have houter : containerOpening? ":::outer\r".toList = some (3, { name := "outer" }) := by decide
  have hleaf : leafLine? "::leaf".toList = some { name := "leaf" } := by decide
  exact .container (by decide) houter
    (.markdown hbefore rfl (.container (by decide) hinner
      (.markdown hfenced rfl (.leaf (by decide) hleaf .nil)) (Nat.le_succ 4) .nil))
    (Nat.le_refl 3) (.markdown hafter rfl .nil)

theorem splitBlocks_printed_nested :
    Printed none nestedBlocks nestedLines ∧ splitBlocks (unlines nestedLines) = nestedBlocks :=
  ⟨printed_nested, splitBlocks_printed printed_nested⟩

end MarkdownDirectives.Source
