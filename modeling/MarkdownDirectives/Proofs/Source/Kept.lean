import Mathlib.Data.List.DropRight
import MarkdownDirectives.Proofs.Source.Parts

/-!
# No line gets lost

Every line of a source opens a container, closes one, is a leaf directive or is kept. Kept lines
that stand together become one Markdown block, if there is something on them.

* `sources_splitBlocks` — the Markdown of the blocks is that of the runs of kept lines
* `fenced_splitBlocks` — fenced code is kept in one block
* `splitBlocks_keeps_lines` — every line of a source has its place in the blocks
-/

namespace MarkdownDirectives.Source

open Text

/-! ## Kept lines -/

/-- The longest runs of kept lines between the other lines. -/
def keptRuns (taken : List (List Char × LineKind)) : List (List (List Char)) :=
  (taken.splitOnP (·.2.isConsumed)).map (·.map Prod.fst)

/-- There is something on one of the lines. -/
def isVisible (run : List (List Char)) : Bool :=
  !blank (unlines run)

/-- The sources of the runs with something on them. -/
def visibleSources (runs : List (List (List Char))) : List (List Char) :=
  (runs.filter isVisible).map unlines

theorem sources_passage (ls : List (List Char)) :
    (passage ls).filterMap Part.source? = visibleSources [ls] := by
  rw [passage, visibleSources, List.filter_cons, isVisible]
  cases blank (unlines ls) <;> rfl

theorem visibleSources_cons (run : List (List Char)) (runs : List (List (List Char))) :
    visibleSources (run :: runs) = visibleSources [run] ++ visibleSources runs := by
  rw [visibleSources, visibleSources, visibleSources, ← List.map_append, ← List.filter_append]
  rfl

theorem map_fst_kept (ls : List (List Char)) :
    (ls.map fun line => (line, LineKind.kept)).map Prod.fst = ls := by
  rw [List.map_map]
  exact List.map_id ls

theorem not_isConsumed_kept (ls : List (List Char)) :
    ∀ entry ∈ ls.map (fun line => (line, LineKind.kept)), entry.2.isConsumed = false := by
  intro entry hentry
  obtain ⟨line, -, rfl⟩ := List.mem_map.mp hentry
  rfl

theorem isConsumed_of_part? {kind : LineKind} {part : Part} (h : kind.part? = some part) :
    kind.isConsumed = true := by
  cases kind with
  | kept => cases h
  | opening | closing | leaf => rfl

theorem source_of_part? {kind : LineKind} {part : Part} (h : kind.part? = some part) :
    part.source? = none := by
  cases kind with
  | kept => cases h
  | opening | closing | leaf => cases h; rfl

/-- The Markdown of the parts is that of the runs, those without anything on them aside. -/
theorem sources_partsOfLines (pending : List (List Char)) (taken : List (List Char × LineKind)) :
    (partsOfLines pending taken).filterMap Part.source?
      = visibleSources (keptRuns (pending.map (·, .kept) ++ taken)) := by
  induction taken generalizing pending with
  | nil =>
    have hsingle := List.splitOnP_eq_singleton (not_isConsumed_kept pending)
    rw [partsOfLines, sources_passage, List.append_nil, keptRuns, hsingle, List.map_singleton,
      map_fst_kept]
  | cons entry rest ih =>
    obtain ⟨line, kind⟩ := entry
    cases hpart : kind.part? with
    | none =>
      have hsnoc : pending.map (·, LineKind.kept) ++ (line, .kept) :: rest
          = (pending ++ [line]).map (·, .kept) ++ rest := by
        rw [List.map_append, List.append_assoc]
        rfl
      rw [LineKind.eq_kept hpart, partsOfLines, ih, hsnoc]
    | some part =>
      -- a line that is no text ends the run of the pending lines
      have hsplit := List.splitOnP_append_cons_of_forall_mem (not_isConsumed_kept pending)
        (line, kind) (isConsumed_of_part? hpart) rest
      have hrun : keptRuns (pending.map (·, .kept) ++ (line, kind) :: rest)
          = pending :: keptRuns rest := by
        rw [keptRuns, hsplit, List.map_cons, map_fst_kept, keptRuns]
      rw [partsOfLines_consumed hpart, List.filterMap_append,
        List.filterMap_cons_none (source_of_part? hpart), sources_passage, ih, hrun,
        visibleSources_cons pending (keptRuns rest)]
      rfl

/-- What a part says beside Markdown is said by the line that it comes from. -/
theorem filterMap_partsOfLines {β : Type} {f : Part → Option β}
    (hf : ∀ source, f (.markdown source) = none) (pending : List (List Char))
    (taken : List (List Char × LineKind)) :
    (partsOfLines pending taken).filterMap f
      = taken.filterMap fun entry => entry.2.part?.bind f := by
  have hpassage (ls : List (List Char)) : (passage ls).filterMap f = [] := by
    rw [passage]
    split
    · rfl
    · rw [List.filterMap_cons_none (hf _)]; rfl
  induction taken generalizing pending with
  | nil => rw [partsOfLines, hpassage]; rfl
  | cons entry rest ih =>
    obtain ⟨line, kind⟩ := entry
    rw [List.filterMap_cons]
    cases hpart : kind.part? with
    | none =>
      rw [LineKind.eq_kept hpart, partsOfLines, ih]
      rfl
    | some part =>
      rw [partsOfLines_consumed hpart, List.filterMap_append, hpassage, List.nil_append,
        List.filterMap_cons, ih]
      rfl

theorem opened_part (kind : LineKind) : kind.part?.bind Part.opened? = kind.opened? := by
  cases kind <;> rfl

theorem leaf_part (kind : LineKind) : kind.part?.bind Part.leaf? = kind.leaf? := by
  cases kind <;> rfl

/-! ## Lines that stand together -/

section Cut

variable {α : Type} {p : α → Bool}

/-- The first piece of a cut list reaches up to the first separator. -/
theorem exists_mem_splitOnP_append {run : List α} (hrun : ∀ a ∈ run, p a = false)
    (behind : List α) :
    ∃ back, back <+: behind ∧ run ++ back ∈ (run ++ behind).splitOnP p := by
  have hbehind : behind.takeWhile (!p ·) ++ behind.dropWhile (!p ·) = behind :=
    List.takeWhile_append_dropWhile
  have hclear : ∀ a ∈ run ++ behind.takeWhile (!p ·), p a = false := by
    refine List.forall_mem_append.mpr ⟨hrun, fun a ha => ?_⟩
    simpa using List.all_eq_true.mp List.all_takeWhile a ha
  refine ⟨behind.takeWhile (!p ·), List.takeWhile_prefix _, ?_⟩
  cases hdrop : behind.dropWhile (!p ·) with
  | nil =>
    rw [hdrop, List.append_nil] at hbehind
    rw [hbehind] at hclear ⊢
    rw [List.splitOnP_eq_singleton hclear]
    exact List.mem_singleton_self _
  | cons sep tail =>
    have hsep : p sep = true := by
      have := List.head?_dropWhile_not (!p ·) behind
      rw [hdrop] at this
      simpa using this
    have hcut : run ++ behind = (run ++ behind.takeWhile (!p ·)) ++ sep :: tail := by
      rw [List.append_assoc, ← hdrop, hbehind]
    rw [hcut, List.splitOnP_append_cons_of_forall_mem hclear sep hsep]
    exact List.mem_cons_self

/-- What stands in front of a separator does not matter behind it. -/
theorem exists_suffix_splitOnP (before : List α) :
    ∃ front, front <:+ before ∧ (∀ a ∈ front, p a = false) ∧
      ∀ rest, ∀ run ∈ (front ++ rest).splitOnP p, run ∈ (before ++ rest).splitOnP p := by
  have hbefore : before.rdropWhile (!p ·) ++ before.rtakeWhile (!p ·) = before :=
    List.rdropWhile_append_rtakeWhile
  refine ⟨before.rtakeWhile (!p ·), List.rtakeWhile_suffix _ _, fun a ha => ?_,
    fun rest run hrun => ?_⟩
  · simpa using List.mem_rtakeWhile_imp ha
  rcases List.eq_nil_or_concat (before.rdropWhile (!p ·)) with hdrop | ⟨init, sep, hdrop⟩
  · rw [hdrop, List.nil_append] at hbefore
    rwa [hbefore] at hrun
  · -- the separator in front of `front` cuts the list, whatever stands before it
    have hsep : p sep = true := by
      have := List.rdropWhile_last_not (!p ·) before (by rw [hdrop]; simp)
      simpa [hdrop] using this
    have hcut : before ++ rest = init ++ sep :: (before.rtakeWhile (!p ·) ++ rest) := by
      conv_lhs => rw [← hbefore, hdrop]
      simp
    rw [hcut, List.splitOnP_append_cons init _ hsep]
    exact List.mem_append_right _ hrun

/-- What no separator parts stays together when a list is cut. -/
theorem exists_mem_splitOnP {middle : List α} (hmiddle : ∀ a ∈ middle, p a = false)
    (before behind : List α) :
    ∃ front back, front <:+ before ∧ back <+: behind ∧
      front ++ middle ++ back ∈ (before ++ middle ++ behind).splitOnP p := by
  obtain ⟨front, hfront, hclear, hmem⟩ := exists_suffix_splitOnP (p := p) before
  obtain ⟨back, hback, hrun⟩ := exists_mem_splitOnP_append
    (List.forall_mem_append.mpr ⟨hclear, hmiddle⟩) behind
  refine ⟨front, back, hfront, hback, ?_⟩
  rw [List.append_assoc] at hrun ⊢
  exact hmem _ _ hrun

end Cut

/-- Kept lines that stand together are in one run. -/
theorem mem_keptRuns (before behind : List (List Char × LineKind)) (ls : List (List Char)) :
    ∃ front back, front <:+ before.map Prod.fst ∧ back <+: behind.map Prod.fst ∧
      front ++ ls ++ back ∈ keptRuns (before ++ ls.map (·, .kept) ++ behind) := by
  obtain ⟨front, back, hfront, hback, hmem⟩ :=
    exists_mem_splitOnP (not_isConsumed_kept ls) before behind
  refine ⟨front.map Prod.fst, back.map Prod.fst, hfront.map _, hback.map _, ?_⟩
  have hrun := List.mem_map_of_mem (f := List.map Prod.fst) hmem
  rwa [List.map_append, List.map_append, map_fst_kept] at hrun

/-! ## Fenced code -/

/-- Fenced code below the line that opens its fence. The line that closes it belongs to it. -/
def Fence.body (fence : Fence) : List (List Char) → List (List Char)
  | [] => []
  | line :: rest => if fence.closedBy line then [line] else line :: fence.body rest

theorem Fence.body_prefix (fence : Fence) (ls : List (List Char)) : fence.body ls <+: ls := by
  induction ls with
  | nil => exact List.prefix_refl _
  | cons line rest ih =>
    rw [body]
    split
    · exact List.cons_prefix_cons.mpr ⟨rfl, List.nil_prefix⟩
    · exact List.cons_prefix_cons.mpr ⟨rfl, ih⟩

namespace Standing

variable {p : Standing}

theorem kindOf_of_covers {line : List Char} (h : Fence.covers p.fence line = true) :
    p.kindOf line = .kept := if_pos h

/-- Fenced code is kept up to the line that closes it. -/
theorem take_body {fence : Fence} (h : p.fence = some fence) (ls : List (List Char)) :
    p.take (fence.body ls) = (fence.body ls).map (·, .kept) := by
  induction ls generalizing p with
  | nil => rfl
  | cons line rest ih =>
    have hkind : p.kindOf line = .kept := by
      refine kindOf_of_covers ?_
      rw [h]
      rfl
    rw [Fence.body]
    split
    · rw [take, hkind]; rfl
    · next hopen =>
      have hafter : (p.after line).fence = some fence := by
        rw [after, h, Fence.after, if_neg hopen]
      rw [take, hkind, ih hafter]
      rfl

/-- Fenced code is kept from the line that opens it on. -/
theorem take_fenced {fence : Fence} {opener : List Char} (h : p.fence = none)
    (hopener : Fence.opening? opener = some fence) (ls : List (List Char)) :
    p.take (opener :: fence.body ls) = (opener :: fence.body ls).map (·, .kept) := by
  have hkind : p.kindOf opener = .kept := by
    refine kindOf_of_covers ?_
    rw [Fence.covers, hopener]
    exact Bool.or_true _
  have hafter : (p.after opener).fence = some fence := by
    rw [after, h, Fence.after, hopener]
  rw [take, hkind, take_body hafter]
  rfl

end Standing

/-- A line that opens a fence has something on it. -/
theorem not_blank_of_opening? {line : List Char} {fence : Fence}
    (h : Fence.opening? line = some fence) : blank line = false := by
  cases htrim : trimStart line with
  | nil =>
    rw [Fence.opening?, htrim] at h
    cases h
  | cons c rest =>
    have hmem : c ∈ line := (List.dropWhile_sublist isBlank).subset (by
      rw [show line.dropWhile isBlank = c :: rest from htrim]
      exact List.mem_cons_self)
    refine List.all_eq_false.mpr ⟨c, hmem, ?_⟩
    rw [(trimStart_head htrim).1]
    exact Bool.false_ne_true

/-- Lines have something on them if one of them has. -/
theorem isVisible_of_mem {line : List Char} {run : List (List Char)} (hmem : line ∈ run)
    (hline : blank line = false) : isVisible run = true := by
  obtain ⟨c, hc, hvisible⟩ := List.all_eq_false.mp hline
  have hrun : c ∈ unlines run := List.mem_flatMap.mpr ⟨line, hmem, List.mem_append_left _ hc⟩
  have hblank : blank (unlines run) = false := List.all_eq_false.mpr ⟨c, hrun, hvisible⟩
  rw [isVisible, hblank]
  rfl

/-! ## Every line of a source -/

/-- The lines of a source with what each of them is. -/
def takenLines (source : List Char) : List (List Char × LineKind) :=
  Standing.take {} (lines source)

namespace Block

/-- The sources of the Markdown in blocks, in document order over all levels. -/
def sources (blocks : List Block) : List (List Char) :=
  (partsList blocks).filterMap Part.source?

/-- The directives of the containers in blocks, in document order over all levels. -/
def opened (blocks : List Block) : List Mark :=
  (partsList blocks).filterMap Part.opened?

/-- The directives of the leaves in blocks, in document order over all levels. -/
def leaves (blocks : List Block) : List Mark :=
  (partsList blocks).filterMap Part.leaf?

end Block

theorem filterMap_replicate_closing {β : Type} {f : Part → Option β} (hf : f .closing = none)
    (n : Nat) : (List.replicate n Part.closing).filterMap f = [] := by
  rw [List.filterMap_replicate, hf]

theorem sources_splitBlocks (source : List Char) :
    Block.sources (splitBlocks source) = visibleSources (keptRuns (takenLines source)) := by
  rw [Block.sources, partsList_splitBlocks, List.filterMap_append, sources_partsOfLines,
    filterMap_replicate_closing rfl, List.append_nil]
  rfl

/-- The directives that containers or leaves get are those of the lines. -/
theorem filterMap_splitBlocks {β : Type} {f : Part → Option β}
    (hf : ∀ source, f (.markdown source) = none) (hclosing : f .closing = none)
    (source : List Char) :
    (Block.partsList (splitBlocks source)).filterMap f
      = (takenLines source).filterMap fun entry => entry.2.part?.bind f := by
  rw [partsList_splitBlocks, List.filterMap_append, filterMap_partsOfLines hf,
    filterMap_replicate_closing hclosing, List.append_nil, takenLines]

theorem flatten_map_unlines (runs : List (List (List Char))) :
    (runs.map unlines).flatten = unlines runs.flatten := by
  induction runs with
  | nil => rfl
  | cons run runs ih =>
    rw [List.map_cons, List.flatten_cons, ih, List.flatten_cons, unlines, unlines, unlines,
      List.flatMap_append]

/-- **Fenced code is kept, and kept together.** -/
theorem fenced_splitBlocks {source opener : List Char} {before rest : List (List Char)}
    {fence : Fence} (hlines : lines source = before ++ opener :: rest)
    (hclosed : before.foldl Fence.after none = none)
    (hopener : Fence.opening? opener = some fence) :
    (∃ above below, takenLines source
        = above ++ (opener :: fence.body rest).map (·, .kept) ++ below ∧
      above.map Prod.fst = before) ∧
    ∃ front back, front <:+ before ∧ opener :: fence.body rest ++ back <+: opener :: rest ∧
      unlines (front ++ opener :: fence.body rest ++ back)
        ∈ Block.sources (splitBlocks source) := by
  obtain ⟨below, hbelow⟩ := fence.body_prefix rest
  have htaken : takenLines source = Standing.take {} before
      ++ (opener :: fence.body rest).map (·, .kept)
      ++ Standing.take ((opener :: fence.body rest).foldl Standing.after
          (before.foldl Standing.after {})) below := by
    have hfence : (before.foldl Standing.after {}).fence = none := by
      rw [Standing.fence_foldl_after]
      exact hclosed
    have hrest : before ++ opener :: rest = before ++ (opener :: fence.body rest) ++ below := by
      rw [List.append_assoc, List.cons_append, hbelow]
    rw [takenLines, hlines, hrest, Standing.take_append, Standing.take_append,
      Standing.take_fenced hfence hopener, List.foldl_append]
  refine ⟨⟨_, _, htaken, Standing.map_fst_take _ _⟩, ?_⟩
  obtain ⟨front, back, hfront, hback, hrun⟩ := mem_keptRuns (Standing.take {} before)
    (Standing.take ((opener :: fence.body rest).foldl Standing.after
      (before.foldl Standing.after {})) below) (opener :: fence.body rest)
  rw [Standing.map_fst_take] at hfront hback
  rw [← htaken] at hrun
  refine ⟨front, back, hfront, ?_, ?_⟩
  · have hprefix : fence.body rest ++ back <+: fence.body rest ++ below :=
      (List.prefix_append_right_inj _).mpr hback
    rw [hbelow] at hprefix
    exact List.cons_prefix_cons.mpr ⟨rfl, hprefix⟩
  · have hmem : opener ∈ front ++ opener :: fence.body rest ++ back := by simp
    rw [sources_splitBlocks, visibleSources]
    exact List.mem_map_of_mem (List.mem_filter.mpr
      ⟨hrun, isVisible_of_mem hmem (not_blank_of_opening? hopener)⟩)

/-- **No line of a source is lost, doubled or moved.** A line is what it reads as behind the lines
above it, which leave a fence and containers open. -/
theorem splitBlocks_keeps_lines (source : List Char) :
    (takenLines source).map Prod.fst = lines source ∧
    (∀ above line kind below, takenLines source = above ++ (line, kind) :: below →
      ∀ other : LineKind, other.Reads ((above.map Prod.fst).foldl Fence.after none)
        (openColons above).head? line ↔ other = kind) ∧
    (Block.sources (splitBlocks source)).flatten
      = unlines ((keptRuns (takenLines source)).filter isVisible).flatten ∧
    Block.opened (splitBlocks source) = (takenLines source).filterMap (·.2.opened?) ∧
    Block.leaves (splitBlocks source) = (takenLines source).filterMap (·.2.leaf?) ∧
    ∀ before opener rest fence, lines source = before ++ opener :: rest →
      before.foldl Fence.after none = none → Fence.opening? opener = some fence →
      (∃ above below, takenLines source
          = above ++ (opener :: fence.body rest).map (·, .kept) ++ below ∧
        above.map Prod.fst = before) ∧
      ∃ front back, front <:+ before ∧ opener :: fence.body rest ++ back <+: opener :: rest ∧
        unlines (front ++ opener :: fence.body rest ++ back)
          ∈ Block.sources (splitBlocks source) := by
  refine ⟨Standing.map_fst_take _ _, fun _ _ _ _ => Standing.reads_take, ?_, ?_, ?_, ?_⟩
  · rw [sources_splitBlocks, visibleSources, flatten_map_unlines]
  · rw [Block.opened, filterMap_splitBlocks (fun _ => rfl) rfl]
    exact congrArg (List.filterMap · _) (funext fun entry => opened_part entry.2)
  · rw [Block.leaves, filterMap_splitBlocks (fun _ => rfl) rfl]
    exact congrArg (List.filterMap · _) (funext fun entry => leaf_part entry.2)
  · intro before opener rest fence hlines hclosed hopener
    exact fenced_splitBlocks hlines hclosed hopener

/-- Two containers are left open, and in the inner one a fence. -/
def unclosedSource : List Char :=
  ":::outer\n::::inner\ntext\n~~~\n::leaf\n:::\n".toList

/-- What looks like a leaf and what looks like the end of a container stay behind their fence. -/
theorem splitBlocks_keeps_lines_unclosed :
    lines unclosedSource = [":::outer".toList, "::::inner".toList, "text".toList]
      ++ "~~~".toList :: ["::leaf".toList, ":::".toList] ∧
    Fence.opening? "~~~".toList = some ⟨'~', 3⟩ ∧
    (∀ kind : LineKind, kind.Reads (some ⟨'~', 3⟩) (some 4) "::leaf".toList ↔ kind = .kept) ∧
    ∃ front back, unlines (front ++ ["~~~".toList, "::leaf".toList, ":::".toList] ++ back)
      ∈ Block.sources (splitBlocks unclosedSource) := by
  have hlines : lines unclosedSource = [":::outer".toList, "::::inner".toList, "text".toList]
      ++ "~~~".toList :: ["::leaf".toList, ":::".toList] := by decide
  have hopener : Fence.opening? "~~~".toList = some ⟨'~', 3⟩ := by decide
  have htaken : takenLines unclosedSource = [
        (":::outer".toList, .opening 3 { name := "outer" }),
        ("::::inner".toList, .opening 4 { name := "inner" }),
        ("text".toList, .kept), ("~~~".toList, .kept)]
      ++ ("::leaf".toList, .kept) :: [(":::".toList, .kept)] := rfl
  have hfence : [":::outer".toList, "::::inner".toList, "text".toList, "~~~".toList].foldl
      Fence.after none = some ⟨'~', 3⟩ := by decide
  obtain ⟨-, hreads, -, -, -, hfenced⟩ := splitBlocks_keeps_lines unclosedSource
  have hleaf := hreads _ _ _ _ htaken
  simp only [List.map_cons, List.map_nil, hfence] at hleaf
  obtain ⟨-, front, back, -, -, hmem⟩ := hfenced _ _ _ _ hlines (by decide) hopener
  exact ⟨hlines, hopener, hleaf, front, back, hmem⟩

end MarkdownDirectives.Source
