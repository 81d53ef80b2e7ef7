import Mathlib.Data.List.Forall2
import Mathlib.Logic.Function.Iterate
import MarkdownDirectives.Reader
import MarkdownDirectives.Proofs.Source.Parts

/-!
# Containers left open

A container that is still open at the end of a source ends there. The same blocks come of the
source with lines of colons behind it that close what is open, the innermost container first.

* `Text.lines_append_of_endsLine` — lines behind ended lines are lines of their own
* `Standing.isLong_after`, `Standing.isLong_foldl` — containers are opened by three colons at least
* `Splitter.finish_close`, `Splitter.finish_foldl_closing` — closing early changes no block
* `splitBlocks_append_closers` — a container left open is the same as a closed one

## Why three colons matter

A line that closes a container needs three colons, whatever the container asks for. So the lines
behind the source are read as closing lines only because no container is opened by fewer.
-/

namespace MarkdownDirectives

/-! ## Lines behind ended lines -/

namespace Text

/-- The text is empty or its last line is ended. -/
def EndsLine (text : List Char) : Prop :=
  text = [] ∨ text.getLast? = some '\n'

theorem EndsLine.tail {c : Char} {text : List Char} (h : EndsLine (c :: text)) :
    EndsLine text := by
  cases text with
  | nil => exact .inl rfl
  | cons d text =>
    have hlast := h.resolve_left (List.cons_ne_nil _ _)
    rw [List.getLast?_cons_cons] at hlast
    exact .inr hlast

theorem lines_ne_nil {text : List Char} (h : text ≠ []) : lines text ≠ [] := by
  fun_cases lines text with
  | case1 => exact absurd rfl h
  | case2 | case3 | case4 | case5 => simp

/-- Behind an ended line another one starts. -/
theorem lines_append_of_endsLine {text : List Char} (h : EndsLine text) (rest : List Char) :
    lines (text ++ rest) = lines text ++ lines rest := by
  fun_induction lines text with
  | case1 => rfl
  | case2 text ih => rw [List.cons_append, lines, ih h.tail, List.cons_append]
  | case3 text ih =>
    rw [List.cons_append, List.cons_append, lines, ih h.tail.tail, List.cons_append]
  | case4 c text hfeed _ hnone _ =>
    -- a text of one character ends its line only with a line feed
    have htext : text = [] := by_contra fun hne => lines_ne_nil hne hnone
    subst htext
    have hlast := h.resolve_left (List.cons_ne_nil _ _)
    rw [List.getLast?_singleton, Option.some.injEq] at hlast
    exact (hfeed hlast).elim
  | case5 c text hfeed hreturn line more hlines ih =>
    rw [List.cons_append, List.cons_append]
    refine lines_cons hfeed (fun hc hhead => ?_) (by rw [ih h.tail, hlines, List.cons_append])
    cases text with
    | nil => cases hlines
    | cons d text =>
      rw [List.cons_append, List.head?_cons, Option.some.injEq] at hhead
      exact hreturn text hc (by rw [hhead])

end Text

namespace Source

open Text

/-! ## How containers are opened -/

namespace Standing

/-- Every container that is open has been opened by three colons or more. -/
def IsLong (p : Standing) : Prop :=
  ∀ colons ∈ p.colons, 3 ≤ colons

variable {p : Standing}

theorem isLong_after (h : p.IsLong) (line : List Char) : (p.after line).IsLong := by
  intro colons hmem
  rw [after] at hmem
  have hreads := reads_kindOf p line
  cases hkind : p.kindOf line with
  | closing =>
    rw [hkind] at hmem
    exact h colons (List.mem_of_mem_tail hmem)
  | opening count mark =>
    rw [hkind] at hmem hreads
    rcases List.mem_cons.mp hmem with rfl | hmem
    · obtain ⟨-, -, hleast, -⟩ := containerOpening?_eq_some hreads.2
      exact hleast
    · exact h colons hmem
  | leaf mark =>
    rw [hkind] at hmem
    exact h colons hmem
  | kept =>
    rw [hkind] at hmem
    exact h colons hmem

theorem isLong_foldl (h : p.IsLong) (ls : List (List Char)) : (ls.foldl after p).IsLong := by
  induction ls generalizing p with
  | nil => exact h
  | cons line rest ih => exact ih (isLong_after h line)

end Standing

/-! ## Closing early -/

namespace Splitter

variable {s : Splitter}

/-- At the end as many containers are closed as are open. -/
theorem finish_eq (s : Splitter) :
    s.finish = (close^[s.standing.colons.length] s).root.finish := by
  rw [finish, List.foldl_const, standing, List.length_map]

/-- **What is closed early would have been closed at the end.** -/
theorem finish_close (s : Splitter) : s.close.finish = s.finish := by
  cases hc : s.containers with
  | nil => rw [close, hc]
  | cons inner outer =>
    have hlength : s.standing.colons.length = s.close.standing.colons.length + 1 := by
      rw [standing_close, List.length_tail, standing, hc]
      rfl
    rw [finish_eq, finish_eq, hlength, Function.iterate_succ_apply]

/-- **Lines of enough colons behind the lines of a source change nothing at its end.** -/
theorem finish_foldl_closing {colons counts : List Nat} (h : List.Forall₂ (· ≤ ·) colons counts)
    (hfence : s.fence = none) (hcolons : s.standing.colons = colons) (hlong : s.standing.IsLong) :
    ((counts.map (List.replicate · ':')).foldl takeLine s).finish = s.finish := by
  induction h generalizing s with
  | nil => rfl
  | @cons least count colons counts hcount _ ih =>
    have hstack : s.innermost = some least := by rw [← head?_standing, hcolons]; rfl
    have hleast : 3 ≤ least := hlong least (by rw [hcolons]; exact List.mem_cons_self)
    have hrest : s.close.standing = ⟨colons, none⟩ := by
      rw [standing_close, hcolons, hfence]
      rfl
    rw [List.map_cons, List.foldl_cons, takeLine_closing hfence hstack hleast hcount,
      ih (congrArg Standing.fence hrest) (congrArg Standing.colons hrest), finish_close]
    rw [hrest]
    exact fun n hn => hlong n (by rw [hcolons]; exact List.mem_cons_of_mem _ hn)

/-- The state behind the last line of a source. -/
def ofSource (source : List Char) : Splitter :=
  (lines source).foldl takeLine {}

/-- Lines that close what is open, each with as many colons as the line that opened it. -/
def closers (s : Splitter) : List (List Char) :=
  s.containers.map fun c => List.replicate c.colons ':'

end Splitter

theorem lines_closers (s : Splitter) : lines (unlines s.closers) = s.closers := by
  have hcolon : ∀ line ∈ s.closers, ∀ c ∈ line, c = ':' := by
    intro line hline c hc
    obtain ⟨container, -, rfl⟩ := List.mem_map.mp hline
    exact List.eq_of_mem_replicate hc
  have hfeed : ∀ line ∈ s.closers, '\n' ∉ line := fun line hline hmem =>
    absurd (hcolon line hline _ hmem) (by decide)
  rw [lines_unlines s.closers hfeed]
  refine (List.map_congr_left fun line hline => ?_).trans (List.map_id _)
  refine dropReturn_of_ne fun hlast => ?_
  exact absurd (hcolon line hline _ (List.mem_of_getLast? hlast)) (by decide)

/--
**A container left open is the same as a closed one.**

Behind a source whose lines are ended, with no fence open, lines that close what is open can be
added, the innermost container first. The blocks stay the same, and so does the document that the
source reads as, whatever parser of Markdown it is read with.
-/
theorem splitBlocks_append_closers (source : List Char) (hend : EndsLine source)
    (hfence : (Splitter.ofSource source).fence = none) :
    splitBlocks (source ++ unlines (Splitter.ofSource source).closers) = splitBlocks source ∧
      ∀ parse : MarkdownParser,
        Document.read parse (String.ofList (source ++ unlines (Splitter.ofSource source).closers))
          = Document.read parse (String.ofList source) := by
  have hstanding : (Splitter.ofSource source).standing = (lines source).foldl Standing.after {} :=
    Splitter.standing_foldl {} _
  have hstart : ({} : Standing).IsLong := List.forall_mem_nil _
  have hlong : (Splitter.ofSource source).standing.IsLong := by
    rw [hstanding]
    exact Standing.isLong_foldl hstart _
  have hclosers : (Splitter.ofSource source).closers
      = (Splitter.ofSource source).standing.colons.map (List.replicate · ':') := by
    rw [Splitter.closers, Splitter.standing, List.map_map]
    rfl
  have hblocks : splitBlocks (source ++ unlines (Splitter.ofSource source).closers)
      = splitBlocks source := by
    rw [splitBlocks, lines_append_of_endsLine hend, lines_closers, List.foldl_append, hclosers]
    exact Splitter.finish_foldl_closing (List.forall₂_same.mpr fun _ _ => Nat.le_refl _) hfence rfl
      hlong
  refine ⟨hblocks, fun parse => ?_⟩
  rw [Document.read, Document.read, String.toList_ofList, String.toList_ofList, hblocks]

/-- A container of four colons is open in one of three, and a fence has been closed. -/
def openSource : List Char :=
  ":::outer\nfirst\n::::inner[label]\n~~~\n::::\n~~~\n".toList

/-- The inner container has to be closed first: three colons would be text in it. -/
theorem splitBlocks_append_closers_nested :
    EndsLine openSource ∧ (Splitter.ofSource openSource).fence = none ∧
      unlines (Splitter.ofSource openSource).closers = "::::\n:::\n".toList ∧
      splitBlocks (openSource ++ "::::\n:::\n".toList) = splitBlocks openSource ∧
      Document.ofSource (String.ofList (openSource ++ "::::\n:::\n".toList))
        = Document.ofSource (String.ofList openSource) := by
  have hend : EndsLine openSource := .inr (by decide)
  have hfence : (Splitter.ofSource openSource).fence = none := by decide
  have hclosers : unlines (Splitter.ofSource openSource).closers = "::::\n:::\n".toList := by
    decide
  obtain ⟨hblocks, hread⟩ := splitBlocks_append_closers openSource hend hfence
  rw [hclosers] at hblocks hread
  exact ⟨hend, hfence, hclosers, hblocks, hread _⟩

end Source

end MarkdownDirectives
