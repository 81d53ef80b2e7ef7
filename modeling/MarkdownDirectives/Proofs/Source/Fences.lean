import MarkdownDirectives.Proofs.Source.Kept

/-!
# Fences as CommonMark has them

A fence opens at a line of at most three spaces, a run of at least three backticks or tildes and
whatever may stand behind the run. The first later line of at most three spaces, a run at least as
long and white space closes it. `Fence.IsOpen` says this of a list of lines, without following them
one by one.

* `Fence.opens_blank_iff`, `Fence.opens_indent_iff` — what a line has to be like to open a fence
* `Fence.noneOpen_or_isOpen` — every list of lines leaves a fence open or none
* `Fence.foldl_after_eq_some_iff` — the fence that is followed line by line is the open one
* `Fence.follows_lines` — the same for indentations of at most three spaces

## Indentations

The tests for a line trim it first, so they take any white space for an indentation. They agree
with CommonMark as long as no line shows a fence behind more than three spaces or behind another
character of white space. Such a line is code or a paragraph for CommonMark, while here it opens a
fence or closes one, and directives below it are not read (`Fence.indented_opens`).
-/

namespace MarkdownDirectives.Source

open Text

/-! ## Indentations -/

/-- At most three spaces. -/
def IsIndent (indent : List Char) : Prop :=
  ∃ count ≤ 3, indent = List.replicate count ' '

/-- Any white space. -/
def IsBlankIndent (indent : List Char) : Prop :=
  blank indent = true

/-- The line is an indentation of one kind and a text of another. -/
def Behind (indents texts : List Char → Prop) (line : List Char) : Prop :=
  ∃ indent text, indents indent ∧ texts text ∧ line = indent ++ text

/-- The text starts with something that is no white space. -/
def StartsVisibly (text : List Char) : Prop :=
  ∃ c rest, text = c :: rest ∧ isBlank c = false

section Behind

variable {texts : List Char → Prop} {line text : List Char}

theorem StartsVisibly.trimStart_eq (h : StartsVisibly text) : trimStart text = text := by
  obtain ⟨c, rest, rfl, hc⟩ := h
  exact List.dropWhile_cons_of_neg (by simp [hc])

theorem trimStart_append {indent : List Char} (hindent : IsBlankIndent indent)
    (htext : StartsVisibly text) : trimStart (indent ++ text) = text := by
  rw [trimStart, List.dropWhile_append_of_pos (List.all_eq_true.mp hindent)]
  exact htext.trimStart_eq

/-- Where any white space is an indentation, the text is what is left of the trimmed line. -/
theorem behind_blank_iff (htexts : ∀ text, texts text → StartsVisibly text) :
    Behind IsBlankIndent texts line ↔ texts (trimStart line) := by
  constructor
  · rintro ⟨indent, text, hindent, htext, rfl⟩
    rw [trimStart_append hindent (htexts text htext)]
    exact htext
  · intro h
    refine ⟨line.takeWhile isBlank, trimStart line, ?_, h, ?_⟩
    · exact List.all_takeWhile
    · exact List.takeWhile_append_dropWhile.symm

/-- Where the indentation is at most three spaces, nothing else may be trimmed away. -/
theorem behind_indent_iff (htexts : ∀ text, texts text → StartsVisibly text) :
    Behind IsIndent texts line
      ↔ dropIndent line = some (trimStart line) ∧ texts (trimStart line) := by
  constructor
  · rintro ⟨indent, text, ⟨count, hcount, rfl⟩, htext, rfl⟩
    have hvisible := htexts text htext
    have hne : text.head? ≠ some ' ' := by
      obtain ⟨c, rest, rfl, hc⟩ := hvisible
      rintro ⟨⟩
      exact absurd hc (by decide)
    have hdrop : dropIndent (List.replicate count ' ' ++ text) = some text :=
      dropIndent_eq_some_iff.mpr ⟨count, hcount, rfl, hne⟩
    rw [trimStart_of_dropIndent hdrop, hvisible.trimStart_eq]
    exact ⟨hdrop, htext⟩
  · rintro ⟨hdrop, htext⟩
    obtain ⟨count, hcount, hline, -⟩ := dropIndent_eq_some_iff.mp hdrop
    exact ⟨List.replicate count ' ', trimStart line, ⟨count, hcount, rfl⟩, htext, hline⟩

end Behind

/-! ## Lines of a fence -/

namespace Fence

/-- What a line that opens the fence has behind its indentation. -/
inductive Opener : Fence → List Char → Prop
  | backticks {count : Nat} {info : List Char} (hcount : 3 ≤ count) (hinfo : '`' ∉ info) :
      Opener ⟨'`', count⟩ (List.replicate count '`' ++ info)
  | tildes {count : Nat} {info : List Char} (hcount : 3 ≤ count) (hinfo : info.head? ≠ some '~') :
      Opener ⟨'~', count⟩ (List.replicate count '~' ++ info)

/-- What a line that closes the fence has behind its indentation. -/
inductive Closer (fence : Fence) : List Char → Prop
  | run {count : Nat} {behind : List Char} (hcount : fence.length ≤ count)
      (hbehind : blank behind = true) : Closer fence (List.replicate count fence.mark ++ behind)

/-- The line opens the fence behind an indentation of the given kind. -/
def Opens (indents : List Char → Prop) (fence : Fence) (line : List Char) : Prop :=
  Behind indents fence.Opener line

/-- The line closes the fence behind an indentation of the given kind. -/
def Closes (indents : List Char → Prop) (fence : Fence) (line : List Char) : Prop :=
  Behind indents fence.Closer line

/-- A fence that a line can open. -/
structure IsProper (fence : Fence) : Prop where
  long : 3 ≤ fence.length
  mark : fence.mark = '`' ∨ fence.mark = '~'

variable {fence : Fence} {line text : List Char}

theorem Opener.isProper (h : fence.Opener text) : fence.IsProper := by
  cases h with
  | backticks hcount => exact ⟨hcount, .inl rfl⟩
  | tildes hcount => exact ⟨hcount, .inr rfl⟩

theorem IsProper.isBlank_mark (h : fence.IsProper) : isBlank fence.mark = false := by
  rcases h.mark with hmark | hmark <;> rw [hmark] <;> decide

theorem startsVisibly_run {count : Nat} {c : Char} (hcount : 3 ≤ count) (hc : isBlank c = false)
    (rest : List Char) : StartsVisibly (List.replicate count c ++ rest) := by
  obtain ⟨n, rfl⟩ : ∃ n, count = n + 1 := ⟨count - 1, by omega⟩
  exact ⟨c, List.replicate n c ++ rest, rfl, hc⟩

theorem Opener.startsVisibly (h : fence.Opener text) : StartsVisibly text := by
  cases h with
  | backticks hcount => exact startsVisibly_run hcount (by decide) _
  | tildes hcount => exact startsVisibly_run hcount (by decide) _

theorem Closer.startsVisibly (hfence : fence.IsProper) (h : fence.Closer text) :
    StartsVisibly text := by
  obtain ⟨hcount, -⟩ := h
  exact startsVisibly_run (Nat.le_trans hfence.long hcount) hfence.isBlank_mark _

/-! ### The tests -/

theorem markRun_eq_iff {mark : Char} {cs rest : List Char} {count : Nat} :
    markRun mark cs = (count, rest)
      ↔ cs = List.replicate count mark ++ rest ∧ rest.head? ≠ some mark := by
  rw [← cut_run_iff]
  exact Prod.ext_iff

theorem head?_ne_of_blank {rest : List Char} {mark : Char} (hmark : isBlank mark = false)
    (h : blank rest = true) : rest.head? ≠ some mark := by
  intro hhead
  have hmem := List.all_eq_true.mp h mark (List.mem_of_head? hhead)
  rw [hmark] at hmem
  cases hmem

/-- The test for an opening line looks at the trimmed line only. -/
theorem opening?_eq_some_iff : opening? line = some fence ↔ fence.Opener (trimStart line) := by
  constructor
  · intro h
    rw [opening?] at h
    split at h
    · cases h
    · next mark rest hline =>
      cases hrun : markRun mark (mark :: rest) with
      | mk count info =>
        obtain ⟨htext, hinfo⟩ := markRun_eq_iff.mp hrun
        simp only [hrun] at h
        rw [hline, htext]
        split at h
        · next hmark =>
          subst hmark
          simp only [Option.ite_none_right_eq_some, Bool.and_eq_true, decide_eq_true_eq,
            Bool.not_eq_true', Option.some.injEq] at h
          obtain ⟨⟨hcount, hfree⟩, rfl⟩ := h
          exact .backticks hcount (by simpa using hfree)
        · split at h
          · next hmark =>
            subst hmark
            simp only [Option.ite_none_right_eq_some, Option.some.injEq] at h
            obtain ⟨hcount, rfl⟩ := h
            exact .tildes hcount hinfo
          · cases h
  · intro h
    rw [opening?]
    generalize trimStart line = text at h ⊢
    cases h with
    | @backticks count info hcount hinfo =>
      have hhead : info.head? ≠ some '`' := fun hhead => hinfo (List.mem_of_head? hhead)
      have hrun : markRun '`' (List.replicate count '`' ++ info) = (count, info) :=
        markRun_eq_iff.mpr ⟨rfl, hhead⟩
      obtain ⟨n, rfl⟩ : ∃ n, count = n + 1 := ⟨count - 1, by omega⟩
      rw [List.replicate_succ, List.cons_append] at hrun ⊢
      simp [hrun, hcount, hinfo]
    | @tildes count info hcount hinfo =>
      have hrun : markRun '~' (List.replicate count '~' ++ info) = (count, info) :=
        markRun_eq_iff.mpr ⟨rfl, hinfo⟩
      obtain ⟨n, rfl⟩ : ∃ n, count = n + 1 := ⟨count - 1, by omega⟩
      rw [List.replicate_succ, List.cons_append] at hrun ⊢
      simp [hrun, hcount]

/-- The test for a closing line looks at the trimmed line only. -/
theorem closedBy_iff (hfence : fence.IsProper) :
    fence.closedBy line = true ↔ fence.Closer (trimStart line) := by
  constructor
  · intro h
    cases hrun : markRun fence.mark (trimStart line) with
    | mk count behind =>
      simp only [closedBy, hrun, Bool.and_eq_true, decide_eq_true_eq] at h
      rw [(markRun_eq_iff.mp hrun).1]
      exact .run h.1 h.2
  · intro h
    rw [closedBy]
    generalize trimStart line = text at h ⊢
    obtain ⟨hcount, hbehind⟩ := h
    rw [markRun_eq_iff.mpr ⟨rfl, head?_ne_of_blank hfence.isBlank_mark hbehind⟩]
    simp [hcount, hbehind]

/-- A line that closes a fence could open one. -/
theorem Closer.exists_opener (hfence : fence.IsProper) (h : fence.Closer text) :
    ∃ other : Fence, other.Opener text := by
  cases h with
  | @run count behind hcount hbehind =>
    have hlong : 3 ≤ count := Nat.le_trans hfence.long hcount
    rcases hfence.mark with hmark | hmark
    · rw [hmark]
      refine ⟨⟨'`', count⟩, .backticks hlong fun hmem => ?_⟩
      exact absurd (List.all_eq_true.mp hbehind '`' hmem) (by decide)
    · rw [hmark]
      exact ⟨⟨'~', count⟩, .tildes hlong (head?_ne_of_blank (by decide) hbehind)⟩

/-! ### The tests and the indentations -/

theorem opens_blank_iff : fence.Opens IsBlankIndent line ↔ opening? line = some fence := by
  rw [opening?_eq_some_iff]
  exact behind_blank_iff fun text htext => htext.startsVisibly

theorem opens_indent_iff :
    fence.Opens IsIndent line
      ↔ dropIndent line = some (trimStart line) ∧ opening? line = some fence := by
  rw [opening?_eq_some_iff]
  exact behind_indent_iff fun text htext => htext.startsVisibly

theorem closes_blank_iff (hfence : fence.IsProper) :
    fence.Closes IsBlankIndent line ↔ fence.closedBy line = true := by
  rw [closedBy_iff hfence]
  exact behind_blank_iff fun text htext => htext.startsVisibly hfence

theorem closes_indent_iff (hfence : fence.IsProper) :
    fence.Closes IsIndent line
      ↔ dropIndent line = some (trimStart line) ∧ fence.closedBy line = true := by
  rw [closedBy_iff hfence]
  exact behind_indent_iff fun text htext => htext.startsVisibly hfence

/-! ## Lines with a fence open behind them -/

/--
No fence is open behind the lines. Outside of fenced code no line opens a fence, and fenced code
ends at the first line below its opening that closes the fence.
-/
inductive NoneOpen (indents : List Char → Prop) : List (List Char) → Prop
  | nil : NoneOpen indents []
  | plain {line : List Char} {rest : List (List Char)}
      (hline : ∀ fence : Fence, ¬ fence.Opens indents line) (hrest : NoneOpen indents rest) :
      NoneOpen indents (line :: rest)
  | fenced {fence : Fence} {opener closer : List Char} {body rest : List (List Char)}
      (hopener : fence.Opens indents opener) (hbody : ∀ line ∈ body, ¬ fence.Closes indents line)
      (hcloser : fence.Closes indents closer) (hrest : NoneOpen indents rest) :
      NoneOpen indents (opener :: (body ++ closer :: rest))

/-- The fence is open behind the lines: a line opens it and no later one closes it. -/
def IsOpen (indents : List Char → Prop) (fence : Fence) (ls : List (List Char)) : Prop :=
  ∃ before opener body, ls = before ++ opener :: body ∧ NoneOpen indents before ∧
    fence.Opens indents opener ∧ ∀ line ∈ body, ¬ fence.Closes indents line

section Lines

variable {indents : List Char → Prop} {ls : List (List Char)}

theorem NoneOpen.append {more : List (List Char)} (h : NoneOpen indents ls)
    (hmore : NoneOpen indents more) : NoneOpen indents (ls ++ more) := by
  induction h with
  | nil => exact hmore
  | plain hline _ ih => exact .plain hline ih
  | fenced hopener hbody hcloser _ ih =>
    rw [List.cons_append, List.append_assoc, List.cons_append]
    exact .fenced hopener hbody hcloser ih

/-- **Every list of lines leaves a fence open or none.** The induction adds a line at the end. -/
theorem noneOpen_or_isOpen (indents : List Char → Prop) (ls : List (List Char)) :
    NoneOpen indents ls ∨ ∃ fence : Fence, fence.IsOpen indents ls := by
  induction ls using List.reverseRecOn with
  | nil => exact .inl .nil
  | append_singleton ls line ih =>
    rcases ih with hnone | ⟨fence, before, opener, body, rfl, hbefore, hopener, hbody⟩
    · by_cases hline : ∃ fence : Fence, fence.Opens indents line
      · obtain ⟨fence, hopens⟩ := hline
        exact .inr ⟨fence, ls, line, [], rfl, hnone, hopens, List.forall_mem_nil _⟩
      · exact .inl (hnone.append (.plain (not_exists.mp hline) .nil))
    · rw [List.append_assoc, List.cons_append]
      by_cases hline : fence.Closes indents line
      · exact .inl (hbefore.append (.fenced hopener hbody hline .nil))
      · refine .inr ⟨fence, before, opener, body ++ [line], rfl, hbefore, hopener, ?_⟩
        exact List.forall_mem_append.mpr ⟨hbody, List.forall_mem_singleton.mpr hline⟩

/-! ### Line by line -/

/-- The tests for the line are right where indentations are of the given kind. -/
structure Tracks (indents : List Char → Prop) (line : List Char) : Prop where
  opening : ∀ fence : Fence, opening? line = some fence ↔ fence.Opens indents line
  closing : ∀ fence : Fence, fence.IsProper →
    (fence.closedBy line = true ↔ fence.Closes indents line)

theorem Opens.isProper (h : fence.Opens indents line) : fence.IsProper := by
  obtain ⟨-, text, -, htext, -⟩ := h
  exact htext.isProper

/-- A fence stays open as long as no line closes it. -/
theorem foldl_after_of_body (htracks : ∀ line ∈ ls, Tracks indents line) (hfence : fence.IsProper)
    (h : ∀ line ∈ ls, ¬ fence.Closes indents line) :
    ls.foldl Fence.after (some fence) = some fence := by
  induction ls with
  | nil => rfl
  | cons line rest ih =>
    obtain ⟨hline, hrest⟩ := List.forall_mem_cons.mp h
    obtain ⟨htrack, htracks⟩ := List.forall_mem_cons.mp htracks
    have hclosed : ¬ fence.closedBy line = true := by
      rw [htrack.closing fence hfence]
      exact hline
    rw [List.foldl_cons, Fence.after, if_neg hclosed]
    exact ih htracks hrest

theorem foldl_after_of_noneOpen (htracks : ∀ line ∈ ls, Tracks indents line)
    (h : NoneOpen indents ls) : ls.foldl Fence.after none = none := by
  induction h with
  | nil => rfl
  | @plain line rest hline _ ih =>
    obtain ⟨htrack, htracks⟩ := List.forall_mem_cons.mp htracks
    have hopening : opening? line = none := by
      refine Option.eq_none_iff_forall_ne_some.mpr fun fence hfence => ?_
      exact hline fence ((htrack.opening fence).mp hfence)
    rw [List.foldl_cons, Fence.after, hopening]
    exact ih htracks
  | fenced hopener hbody hcloser _ ih =>
    obtain ⟨htrack, htracks⟩ := List.forall_mem_cons.mp htracks
    obtain ⟨htracksBody, htracks⟩ := List.forall_mem_append.mp htracks
    obtain ⟨htrackCloser, htracks⟩ := List.forall_mem_cons.mp htracks
    have hfence := hopener.isProper
    have hopening := (htrack.opening _).mpr hopener
    have hclosing := (htrackCloser.closing _ hfence).mpr hcloser
    rw [List.foldl_cons, Fence.after, hopening, List.foldl_append,
      foldl_after_of_body htracksBody hfence hbody, List.foldl_cons, Fence.after, if_pos hclosing]
    exact ih htracks

theorem foldl_after_of_isOpen (htracks : ∀ line ∈ ls, Tracks indents line)
    (h : fence.IsOpen indents ls) : ls.foldl Fence.after none = some fence := by
  obtain ⟨before, opener, body, rfl, hbefore, hopener, hbody⟩ := h
  obtain ⟨htracksBefore, htracks⟩ := List.forall_mem_append.mp htracks
  obtain ⟨htrack, htracksBody⟩ := List.forall_mem_cons.mp htracks
  have hopening := (htrack.opening fence).mpr hopener
  rw [List.foldl_append, foldl_after_of_noneOpen htracksBefore hbefore, List.foldl_cons,
    Fence.after, hopening]
  exact foldl_after_of_body htracksBody hopener.isProper hbody

/-- **Where the tests are right for every line, the fence followed is the one that is open.** -/
theorem foldl_after_eq_some_iff (htracks : ∀ line ∈ ls, Tracks indents line) :
    ls.foldl Fence.after none = some fence ↔ fence.IsOpen indents ls := by
  refine ⟨fun h => ?_, foldl_after_of_isOpen htracks⟩
  rcases noneOpen_or_isOpen indents ls with hnone | ⟨other, hother⟩
  · rw [foldl_after_of_noneOpen htracks hnone] at h
    cases h
  · rw [foldl_after_of_isOpen htracks hother, Option.some.injEq] at h
    rw [← h]
    exact hother

end Lines

/-- The tests take any white space for an indentation. -/
theorem tracks_blank (line : List Char) : Tracks IsBlankIndent line where
  opening _ := opens_blank_iff.symm
  closing _ hfence := (closes_blank_iff hfence).symm

/-- A fence behind an indentation that is none is the only thing the tests are wrong about. -/
theorem tracks_indent
    (h : ∀ fence : Fence, fence.Opens IsBlankIndent line → fence.Opens IsIndent line) :
    Tracks IsIndent line where
  opening fence := by
    rw [← opens_blank_iff]
    refine ⟨h fence, fun hopens => ?_⟩
    rw [opens_blank_iff]
    exact (opens_indent_iff.mp hopens).2
  closing fence hfence := by
    rw [closes_indent_iff hfence]
    refine ⟨fun hclosed => ⟨?_, hclosed⟩, And.right⟩
    obtain ⟨other, hother⟩ := ((closedBy_iff hfence).mp hclosed).exists_opener hfence
    have hopening := opening?_eq_some_iff.mpr hother
    exact (opens_indent_iff.mp (h other (opens_blank_iff.mpr hopening))).1

end Fence

/-! ## The fence of the splitter -/

/-- The splitter follows the fence on every line, whatever else the line is. -/
theorem Splitter.fence_foldl_takeLine (ls : List (List Char)) :
    (ls.foldl Splitter.takeLine {}).fence = ls.foldl Fence.after none := by
  have hstanding := congrArg Standing.fence (Splitter.standing_foldl {} ls)
  rw [Standing.fence_foldl_after] at hstanding
  exact hstanding

/--
**The fence that is followed line by line is the fence that is open.**

This holds of every list of lines if any white space in front of a fence counts as its indentation,
and it holds for indentations of at most three spaces if no line shows a fence behind other white
space.
-/
theorem Fence.follows_lines (ls : List (List Char)) (fence : Fence) :
    (ls.foldl Splitter.takeLine {}).fence = ls.foldl Fence.after none ∧
    (ls.foldl Fence.after none = some fence ↔ fence.IsOpen IsBlankIndent ls) ∧
    ((∀ line ∈ ls, ∀ shown : Fence, shown.Opens IsBlankIndent line → shown.Opens IsIndent line) →
      (ls.foldl Fence.after none = some fence ↔ fence.IsOpen IsIndent ls)) := by
  refine ⟨Splitter.fence_foldl_takeLine ls, ?_, fun hindents => ?_⟩
  · exact foldl_after_eq_some_iff fun line _ => tracks_blank line
  · exact foldl_after_eq_some_iff fun line hline => tracks_indent (hindents line hline)

/-- The text behind five spaces shows no fence, and the tildes do not close the backticks. -/
def fencedLines : List (List Char) :=
  ["  ~~~~ `lean`".toList, "```".toList, "     ~~".toList, "   ~~~~~ ".toList, "``` lean".toList,
    "~~~".toList]

theorem follows_lines_fenced :
    (∀ line ∈ fencedLines, ∀ shown : Fence,
      shown.Opens IsBlankIndent line → shown.Opens IsIndent line) ∧
    fencedLines.foldl Fence.after none = some ⟨'`', 3⟩ ∧
    Fence.IsOpen IsIndent ⟨'`', 3⟩ fencedLines := by
  have hshown : ∀ line ∈ fencedLines, (Fence.opening? line).isSome = true →
      dropIndent line = some (trimStart line) := by decide
  have hindents : ∀ line ∈ fencedLines, ∀ shown : Fence,
      shown.Opens IsBlankIndent line → shown.Opens IsIndent line := by
    intro line hline shown hopens
    have hopening := Fence.opens_blank_iff.mp hopens
    exact Fence.opens_indent_iff.mpr
      ⟨hshown line hline (Option.isSome_iff_exists.mpr ⟨shown, hopening⟩), hopening⟩
  have hfollowed : fencedLines.foldl Fence.after none = some ⟨'`', 3⟩ := by decide
  obtain ⟨-, -, hopen⟩ := Fence.follows_lines fencedLines ⟨'`', 3⟩
  exact ⟨hindents, hfollowed, (hopen hindents).mp hfollowed⟩

/-- Four spaces and backticks are indented code. They open a fence here, and the leaf directive
below them is not read. -/
theorem Fence.indented_opens :
    (∀ fence : Fence, ¬ fence.IsOpen IsIndent ["    ```".toList]) ∧
    ["    ```".toList].foldl Fence.after none = some ⟨'`', 3⟩ ∧
    leafLine? "::hr".toList = some { name := "hr" } ∧
    Block.leaves (splitBlocks "    ```\n\n::hr\n".toList) = [] := by
  refine ⟨fun fence hopen => ?_, by decide, by decide, by decide⟩
  obtain ⟨before, opener, body, hls, -, hopens, -⟩ := hopen
  obtain ⟨-, rfl, -⟩ := List.append_eq_singleton_iff.mp hls.symm |>.resolve_right (by simp)
  exact absurd (Fence.opens_indent_iff.mp hopens).1 (by decide)

end MarkdownDirectives.Source
