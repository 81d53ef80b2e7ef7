import MarkdownDirectives.Source.Block

/-!
# Lines as the splitter sees them

Facts on one line at a place where directives are read.

* `lines_unlines` — lines that end in line feeds are read back, a carriage return at the end aside
* `Text.cut_run_iff` — a run of one character is all that a text starts with of it
* `containerOpening?_dropReturn`, `leafLine?_dropReturn` — a directive does not need it
* `LineKind.ofLine_opening`, `LineKind.ofLine_leaf` — what reads as a directive is one
* `closes_replicate` — colons close what no more colons have opened
* `opening?_of_lineColons` — a line of colons is no fence
-/

namespace MarkdownDirectives

namespace Text

/-! ## Lines of a text -/

/-- Lines, each with a line feed at its end. -/
def unlines (ls : List (List Char)) : List Char :=
  ls.flatMap (· ++ ['\n'])

/-- A line without a carriage return at its end. -/
def dropReturn (line : List Char) : List Char :=
  if line.getLast? = some '\r' then line.dropLast else line

theorem dropReturn_append_return (line : List Char) : dropReturn (line ++ ['\r']) = line := by
  rw [dropReturn, List.getLast?_concat, if_pos rfl, List.dropLast_concat]

theorem dropReturn_of_ne {line : List Char} (h : line.getLast? ≠ some '\r') :
    dropReturn line = line :=
  if_neg h

/-- A line ends in a carriage return, or it does not change. -/
theorem dropReturn_cases (line : List Char) :
    line = dropReturn line ++ ['\r'] ∨ dropReturn line = line := by
  by_cases h : line.getLast? = some '\r'
  · obtain ⟨front, rfl⟩ := List.getLast?_eq_some_iff.mp h
    exact .inl (by rw [dropReturn_append_return])
  · exact .inr (dropReturn_of_ne h)

theorem mem_of_mem_dropReturn {c : Char} {line : List Char} (h : c ∈ dropReturn line) :
    c ∈ line := by
  rw [dropReturn] at h
  split at h
  · exact (List.dropLast_sublist line).subset h
  · exact h

theorem dropReturn_cons {c d : Char} {line : List Char} :
    dropReturn (c :: d :: line) = c :: dropReturn (d :: line) := by
  rw [dropReturn, dropReturn, List.getLast?_cons_cons]
  split <;> rfl

/-- A character that ends no line stands at the front of the first line. -/
theorem lines_cons {c : Char} {rest line : List Char} {more : List (List Char)} (hc : c ≠ '\n')
    (hr : c = '\r' → rest.head? ≠ some '\n') (h : lines rest = line :: more) :
    lines (c :: rest) = (c :: line) :: more := by
  rw [lines, h]
  · exact hc
  · rintro tail rfl rfl
    exact hr rfl rfl

theorem lines_append (rest : List Char) : ∀ line : List Char, '\n' ∉ line →
    lines (line ++ '\n' :: rest) = dropReturn line :: lines rest
  | [], _ => by rw [List.nil_append, lines]; rfl
  | [c], h => by
    have hc : c ≠ '\n' := fun heq => h (by rw [heq]; exact List.mem_cons_self)
    by_cases hr : c = '\r'
    · -- the carriage return belongs to the end of the line
      subst hr
      rw [List.singleton_append, lines]
      rfl
    · have hline : dropReturn [c] = [c] := dropReturn_of_ne (by simpa using hr)
      rw [List.singleton_append, hline]
      exact lines_cons hc (fun heq => absurd heq hr) (lines_append rest [] List.not_mem_nil)
  | c :: d :: line, h => by
    rw [List.mem_cons, not_or] at h
    have hd : d ≠ '\n' := fun heq => h.2 (by rw [heq]; exact List.mem_cons_self)
    rw [dropReturn_cons]
    exact lines_cons (Ne.symm h.1) (fun _ => by simpa using hd) (lines_append rest (d :: line) h.2)

/-- **Lines without line feeds are the lines of the text they make.** -/
theorem lines_unlines : ∀ ls : List (List Char), (∀ line ∈ ls, '\n' ∉ line) →
    lines (unlines ls) = ls.map dropReturn
  | [], _ => rfl
  | line :: ls, h => by
    have htext : unlines (line :: ls) = line ++ '\n' :: unlines ls := by
      rw [unlines, List.flatMap_cons, List.append_assoc]
      rfl
    rw [htext, lines_append _ line (h line List.mem_cons_self), List.map_cons,
      lines_unlines ls fun l hl => h l (List.mem_cons_of_mem _ hl)]

theorem cut_append_of_not {p : Char → Bool} {c : Char} (h : p c = false) (cs : List Char) :
    cut p (cs ++ [c]) = ((cut p cs).1, (cut p cs).2 ++ [c]) := by
  induction cs with
  | nil => simp [cut, h]
  | cons d rest ih =>
    simp only [cut, Prod.mk.injEq] at ih ⊢
    by_cases hd : p d = true
    · simp [hd, ih]
    · simp [hd]

/-- A text starts with a run of any one character, and behind the run stands another character or
nothing. -/
theorem cut_run_iff {c : Char} {cs rest : List Char} {count : Nat} :
    (cut (· == c) cs).1.length = count ∧ (cut (· == c) cs).2 = rest
      ↔ cs = List.replicate count c ++ rest ∧ rest.head? ≠ some c := by
  constructor
  · rintro ⟨rfl, rfl⟩
    obtain ⟨hcs, hrun, hend⟩ := cut_eq_iff.mp (Prod.eta (cut (· == c) cs)).symm
    have hreplicate : (cut (· == c) cs).1 = List.replicate (cut (· == c) cs).1.length c :=
      List.eq_replicate_iff.mpr ⟨rfl, fun d hd => by simpa using hrun d hd⟩
    rw [← hreplicate, ← hcs]
    exact ⟨rfl, fun hhead => absurd (hend c hhead) (by simp)⟩
  · rintro ⟨rfl, hrest⟩
    have hcut : cut (· == c) (List.replicate count c ++ rest) = (List.replicate count c, rest) := by
      refine cut_eq_iff.mpr ⟨rfl, fun d hd => ?_, fun d hd => ?_⟩
      · rw [List.eq_of_mem_replicate hd]
        exact beq_self_eq_true c
      · rw [beq_eq_false_iff_ne]
        rintro rfl
        exact hrest hd
    rw [hcut]
    exact ⟨List.length_replicate, rfl⟩

theorem toNat_of_isNameChar {c : Char} (h : isNameChar c = true) :
    (65 ≤ c.toNat ∧ c.toNat ≤ 90) ∨ (97 ≤ c.toNat ∧ c.toNat ≤ 122)
      ∨ (48 ≤ c.toNat ∧ c.toNat ≤ 57) ∨ c.toNat = 45 ∨ c.toNat = 95 := by
  rw [isNameChar, Bool.or_eq_true, Bool.or_eq_true, beq_iff_eq, beq_iff_eq] at h
  rcases h with (h | rfl) | rfl
  · rcases Bool.or_eq_true_iff.mp (show (c.isAlpha || c.isDigit) = true from h) with h | h
    · rcases Bool.or_eq_true_iff.mp (show (c.isUpper || c.isLower) = true from h) with h | h
      · have := of_decide_eq_true (show decide (c.val ≥ 'A'.val ∧ c.val ≤ 'Z'.val) = true from h)
        exact .inl ⟨UInt32.le_iff_toNat_le.mp this.1, UInt32.le_iff_toNat_le.mp this.2⟩
      · have := Bool.and_eq_true_iff.mp
          (show (decide (c.val ≥ 'a'.val) && decide (c.val ≤ 'z'.val)) = true from h)
        exact .inr (.inl ⟨UInt32.le_iff_toNat_le.mp (of_decide_eq_true this.1),
          UInt32.le_iff_toNat_le.mp (of_decide_eq_true this.2)⟩)
    · exact .inr (.inr (.inl (Char.isDigit_iff_toNat.mp h)))
  · decide
  · decide

/-- A character of a name is no white space. -/
theorem isBlank_of_isNameChar {c : Char} (h : isNameChar c = true) : isBlank c = false := by
  have hrange := toNat_of_isNameChar h
  simp only [isBlank, inRanges, blankRanges, List.any_cons, List.any_nil, Bool.or_false,
    Bool.or_eq_false_iff, Bool.and_eq_false_iff, decide_eq_false_iff_not]
  omega

end Text

namespace Source

open Text

/-! ## The colons of a line -/

theorem dropIndent_eq_some_iff {line rest : List Char} :
    dropIndent line = some rest
      ↔ ∃ count ≤ 3, line = List.replicate count ' ' ++ rest ∧ rest.head? ≠ some ' ' := by
  constructor
  · intro h
    rw [dropIndent] at h
    dsimp only at h
    rw [Option.ite_none_right_eq_some, Option.some.injEq] at h
    exact ⟨_, h.1, cut_run_iff.mp ⟨rfl, h.2⟩⟩
  · rintro ⟨count, hcount, hline⟩
    obtain ⟨hlength, hrest⟩ := cut_run_iff.mpr hline
    rw [dropIndent]
    dsimp only
    rw [hlength, hrest, if_pos hcount]

theorem colonRun_eq_iff {cs rest : List Char} {count : Nat} :
    colonRun cs = (count, rest)
      ↔ cs = List.replicate count ':' ++ rest ∧ rest.head? ≠ some ':' := by
  rw [← cut_run_iff]
  exact Prod.ext_iff

/-- The colons that a line starts with behind its indentation, and the rest. -/
def lineColons (line : List Char) : Option (Nat × List Char) :=
  (dropIndent line).map colonRun

theorem containerOpening?_eq (line : List Char) :
    containerOpening? line = (lineColons line).bind fun (colons, rest) =>
      if 3 ≤ colons then (wholeTail rest).map (colons, ·) else none := by
  rw [containerOpening?, lineColons]
  cases dropIndent line <;> rfl

theorem containerClosing?_eq (line : List Char) :
    containerClosing? line = (lineColons line).bind fun (colons, rest) =>
      if 3 ≤ colons && blank rest then some colons else none := by
  rw [containerClosing?, lineColons]
  cases dropIndent line <;> rfl

theorem leafLine?_eq (line : List Char) :
    leafLine? line = (lineColons line).bind fun (colons, rest) =>
      if colons = 2 then wholeTail rest else none := by
  rw [leafLine?, lineColons]
  cases dropIndent line <;> rfl

/-! ## A carriage return at the end of a line -/

theorem readBracketed_append {opening closing x : Char} (ho : x ≠ opening) (hc : x ≠ closing)
    (depth : Nat) (cs : List Char) :
    readBracketed opening closing depth (cs ++ [x])
      = (readBracketed opening closing depth cs).map
          fun (inside, rest) => (inside, rest ++ [x]) := by
  induction cs generalizing depth with
  | nil => simp [readBracketed, ho, hc]
  | cons c rest ih =>
    rw [List.cons_append]
    unfold readBracketed
    split
    · rw [ih, Option.map_map, Option.map_map]; rfl
    · split
      · cases depth with
        | zero => rfl
        | succ depth =>
          dsimp only
          rw [ih, Option.map_map, Option.map_map]; rfl
      · rw [ih, Option.map_map, Option.map_map]; rfl

theorem readLabel_append (cs : List Char) :
    readLabel (cs ++ ['\r']) = (readLabel cs).map fun (label, rest) => (label, rest ++ ['\r']) := by
  match cs with
  | [] => rfl
  | c :: rest =>
    by_cases hc : c = '['
    · subst hc
      rw [List.cons_append, readLabel, readLabel, readBracketed_append (by decide) (by decide),
        Option.map_map, Option.map_map]
      rfl
    · simp [readLabel, hc]

theorem readBlock_append (cs : List Char) :
    readBlock (cs ++ ['\r']) = (readBlock cs).map fun (block, rest) => (block, rest ++ ['\r']) := by
  match cs with
  | [] => rfl
  | c :: rest =>
    by_cases hc : c = '\x7b'
    · subst hc
      rw [List.cons_append, readBlock, readBlock, readBracketed_append (by decide) (by decide),
        Option.map_map, Option.map_map]
      rfl
    · simp [readBlock, hc]

theorem readTail_append (cs : List Char) :
    readTail (cs ++ ['\r'])
      = (readTail cs).map fun tail => { tail with rest := tail.rest ++ ['\r'] } := by
  -- the carriage return is in no name and closes no bracket, so it is left over
  rw [readTail, readTail, cut_append_of_not (by decide)]
  dsimp only
  split
  · rw [readLabel_append]
    cases readLabel (cut isNameChar cs).2 with
    | none => rfl
    | some found =>
      dsimp only [Option.map_some]
      rw [readBlock_append]
      cases readBlock found.2 <;> rfl
  · rfl

/-- Behind a directive white space may follow, a carriage return among it. -/
theorem wholeTail_append (cs : List Char) : wholeTail (cs ++ ['\r']) = wholeTail cs := by
  rw [wholeTail, wholeTail, readTail_append]
  cases readTail cs with
  | none => rfl
  | some tail =>
    have hblank : blank (tail.rest ++ ['\r']) = blank tail.rest := by
      rw [blank, blank, List.all_append]
      exact Bool.and_true _
    dsimp only [Option.map_some]
    rw [hblank]

theorem lineColons_append (line : List Char) :
    lineColons (line ++ ['\r'])
      = (lineColons line).map fun (colons, rest) => (colons, rest ++ ['\r']) := by
  have hcolons (cs : List Char) :
      colonRun (cs ++ ['\r']) = ((colonRun cs).1, (colonRun cs).2 ++ ['\r']) := by
    rw [colonRun, colonRun, cut_append_of_not (by decide)]
  rw [lineColons, lineColons, dropIndent, dropIndent, cut_append_of_not (by decide)]
  dsimp only
  split
  · rw [Option.map_some, Option.map_some, Option.map_some, hcolons]
  · rfl

/-- What is said of a line by its colons and by its directive needs no carriage return. -/
theorem bind_lineColons_dropReturn {β : Type} (f : Nat → Option Mark → Option β)
    (line : List Char) :
    ((lineColons (dropReturn line)).bind fun (colons, rest) => f colons (wholeTail rest))
      = (lineColons line).bind fun (colons, rest) => f colons (wholeTail rest) := by
  rcases dropReturn_cases line with h | h
  · conv => rhs; rw [h, lineColons_append]
    cases lineColons (dropReturn line) with
    | none => rfl
    | some found =>
      dsimp only [Option.map_some, Option.bind_some]
      rw [wholeTail_append]
  · rw [h]

theorem containerOpening?_dropReturn (line : List Char) :
    containerOpening? (dropReturn line) = containerOpening? line := by
  rw [containerOpening?_eq, containerOpening?_eq]
  exact bind_lineColons_dropReturn
    (fun colons mark => if 3 ≤ colons then mark.map (colons, ·) else none) line

theorem leafLine?_dropReturn (line : List Char) :
    leafLine? (dropReturn line) = leafLine? line := by
  rw [leafLine?_eq, leafLine?_eq]
  exact bind_lineColons_dropReturn (fun colons mark => if colons = 2 then mark else none) line

/-! ## What a line is -/

theorem containerOpening?_eq_some {line : List Char} {colons : Nat} {mark : Mark}
    (h : containerOpening? line = some (colons, mark)) :
    ∃ rest, lineColons line = some (colons, rest) ∧ 3 ≤ colons ∧ wholeTail rest = some mark := by
  rw [containerOpening?_eq] at h
  obtain ⟨⟨n, rest⟩, hline, h⟩ := Option.bind_eq_some_iff.mp h
  simp only [Option.ite_none_right_eq_some, Option.map_eq_some_iff, Prod.mk.injEq] at h
  obtain ⟨hn, m, hm, rfl, rfl⟩ := h
  exact ⟨rest, hline, hn, hm⟩

theorem leafLine?_eq_some {line : List Char} {mark : Mark} (h : leafLine? line = some mark) :
    ∃ rest, lineColons line = some (2, rest) ∧ wholeTail rest = some mark := by
  rw [leafLine?_eq] at h
  obtain ⟨⟨n, rest⟩, hline, h⟩ := Option.bind_eq_some_iff.mp h
  simp only [Option.ite_none_right_eq_some] at h
  obtain ⟨rfl, hm⟩ := h
  exact ⟨rest, hline, hm⟩

theorem containerClosing?_eq_some {line : List Char} {colons : Nat}
    (h : containerClosing? line = some colons) :
    ∃ rest, lineColons line = some (colons, rest) ∧ 3 ≤ colons ∧ blank rest = true := by
  rw [containerClosing?_eq] at h
  obtain ⟨⟨n, rest⟩, hline, h⟩ := Option.bind_eq_some_iff.mp h
  simp only [Option.ite_none_right_eq_some, Bool.and_eq_true, decide_eq_true_eq,
    Option.some.injEq] at h
  obtain ⟨⟨hn, hblank⟩, rfl⟩ := h
  exact ⟨rest, hline, hn, hblank⟩

/-- A blank text holds no directive. -/
theorem wholeTail_of_blank {cs : List Char} (h : blank cs = true) : wholeTail cs = none := by
  have hname : cs.takeWhile isNameChar = [] := by
    cases cs with
    | nil => rfl
    | cons c rest =>
      have hc : isBlank c = true := List.all_eq_true.mp h c List.mem_cons_self
      rw [List.takeWhile_cons, if_neg]
      intro hn
      rw [isBlank_of_isNameChar hn] at hc
      exact Bool.false_ne_true hc
  rw [wholeTail, readTail, cut, hname]
  rfl

/-- A line that opens a container has something behind its colons, so it closes none. -/
theorem containerClosing?_of_containerOpening? {line : List Char} {colons : Nat} {mark : Mark}
    (h : containerOpening? line = some (colons, mark)) : containerClosing? line = none := by
  obtain ⟨rest, hline, -, htail⟩ := containerOpening?_eq_some h
  rw [Option.eq_none_iff_forall_ne_some]
  intro colons' hclose
  obtain ⟨rest', hline', -, hblank⟩ := containerClosing?_eq_some hclose
  rw [hline, Option.some.injEq, Prod.mk.injEq] at hline'
  rw [hline'.2, wholeTail_of_blank hblank] at htail
  exact absurd htail (by simp)

/-- A leaf directive has two colons, and a line that closes a container has more. -/
theorem containerClosing?_of_leafLine? {line : List Char} {mark : Mark}
    (h : leafLine? line = some mark) : containerClosing? line = none := by
  obtain ⟨rest, hline, -⟩ := leafLine?_eq_some h
  rw [Option.eq_none_iff_forall_ne_some]
  intro colons hclose
  obtain ⟨rest', hline', hcolons, -⟩ := containerClosing?_eq_some hclose
  rw [hline, Option.some.injEq, Prod.mk.injEq] at hline'
  omega

theorem containerOpening?_of_leafLine? {line : List Char} {mark : Mark}
    (h : leafLine? line = some mark) : containerOpening? line = none := by
  obtain ⟨rest, hline, -⟩ := leafLine?_eq_some h
  rw [Option.eq_none_iff_forall_ne_some]
  rintro ⟨colons, mark'⟩ hopen
  obtain ⟨rest', hline', hcolons, -⟩ := containerOpening?_eq_some hopen
  rw [hline, Option.some.injEq, Prod.mk.injEq] at hline'
  omega

theorem closes_eq_false {line : List Char} (h : containerClosing? line = none)
    (innermost : Option Nat) : closes innermost line = false := by
  cases innermost <;> simp [closes, h]

namespace LineKind

/-- A line that reads as the opening of a container is one, whatever is open. -/
theorem ofLine_opening {line : List Char} {colons : Nat} {mark : Mark}
    (h : containerOpening? line = some (colons, mark)) (innermost : Option Nat) :
    ofLine innermost line = .opening colons mark := by
  rw [ofLine, closes_eq_false (containerClosing?_of_containerOpening? h), if_neg Bool.false_ne_true,
    h]

/-- A line that reads as a leaf directive is one, whatever is open. -/
theorem ofLine_leaf {line : List Char} {mark : Mark} (h : leafLine? line = some mark)
    (innermost : Option Nat) : ofLine innermost line = .leaf mark := by
  rw [ofLine, closes_eq_false (containerClosing?_of_leafLine? h), if_neg Bool.false_ne_true,
    containerOpening?_of_leafLine? h, h]

end LineKind

/-- A line of nothing but colons. -/
theorem lineColons_replicate {count : Nat} (h : count ≠ 0) :
    lineColons (List.replicate count ':') = some (count, []) := by
  obtain ⟨n, rfl⟩ := Nat.exists_eq_succ_of_ne_zero h
  have hindent : dropIndent (List.replicate (n + 1) ':') = some (List.replicate (n + 1) ':') := rfl
  have hrun : colonRun (List.replicate (n + 1) ':') = (n + 1, []) :=
    colonRun_eq_iff.mpr ⟨(List.append_nil _).symm, by simp⟩
  rw [lineColons, hindent, Option.map_some, hrun]

/-- A line of colons closes every container that was opened with no more of them. -/
theorem closes_replicate {least count : Nat} (hleast : 3 ≤ least) (h : least ≤ count) :
    closes (some least) (List.replicate count ':') = true := by
  have hclose : containerClosing? (List.replicate count ':') = some count := by
    have hcount : (decide (3 ≤ count) && blank []) = true := by
      simp only [blank, List.all_nil, Bool.and_true, decide_eq_true_eq]
      omega
    rw [containerClosing?_eq, lineColons_replicate (by omega), Option.bind_some]
    exact if_pos hcount
  simp [closes, hclose, h]

/-! ## Fences -/

/-- The indentation is white space. -/
theorem trimStart_of_dropIndent {line rest : List Char} (h : dropIndent line = some rest) :
    trimStart line = trimStart rest := by
  obtain ⟨count, -, rfl, -⟩ := dropIndent_eq_some_iff.mp h
  refine List.dropWhile_append_of_pos fun c hc => ?_
  rw [List.eq_of_mem_replicate hc]
  decide

/-- A line that starts with colons opens no fence. -/
theorem opening?_of_lineColons {line rest : List Char} {colons : Nat}
    (h : lineColons line = some (colons, rest)) (hcolons : colons ≠ 0) :
    Fence.opening? line = none := by
  rw [lineColons, Option.map_eq_some_iff] at h
  obtain ⟨cs, hindent, hrun⟩ := h
  obtain ⟨n, rfl⟩ := Nat.exists_eq_succ_of_ne_zero hcolons
  obtain ⟨rfl, -⟩ := colonRun_eq_iff.mp hrun
  rw [Fence.opening?, trimStart_of_dropIndent hindent]
  rfl

end Source

end MarkdownDirectives
