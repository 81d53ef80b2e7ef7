import MarkdownDirectives.Proofs.Source.Segments
import MarkdownDirectives.Proofs.Text.Offsets

/-!
# Brackets by byte offsets

The text between two brackets can be found by a loop that keeps a byte offset and the number of open
pairs. The bracket that it stops at ends the shortest beginning that closes as much as it opens. The
number of open pairs is lowered only where a pair is open, and both brackets are one byte long, so
the loop makes no fault. Neither do the readers around it, which cut the text at such offsets.

* `closingFrom`, `delimited` — the loop
* `delimited_eq` — it finds what `readBracketed` reads
* `IsEven`, `IsShortest` — beginnings that close as much as they open
* `isShortest_iff` — the shortest one is a balanced text in brackets
* `byteTail_eq` — a directive behind its colons
* `byteOpening_eq`, `byteLeaf_eq`, `byteMark_eq`, `byteCut_eq` — the readers around it
* `delimited_shortest` — all of it
-/

namespace MarkdownDirectives.Source

open Text

open String (utf8Len)

/-! ## The loop -/

/--
The bracket that closes the first one. The characters that are left start at byte `start`, and
`depth` pairs are open in front of them.
-/
def closingFrom (opening closing : Char) (s : String) (start depth : Nat) :
    List Char → Checked (Option (String × Nat))
  | [] => return none
  | c :: rest =>
    if c = opening then closingFrom opening closing s (start + c.utf8Size) (depth + 1) rest
    else if c = closing then do
      let depth ← lower depth 1
      if depth = 0 then
        let content ← slice s 1 start
        return some (content, start + 1)
      else closingFrom opening closing s (start + c.utf8Size) depth rest
    else closingFrom opening closing s (start + c.utf8Size) depth rest

/-- The text between the bracket at the front and its partner, and the bytes that they take. -/
def delimited (opening closing : Char) (s : String) : Checked (Option (String × Nat)) :=
  closingFrom opening closing s 0 0 s.toList

variable {opening closing : Char} {s : String} {cs front rest : List Char}

/-- ASCII characters are one byte long. -/
theorem utf8Size_of_ascii {c : Char} (h : c.toNat < 128) : c.utf8Size = 1 := by
  rw [Char.utf8Size_eq_one_iff, UInt32.le_iff_toNat_le]
  exact Nat.lt_succ_iff.mp h

/-- The text between two brackets of one byte. -/
theorem slice_between (ho : opening.utf8Size = 1) (hs : s.toList = opening :: (cs ++ rest)) :
    slice s 1 (utf8Len (opening :: cs)) = .ok (String.ofList cs) := by
  have hopening : utf8Len [opening] = 1 := by rw [String.utf8Len_cons, ho, String.utf8Len_nil]
  have hslice : slice s (utf8Len [opening]) (utf8Len [opening] + utf8Len cs)
      = .ok (String.ofList cs) := slice_append hs
  rwa [hopening, Nat.add_comm, ← ho, ← String.utf8Len_cons, ho] at hslice

/--
The loop agrees with reading inside the brackets. The induction is on the characters that are left;
the loop counts the first bracket too, so at least one pair is open.
-/
theorem closingFrom_eq (ho : opening.utf8Size = 1) (hc : closing.utf8Size = 1)
    {read cs : List Char} {depth : Nat}
    (hs : s.toList = opening :: (read ++ cs)) :
    closingFrom opening closing s (utf8Len (opening :: read)) (depth + 1) cs
      = .ok ((readBracketed opening closing depth cs).map fun found =>
          (String.ofList (read ++ found.1), offsetOf s found.2)) := by
  induction cs generalizing read depth with
  | nil => rfl
  | cons c rest ih =>
    have hstart : utf8Len (opening :: read) + c.utf8Size = utf8Len (opening :: (read ++ [c])) := by
      rw [← utf8Len_concat, List.cons_append]
    have hstep (depth : Nat) :
        closingFrom opening closing s (utf8Len (opening :: read) + c.utf8Size) (depth + 1) rest
          = .ok (((readBracketed opening closing depth rest).map fun found =>
              (c :: found.1, found.2)).map fun found =>
                (String.ofList (read ++ found.1), offsetOf s found.2)) := by
      rw [hstart, ih (by rw [hs, List.append_cons]), Option.map_map]
      simp [Function.comp_def]
    rw [closingFrom, readBracketed.eq_def]
    dsimp only
    split
    · exact hstep (depth + 1)
    · split
      · next hclosing =>
        subst hclosing
        rw [lower_succ, ok_bind]
        cases depth with
        | zero =>
          have hstop : offsetOf s rest = utf8Len (opening :: read) + 1 := by
            rw [← hc, hstart]
            exact offsetOf_append (by rw [hs, List.append_cons]; rfl)
          rw [if_pos rfl, slice_between ho hs, ok_bind, Option.map_some, List.append_nil, hstop]
          rfl
        | succ depth =>
          rw [if_neg (Nat.succ_ne_zero depth)]
          exact hstep depth
      · exact hstep depth

/-- **The loop finds what is read inside the brackets.** -/
theorem delimited_eq (ho : opening.utf8Size = 1) (hc : closing.utf8Size = 1)
    (hs : s.toList = opening :: rest) :
    delimited opening closing s
      = .ok ((readBracketed opening closing 0 rest).map fun found =>
          (String.ofList found.1, offsetOf s found.2)) := by
  have hfirst : 0 + opening.utf8Size = utf8Len [opening] := rfl
  have hparts : s.toList = opening :: ([] ++ rest) := hs
  rw [delimited, hs, closingFrom, if_pos rfl, hfirst]
  exact closingFrom_eq ho hc hparts

/-! ## The shortest beginning -/

/-- A beginning, not empty, that closes as much as it opens. -/
structure IsEven (opening closing : Char) (cs front : List Char) : Prop where
  isPrefix : front <+: cs
  nonempty : front ≠ []
  even : front.count opening = front.count closing

/-- The shortest such beginning. -/
structure IsShortest (opening closing : Char) (cs group : List Char) : Prop
    extends IsEven opening closing cs group where
  least : ∀ front, IsEven opening closing cs front → group.length ≤ front.length

section Shortest

variable (hne : opening ≠ closing)
include hne

/-- Where no bracket ends the text, no beginning closes more than was open. -/
theorem count_le_of_unclosed {depth : Nat} (h : readBracketed opening closing depth cs = none)
    (hfront : front <+: cs) : front.count closing ≤ front.count opening + depth := by
  induction cs generalizing depth front with
  | nil =>
    rw [List.prefix_nil.mp hfront]
    exact Nat.zero_le _
  | cons c rest ih =>
    cases front with
    | nil => exact Nat.zero_le _
    | cons d more =>
      obtain ⟨rfl, hmore⟩ := List.cons_prefix_cons.mp hfront
      rw [readBracketed.eq_def] at h
      dsimp only at h
      split at h
      · next ho =>
        subst ho
        have := ih (Option.map_eq_none_iff.mp h) hmore
        rw [List.count_cons_self, List.count_cons_of_ne hne]
        omega
      · next ho =>
        split at h
        · next hc =>
          subst hc
          split at h
          · cases h
          · have := ih (Option.map_eq_none_iff.mp h) hmore
            rw [List.count_cons_self, List.count_cons_of_ne hne.symm]
            omega
        · next hc =>
          rw [List.count_cons_of_ne ho, List.count_cons_of_ne hc]
          exact ih (Option.map_eq_none_iff.mp h) hmore

/-- Inside of a balanced text in brackets the first bracket is open. -/
theorem count_lt_within {inside : List Char} (h : Balanced opening closing inside)
    (hfront : front <+: opening :: (inside ++ [closing])) (hnonempty : front ≠ [])
    (hproper : front ≠ opening :: (inside ++ [closing])) :
    front.count closing < front.count opening := by
  cases front with
  | nil => exact absurd rfl hnonempty
  | cons c more =>
    obtain ⟨rfl, hmore⟩ := List.cons_prefix_cons.mp hfront
    have hwithin := h.within more <|
      (List.prefix_concat_iff.mp hmore).resolve_left fun heq => hproper (by rw [heq])
    rw [List.count_cons_self, List.count_cons_of_ne hne]
    exact Nat.lt_succ_of_le hwithin

/-- A balanced text in brackets is the shortest beginning that closes as much as it opens. -/
theorem isShortest_of_balanced {inside : List Char} (h : Balanced opening closing inside)
    (rest : List Char) :
    IsShortest opening closing (opening :: (inside ++ closing :: rest))
      (opening :: (inside ++ [closing])) := by
  have hgroup : opening :: (inside ++ [closing]) <+: opening :: (inside ++ closing :: rest) :=
    ⟨rest, by simp⟩
  refine ⟨⟨hgroup, List.cons_ne_nil _ _, ?_⟩, fun front hfront => ?_⟩
  · rw [List.count_cons_self, List.count_cons_of_ne hne, List.count_append, List.count_append,
      List.count_singleton_self, List.count_singleton, h.closed]
    simp [hne.symm]
  · by_contra hshort
    have hlength := Nat.lt_of_not_le hshort
    have hbefore := List.prefix_of_prefix_length_le hfront.isPrefix hgroup (Nat.le_of_lt hlength)
    have hlt := count_lt_within hne h hbefore hfront.nonempty
      fun heq => Nat.ne_of_lt hlength (congrArg List.length heq)
    rw [hfront.even] at hlt
    exact Nat.lt_irrefl _ hlt

/-- Without an end no beginning closes as much as it opens. -/
theorem not_isEven_of_unclosed (h : readBracketed opening closing 0 rest = none) :
    ¬ IsEven opening closing (opening :: rest) front := by
  intro heven
  cases front with
  | nil => exact heven.nonempty rfl
  | cons c more =>
    obtain ⟨rfl, hmore⟩ := List.cons_prefix_cons.mp heven.isPrefix
    have hle := count_le_of_unclosed hne h hmore
    have hcount := heven.even
    rw [List.count_cons_self, List.count_cons_of_ne hne] at hcount
    omega

/-- **What is read in brackets is the shortest beginning that closes as much as it opens.** -/
theorem isShortest_iff {inside : List Char} :
    IsShortest opening closing (opening :: rest) (opening :: (inside ++ [closing]))
      ↔ ∃ behind, readBracketed opening closing 0 rest = some (inside, behind) := by
  have hread {inside behind : List Char}
      (h : readBracketed opening closing 0 rest = some (inside, behind)) :
      IsShortest opening closing (opening :: rest) (opening :: (inside ++ [closing])) := by
    obtain ⟨rfl, hcloses⟩ := (readBracketed_eq_some_iff hne).mp h
    exact isShortest_of_balanced hne (closesPairs_zero.mp hcloses) behind
  constructor
  · intro h
    cases hfound : readBracketed opening closing 0 rest with
    | none => exact absurd h.toIsEven (not_isEven_of_unclosed hne hfound)
    | some found =>
      obtain ⟨inside', behind⟩ := found
      have h' := hread hfound
      have hlength := Nat.le_antisymm (h.least _ h'.toIsEven) (h'.least _ h.toIsEven)
      have heq := (List.prefix_of_prefix_length_le h.isPrefix h'.isPrefix
        (Nat.le_of_eq hlength)).eq_of_length hlength
      obtain rfl := List.append_cancel_right (List.cons.inj heq).2
      exact ⟨behind, rfl⟩
  · rintro ⟨behind, h⟩
    exact hread h

end Shortest

/-! ## Behind the colons -/

/-- What is read behind the colons of a directive, with the number of bytes that it takes. -/
structure ByteTail where
  mark : Mark
  delimited : Bool
  consumed : Nat

/-- The same of what is read character by character. -/
def Tail.inBytes (s : String) (tail : Tail) : ByteTail :=
  ⟨tail.mark, tail.delimited, offsetOf s tail.rest⟩

/-- A part in brackets at a byte offset, if there is one, and the offset behind it. -/
def partAt (opening closing : Char) (s : String) (start : Nat) :
    Checked (Option (Option String × Nat)) := do
  let behind ← sliceFrom s start
  if behind.toList.head? = some opening then
    let found ← delimited opening closing behind
    return found.map fun (content, taken) => (some content, start + taken)
  else return some (none, start)

/-- Name, label and attributes at the front of a text. -/
def byteTail (s : String) : Checked (Option ByteTail) := do
  let stop := firstByte (!isNameChar ·) s
  let name ← sliceTo s stop
  if isName name.toList then
    match ← partAt '[' ']' s stop with
    | none => return none
    | some (label, stop) =>
      match ← partAt '{' '}' s stop with
      | none => return none
      | some (block, stop) => return some {
          mark := {
            name
            label := (label.map String.toList).getD []
            attributes :=
              (block.map fun block => readAttributes block.toList).getD SortedMap.empty }
          delimited := label.isSome || block.isSome
          consumed := stop }
  else return none

theorem partAt_eq (hne : opening ≠ closing) (ho : opening.utf8Size = 1)
    (hc : closing.utf8Size = 1) (hs : s.toList = front ++ cs) :
    partAt opening closing s (utf8Len front)
      = .ok ((readPart opening closing cs).map fun found =>
          (found.1.map String.ofList, offsetOf s found.2)) := by
  rw [partAt, slice_end hs, ok_bind, String.toList_ofList]
  split
  · next hhead =>
    obtain ⟨rest, rfl⟩ := List.head?_eq_some_iff.mp hhead
    rw [delimited_eq ho hc String.toList_ofList, ok_bind, readPart, if_pos rfl]
    cases hfound : readBracketed opening closing 0 rest with
    | none => rfl
    | some found =>
      obtain ⟨hrest, -⟩ := (readBracketed_eq_some_iff hne).mp hfound
      have hsuffix : found.2 <:+ opening :: rest :=
        ⟨opening :: (found.1 ++ [closing]), by rw [hrest]; simp⟩
      rw [Option.map_some, Option.map_some, Option.map_some, Option.map_some,
        ← offsetOf_behind hs hsuffix]
      rfl
  · next hhead =>
    have habsent : readPart opening closing cs = some (none, cs) :=
      (readPart_eq_some_iff hne).mpr ⟨[], .absent, rfl, fun _ => hhead⟩
    rw [habsent, Option.map_some, offsetOf_append hs]
    rfl

theorem suffix_of_readPart (hne : opening ≠ closing) {part : Option (List Char)}
    (h : readPart opening closing cs = some (part, rest)) : rest <:+ cs := by
  obtain ⟨text, -, rfl, -⟩ := (readPart_eq_some_iff hne).mp h
  exact List.suffix_append text rest

/-- **Reading by byte offsets reads the same.** -/
theorem byteTail_eq (s : String) :
    byteTail s = .ok ((readTail s.toList).map (Tail.inBytes s)) := by
  have hs : s.toList = (cut isNameChar s.toList).1 ++ (cut isNameChar s.toList).2 :=
    List.takeWhile_append_dropWhile.symm
  have hstop : firstByte (!isNameChar ·) s = utf8Len (cut isNameChar s.toList).1 := by
    rw [firstByte_eq]
    simp [cut]
  rw [byteTail, readTail, hstop]
  dsimp only
  rw [slice_start hs, ok_bind, String.toList_ofList]
  split
  · rw [partAt_eq (by decide) (by decide) (by decide) hs, ok_bind, readLabel_eq]
    cases hlabel : readPart '[' ']' (cut isNameChar s.toList).2 with
    | none => rfl
    | some found =>
      obtain ⟨label, behind⟩ := found
      obtain ⟨text, htext⟩ := suffix_of_readPart (by decide) hlabel
      have hs' : s.toList = ((cut isNameChar s.toList).1 ++ text) ++ behind := by
        rw [List.append_assoc, htext, ← hs]
      rw [Option.map_some]
      dsimp only
      rw [offsetOf_append hs', partAt_eq (by decide) (by decide) (by decide) hs', ok_bind,
        readBlock_eq]
      cases hblock : readPart '{' '}' behind with
      | none => rfl
      | some found =>
        obtain ⟨block, rest⟩ := found
        have hlist (part : Option (List Char)) :
            (part.map String.ofList).map String.toList = part := by cases part <;> simp
        have hread (part : Option (List Char)) :
            (part.map String.ofList).map (fun block => readAttributes block.toList)
              = part.map readAttributes := by cases part <;> simp
        have hsome (part : Option (List Char)) :
            (part.map String.ofList).isSome = part.isSome := Option.isSome_map
        rw [Option.map_some]
        dsimp only
        rw [hlist, hread, hsome, hsome]
        rfl
  · rfl

theorem suffix_of_readTail {tail : Tail} (h : readTail cs = some tail) : tail.rest <:+ cs := by
  obtain ⟨name, label, block, labelText, blockText, -, rfl, -⟩ := readTail_eq_some_iff.mp h
  exact ⟨name ++ (labelText ++ blockText), by simp⟩

/-! ## Lines -/

/-- The line behind an indentation of at most three spaces. -/
def byteIndent (line : String) : Checked (Option String) := do
  let indent ← lower line.utf8ByteSize (utf8Len (line.toList.dropWhile (· == ' ')))
  if indent ≤ 3 then
    let behind ← sliceFrom line indent
    return some behind
  else return none

/-- The directive that fills the rest of a line, behind some bytes of colons. -/
def byteWhole (s : String) (colons : Nat) : Checked (Option Mark) := do
  let behind ← sliceFrom s colons
  match ← byteTail behind with
  | none => return none
  | some tail =>
    let rest ← sliceFrom s (colons + tail.consumed)
    return if blank rest.toList then some tail.mark else none

/-- A line that opens a container, with the number of its colons. -/
def byteOpening (line : String) : Checked (Option (Nat × Mark)) := do
  match ← byteIndent line with
  | none => return none
  | some s =>
    if 3 ≤ colonBytes s then
      let mark ← byteWhole s (colonBytes s)
      return mark.map (colonBytes s, ·)
    else return none

/-- A line that is a leaf directive. -/
def byteLeaf (line : String) : Checked (Option Mark) := do
  match ← byteIndent line with
  | none => return none
  | some s => if colonBytes s = 2 then byteWhole s 2 else return none

theorem byteIndent_eq (line : String) :
    byteIndent line = .ok ((dropIndent line.toList).map String.ofList) := by
  have hline : line.toList = line.toList.takeWhile (· == ' ') ++ line.toList.dropWhile (· == ' ') :=
    List.takeWhile_append_dropWhile.symm
  have hindent : lower line.utf8ByteSize (utf8Len (line.toList.dropWhile (· == ' ')))
      = .ok (utf8Len (line.toList.takeWhile (· == ' '))) := by
    have hle := String.utf8Len_le_of_suffix (List.dropWhile_suffix (· == ' ') (l := line.toList))
    rw [String.utf8Len_toList] at hle
    rw [lower, if_pos hle]
    exact congrArg _ (offsetOf_append hline)
  rw [byteIndent, dropIndent, hindent, ok_bind, slice_end hline, utf8Len_run (by decide)]
  dsimp only [cut]
  split <;> rfl

theorem byteWhole_eq (hs : s.toList = front ++ cs) :
    byteWhole s (utf8Len front) = .ok (wholeTail cs) := by
  rw [byteWhole, wholeTail, slice_end hs, ok_bind, byteTail_eq, ok_bind, String.toList_ofList]
  cases hread : readTail cs with
  | none => rfl
  | some tail =>
    have hsuffix := suffix_of_readTail hread
    obtain ⟨text, htext⟩ := hsuffix
    have hs' : s.toList = (front ++ text) ++ tail.rest := by rw [hs, ← htext, List.append_assoc]
    rw [Option.map_some]
    dsimp only [Tail.inBytes]
    rw [offsetOf_behind hs ⟨text, htext⟩, offsetOf_append hs', slice_end hs', ok_bind,
      String.toList_ofList]
    rfl

/-- The colons in front of a line and what stands behind them. -/
theorem toList_colons (s : String) :
    s.toList = s.toList.takeWhile (· == ':') ++ (colonRun s.toList).2 ∧
      utf8Len (s.toList.takeWhile (· == ':')) = colonBytes s ∧
      (colonRun s.toList).1 = colonBytes s :=
  ⟨List.takeWhile_append_dropWhile.symm, by rw [utf8Len_run (by decide), colonBytes_eq],
    (colonBytes_eq s).symm⟩

/-- **A line that opens a container is read by byte offsets as it is.** -/
theorem byteOpening_eq (line : String) :
    byteOpening line = .ok (containerOpening? line.toList) := by
  rw [byteOpening, containerOpening?, byteIndent_eq, ok_bind]
  cases dropIndent line.toList with
  | none => rfl
  | some cs =>
    obtain ⟨hcs, hbytes, hcolons⟩ := toList_colons (String.ofList cs)
    rw [String.toList_ofList] at hcs hbytes hcolons
    have hwhole := byteWhole_eq (s := String.ofList cs) (String.toList_ofList.trans hcs)
    rw [hbytes] at hwhole
    rw [Option.map_some]
    dsimp only
    rw [hwhole, ← hcolons, ok_bind]
    split <;> rfl

/-- **A leaf line is read by byte offsets as it is.** -/
theorem byteLeaf_eq (line : String) : byteLeaf line = .ok (leafLine? line.toList) := by
  rw [byteLeaf, leafLine?, byteIndent_eq, ok_bind]
  cases dropIndent line.toList with
  | none => rfl
  | some cs =>
    obtain ⟨hcs, hbytes, hcolons⟩ := toList_colons (String.ofList cs)
    rw [String.toList_ofList] at hcs hbytes hcolons
    have hwhole := byteWhole_eq (s := String.ofList cs) (String.toList_ofList.trans hcs)
    rw [hbytes] at hwhole
    rw [Option.map_some]
    dsimp only
    rw [← hcolons] at hwhole ⊢
    split
    · next htwo =>
      rw [htwo] at hwhole
      exact hwhole
    · rfl

/-! ## Inside a text -/

/-- The text directive whose colon stands at a byte offset. -/
def byteTextMark (s : String) (start : Nat) : Checked (Option ByteTail) := do
  let before ← sliceTo s start
  if before.toList.getLast?.any blocksColon then return none
  else
    let behind ← sliceFrom s (start + 1)
    if behind.toList.head? = some ':' then return none
    else
      let tail ← byteTail behind
      return tail.filter (·.delimited)

/-- The first text directive of the characters that are left, the first of them at byte `start`. -/
def findFrom (s : String) (start : Nat) : List Char → Checked (Option (Nat × Nat × Mark))
  | [] => return none
  | c :: rest =>
    if c = ':' then do
      match ← byteTextMark s start with
      | some tail => return some (start, start + 1 + tail.consumed, tail.mark)
      | none => findFrom s (start + 1) rest
    else findFrom s (start + c.utf8Size) rest

/-- The first text directive of a text and the byte offsets at its ends. -/
def byteMark (s : String) : Checked (Option (Nat × Nat × Mark)) :=
  findFrom s 0 s.toList

/-- A text cut in front of its first text directive and behind it. -/
def byteCut (s : String) : Checked (Option (String × Mark × String)) := do
  match ← byteMark s with
  | none => return none
  | some (start, stop, mark) =>
    let before ← sliceTo s start
    let after ← sliceFrom s stop
    return some (before, mark, after)

theorem byteTextMark_eq (hs : s.toList = front ++ ':' :: rest) :
    byteTextMark s (utf8Len front)
      = .ok ((readTextMark front.getLast? ':' rest).map (Tail.inBytes (String.ofList rest))) := by
  have hs' : s.toList = (front ++ [':']) ++ rest := by rw [hs, List.append_cons]
  have hstop : utf8Len front + 1 = utf8Len (front ++ [':']) := (utf8Len_concat front ':').symm
  rw [byteTextMark, slice_start hs, ok_bind, hstop, slice_end hs', ok_bind, byteTail_eq, ok_bind,
    String.toList_ofList, String.toList_ofList, readTextMark]
  by_cases hblocked : front.getLast?.any blocksColon = true
  · rw [if_pos hblocked, hblocked]
    rfl
  · by_cases hcolon : rest.head? = some ':'
    · rw [if_neg hblocked, if_pos hcolon, if_neg (by simp [hcolon])]
      rfl
    · rw [if_neg hblocked, if_neg hcolon, if_pos (by simp [hblocked, hcolon])]
      cases readTail rest with
      | none => rfl
      | some tail =>
        dsimp only
        rw [Option.map_some, Option.filter_some]
        by_cases hdelimited : tail.delimited = true
        · rw [if_pos hdelimited]
          exact congrArg Except.ok (if_pos hdelimited)
        · rw [if_neg hdelimited]
          exact congrArg Except.ok (if_neg hdelimited)

/--
The search agrees with that over characters. The induction is on the characters that are left; what
stands in front of them counts by its last character.
-/
theorem findFrom_eq (hs : s.toList = front ++ cs) :
    findFrom s (utf8Len front) cs
      = .ok ((findMark front.getLast? cs).map fun found =>
          (utf8Len front + utf8Len found.before, offsetOf s found.after, found.mark)) := by
  induction cs generalizing front with
  | nil => rfl
  | cons c rest ih =>
    have hrest : findFrom s (utf8Len front + c.utf8Size) rest
        = .ok (((findMark (some c) rest).map (Found.push c)).map fun found =>
            (utf8Len front + utf8Len found.before, offsetOf s found.after, found.mark)) := by
      rw [← utf8Len_concat, ih (by rw [hs, List.append_cons]), List.getLast?_concat, Option.map_map]
      congr 2
      funext found
      simp [Found.push, Nat.add_assoc, Nat.add_comm c.utf8Size]
    rw [findFrom, findMark]
    split
    · next hc =>
      subst hc
      rw [byteTextMark_eq hs, ok_bind]
      cases hread : readTextMark front.getLast? ':' rest with
      | none => exact hrest
      | some tail =>
        obtain ⟨-, hopens⟩ := readTextMark_eq_some_iff.mp hread
        have hbehind := offsetOf_behind (by rw [hs, List.append_cons])
          (suffix_of_readTail hopens.read)
        rw [utf8Len_concat] at hbehind
        rw [Option.map_some, Option.map_some, ← hbehind]
        rfl
    · next hc =>
      have hnone : readTextMark front.getLast? c rest = none := by
        rw [readTextMark, if_neg (by simp [hc])]
      rw [hnone]
      exact hrest

/-- **The first text directive is found at its byte offsets.** -/
theorem byteMark_eq (s : String) :
    byteMark s = .ok ((findMark none s.toList).map fun found =>
      (utf8Len found.before, offsetOf s found.after, found.mark)) := by
  have hparts : s.toList = [] ++ s.toList := rfl
  have h := findFrom_eq hparts
  simp only [String.utf8Len_nil, Nat.zero_add, List.getLast?_nil] at h
  exact h

/-- **A text is cut at its first text directive as it is by characters.** -/
theorem byteCut_eq (s : String) :
    byteCut s = .ok ((findMark none s.toList).map fun found =>
      (String.ofList found.before, found.mark, String.ofList found.after)) := by
  rw [byteCut, byteMark_eq, ok_bind]
  cases hfound : findMark none s.toList with
  | none => rfl
  | some found =>
    obtain ⟨rest, tail, hs, hopens, heq, -⟩ := findMark_eq_some hfound
    obtain ⟨text, hrest⟩ := suffix_of_readTail hopens.read
    have hafter : found.after = tail.rest := by rw [heq]
    have hs' : s.toList = (found.before ++ ':' :: text) ++ found.after := by
      rw [hs, hafter, ← hrest, List.append_assoc, List.cons_append]
    rw [Option.map_some]
    dsimp only
    rw [slice_start hs, ok_bind, offsetOf_append hs', slice_end hs', ok_bind]
    rfl

/-! ## Everything by byte offsets -/

/-- The loop over a text that starts with a bracket. -/
structure FindsShortest (opening closing : Char) (s : String) : Prop where
  /-- It makes no fault, and it finds what is read by characters. -/
  reads : delimited opening closing s
    = .ok ((readBracketed opening closing 0 s.toList.tail).map fun found =>
        (String.ofList found.1, offsetOf s found.2))
  /-- It finds the shortest beginning that closes as much as it opens, and its bytes. -/
  found_iff : ∀ content n, delimited opening closing s = .ok (some (content, n)) ↔
    IsShortest opening closing s.toList (opening :: (content.toList ++ [closing])) ∧
      n = utf8Len (opening :: (content.toList ++ [closing]))
  /-- It finds nothing only where there is no such beginning. -/
  missing_iff : delimited opening closing s = .ok none ↔
    ∀ front, ¬ IsEven opening closing s.toList front
  /-- Up to the last bracket more is opened than closed. -/
  opens : ∀ content n, delimited opening closing s = .ok (some (content, n)) →
    ∀ front, front <+: opening :: (content.toList ++ [closing]) → front ≠ [] →
      front ≠ opening :: (content.toList ++ [closing]) →
      front.count closing < front.count opening
  /-- Both brackets can be cut off. -/
  boundaries : ∀ content n, delimited opening closing s = .ok (some (content, n)) →
    String.Pos.Raw.IsValid s ⟨1⟩ ∧ String.Pos.Raw.IsValid s ⟨n - 1⟩ ∧
      String.Pos.Raw.IsValid s ⟨n⟩

/-- The readers that cut a text at byte offsets make no fault, and they read as by characters. -/
structure ReadsBytes (s : String) : Prop where
  tail : byteTail s = .ok ((readTail s.toList).map (Tail.inBytes s))
  opening : byteOpening s = .ok (containerOpening? s.toList)
  leaf : byteLeaf s = .ok (leafLine? s.toList)
  mark : byteMark s = .ok ((findMark none s.toList).map fun found =>
    (utf8Len found.before, offsetOf s found.after, found.mark))
  cut : byteCut s = .ok ((findMark none s.toList).map fun found =>
    (String.ofList found.before, found.mark, String.ofList found.after))

theorem readsBytes (s : String) : ReadsBytes s :=
  ⟨byteTail_eq s, byteOpening_eq s, byteLeaf_eq s, byteMark_eq s, byteCut_eq s⟩

section Loop

variable (hne : opening ≠ closing) (ho : opening.utf8Size = 1) (hc : closing.utf8Size = 1)
include hne ho hc

/-- What the loop finds is what is read, with the length of the text and both brackets. -/
theorem delimited_eq_some_iff (hs : s.toList = opening :: rest) {content : String} {n : Nat} :
    delimited opening closing s = .ok (some (content, n))
      ↔ (∃ behind, readBracketed opening closing 0 rest = some (content.toList, behind)) ∧
          n = utf8Len (opening :: (content.toList ++ [closing])) := by
  have hoffset {inside behind : List Char}
      (h : readBracketed opening closing 0 rest = some (inside, behind)) :
      offsetOf s behind = utf8Len (opening :: (inside ++ [closing])) :=
    offsetOf_append (by rw [hs, ((readBracketed_eq_some_iff hne).mp h).1]; simp)
  rw [delimited_eq ho hc hs, Except.ok.injEq, Option.map_eq_some_iff]
  constructor
  · rintro ⟨⟨inside, behind⟩, hread, heq⟩
    cases heq
    rw [String.toList_ofList]
    exact ⟨⟨behind, hread⟩, hoffset hread⟩
  · rintro ⟨⟨behind, hread⟩, rfl⟩
    refine ⟨_, hread, ?_⟩
    rw [hoffset hread, String.ofList_toList]

theorem delimited_eq_none_iff (hs : s.toList = opening :: rest) :
    delimited opening closing s = .ok none
      ↔ ∀ front, ¬ IsEven opening closing s.toList front := by
  rw [delimited_eq ho hc hs, Except.ok.injEq, Option.map_eq_none_iff, hs]
  constructor
  · exact fun h front => not_isEven_of_unclosed hne h
  · intro h
    cases hread : readBracketed opening closing 0 rest with
    | none => rfl
    | some found => exact absurd ((isShortest_iff hne).mpr ⟨found.2, hread⟩).toIsEven (h _)

theorem findsShortest (hs : s.toList = opening :: rest) : FindsShortest opening closing s := by
  have hfound {content : String} {n : Nat}
      (h : delimited opening closing s = .ok (some (content, n))) :
      ∃ behind, s.toList = opening :: (content.toList ++ closing :: behind) ∧
        Balanced opening closing content.toList ∧
        n = utf8Len (opening :: (content.toList ++ [closing])) := by
    obtain ⟨⟨behind, hread⟩, hn⟩ := (delimited_eq_some_iff hne ho hc hs).mp h
    obtain ⟨hrest, hcloses⟩ := (readBracketed_eq_some_iff hne).mp hread
    exact ⟨behind, by rw [hs, hrest], closesPairs_zero.mp hcloses, hn⟩
  refine ⟨?_, fun content n => ?_, delimited_eq_none_iff hne ho hc hs,
    fun content n h front hfront hnonempty hproper => ?_, fun content n h => ?_⟩
  · rw [hs]
    exact delimited_eq ho hc hs
  · rw [delimited_eq_some_iff hne ho hc hs, hs, isShortest_iff hne]
  · obtain ⟨-, -, hbalanced, -⟩ := hfound h
    exact count_lt_within hne hbalanced hfront hnonempty hproper
  · obtain ⟨behind, hs, -, rfl⟩ := hfound h
    have hopening : utf8Len [opening] = 1 := by rw [String.utf8Len_cons, ho, String.utf8Len_nil]
    have hlast : utf8Len (opening :: (content.toList ++ [closing])) - 1
        = utf8Len (opening :: content.toList) := by
      rw [← List.cons_append, utf8Len_concat, hc, Nat.add_sub_cancel]
    have hgroup : s.toList = opening :: (content.toList ++ [closing]) ++ behind := by
      rw [hs]
      simp
    rw [hlast, ← hopening]
    exact ⟨isValid_of_append hs, isValid_of_append hs, isValid_of_append hgroup⟩

end Loop

/--
**The loop over brackets finds the shortest beginning that closes as much as it opens.**

For two ASCII characters and a text that starts with the first of them, whatever else it holds. No
number is lowered below zero and no character is cut. So no reader of directives cuts one either.
-/
theorem delimited_shortest {opening closing : Char} (hne : opening ≠ closing)
    (hopening : opening.toNat < 128) (hclosing : closing.toNat < 128) {s : String}
    (hs : s.toList.head? = some opening) :
    FindsShortest opening closing s ∧ ∀ text, ReadsBytes text := by
  obtain ⟨rest, hrest⟩ := List.head?_eq_some_iff.mp hs
  exact ⟨findsShortest hne (utf8Size_of_ascii hopening) (utf8Size_of_ascii hclosing) hrest,
    readsBytes⟩

/-- A text in brackets with brackets and characters of several bytes in it. -/
def groupText : String :=
  "[é[]ü]→]"

/-- It ends at the second bracket that closes, behind the eighth byte. -/
theorem delimited_shortest_nested :
    '[' ≠ ']' ∧ '['.toNat < 128 ∧ ']'.toNat < 128 ∧ groupText.toList.head? = some '[' ∧
      delimited '[' ']' groupText = .ok (some ("é[]ü", 8)) ∧
      IsShortest '[' ']' groupText.toList "[é[]ü]".toList ∧
      String.Pos.Raw.IsValid groupText ⟨7⟩ ∧
      byteCut ":a[é]→" = .ok (some ("", { name := "a", label := "é".toList }, "→")) := by
  have hne : '[' ≠ ']' := by decide
  have hopening : '['.toNat < 128 := by decide
  have hclosing : ']'.toNat < 128 := by decide
  have hhead : groupText.toList.head? = some '[' := by decide
  obtain ⟨hfinds, htexts⟩ := delimited_shortest hne hopening hclosing hhead
  have hread : readBracketed '[' ']' 0 groupText.toList.tail
      = some ("é[]ü".toList, "→]".toList) := by decide
  have hfound : delimited '[' ']' groupText = .ok (some ("é[]ü", 8)) := by
    rw [hfinds.reads, hread]
    rfl
  have hmark : findMark none ":a[é]→".toList
      = some ⟨[], { name := "a", label := "é".toList }, "→".toList⟩ := by rfl
  refine ⟨hne, hopening, hclosing, hhead, hfound, ((hfinds.found_iff _ _).mp hfound).1,
    (hfinds.boundaries _ _ hfound).2.1, ?_⟩
  rw [(htexts ":a[é]→").cut, hmark]
  rfl

end MarkdownDirectives.Source
