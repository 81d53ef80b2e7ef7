import MarkdownDirectives.Proofs.Source.Items
import MarkdownDirectives.Proofs.Text.Offsets

/-!
# Reading an attribute block in passes

An attribute block can be read by a loop that keeps the text that is left. Every pass takes one
item off its front, by byte offsets. Whatever the block holds, no pass cuts inside a character and
every pass leaves less. So the loop comes to the end, with the items that `readItems` gives.

* `pass` — one pass over byte offsets
* `pass_eq` — it takes the item that `readItem` reads
* `Reaches` — what the loop has read and what is left, after any number of passes
* `Reaches.ends` — what is left ends as the block does, and the items follow one another
* `reaches_readItems` — the loop comes to the end
* `readItems_passes` — all of it, with what is recorded of the items
-/

namespace MarkdownDirectives.Source

open Text

open String (utf8Len)

/-! ## One pass -/

/-- A text without the character that it has to start with. -/
def stripFirst (c : Char) (s : String) : Option String :=
  match s.toList with
  | [] => none
  | d :: rest => if d = c then some (String.ofList rest) else none

/-- The text in front of the first mark and the text behind it. -/
def cutAtFirst (mark : Char) (s : String) : Checked (Option (String × String)) :=
  match firstByte? (· == mark) s.toList with
  | none => return none
  | some stop => do
    let before ← sliceTo s stop
    let after ← sliceFrom s (stop + 1)
    return some (before, after)

/-- The value behind an equals sign and the text behind the value. -/
def passValue (s : String) : Checked (Option (String × String)) :=
  match stripFirst '"' s with
  | some inside => cutAtFirst '"' inside
  | none =>
    match stripFirst '\'' s with
    | some inside => cutAtFirst '\'' inside
    | none => do
      let stop := firstByte isBlank s
      let value ← sliceTo s stop
      let rest ← sliceFrom s stop
      return some (value, rest)

/-- A key, an equals sign and a value. -/
def passEntry (s : String) : Checked (Option (Item × String)) :=
  match firstByte? (· == '=') s.toList with
  | none => return none
  | some equals => do
    let key ← sliceTo s equals
    if Html.isAttributeName key.toList then
      let behind ← sliceFrom s (equals + 1)
      let found ← passValue behind
      return found.map fun (value, rest) => (.entry key.toList value.toList, rest)
    else return none

/-- A shorthand behind its mark. -/
def passShorthand (item : List Char → Item) (s : String) : Checked (Option Item × String) := do
  let stop := firstByte endsShorthand s
  let found ← if 0 < stop then do
      let value ← sliceTo s stop
      pure (some (item value.toList))
    else pure none
  let rest ← sliceFrom s stop
  return (found, rest)

/-- A bare word. At least one byte is passed over, unless there is none. -/
def passWord (s : String) : Checked (Option Item × String) := do
  let stop := firstByte isBlank s
  let word ← sliceTo s stop
  let rest ← sliceFrom s (min (max stop 1) s.utf8ByteSize)
  return (if Html.isAttributeName word.toList then some (.entry word.toList []) else none, rest)

/-- One pass: the item at the front, if there is one, and the text that is left. -/
def pass (s : String) : Checked (Option Item × String) :=
  let s := String.ofList (trimStart s.toList)
  match stripFirst '#' s with
  | some rest => passShorthand .id rest
  | none =>
    match stripFirst '.' s with
    | some rest => passShorthand .className rest
    | none => do
      match ← passEntry s with
      | some (item, rest) => return (some item, rest)
      | none => passWord s

/-! ## What a pass takes -/

variable {s : String} {cs : List Char}

theorem stripFirst_ofList (c d : Char) (rest : List Char) :
    stripFirst c (String.ofList (d :: rest))
      = if d = c then some (String.ofList rest) else none := by
  rw [stripFirst, String.toList_ofList]

theorem firstByte?_mark (mark : Char) (cs : List Char) :
    firstByte? (· == mark) cs = (splitAtFirst mark cs).map fun found => utf8Len found.1 := by
  induction cs with
  | nil => rfl
  | cons c rest ih =>
    rw [firstByte?, splitAtFirst]
    by_cases hc : c = mark
    · rw [if_pos (by simpa using hc), if_pos hc]
      rfl
    · rw [if_neg (by simpa using hc), if_neg hc, ih, Option.map_map, Option.map_map]
      rfl

/-- Both cuts at a mark are cuts between characters. -/
theorem slice_splitAtFirst {mark : Char} (hmark : mark.utf8Size = 1) {before after : List Char}
    (h : splitAtFirst mark s.toList = some (before, after)) :
    sliceTo s (utf8Len before) = .ok (String.ofList before) ∧
      sliceFrom s (utf8Len before + 1) = .ok (String.ofList after) := by
  have hs : s.toList = before ++ mark :: after := splitAtFirst_eq_some h
  refine ⟨slice_start hs, ?_⟩
  have hstop : utf8Len before + 1 = utf8Len (before ++ [mark]) := by
    rw [utf8Len_concat, hmark]
  rw [hstop]
  exact slice_end (by rw [hs, List.append_cons])

theorem cutAtFirst_eq {mark : Char} (hmark : mark.utf8Size = 1) (s : String) :
    cutAtFirst mark s = .ok ((splitAtFirst mark s.toList).map fun found =>
      (String.ofList found.1, String.ofList found.2)) := by
  rw [cutAtFirst, firstByte?_mark]
  cases h : splitAtFirst mark s.toList with
  | none => rfl
  | some found =>
    obtain ⟨hbefore, hafter⟩ := slice_splitAtFirst hmark h
    rw [Option.map_some]
    dsimp only
    rw [hbefore, hafter]
    rfl

/-- The two cuts where a run of characters ends. -/
theorem slice_cut {p q : Char → Bool} (hp : ∀ c, p c = !q c) (s : String) :
    sliceTo s (firstByte q s) = .ok (String.ofList (cut p s.toList).1) ∧
      sliceFrom s (firstByte q s) = .ok (String.ofList (cut p s.toList).2) := by
  have hs : s.toList = (cut p s.toList).1 ++ (cut p s.toList).2 :=
    List.takeWhile_append_dropWhile.symm
  have hstop : firstByte q s = utf8Len (cut p s.toList).1 := by
    rw [firstByte_eq, ← funext hp]
    rfl
  rw [hstop]
  exact ⟨slice_start hs, slice_end hs⟩

theorem passValue_eq (s : String) :
    passValue s = .ok ((readValue s.toList).map fun found =>
      (String.ofList found.1, String.ofList found.2)) := by
  obtain ⟨cs, rfl⟩ := s.exists_eq_ofList
  obtain ⟨hvalue, hrest⟩ := slice_cut (p := (!isBlank ·)) (fun _ => rfl) (String.ofList cs)
  rw [String.toList_ofList] at hvalue hrest ⊢
  unfold readValue
  split
  · rw [passValue, stripFirst_ofList, if_pos rfl]
    dsimp only
    rw [cutAtFirst_eq (by decide), String.toList_ofList]
  · rw [passValue, stripFirst_ofList, if_neg (by decide), stripFirst_ofList, if_pos rfl]
    dsimp only
    rw [cutAtFirst_eq (by decide), String.toList_ofList]
  · next hdouble hsingle =>
    have hstrip {quote : Char} (hquote : ∀ rest, cs ≠ quote :: rest) :
        stripFirst quote (String.ofList cs) = none := by
      cases cs with
      | nil => rfl
      | cons c rest =>
        rw [stripFirst_ofList, if_neg]
        rintro rfl
        exact hquote rest rfl
    rw [passValue, hstrip hdouble, hstrip hsingle]
    dsimp only
    rw [hvalue, hrest]
    rfl

theorem passEntry_eq (s : String) :
    passEntry s = .ok ((readEntry s.toList).map fun found =>
      (found.1, String.ofList found.2)) := by
  rw [passEntry, readEntry, firstByte?_mark]
  cases h : splitAtFirst '=' s.toList with
  | none => rfl
  | some found =>
    obtain ⟨hkey, hbehind⟩ := slice_splitAtFirst (by decide) h
    rw [Option.map_some]
    dsimp only
    rw [hkey, hbehind, ok_bind, String.toList_ofList]
    split
    · rw [ok_bind, passValue_eq, ok_bind, String.toList_ofList]
      cases readValue found.2 with
      | none => rfl
      | some value => rw [Option.map_some, Option.map_some, String.toList_ofList]; rfl
    · rfl

theorem passShorthand_eq (item : List Char → Item) (s : String) :
    passShorthand item s = .ok ((readShorthand item s.toList).1,
      String.ofList (readShorthand item s.toList).2) := by
  obtain ⟨hvalue, hrest⟩ := slice_cut (p := (!endsShorthand ·)) (fun _ => rfl) s
  have hstop : 0 < firstByte endsShorthand s ↔ (cut (!endsShorthand ·) s.toList).1 ≠ [] := by
    rw [firstByte_eq, Nat.pos_iff_ne_zero, ne_eq, String.utf8Len_eq_zero]
    rfl
  rw [passShorthand, readShorthand]
  dsimp only
  by_cases hempty : (cut (!endsShorthand ·) s.toList).1 = []
  · rw [if_neg (by rwa [hstop, not_not]), if_pos (by rw [hempty]; rfl), hrest]
    rfl
  · rw [if_pos (hstop.mpr hempty), if_neg (by simpa using hempty), hvalue, hrest,
      ok_bind, String.toList_ofList]
    rfl

/-- A word that is not empty is passed over as far as it goes. -/
theorem passWord_eq {c : Char} {rest : List Char} (hs : s.toList = c :: rest)
    (hc : isBlank c = false) :
    passWord s = .ok ((readWord s.toList).1, String.ofList (readWord s.toList).2) := by
  obtain ⟨hword, hrest⟩ := slice_cut (p := (!isBlank ·)) (fun _ => rfl) s
  have hleast : 1 ≤ firstByte isBlank s := by
    have hpos := c.utf8Size_pos
    rw [firstByte_eq, hs, List.takeWhile_cons_of_pos (by rw [hc]; rfl), String.utf8Len_cons]
    omega
  have hmost : firstByte isBlank s ≤ s.utf8ByteSize := by
    rw [firstByte_eq, ← String.utf8Len_toList]
    exact String.utf8Len_le_of_prefix (List.takeWhile_prefix _)
  rw [passWord, Nat.max_eq_left hleast, Nat.min_eq_left hmost, hword, hrest, ok_bind, ok_bind,
    String.toList_ofList]
  rfl

/-- **A pass takes the item that is read from the front.** -/
theorem pass_eq {c : Char} {rest : List Char} (hs : trimStart s.toList = c :: rest) :
    pass s = .ok ((readItem c rest).1, String.ofList (readItem c rest).2) := by
  have hc : isBlank c = false := (trimStart_head hs).1
  rw [pass, hs, stripFirst_ofList, stripFirst_ofList, readItem]
  by_cases hid : c = '#'
  · rw [if_pos hid, if_pos hid]
    dsimp only
    rw [passShorthand_eq, String.toList_ofList]
  · rw [if_neg hid, if_neg hid]
    by_cases hclass : c = '.'
    · rw [if_pos hclass, if_pos hclass]
      dsimp only
      rw [passShorthand_eq, String.toList_ofList]
    · rw [if_neg hclass, if_neg hclass]
      dsimp only
      rw [passEntry_eq, ok_bind, String.toList_ofList]
      cases readEntry (c :: rest) with
      | some found => rfl
      | none =>
        have hword := passWord_eq (s := String.ofList (c :: rest)) String.toList_ofList hc
        rwa [String.toList_ofList] at hword

/-! ## What is left -/

theorem suffix_of_readValue {cs value rest : List Char} (h : readValue cs = some (value, rest)) :
    rest <:+ cs := by
  have hmark {mark : Char} {inside : List Char}
      (h : splitAtFirst mark inside = some (value, rest)) : rest <:+ mark :: inside :=
    ⟨mark :: (value ++ [mark]), by rw [splitAtFirst_eq_some h]; simp⟩
  unfold readValue at h
  split at h
  · exact hmark h
  · exact hmark h
  · cases h
    exact List.dropWhile_suffix _

/-- What an item leaves is the end of the text behind its first character. -/
theorem suffix_of_readItem {c : Char} (hc : isBlank c = false) (rest : List Char) :
    (readItem c rest).2 <:+ rest := by
  rw [readItem]
  split
  · exact List.dropWhile_suffix _
  · split
    · exact List.dropWhile_suffix _
    · split
      · next item behind h =>
        rw [readEntry] at h
        split at h
        · cases h
        · next key after hsplit =>
          split at h
          · next hkey =>
            obtain ⟨⟨value, left⟩, hvalue, heq⟩ := Option.map_eq_some_iff.mp h
            cases heq
            obtain ⟨d, more, rfl, -⟩ := exists_cons_of_isAttributeName hkey
            obtain ⟨-, hrest⟩ := List.cons.inj (splitAtFirst_eq_some hsplit)
            refine (suffix_of_readValue hvalue).trans ⟨more ++ ['='], ?_⟩
            rw [hrest, List.append_assoc]
            rfl
          · cases h
      · change List.dropWhile (!isBlank ·) (c :: rest) <:+ rest
        rw [List.dropWhile_cons_of_pos (by rw [hc]; rfl)]
        exact List.dropWhile_suffix _

/-- The last character of a trimmed text is no white space. -/
theorem isBlank_getLast?_trim (cs : List Char) :
    ∀ c ∈ (trim cs).getLast?, isBlank c = false := by
  intro c hc
  rw [trim, trimEnd, List.getLast?_reverse] at hc
  have hhead := List.head?_dropWhile_not isBlank (trimStart cs).reverse
  rw [Option.mem_def.mp hc] at hhead
  simpa using hhead

/-- **One step of the loop.** The text that is left ends in something that is no white space. -/
theorem exists_pass (hne : s ≠ "") (hlast : ∀ c ∈ s.toList.getLast?, isBlank c = false) :
    trimStart s.toList ≠ [] ∧ ∃ found rest, pass s = .ok (found, rest) ∧
      rest.toList <:+ s.toList ∧ rest.utf8ByteSize < s.utf8ByteSize ∧
      readItems s.toList = found.toList ++ readItems rest.toList := by
  have hvisible : trimStart s.toList ≠ [] := by
    have hlist : s.toList ≠ [] := by simpa using hne
    obtain ⟨front, last, hs⟩ := (List.eq_nil_or_concat' s.toList).resolve_left hlist
    intro hblank
    have hlast : isBlank last = false := hlast last (by rw [hs, List.getLast?_concat]; rfl)
    rw [List.dropWhile_eq_nil_iff.mp hblank last (by rw [hs]; simp)] at hlast
    cases hlast
  refine ⟨hvisible, ?_⟩
  obtain ⟨c, more, hstart⟩ := List.exists_cons_of_ne_nil hvisible
  have hrest := suffix_of_readItem (trimStart_head hstart).1 more
  have hmore : c :: more <:+ s.toList := hstart ▸ List.dropWhile_suffix _
  refine ⟨_, _, pass_eq hstart, ?_, ?_, ?_⟩
  · rw [String.toList_ofList]
    exact (hrest.trans (List.suffix_cons c more)).trans hmore
  · have hshort := String.utf8Len_le_of_suffix hrest
    have hlong := String.utf8Len_le_of_suffix hmore
    rw [String.utf8Len_cons, String.utf8Len_toList] at hlong
    have hpos := c.utf8Size_pos
    rw [String.utf8ByteSize_ofList]
    omega
  · rw [String.toList_ofList]
    exact readItems_of_trimStart hstart

/-! ## All passes -/

/-- What the loop has read of a block, and the text that is left. -/
inductive Reaches (block : String) : List Item → String → Prop
  | start : Reaches block [] (trimmed block)
  | pass {items : List Item} {found : Option Item} {s rest : String} (h : Reaches block items s)
      (hne : s ≠ "") (hpass : pass s = .ok (found, rest)) :
      Reaches block (items ++ found.toList) rest

namespace Reaches

variable {block : String} {items : List Item}

theorem isBlank_getLast? (h : s.toList <:+ trim cs) :
    ∀ c ∈ s.toList.getLast?, isBlank c = false := by
  intro c hc
  obtain ⟨front, hfront⟩ := h
  refine isBlank_getLast?_trim cs c ?_
  rw [← hfront]
  exact List.mem_getLast?_append_of_mem_getLast? hc

/-- **What is left is an end of the trimmed block, with the items that are not yet read.** -/
theorem ends (h : Reaches block items s) :
    s.toList <:+ trim block.toList ∧
      items ++ readItems s.toList = readItems (trim block.toList) := by
  induction h with
  | start =>
    rw [trimmed, String.toList_ofList]
    exact ⟨List.suffix_refl _, rfl⟩
  | pass h hne hpass ih =>
    obtain ⟨hsuffix, hitems⟩ := ih
    obtain ⟨-, found, rest, hpass', hrest, -, hread⟩ := exists_pass hne (isBlank_getLast? hsuffix)
    rw [hpass] at hpass'
    cases hpass'
    rw [List.append_assoc, ← hread]
    exact ⟨hrest.trans hsuffix, hitems⟩

/-- **From everywhere the loop comes to the end.** Every pass leaves less. -/
theorem finish {s : String} {items : List Item} (h : Reaches block items s) :
    Reaches block (items ++ readItems s.toList) "" := by
  by_cases hne : s = ""
  · subst hne
    rwa [String.toList_empty, readItems_nil, List.append_nil]
  · obtain ⟨-, found, rest, hpass, -, hshort, hread⟩ :=
      exists_pass hne (isBlank_getLast? h.ends.1)
    rw [hread, ← List.append_assoc]
    exact (h.pass hne hpass).finish
termination_by s.utf8ByteSize

end Reaches

theorem reaches_readItems (block : String) :
    Reaches block (readItems (trim block.toList)) "" := by
  have h : Reaches block ([] ++ readItems (trimmed block).toList) "" := Reaches.start.finish
  rwa [trimmed, String.toList_ofList, List.nil_append] at h

/-! ## What is recorded -/

/-- An item that may be recorded: a shorthand that is one, or a name with a value. -/
def Item.IsClean : Item → Prop
  | .id value | .className value => IsShorthand value
  | .entry key _ => Html.isAttributeName key = true

theorem isShorthand_readShorthand {make : List Char → Item} {item : Item}
    (h : (readShorthand make cs).1 = some item) :
    ∃ value, item = make value ∧ IsShorthand value := by
  rw [readShorthand] at h
  dsimp only at h
  split at h
  · cases h
  · next hne =>
    cases h
    obtain ⟨-, hchars, -⟩ := cut_eq_iff.mp (Prod.eta (cut (!endsShorthand ·) cs)).symm
    refine ⟨_, rfl, ⟨by simpa using hne, fun c hc => endsShorthand_eq_false_iff.mp ?_⟩⟩
    simpa using hchars c hc

theorem exists_entry_of_readEntry {rest : List Char} {item : Item}
    (h : readEntry cs = some (item, rest)) : ∃ key value, item = .entry key value := by
  rw [readEntry] at h
  split at h
  · cases h
  · split at h
    · obtain ⟨⟨value, behind⟩, -, heq⟩ := Option.map_eq_some_iff.mp h
      cases heq
      exact ⟨_, value, rfl⟩
    · cases h

theorem exists_entry_of_readWord {item : Item} (h : (readWord cs).1 = some item) :
    ∃ key value, item = .entry key value := by
  rw [readWord] at h
  dsimp only at h
  split at h
  · cases h
    exact ⟨_, [], rfl⟩
  · cases h

/-- **Every item that is read may be recorded.** -/
theorem isClean_readItem {c : Char} {rest : List Char} {item : Item}
    (h : (readItem c rest).1 = some item) : item.IsClean := by
  have hentry : (∃ key value, item = .entry key value) → item.IsClean := by
    rintro ⟨key, value, rfl⟩
    exact Item.isSound_readItem h
  rw [readItem] at h
  split at h
  · obtain ⟨value, rfl, hvalue⟩ := isShorthand_readShorthand h
    exact hvalue
  · split at h
    · obtain ⟨value, rfl, hvalue⟩ := isShorthand_readShorthand h
      exact hvalue
    · split at h
      · next hread =>
        cases h
        exact hentry (exists_entry_of_readEntry hread)
      · exact hentry (exists_entry_of_readWord h)

/-- What is recorded of the items that have been read. -/
structure Recorded (items : List Item) : Prop where
  id : ∀ id, lastId items = some id → IsShorthand id.toList
  classes : ∀ name ∈ classNames items, IsShorthand name.toList
  keys : ∀ key ∈ (SortedMap.ofList (entries items)).keys, Html.isAttributeName key.toList = true
  folded : ∀ key ∈ (foldItems items).keys, Html.isAttributeName key.toList = true

theorem recorded_of_isClean {items : List Item} (h : ∀ item ∈ items, item.IsClean) :
    Recorded items := by
  have hkeys : ∀ key ∈ (entries items).map Prod.fst, Html.isAttributeName key.toList = true := by
    intro key hkey
    obtain ⟨entry, hmem, rfl⟩ := List.mem_map.mp hkey
    obtain ⟨item, hitem, heq⟩ := List.mem_filterMap.mp hmem
    have hclean := h item hitem
    cases item with
    | id | className => cases heq
    | entry key value =>
      cases heq
      rwa [String.toList_ofList]
  refine ⟨fun id hid => ?_, fun name hname => ?_,
    fun key hkey => hkeys key (SortedMap.mem_keys_ofList hkey), fun key hkey => ?_⟩
  · obtain ⟨item, hitem, heq⟩ := List.mem_filterMap.mp (List.mem_of_getLast? hid)
    have hclean := h item hitem
    cases item with
    | className | entry => cases heq
    | id value =>
      cases heq
      rwa [String.toList_ofList]
  · obtain ⟨item, hitem, heq⟩ := List.mem_filterMap.mp hname
    have hclean := h item hitem
    cases item with
    | id | entry => cases heq
    | className value =>
      cases heq
      rwa [String.toList_ofList]
  · rcases mem_keys_foldItems hkey with rfl | rfl | hentry
    · decide
    · decide
    · exact hkeys key hentry

theorem Reaches.recorded {block : String} {items : List Item} (h : Reaches block items s) :
    Recorded items := by
  refine recorded_of_isClean fun item hitem => ?_
  obtain ⟨c, rest, hread⟩ := exists_readItem_of_mem (trim block.toList) item <| by
    rw [← h.ends.2]
    exact List.mem_append_left _ hitem
  exact isClean_readItem hread

/-- Something can be seen of what is left, and a pass makes no fault and leaves less. -/
structure Advances (s : String) : Prop where
  visible : trimStart s.toList ≠ []
  shorter : ∃ found rest, pass s = .ok (found, rest) ∧ rest.utf8ByteSize < s.utf8ByteSize

theorem Reaches.advances {block : String} {items : List Item} (h : Reaches block items s)
    (hne : s ≠ "") : Advances s := by
  obtain ⟨hvisible, found, rest, hpass, -, hshort, -⟩ :=
    exists_pass hne (isBlank_getLast? h.ends.1)
  exact ⟨hvisible, found, rest, hpass, hshort⟩

/--
**The loop over an attribute block ends, without a fault, whatever the block holds.**

Wherever it has come to, a pass cuts between characters and leaves less. The shorthands recorded so
far are not empty and hold no white space and no mark, and the keys are names of attributes. In the
end the map is that of the block.
-/
theorem readItems_passes (block : String) :
    (∀ items s, Reaches block items s → Recorded items ∧ (s ≠ "" → Advances s)) ∧
      Reaches block (readItems (trim block.toList)) "" ∧
      (∀ items, Reaches block items "" → foldItems items = readAttributes block.toList) ∧
      ∀ key ∈ (readAttributes block.toList).keys, Html.isAttributeName key.toList = true := by
  refine ⟨fun items s h => ⟨h.recorded, h.advances⟩, reaches_readItems block,
    fun items h => ?_, (reaches_readItems block).recorded.folded⟩
  have hitems := h.ends.2
  rw [String.toList_empty, readItems_nil, List.append_nil] at hitems
  rw [hitems, readAttributes]

end MarkdownDirectives.Source
