import MarkdownDirectives.Proofs.Reader.Marks
import MarkdownDirectives.Proofs.Source.Bracketed

/-!
# Directives as they are written

`Mark.write` writes a directive behind its colons: the name, the label in brackets, and every
attribute with its value in double quotes. What is written is read back, by each of the three
readers, as long as the brackets of the label and the braces of the attributes are balanced.

* `readItems_quoted` — a quoted value with its key
* `readItems_writeEntry` — one attribute at the front of a block
* `readAttributes_writeBlock` — the whole block
* `readTail_write` — a directive behind its colons, whatever follows
* `findMark_append` — a text directive behind a text without colons
* `reads_write` — the leaf line, the line that opens a container, and the text directive
-/

namespace MarkdownDirectives

/-! ## Texts in front of a mark -/

namespace Text

/-- Trimming drops the white space around a text that has none at its own ends. -/
theorem trim_around {lead cs trail : List Char} (hlead : blank lead = true)
    (htrail : blank trail = true) (hhead : ∀ c ∈ cs.head?, isBlank c = false)
    (hlast : ∀ c ∈ cs.getLast?, isBlank c = false) : trim (lead ++ (cs ++ trail)) = cs := by
  have hdrop {front ds : List Char} (hfront : ∀ c ∈ front, isBlank c = true)
      (h : ∀ c ∈ ds.head?, isBlank c = false) : (front ++ ds).dropWhile isBlank = ds := by
    rw [List.dropWhile_append_of_pos hfront]
    cases ds with
    | nil => rfl
    | cons d rest => exact List.dropWhile_cons_of_neg (by simp [h d rfl])
  cases cs with
  | nil =>
    have hall : ∀ c ∈ lead ++ trail, isBlank c = true :=
      List.forall_mem_append.mpr ⟨List.all_eq_true.mp hlead, List.all_eq_true.mp htrail⟩
    have hstart : (lead ++ trail ++ []).dropWhile isBlank = [] := hdrop hall nofun
    rw [List.append_nil] at hstart
    rw [trim, List.nil_append, trimStart, hstart]
    rfl
  | cons c rest =>
    have hstart : trimStart (lead ++ (c :: rest ++ trail)) = c :: rest ++ trail :=
      hdrop (List.all_eq_true.mp hlead) hhead
    have hend : ∀ d ∈ trail.reverse, isBlank d = true := fun d hd =>
      List.all_eq_true.mp htrail d (List.mem_reverse.mp hd)
    rw [trim, hstart, trimEnd, List.reverse_append, hdrop hend (by rwa [List.head?_reverse]),
      List.reverse_reverse]

/-- A text with no white space at its ends is trimmed already. -/
theorem trim_of_ends {cs : List Char} (hhead : ∀ c ∈ cs.head?, isBlank c = false)
    (hlast : ∀ c ∈ cs.getLast?, isBlank c = false) : trim cs = cs := by
  have h : trim ([] ++ (cs ++ [])) = cs := trim_around rfl rfl hhead hlast
  rwa [List.nil_append, List.append_nil] at h

end Text

namespace Source

open Text

theorem splitAtFirst_append {mark : Char} (after : List Char) :
    ∀ before : List Char, mark ∉ before →
      splitAtFirst mark (before ++ mark :: after) = some (before, after)
  | [], _ => by rw [List.nil_append, splitAtFirst, if_pos rfl]
  | c :: before, h => by
    have hc : c ≠ mark := fun heq => h (by rw [heq]; exact List.mem_cons_self)
    have hrest : mark ∉ before := fun hmem => h (List.mem_cons_of_mem _ hmem)
    rw [List.cons_append, splitAtFirst, if_neg hc, splitAtFirst_append after before hrest]
    rfl

/-! ## Writing -/

/-- An attribute with its value in double quotes. -/
def writeEntry (entry : String × String) : List Char :=
  entry.1.toList ++ '=' :: '"' :: (entry.2.toList ++ ['"'])

/-- Attributes in the order of their keys, with a space between any two. -/
def writeBlock (attributes : Attributes) : List Char :=
  [' '].intercalate (attributes.entries.map writeEntry)

/-- A directive behind its colons. -/
def Mark.write (mark : Mark) : List Char :=
  mark.name.toList ++ '[' :: (mark.label ++ ']' :: '{' :: (writeBlock mark.attributes ++ ['}']))

/-- An attribute that is read back: its key is no shorthand, and no quote ends its value early. -/
structure IsPlainEntry (entry : String × String) : Prop where
  key : Html.isAttributeName entry.1.toList = true
  notId : entry.1.toList.head? ≠ some '#'
  notClass : entry.1.toList.head? ≠ some '.'
  value : '"' ∉ entry.2.toList

/-- A directive that is read back. Its label and its values may hold anything else. -/
structure Mark.IsWritable (mark : Mark) : Prop where
  name : isName mark.name.toList = true
  label : Balanced '[' ']' mark.label
  entries : ∀ entry ∈ mark.attributes.entries, IsPlainEntry entry
  block : Balanced '{' '}' (writeBlock mark.attributes)

/-! ## Attribute blocks -/

section Block

variable {entry : String × String} {key value : List Char} {quote : Char}

/-- A key holds no white space. -/
theorem isBlank_of_mem_key (h : Html.isAttributeName key = true) {c : Char} (hc : c ∈ key) :
    isBlank c = false := by
  rw [← Bool.not_eq_true]
  intro hblank
  have hbreaks : Html.breaksAttributeName c = true := by
    simp [Html.breaksAttributeName, hblank]
  exact Html.not_mem_of_isAttributeName h hbreaks hc

/-- A key starts with a character that is no white space. -/
theorem exists_cons_of_isAttributeName (h : Html.isAttributeName key = true) :
    ∃ c rest, key = c :: rest ∧ isBlank c = false := by
  cases key with
  | nil => exact absurd h (by decide)
  | cons c rest => exact ⟨c, rest, rfl, isBlank_of_mem_key h List.mem_cons_self⟩

/-- A value in quotes goes up to the first quote of its kind. -/
theorem readEntry_quoted (hkey : Html.isAttributeName key = true)
    (hquote : quote = '"' ∨ quote = '\'') (hvalue : quote ∉ value) (rest : List Char) :
    readEntry (key ++ '=' :: quote :: (value ++ quote :: rest))
      = some (.entry key value, rest) := by
  have hequals : '=' ∉ key := Html.not_mem_of_isAttributeName hkey (by decide)
  have hread : readValue (quote :: (value ++ quote :: rest)) = some (value, rest) := by
    rcases hquote with rfl | rfl
    · exact splitAtFirst_append rest value hvalue
    · exact splitAtFirst_append rest value hvalue
  rw [readEntry, splitAtFirst_append _ _ hequals]
  dsimp only
  rw [if_pos hkey, hread]
  rfl

theorem readItems_of_trimStart {cs rest : List Char} {c : Char} (h : trimStart cs = c :: rest) :
    readItems cs = (readItem c rest).1.toList ++ readItems (readItem c rest).2 := by
  rw [readItems]
  split
  · next heq =>
    rw [h] at heq
    cases heq
  · next heq =>
    rw [h] at heq
    cases heq
    rfl

theorem readItems_nil : readItems [] = [] := by
  rw [readItems]
  rfl

/-- White space in front of an item does not count. -/
theorem readItems_blank {gap : List Char} (hgap : blank gap = true) (cs : List Char) :
    readItems (gap ++ cs) = readItems cs := by
  have htrim : trimStart (gap ++ cs) = trimStart cs :=
    List.dropWhile_append_of_pos (List.all_eq_true.mp hgap)
  cases h : trimStart cs with
  | nil =>
    rw [readItems, readItems]
    split
    · split
      · rfl
      · next heq => rw [h] at heq; cases heq
    · next heq => rw [htrim, h] at heq; cases heq
  | cons c rest => rw [readItems_of_trimStart (htrim.trans h), readItems_of_trimStart h]

theorem readItems_cons {c : Char} (hc : isBlank c = false) (rest : List Char) :
    readItems (c :: rest) = (readItem c rest).1.toList ++ readItems (readItem c rest).2 :=
  readItems_of_trimStart (List.dropWhile_cons_of_neg (by simp [hc]))

/-- What starts with a key that is no shorthand is an entry, or else a bare word. -/
theorem readItems_key (hkey : Html.isAttributeName key = true) (hid : key.head? ≠ some '#')
    (hclass : key.head? ≠ some '.') {text rest : List Char} {item : Item}
    (h : readEntry (key ++ text) = some (item, rest) ∨
      readEntry (key ++ text) = none ∧ readWord (key ++ text) = (some item, rest)) :
    readItems (key ++ text) = item :: readItems rest := by
  obtain ⟨c, tail, rfl, hblank⟩ := exists_cons_of_isAttributeName hkey
  have hid : c ≠ '#' := fun heq => hid (by rw [heq]; rfl)
  have hclass : c ≠ '.' := fun heq => hclass (by rw [heq]; rfl)
  rw [List.cons_append] at h ⊢
  have hitem : readItem c (tail ++ text) = (some item, rest) := by
    rw [readItem, if_neg hid, if_neg hclass]
    rcases h with hentry | ⟨hnone, hword⟩
    · rw [hentry]
    · rw [hnone]
      exact hword
  rw [readItems_cons hblank, hitem]
  rfl

/-- A quoted value is read with its key, whatever follows it. -/
theorem readItems_quoted (hkey : Html.isAttributeName key = true) (hid : key.head? ≠ some '#')
    (hclass : key.head? ≠ some '.') (hquote : quote = '"' ∨ quote = '\'') (hvalue : quote ∉ value)
    (rest : List Char) :
    readItems (key ++ '=' :: quote :: (value ++ quote :: rest))
      = .entry key value :: readItems rest :=
  readItems_key hkey hid hclass (.inl (readEntry_quoted hkey hquote hvalue rest))

/-- **An attribute at the front of a block is read as it was written.** -/
theorem readItems_writeEntry (h : IsPlainEntry entry) (rest : List Char) :
    readItems (writeEntry entry ++ rest)
      = .entry entry.1.toList entry.2.toList :: readItems rest := by
  have hwrite : writeEntry entry ++ rest
      = entry.1.toList ++ '=' :: '"' :: (entry.2.toList ++ '"' :: rest) := by simp [writeEntry]
  rw [hwrite]
  exact readItems_quoted h.key h.notId h.notClass (.inl rfl) h.value rest

theorem readItems_intercalate (entries : List (String × String))
    (h : ∀ entry ∈ entries, IsPlainEntry entry) :
    readItems ([' '].intercalate (entries.map writeEntry))
      = entries.map fun entry => .entry entry.1.toList entry.2.toList := by
  induction entries with
  | nil => exact readItems_nil
  | cons entry rest ih =>
    obtain ⟨hentry, hrest⟩ := List.forall_mem_cons.mp h
    cases rest with
    | nil =>
      have hread := readItems_writeEntry hentry []
      rw [List.append_nil, readItems_nil] at hread
      simpa using hread
    | cons next more =>
      rw [List.map_cons, List.map_cons, List.intercalate_cons_cons, List.append_assoc,
        readItems_writeEntry hentry, readItems_blank (by decide), ← List.map_cons,
        ih hrest, List.map_cons, List.map_cons, List.map_cons]

/-- A block starts with a key and ends in a quote, so there is nothing to trim. -/
theorem trim_writeBlock {attributes : Attributes}
    (h : ∀ entry ∈ attributes.entries, IsPlainEntry entry) :
    trim (writeBlock attributes) = writeBlock attributes := by
  have hlast (entries : List (String × String)) (hne : entries ≠ []) :
      ([' '].intercalate (entries.map writeEntry)).getLast? = some '"' := by
    induction entries with
    | nil => exact absurd rfl hne
    | cons entry rest ih =>
      cases rest with
      | nil =>
        have hquote : writeEntry entry
            = entry.1.toList ++ '=' :: '"' :: entry.2.toList ++ ['"'] := by simp [writeEntry]
        rw [List.map_singleton, List.intercalate_singleton, hquote, List.getLast?_concat]
      | cons next more =>
        rw [List.map_cons, List.map_cons, List.intercalate_cons_cons, ← List.map_cons,
          List.getLast?_append, ih (List.cons_ne_nil _ _)]
        rfl
  rw [writeBlock]
  cases hentries : attributes.entries with
  | nil => rfl
  | cons entry rest =>
    rw [hentries] at h
    obtain ⟨c, tail, hkey, hblank⟩ :=
      exists_cons_of_isAttributeName (h entry List.mem_cons_self).key
    refine trim_of_ends ?_ ?_
    · have hhead : ([' '].intercalate ((entry :: rest).map writeEntry)).head? = some c := by
        cases rest with
        | nil => simp [writeEntry, hkey]
        | cons next more =>
          rw [List.map_cons, List.map_cons, List.intercalate_cons_cons]
          simp [writeEntry, hkey]
      rw [hhead]
      rintro d ⟨⟩
      exact hblank
    · rw [hlast _ (List.cons_ne_nil _ _)]
      rintro d ⟨⟩
      decide

/-- Items without shorthands are the entries of the map. -/
theorem foldItems_entries (entries : List (String × String)) :
    foldItems (entries.map fun entry => .entry entry.1.toList entry.2.toList)
      = SortedMap.ofList entries := by
  have hid : lastId (entries.map fun entry => Item.entry entry.1.toList entry.2.toList) = none := by
    simp [lastId, List.filterMap_map]
  have hclass : classNames (entries.map fun entry => Item.entry entry.1.toList entry.2.toList)
      = [] := by
    simp [classNames, List.filterMap_map]
  have hentries : Source.entries
      (entries.map fun entry => Item.entry entry.1.toList entry.2.toList) = entries := by
    simp [Source.entries, List.filterMap_map]
  rw [foldItems, hid, hclass, hentries]

/-- **An attribute block is read back as the attributes it was written for.** -/
theorem readAttributes_writeBlock {attributes : Attributes}
    (h : ∀ entry ∈ attributes.entries, IsPlainEntry entry) :
    readAttributes (writeBlock attributes) = attributes := by
  rw [readAttributes, trim_writeBlock h, writeBlock, readItems_intercalate _ h,
    foldItems_entries, SortedMap.ofList_entries]

end Block

/-! ## Behind the colons -/

/-- **A directive is read back behind its colons, whatever follows it.** -/
theorem readTail_write {mark : Mark} (h : mark.IsWritable) (rest : List Char) :
    readTail (mark.write ++ rest) = some ⟨mark, true, rest⟩ := by
  have hnames : ∀ c ∈ mark.name.toList, isNameChar c = true := by
    have hname := h.name
    rw [isName, Bool.and_eq_true, List.all_eq_true] at hname
    exact hname.2
  have hcut := cut_append (c := '[') hnames (by decide)
    (mark.label ++ ']' :: '{' :: (writeBlock mark.attributes ++ '}' :: rest))
  have hlabel := readBracketed_balanced (by decide) h.label
    ('{' :: (writeBlock mark.attributes ++ '}' :: rest))
  have hblock := readBracketed_balanced (by decide) h.block rest
  have hwrite : mark.write ++ rest = mark.name.toList
      ++ '[' :: (mark.label ++ ']' :: '{' :: (writeBlock mark.attributes ++ '}' :: rest)) := by
    simp [Mark.write]
  rw [hwrite, readTail, hcut]
  dsimp only
  rw [if_pos h.name, readLabel, hlabel]
  dsimp only [Option.map_some]
  rw [readBlock, hblock]
  dsimp only [Option.map_some, Option.getD_some]
  rw [readAttributes_writeBlock h.entries, String.ofList_toList]
  rfl

/-- A directive starts with a letter. -/
theorem exists_cons_write {mark : Mark} (h : mark.IsWritable) (rest : List Char) :
    ∃ c more, mark.write ++ rest = c :: more ∧ c ≠ ':' := by
  have hname := h.name
  rw [isName, Bool.and_eq_true] at hname
  cases hcs : mark.name.toList with
  | nil =>
    rw [hcs] at hname
    exact absurd hname.1 (by decide)
  | cons c tail =>
    refine ⟨c, tail ++ '[' :: (mark.label ++ ']' :: '{'
      :: (writeBlock mark.attributes ++ ['}'])) ++ rest, by rw [Mark.write, hcs]; rfl, ?_⟩
    rintro rfl
    rw [hcs] at hname
    exact absurd (show Char.isAlpha ':' = true from hname.1) (by decide)

/-! ## Lines -/

theorem wholeTail_write {mark : Mark} (h : mark.IsWritable) {behind : List Char}
    (hblank : blank behind = true) : wholeTail (mark.write ++ behind) = some mark := by
  rw [wholeTail, readTail_write h]
  exact if_pos hblank

/-- Behind an indentation the colons end where something else starts. -/
theorem lineColons_append_cons {indent : Nat} (hindent : indent ≤ 3) (colons : Nat)
    (hcolons : colons ≠ 0) {c : Char} (hc : c ≠ ':') (rest : List Char) :
    lineColons (List.replicate indent ' ' ++ (List.replicate colons ':' ++ c :: rest))
      = some (colons, c :: rest) := by
  obtain ⟨n, rfl⟩ := Nat.exists_eq_succ_of_ne_zero hcolons
  have hdrop : dropIndent (List.replicate indent ' ' ++ (List.replicate (n + 1) ':' ++ c :: rest))
      = some (List.replicate (n + 1) ':' ++ c :: rest) :=
    dropIndent_eq_some_iff.mpr ⟨indent, hindent, rfl, by simp [List.replicate_succ]⟩
  have hrun : colonRun (List.replicate (n + 1) ':' ++ c :: rest) = (n + 1, c :: rest) :=
    colonRun_eq_iff.mpr ⟨rfl, by simpa using hc⟩
  rw [lineColons, hdrop, Option.map_some, hrun]

/-! ## Texts -/

/--
The first text directive stands behind the first colon, if that can be its colon.

The induction is on the text in front; `previous` is what stands in front of that.
-/
theorem findMark_append {rest : List Char} {tail : Tail} (htail : readTail rest = some tail)
    (hdelimited : tail.delimited = true) (hcolon : rest.head? ≠ some ':') :
    ∀ (before : List Char) (previous : Option Char), ':' ∉ before →
      (∀ c ∈ before.getLast?.or previous, blocksColon c = false) →
      findMark previous (before ++ ':' :: rest) = some ⟨before, tail.mark, tail.rest⟩ := by
  intro before
  induction before with
  | nil =>
    intro previous _ hprevious
    have hfree : previous.any blocksColon = false := by
      cases previous with
      | none => rfl
      | some c => exact hprevious c rfl
    have hmark : readTextMark previous ':' rest = some tail := by
      simp [readTextMark, hfree, hcolon, htail, hdelimited]
    rw [List.nil_append, findMark, hmark]
  | cons c before ih =>
    intro previous hfree hprevious
    rw [List.mem_cons, not_or] at hfree
    have hskip : readTextMark previous c (before ++ ':' :: rest) = none := by
      simp [readTextMark, Ne.symm hfree.1]
    have hlast : ∀ d ∈ before.getLast?.or (some c), blocksColon d = false := by
      intro d hd
      refine hprevious d ?_
      rw [List.getLast?_cons]
      cases hbefore : before.getLast? with
      | none => simpa [hbefore] using hd
      | some last => simpa [hbefore] using hd
    rw [List.cons_append, findMark, hskip, ih (some c) hfree.2 hlast]
    rfl

/-! ## The three readers -/

/--
**Reading undoes writing.**

A directive is read back from a line of its own, indented by up to three spaces and with any white
space behind it, with two colons as a leaf and with more as the opening of a container. Inside a
text it is found behind any text without colons that does not end in a letter or a digit, and with
it the text on both sides.
-/
theorem reads_write (mark : Mark) (h : mark.IsWritable) :
    (∀ (indent : Nat) (behind : List Char), indent ≤ 3 → blank behind = true →
      leafLine? (List.replicate indent ' ' ++ ':' :: ':' :: (mark.write ++ behind)) = some mark) ∧
    (∀ (indent colons : Nat) (behind : List Char), indent ≤ 3 → 3 ≤ colons →
      blank behind = true →
      containerOpening?
          (List.replicate indent ' ' ++ (List.replicate colons ':' ++ (mark.write ++ behind)))
        = some (colons, mark)) ∧
    ∀ before after : List Char, ':' ∉ before →
      (∀ c ∈ before.getLast?, isAlphanumeric c = false) →
      findMark none (before ++ ':' :: (mark.write ++ after)) = some ⟨before, mark, after⟩ := by
  refine ⟨fun indent behind hindent hblank => ?_,
    fun indent colons behind hindent hcolons hblank => ?_, fun before after hfree hlast => ?_⟩
  · obtain ⟨c, more, hcons, hc⟩ := exists_cons_write h behind
    have hline := lineColons_append_cons hindent 2 (by decide) hc more
    rw [← hcons] at hline
    change lineColons (List.replicate indent ' ' ++ ':' :: ':' :: (mark.write ++ behind)) = _
      at hline
    rw [leafLine?_eq, hline, Option.bind_some]
    dsimp only
    rw [if_pos rfl, wholeTail_write h hblank]
  · obtain ⟨c, more, hcons, hc⟩ := exists_cons_write h behind
    have hline := lineColons_append_cons hindent colons (by omega) hc more
    rw [← hcons] at hline
    rw [containerOpening?_eq, hline, Option.bind_some]
    dsimp only
    rw [if_pos hcolons, wholeTail_write h hblank]
    rfl
  · obtain ⟨c, more, hcons, hc⟩ := exists_cons_write h after
    have hhead : (mark.write ++ after).head? ≠ some ':' := by
      rw [hcons]
      simpa using hc
    refine findMark_append (readTail_write h after) rfl hhead before none hfree ?_
    intro d hd
    rw [Option.or_none] at hd
    have hcolon : d ≠ ':' := by
      rintro rfl
      exact hfree (List.mem_of_getLast? hd)
    simp [blocksColon, hlast d hd, hcolon]

/-! ### Brackets in a label and braces in a value -/

/-- A directive whose label and values hold brackets, braces and characters beyond ASCII. -/
def bracketedMark : Mark where
  name := "badge-new_2"
  label := "a [b] \x7bc é".toList
  attributes := SortedMap.ofList [("é", "\x7b[\x7d"), ("class", "x  y")]

theorem isWritable_bracketedMark : bracketedMark.IsWritable where
  name := by decide
  label := by decide
  entries := by
    have hentries : bracketedMark.attributes.entries = [("class", "x  y"), ("é", "\x7b[\x7d")] := by
      decide
    rw [hentries]
    intro entry hentry
    rcases List.mem_cons.mp hentry with rfl | hentry
    · exact ⟨by decide, by decide, by decide, by decide⟩
    · rw [List.mem_singleton] at hentry
      subst hentry
      exact ⟨by decide, by decide, by decide, by decide⟩
  block := by decide

/-- The same directive written. -/
def bracketedText : List Char :=
  "badge-new_2[a [b] \x7bc é]\x7bclass=\"x  y\" é=\"\x7b[\x7d\"\x7d".toList

theorem write_bracketedMark : bracketedMark.write = bracketedText := by decide

theorem reads_write_bracketedMark :
    bracketedMark.IsWritable ∧
      leafLine? (List.replicate 2 ' ' ++ ':' :: ':' :: (bracketedText ++ [' ', '\t']))
        = some bracketedMark ∧
      containerOpening? (List.replicate 0 ' ' ++ (List.replicate 4 ':' ++ (bracketedText ++ [])))
        = some (4, bracketedMark) ∧
      findMark none ("é, ".toList ++ ':' :: (bracketedText ++ ":x[]".toList))
        = some ⟨"é, ".toList, bracketedMark, ":x[]".toList⟩ := by
  have h := isWritable_bracketedMark
  obtain ⟨hleaf, hcontainer, htext⟩ := reads_write bracketedMark h
  rw [write_bracketedMark] at hleaf hcontainer htext
  have hlast : ∀ c ∈ "é, ".toList.getLast?, isAlphanumeric c = false := by
    intro c hc
    obtain rfl : ' ' = c := Option.some.inj hc
    decide +kernel
  exact ⟨h, hleaf 2 [' ', '\t'] (by decide) (by decide),
    hcontainer 0 4 [] (by decide) (by decide) rfl,
    htext "é, ".toList ":x[]".toList (by decide) hlast⟩

end Source

end MarkdownDirectives
