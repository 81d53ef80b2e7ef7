import MarkdownDirectives.Proofs.Source.Written

/-!
# The items of an attribute block

An attribute block is read item by item, and an item is tried as one form after the other. A pair is
looked for by the next equals sign, which may belong to a later item; then white space stands in
front of it, so it is no pair. With that every item is read as it was written, whatever follows.

* `BlockItem.IsPlain` — the items that can be written, in five forms
* `IsBlock` — a block of such items, with white space between any two and around them
* `readItems_write` — one item in front of white space
* `readItems_row` — all items in their order
* `readAttributes_items` — what the block says for every key
-/

namespace MarkdownDirectives.Source

open Text

/-! ## Items as they are written -/

/-- An item of an attribute block. -/
inductive BlockItem where
  | id (value : List Char)
  | className (value : List Char)
  | quoted (quote : Char) (key value : List Char)
  | unquoted (key value : List Char)
  | word (key : List Char)

/-- What stands behind the mark of a shorthand. -/
structure IsShorthand (value : List Char) : Prop where
  nonempty : value ≠ []
  chars : ∀ c ∈ value, isBlank c = false ∧ c ≠ '.' ∧ c ≠ '#'

/-- A name that is no shorthand. -/
structure IsKey (key : List Char) : Prop where
  name : Html.isAttributeName key = true
  notId : key.head? ≠ some '#'
  notClass : key.head? ≠ some '.'

/-- A value that needs no quotes. It may be empty. -/
structure IsUnquoted (value : List Char) : Prop where
  chars : ∀ c ∈ value, isBlank c = false
  notDouble : value.head? ≠ some '"'
  notSingle : value.head? ≠ some '\''

theorem endsShorthand_eq_false_iff {c : Char} :
    endsShorthand c = false ↔ isBlank c = false ∧ c ≠ '.' ∧ c ≠ '#' := by
  simp [endsShorthand, and_assoc]

instance (value : List Char) : Decidable (IsShorthand value) :=
  decidable_of_iff (value ≠ [] ∧ value.all (!endsShorthand ·) = true) <| by
    simp only [List.all_eq_true, Bool.not_eq_true', endsShorthand_eq_false_iff]
    exact ⟨fun h => ⟨h.1, h.2⟩, fun h => ⟨h.nonempty, h.chars⟩⟩

instance (key : List Char) : Decidable (IsKey key) :=
  decidable_of_iff (Html.isAttributeName key = true ∧ key.head? ≠ some '#' ∧ key.head? ≠ some '.')
    ⟨fun h => ⟨h.1, h.2.1, h.2.2⟩, fun h => ⟨h.name, h.notId, h.notClass⟩⟩

instance (value : List Char) : Decidable (IsUnquoted value) :=
  decidable_of_iff
    (value.all (!isBlank ·) = true ∧ value.head? ≠ some '"' ∧ value.head? ≠ some '\'') <| by
    simp only [List.all_eq_true, Bool.not_eq_true']
    exact ⟨fun h => ⟨h.1, h.2.1, h.2.2⟩, fun h => ⟨h.chars, h.notDouble, h.notSingle⟩⟩

namespace BlockItem

/-- The text of an item. -/
def write : BlockItem → List Char
  | id value => '#' :: value
  | className value => '.' :: value
  | quoted quote key value => key ++ '=' :: quote :: (value ++ [quote])
  | unquoted key value => key ++ '=' :: value
  | word key => key

/-- The items that can be written. -/
inductive IsPlain : BlockItem → Prop
  | id {value : List Char} (h : IsShorthand value) : IsPlain (.id value)
  | className {value : List Char} (h : IsShorthand value) : IsPlain (.className value)
  | quoted {quote : Char} {key value : List Char} (hkey : IsKey key)
      (hquote : quote = '"' ∨ quote = '\'') (hvalue : quote ∉ value) :
      IsPlain (.quoted quote key value)
  | unquoted {key value : List Char} (hkey : IsKey key) (hvalue : IsUnquoted value) :
      IsPlain (.unquoted key value)
  | word {key : List Char} (hkey : IsKey key) : IsPlain (.word key)

/-- What an item is read as. -/
def toItem : BlockItem → Item
  | id value => .id value
  | className value => .className value
  | quoted _ key value | unquoted key value => .entry key value
  | word key => .entry key []

/-- The id that a shorthand gives. -/
def id? : BlockItem → Option String
  | id value => some (String.ofList value)
  | _ => none

/-- The class that a shorthand gives. -/
def class? : BlockItem → Option String
  | className value => some (String.ofList value)
  | _ => none

/-- A key and its value. That of a bare word is empty. -/
def pair? : BlockItem → Option (String × String)
  | quoted _ key value | unquoted key value => some (String.ofList key, String.ofList value)
  | word key => some (String.ofList key, "")
  | _ => none

/-- The value that an item gives a key. -/
def value? (key : String) (item : BlockItem) : Option String :=
  item.pair?.bind fun (name, value) => if key == name then some value else none

end BlockItem

/-- Items with white space between any two. -/
inductive Row : List BlockItem → List Char → Prop
  | single (item : BlockItem) : Row [item] item.write
  | cons (item : BlockItem) {gap : List Char} {items : List BlockItem} {text : List Char}
      (hne : gap ≠ []) (hgap : blank gap = true) (h : Row items text) :
      Row (item :: items) (item.write ++ (gap ++ text))

/-- The block of some items. White space may stand around them. -/
inductive IsBlock : List BlockItem → List Char → Prop
  | empty {gap : List Char} (hgap : blank gap = true) : IsBlock [] gap
  | row {items : List BlockItem} {lead text trail : List Char} (hlead : blank lead = true)
      (htrail : blank trail = true) (h : Row items text) : IsBlock items (lead ++ (text ++ trail))

/-- The last value that a key is given. -/
def lastValue (items : List BlockItem) (key : String) : Option String :=
  (items.filterMap (BlockItem.value? key)).getLast?

variable {item : BlockItem} {items : List BlockItem} {key value text rest : List Char}

/-! ## The ends of an item -/

/-- An item starts with something that is no white space. -/
theorem BlockItem.IsPlain.exists_cons (h : item.IsPlain) :
    ∃ c rest, item.write = c :: rest ∧ isBlank c = false := by
  have hstart {key : List Char} (hkey : IsKey key) (behind : List Char) :
      ∃ c rest, key ++ behind = c :: rest ∧ isBlank c = false := by
    obtain ⟨c, rest, rfl, hc⟩ := exists_cons_of_isAttributeName hkey.name
    exact ⟨c, rest ++ behind, rfl, hc⟩
  cases h with
  | id => exact ⟨'#', _, rfl, by decide⟩
  | className => exact ⟨'.', _, rfl, by decide⟩
  | quoted hkey => exact hstart hkey _
  | unquoted hkey => exact hstart hkey _
  | word hkey => exact exists_cons_of_isAttributeName hkey.name

/-- It ends in something that is no white space. -/
theorem BlockItem.IsPlain.isBlank_getLast? (h : item.IsPlain) :
    ∀ c ∈ item.write.getLast?, isBlank c = false := by
  have hshorthand {mark : Char} (hmark : isBlank mark = false) {value : List Char}
      (hvalue : IsShorthand value) : ∀ c ∈ (mark :: value).getLast?, isBlank c = false := by
    intro c hc
    rcases List.mem_cons.mp (List.mem_of_getLast? hc) with rfl | hmem
    · exact hmark
    · exact (hvalue.chars c hmem).1
  intro c hc
  cases h with
  | id hvalue => exact hshorthand (by decide) hvalue c hc
  | className hvalue => exact hshorthand (by decide) hvalue c hc
  | quoted hkey hquote hvalue =>
    rw [write, List.append_cons, List.append_cons, ← List.append_assoc, List.getLast?_concat] at hc
    cases hc
    rcases hquote with rfl | rfl <;> decide
  | unquoted hkey hvalue =>
    rw [write, List.getLast?_append_of_ne_nil _ (List.cons_ne_nil _ _)] at hc
    rcases List.mem_cons.mp (List.mem_of_getLast? hc) with rfl | hmem
    · decide
    · exact hvalue.chars c hmem
  | word hkey => exact isBlank_of_mem_key hkey.name (List.mem_of_getLast? hc)

/-! ## One item -/

/-- White space or the end ends an item. -/
def EndsItem (rest : List Char) : Prop :=
  ∀ c, rest.head? = some c → isBlank c = true

theorem readShorthand_append (h : IsShorthand value) (hrest : EndsItem rest)
    (item : List Char → Item) : readShorthand item (value ++ rest) = (some (item value), rest) := by
  have hcut : cut (!endsShorthand ·) (value ++ rest) = (value, rest) := by
    refine cut_eq_iff.mpr ⟨rfl, fun c hc => ?_, fun c hc => ?_⟩
    · simp [endsShorthand_eq_false_iff.mpr (h.chars c hc)]
    · simp [endsShorthand, hrest c hc]
  have hne : value.isEmpty = false := by simpa using h.nonempty
  rw [readShorthand, hcut]
  dsimp only
  rw [hne]
  rfl

theorem readEntry_unquoted (hkey : IsKey key) (hvalue : IsUnquoted value)
    (hrest : EndsItem rest) :
    readEntry (key ++ ('=' :: value ++ rest)) = some (.entry key value, rest) := by
  have hequals : '=' ∉ key := Html.not_mem_of_isAttributeName hkey.name (by decide)
  have hcut : cut (!isBlank ·) (value ++ rest) = (value, rest) := by
    refine cut_eq_iff.mpr ⟨rfl, fun c hc => ?_, fun c hc => ?_⟩
    · simp [hvalue.chars c hc]
    · simp [hrest c hc]
  -- a quote is no white space, so it does not start what follows an empty value
  have hquote (quote : Char) (hblank : isBlank quote = false) (hne : value.head? ≠ some quote)
      (tail : List Char) : value ++ rest ≠ quote :: tail := by
    intro heq
    have hhead := congrArg List.head? heq
    cases value with
    | nil =>
      have hend := hrest quote hhead
      rw [hblank] at hend
      cases hend
    | cons c more => exact hne hhead
  have hread : readValue (value ++ rest) = some (value, rest) := by
    rw [readValue]
    · rw [hcut]
    · exact hquote '"' (by decide) hvalue.notDouble
    · exact hquote '\'' (by decide) hvalue.notSingle
  rw [readEntry, List.cons_append, splitAtFirst_append _ _ hequals]
  dsimp only
  rw [if_pos hkey.name, hread]
  rfl

theorem splitAtFirst_eq_some {mark : Char} {cs before after : List Char}
    (h : splitAtFirst mark cs = some (before, after)) : cs = before ++ mark :: after := by
  induction cs generalizing before with
  | nil => cases h
  | cons c rest ih =>
    rw [splitAtFirst] at h
    split at h
    · next hc =>
      cases h
      rw [hc]
      rfl
    · obtain ⟨⟨front, behind⟩, hrest, heq⟩ := Option.map_eq_some_iff.mp h
      cases heq
      rw [ih hrest]
      rfl

/-- The next equals sign belongs to a later item, so it stands behind white space. -/
theorem readEntry_word (hkey : IsKey key) (hrest : EndsItem rest) :
    readEntry (key ++ rest) = none := by
  have hequals : '=' ∉ key := Html.not_mem_of_isAttributeName hkey.name (by decide)
  have hstart (after : List Char) : rest ≠ '=' :: after := by
    rintro rfl
    exact absurd (hrest '=' rfl) (by decide)
  rw [readEntry]
  split
  · rfl
  · next before after hsplit =>
    rw [if_neg]
    intro hname
    rcases List.append_eq_append_iff.mp (splitAtFirst_eq_some hsplit) with
      ⟨middle, rfl, hbehind⟩ | ⟨middle, rfl, hbehind⟩
    · cases middle with
      | nil => exact hstart after hbehind
      | cons c middle =>
        -- what is taken for the key goes on behind the white space
        have hblank := hrest c (by rw [hbehind]; rfl)
        rw [isBlank_of_mem_key hname (by simp)] at hblank
        cases hblank
    · cases middle with
      | nil => exact hstart after hbehind.symm
      | cons c middle =>
        obtain ⟨rfl, -⟩ := List.cons.inj hbehind
        exact hequals (by simp)

theorem readWord_append (hkey : IsKey key) (hrest : EndsItem rest) :
    readWord (key ++ rest) = (some (.entry key []), rest) := by
  have hcut : cut (!isBlank ·) (key ++ rest) = (key, rest) := by
    refine cut_eq_iff.mpr ⟨rfl, fun c hc => ?_, fun c hc => ?_⟩
    · simp [isBlank_of_mem_key hkey.name hc]
    · simp [hrest c hc]
  rw [readWord, hcut]
  dsimp only
  rw [if_pos hkey.name]

/-- **An item is read as it was written, whatever follows behind white space.** -/
theorem readItems_write (h : item.IsPlain) (hrest : EndsItem rest) :
    readItems (item.write ++ rest) = item.toItem :: readItems rest := by
  cases h with
  | id hvalue =>
    rw [BlockItem.write, List.cons_append, readItems_cons (by decide), readItem, if_pos rfl,
      readShorthand_append hvalue hrest]
    rfl
  | className hvalue =>
    rw [BlockItem.write, List.cons_append, readItems_cons (by decide), readItem,
      if_neg (by decide), if_pos rfl, readShorthand_append hvalue hrest]
    rfl
  | @quoted quote key value hkey hquote hvalue =>
    have hread := readItems_quoted hkey.name hkey.notId hkey.notClass hquote hvalue rest
    have hwrite : (BlockItem.quoted quote key value).write ++ rest
        = key ++ '=' :: quote :: (value ++ quote :: rest) := by simp [BlockItem.write]
    rw [hwrite, hread]
    rfl
  | unquoted hkey hvalue =>
    rw [BlockItem.write, List.append_assoc]
    exact readItems_key hkey.name hkey.notId hkey.notClass
      (.inl (readEntry_unquoted hkey hvalue hrest))
  | word hkey =>
    exact readItems_key hkey.name hkey.notId hkey.notClass
      (.inr ⟨readEntry_word hkey hrest, readWord_append hkey hrest⟩)

/-! ## All items -/

theorem endsItem_nil : EndsItem [] :=
  nofun

theorem endsItem_blank {gap : List Char} (hne : gap ≠ []) (hgap : blank gap = true) :
    EndsItem (gap ++ rest) := by
  obtain ⟨c, more, rfl⟩ := List.exists_cons_of_ne_nil hne
  rintro d ⟨⟩
  exact List.all_eq_true.mp hgap c List.mem_cons_self

/-- **Items are read in their order.** -/
theorem readItems_row (h : Row items text) (hplain : ∀ item ∈ items, item.IsPlain) :
    readItems text = items.map BlockItem.toItem := by
  induction h with
  | single item =>
    have hread := readItems_write (List.forall_mem_singleton.mp hplain) endsItem_nil
    rwa [List.append_nil, readItems_nil] at hread
  | cons item hne hgap h ih =>
    obtain ⟨hitem, hitems⟩ := List.forall_mem_cons.mp hplain
    rw [readItems_write hitem (endsItem_blank hne hgap), readItems_blank hgap, ih hitems,
      List.map_cons]

/-- White space around the items is all that is trimmed. -/
theorem isBlank_ends_row (h : Row items text) (hplain : ∀ item ∈ items, item.IsPlain) :
    (∃ c rest, text = c :: rest ∧ isBlank c = false) ∧
      ∀ c ∈ text.getLast?, isBlank c = false := by
  induction h with
  | single item =>
    have hitem := List.forall_mem_singleton.mp hplain
    exact ⟨hitem.exists_cons, hitem.isBlank_getLast?⟩
  | @cons item gap items text hne hgap h ih =>
    obtain ⟨hitem, hitems⟩ := List.forall_mem_cons.mp hplain
    obtain ⟨⟨d, more, rfl, -⟩, hlast⟩ := ih hitems
    obtain ⟨c, rest, hwrite, hc⟩ := hitem.exists_cons
    refine ⟨⟨c, rest ++ (gap ++ d :: more), by rw [hwrite]; rfl, hc⟩, ?_⟩
    rwa [← List.append_assoc, List.getLast?_append_of_ne_nil _ (List.cons_ne_nil d more)]

theorem readItems_isBlock {block : List Char} (h : IsBlock items block)
    (hplain : ∀ item ∈ items, item.IsPlain) :
    readItems (trim block) = items.map BlockItem.toItem := by
  cases h with
  | empty hgap =>
    have htrim : trim (block ++ ([] ++ [])) = [] := trim_around hgap rfl nofun nofun
    rw [List.append_nil, List.append_nil] at htrim
    rw [htrim, readItems_nil, List.map_nil]
  | @row items lead text trail hlead htrail h =>
    obtain ⟨⟨c, rest, htext, hc⟩, hlast⟩ := isBlank_ends_row h hplain
    have hhead : ∀ d ∈ text.head?, isBlank d = false := by
      rw [htext]
      rintro d ⟨⟩
      exact hc
    rw [trim_around hlead htrail hhead hlast, readItems_row h hplain]

/-! ## The map of the items -/

theorem lastId_map (items : List BlockItem) :
    lastId (items.map BlockItem.toItem) = (items.filterMap BlockItem.id?).getLast? := by
  rw [lastId, List.filterMap_map]
  congr 2
  funext item
  cases item <;> rfl

theorem classNames_map (items : List BlockItem) :
    classNames (items.map BlockItem.toItem) = items.filterMap BlockItem.class? := by
  rw [classNames, List.filterMap_map]
  congr 1
  funext item
  cases item <;> rfl

theorem entries_map (items : List BlockItem) :
    entries (items.map BlockItem.toItem) = items.filterMap BlockItem.pair? := by
  rw [entries, List.filterMap_map]
  congr 1
  funext item
  cases item <;> rfl

/-- Of several pairs of one key the last one counts. -/
theorem get?_pairs (items : List BlockItem) (key : String) :
    (SortedMap.ofList (items.filterMap BlockItem.pair?)).get? key = lastValue items key := by
  rw [SortedMap.get?_ofList, List.lookup_eq_findSome?, ← List.getLast?_filterMap,
    List.filterMap_filterMap]
  rfl

/-- What a block says for a key. -/
structure Says (items : List BlockItem) (attributes : Attributes) : Prop where
  other : ∀ key, key ≠ "id" → key ≠ "class" → attributes.get? key = lastValue items key
  id : attributes.get? "id" = (items.filterMap BlockItem.id?).getLast?.or (lastValue items "id")
  explicitClass : items.filterMap BlockItem.class? = [] →
    attributes.get? "class" = lastValue items "class"
  classes : items.filterMap BlockItem.class? ≠ [] →
    attributes.get? "class" = some (" ".intercalate
      (wordList ((lastValue items "class").getD "") ++ items.filterMap BlockItem.class?))

/-- Items that give the same ids, the same classes and the same pairs, each in their order. -/
structure SameOrders (items others : List BlockItem) : Prop where
  ids : others.filterMap BlockItem.id? = items.filterMap BlockItem.id?
  classes : others.filterMap BlockItem.class? = items.filterMap BlockItem.class?
  pairs : others.filterMap BlockItem.pair? = items.filterMap BlockItem.pair?

/-- The pairs with the last id over them. -/
def withId (items : List BlockItem) : Attributes :=
  match (items.filterMap BlockItem.id?).getLast? with
  | some id => (SortedMap.ofList (items.filterMap BlockItem.pair?)).insert "id" id
  | none => SortedMap.ofList (items.filterMap BlockItem.pair?)

theorem get?_withId_id (items : List BlockItem) :
    (withId items).get? "id"
      = (items.filterMap BlockItem.id?).getLast?.or (lastValue items "id") := by
  rw [withId]
  cases (items.filterMap BlockItem.id?).getLast? with
  | none => exact get?_pairs items "id"
  | some id =>
    dsimp only
    rw [SortedMap.get?_insert, if_pos rfl, Option.some_or]

theorem get?_withId (items : List BlockItem) {key : String} (hkey : key ≠ "id") :
    (withId items).get? key = lastValue items key := by
  rw [withId]
  cases (items.filterMap BlockItem.id?).getLast? with
  | none => exact get?_pairs items key
  | some id =>
    dsimp only
    rw [SortedMap.get?_insert, if_neg hkey, get?_pairs]

theorem foldItems_map (items : List BlockItem) :
    foldItems (items.map BlockItem.toItem)
      = if items.filterMap BlockItem.class? = [] then withId items
        else (withId items).insert "class" (" ".intercalate
          (wordList ((lastValue items "class").getD "") ++ items.filterMap BlockItem.class?)) := by
  have hclass : (withId items).get? "class" = lastValue items "class" :=
    get?_withId items (by decide)
  rw [foldItems, entries_map, lastId_map, classNames_map, ← hclass]
  cases items.filterMap BlockItem.class? with
  | nil => exact (if_pos rfl).symm
  | cons name more => exact (if_neg (List.cons_ne_nil name more)).symm

theorem says_foldItems (items : List BlockItem) :
    Says items (foldItems (items.map BlockItem.toItem)) := by
  have hother (key : String) (hkey : key ≠ "class") :
      (foldItems (items.map BlockItem.toItem)).get? key = (withId items).get? key := by
    rw [foldItems_map]
    split
    · rfl
    · rw [SortedMap.get?_insert, if_neg hkey]
  refine ⟨fun key hid hclass => ?_, ?_, fun hnone => ?_, fun hsome => ?_⟩
  · rw [hother key hclass, get?_withId items hid]
  · rw [hother "id" (by decide), get?_withId_id]
  · rw [foldItems_map, if_pos hnone, get?_withId items (by decide)]
  · rw [foldItems_map, if_neg hsome, SortedMap.get?_insert, if_pos rfl]

/-- Items are folded by what they say, each kind in its order. -/
theorem foldItems_congr {others : List BlockItem} (h : SameOrders items others) :
    foldItems (others.map BlockItem.toItem) = foldItems (items.map BlockItem.toItem) := by
  have hid : withId others = withId items := by
    rw [withId, h.ids, h.pairs]
    rfl
  have hclass : lastValue others "class" = lastValue items "class" := by
    rw [← get?_pairs, h.pairs, get?_pairs]
  rw [foldItems_map, foldItems_map, h.classes, hid, hclass]

/--
**A block says for every key what its items say.**

The last pair of a key counts, where a bare word is a pair with an empty value. A `#` shorthand
stands over the pairs, and the `.` shorthands come behind the words of the last `class`. So it does
not matter where the shorthands stand among the other items.
-/
theorem readAttributes_items (items : List BlockItem) (block : List Char)
    (hplain : ∀ item ∈ items, item.IsPlain) (hblock : IsBlock items block) :
    Says items (readAttributes block) ∧
      ∀ others block', (∀ item ∈ others, item.IsPlain) → IsBlock others block' →
        SameOrders items others → readAttributes block' = readAttributes block := by
  have hread {items : List BlockItem} {block : List Char} (hplain : ∀ item ∈ items, item.IsPlain)
      (hblock : IsBlock items block) :
      readAttributes block = foldItems (items.map BlockItem.toItem) := by
    rw [readAttributes, readItems_isBlock hblock hplain]
  refine ⟨?_, fun others block' hplain' hblock' hsame => ?_⟩
  · rw [hread hplain hblock]
    exact says_foldItems items
  · rw [hread hplain' hblock', hread hplain hblock, foldItems_congr hsame]

/-! ### Shorthands between the other items -/

/-- Items of all forms, with the shorthands scattered among them. -/
def scatteredItems : List BlockItem := [
  .word "wide".toList, .className "x".toList, .unquoted "k".toList "#v=1".toList,
  .id "a".toList, .quoted '"' "class".toList "p q=".toList, .className "y".toList]

/-- Their block. -/
def scatteredBlock : List Char :=
  " wide .x k=#v=1\t#a class=\"p q=\"  .y".toList

/-- The same items with the shorthands in front. -/
def gatheredItems : List BlockItem := [
  .className "x".toList, .className "y".toList, .id "a".toList, .word "wide".toList,
  .unquoted "k".toList "#v=1".toList, .quoted '"' "class".toList "p q=".toList]

/-- Their block. -/
def gatheredBlock : List Char :=
  ".x .y #a wide k=#v=1 class=\"p q=\"".toList

theorem isPlain_scatteredItems : ∀ item ∈ scatteredItems, item.IsPlain := by
  intro item hitem
  simp only [scatteredItems, List.mem_cons, List.not_mem_nil, or_false] at hitem
  rcases hitem with rfl | rfl | rfl | rfl | rfl | rfl
  · exact .word (by decide)
  · exact .className (by decide)
  · exact .unquoted (by decide) (by decide)
  · exact .id (by decide)
  · exact .quoted (by decide) (.inl rfl) (by decide)
  · exact .className (by decide)

theorem isBlock_scatteredBlock : IsBlock scatteredItems scatteredBlock := by
  have hgap (c : Char) : [c] ≠ [] := List.cons_ne_nil c []
  have hrow : Row scatteredItems "wide .x k=#v=1\t#a class=\"p q=\"  .y".toList :=
    .cons _ (hgap ' ') (by decide) (.cons _ (hgap ' ') (by decide)
      (.cons _ (hgap '\t') (by decide) (.cons _ (hgap ' ') (by decide)
        (.cons _ (List.cons_ne_nil ' ' [' ']) (by decide) (.single _)))))
  have hlead : blank [' '] = true := by decide
  have htrail : blank [] = true := rfl
  exact .row hlead htrail hrow

theorem isBlock_gatheredBlock : IsBlock gatheredItems gatheredBlock := by
  have hgap : [' '] ≠ [] := List.cons_ne_nil ' ' []
  have hrow : Row gatheredItems gatheredBlock :=
    .cons _ hgap (by decide) (.cons _ hgap (by decide) (.cons _ hgap (by decide)
      (.cons _ hgap (by decide) (.cons _ hgap (by decide) (.single _)))))
  have hnone : blank [] = true := rfl
  have h := IsBlock.row hnone hnone hrow
  rwa [List.nil_append, List.append_nil] at h

/-- Both blocks say the same: the shorthands come behind the words of the class. -/
theorem readAttributes_scatteredBlock :
    (∀ item ∈ scatteredItems, item.IsPlain) ∧ IsBlock scatteredItems scatteredBlock ∧
      (readAttributes scatteredBlock).get? "wide" = some "" ∧
      (readAttributes scatteredBlock).get? "k" = some "#v=1" ∧
      (readAttributes scatteredBlock).get? "id" = some "a" ∧
      (readAttributes scatteredBlock).get? "class" = some "p q= x y" ∧
      readAttributes gatheredBlock = readAttributes scatteredBlock := by
  obtain ⟨hmap, hsame⟩ := readAttributes_items scatteredItems scatteredBlock
    isPlain_scatteredItems isBlock_scatteredBlock
  refine ⟨isPlain_scatteredItems, isBlock_scatteredBlock, ?_, ?_, ?_, ?_, ?_⟩
  · exact hmap.other "wide" (by decide) (by decide)
  · exact hmap.other "k" (by decide) (by decide)
  · exact hmap.id
  · exact hmap.classes (by decide)
  · refine hsame gatheredItems gatheredBlock (fun item hitem => ?_) isBlock_gatheredBlock
      ⟨rfl, rfl, rfl⟩
    refine isPlain_scatteredItems item ?_
    simp only [gatheredItems, scatteredItems, List.mem_cons, List.not_mem_nil, or_false] at hitem ⊢
    tauto

end MarkdownDirectives.Source
