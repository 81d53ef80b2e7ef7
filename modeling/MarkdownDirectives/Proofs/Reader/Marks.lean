import MarkdownDirectives.Proofs.Source.Kept

/-!
# What a source can say of a directive

However a directive is written, its name is a name and its attributes can be written as attributes.
This holds of everything `readTail` reads, and every directive of a source is read by it.

* `isAttributeName_readAttributes` — the keys of an attribute block
* `isSound_readTail` — what stands behind colons
* `isSound_pieces` — the text directives of a text
* `isSound_splitBlocks` — the containers and leaves of a source
-/

namespace MarkdownDirectives

namespace Source

open Text

/-! ## Attribute blocks -/

/-- The key of an item can be written as the name of an attribute. -/
def Item.IsSound : Item → Prop
  | .entry key _ => Html.isAttributeName key = true
  | .id _ | .className _ => True

theorem Item.isSound_readEntry {cs rest : List Char} {item : Item}
    (h : readEntry cs = some (item, rest)) : item.IsSound := by
  unfold readEntry at h
  split at h
  · cases h
  · split at h
    · next hkey =>
      obtain ⟨_, -, hitem⟩ := Option.map_eq_some_iff.mp h
      cases hitem
      exact hkey
    · cases h

theorem Item.isSound_readShorthand (make : List Char → Item) (hmake : ∀ value, (make value).IsSound)
    {cs : List Char} {item : Item} (h : (readShorthand make cs).1 = some item) : item.IsSound := by
  unfold readShorthand at h
  dsimp only at h
  split at h
  · cases h
  · cases h
    exact hmake _

theorem Item.isSound_readWord {cs : List Char} {item : Item}
    (h : (readWord cs).1 = some item) : item.IsSound := by
  unfold readWord at h
  dsimp only at h
  split at h
  · next hkey =>
    cases h
    exact hkey
  · cases h

theorem Item.isSound_readItem {c : Char} {rest : List Char} {item : Item}
    (h : (readItem c rest).1 = some item) : item.IsSound := by
  unfold readItem at h
  split at h
  · exact isSound_readShorthand .id (fun _ => trivial) h
  · split at h
    · exact isSound_readShorthand .className (fun _ => trivial) h
    · split at h
      · next hentry =>
        cases h
        exact isSound_readEntry hentry
      · exact isSound_readWord h

/-- Every item of a block is read from the front of some part of it. -/
theorem exists_readItem_of_mem (cs : List Char) :
    ∀ item ∈ readItems cs, ∃ c rest, (readItem c rest).1 = some item := by
  induction cs using readItems.induct with
  | case1 cs hcs =>
    rw [readItems]
    split
    · exact List.forall_mem_nil _
    · next heq => rw [hcs] at heq; cases heq
  | case2 cs c rest hcs found ih =>
    rw [readItems]
    split
    · exact List.forall_mem_nil _
    · next heq =>
      rw [hcs] at heq
      cases heq
      intro item hitem
      rcases List.mem_append.mp hitem with hfirst | hrest
      · exact ⟨c, rest, Option.mem_toList.mp hfirst⟩
      · exact ih item hrest

theorem Item.isSound_readItems (cs : List Char) : ∀ item ∈ readItems cs, item.IsSound := by
  intro item hitem
  obtain ⟨c, rest, h⟩ := exists_readItem_of_mem cs item hitem
  exact isSound_readItem h

/-- Shorthands aside, a key of the map is the key of an item. -/
theorem mem_keys_foldItems {items : List Item} {key : String}
    (h : key ∈ (foldItems items).keys) :
    key = "id" ∨ key = "class" ∨ key ∈ (entries items).map Prod.fst := by
  have hentry (hkey : key ∈ (SortedMap.ofList (entries items)).keys) :
      key = "id" ∨ key = "class" ∨ key ∈ (entries items).map Prod.fst :=
    Or.inr (Or.inr (SortedMap.mem_keys_ofList hkey))
  have hid {id : String} (hkey : key ∈ ((SortedMap.ofList (entries items)).insert "id" id).keys) :
      key = "id" ∨ key = "class" ∨ key ∈ (entries items).map Prod.fst :=
    (SortedMap.mem_keys_insert hkey).elim Or.inl hentry
  unfold foldItems at h
  dsimp only at h
  split at h
  · split at h
    · exact hid h
    · exact hentry h
  · rcases SortedMap.mem_keys_insert h with hclass | hkey
    · exact Or.inr (Or.inl hclass)
    · split at hkey
      · exact hid hkey
      · exact hentry hkey

/-- **Every key of an attribute block can be written as the name of an attribute.** -/
theorem isAttributeName_readAttributes (block : List Char) :
    ∀ key ∈ (readAttributes block).keys, Html.isAttributeName key.toList = true := by
  intro key hkey
  rcases mem_keys_foldItems hkey with rfl | rfl | hentry
  · decide
  · decide
  · obtain ⟨entry, hmem, rfl⟩ := List.mem_map.mp hentry
    obtain ⟨item, hitem, heq⟩ := List.mem_filterMap.mp hmem
    have hsound := Item.isSound_readItems _ item hitem
    cases item with
    | id | className => cases heq
    | entry key value =>
      cases heq
      rw [String.toList_ofList]
      exact hsound

/-! ## Marks -/

/-- The name is a name, and the attributes can be written. -/
structure Mark.IsSound (mark : Mark) : Prop where
  name : isName mark.name.toList = true
  keys : ∀ key ∈ mark.attributes.keys, Html.isAttributeName key.toList = true

/-- **What stands behind the colons of a directive is sound.** -/
theorem isSound_readTail {cs : List Char} {tail : Tail} (h : readTail cs = some tail) :
    tail.mark.IsSound := by
  unfold readTail at h
  dsimp only at h
  split at h
  · next hname =>
    split at h
    · cases h
    · split at h
      · cases h
      · next block _ _ =>
        cases h
        refine ⟨?_, ?_⟩
        · rw [String.toList_ofList]
          exact hname
        · cases block with
          | none => exact List.forall_mem_nil _
          | some block => exact isAttributeName_readAttributes block
  · cases h

theorem isSound_wholeTail {cs : List Char} {mark : Mark} (h : wholeTail cs = some mark) :
    mark.IsSound := by
  unfold wholeTail at h
  split at h
  · next htail =>
    split at h
    · cases h
      exact isSound_readTail htail
    · cases h
  · cases h

theorem isSound_containerOpening? {line : List Char} {colons : Nat} {mark : Mark}
    (h : containerOpening? line = some (colons, mark)) : mark.IsSound := by
  unfold containerOpening? at h
  split at h
  · cases h
  · dsimp only at h
    split at h
    · obtain ⟨_, hmark, heq⟩ := Option.map_eq_some_iff.mp h
      cases heq
      exact isSound_wholeTail hmark
    · cases h

theorem isSound_leafLine? {line : List Char} {mark : Mark} (h : leafLine? line = some mark) :
    mark.IsSound := by
  unfold leafLine? at h
  split at h
  · cases h
  · dsimp only at h
    split at h
    · exact isSound_wholeTail h
    · cases h

theorem isSound_findMark {previous : Option Char} {cs : List Char} {found : Found}
    (h : findMark previous cs = some found) : found.mark.IsSound := by
  induction cs generalizing previous found with
  | nil => cases h
  | cons c rest ih =>
    rw [findMark] at h
    split at h
    · next htail =>
      cases h
      unfold readTextMark at htail
      split at htail
      · split at htail
        · next hread =>
          split at htail
          · cases htail
            exact isSound_readTail hread
          · cases htail
        · cases htail
      · cases htail
    · obtain ⟨inner, hinner, rfl⟩ := Option.map_eq_some_iff.mp h
      have hmark : inner.mark.IsSound := ih hinner
      exact hmark

/-- **The text directives of a text are sound.** -/
theorem isSound_pieces (cs : List Char) :
    ∀ mark, Piece.directive mark ∈ pieces cs → mark.IsSound := by
  have hplain : ∀ (value : List Char) (mark : Mark), Piece.directive mark ∉ Piece.ofText value := by
    intro value mark hmem
    unfold Piece.ofText at hmem
    split at hmem
    · cases hmem
    · cases List.mem_singleton.mp hmem
  induction cs using pieces.induct with
  | case1 cs hnone =>
    intro mark hmem
    rw [pieces] at hmem
    split at hmem
    · exact absurd hmem (hplain _ _)
    · next heq => rw [hnone] at heq; cases heq
  | case2 cs found hfound ih =>
    intro mark hmem
    rw [pieces] at hmem
    split at hmem
    · next heq => rw [hfound] at heq; cases heq
    · next heq =>
      rw [hfound] at heq
      cases heq
      rcases List.mem_append.mp hmem with hbefore | hrest
      · exact absurd hbefore (hplain _ _)
      · rcases List.mem_cons.mp hrest with hhead | hafter
        · cases hhead
          exact isSound_findMark hfound
        · exact ih mark hafter

/-! ## Blocks -/

/-- The directive of a part. -/
def Part.mark? : Part → Option Mark
  | .opening mark | .leaf mark => some mark
  | .markdown _ | .closing => none

/-- The directives of containers and leaves, in document order over all levels. -/
def Block.marks (blocks : List Block) : List Mark :=
  (Block.partsList blocks).filterMap Part.mark?

/-- **The containers and leaves of a source are sound.** -/
theorem isSound_splitBlocks (source : List Char) :
    ∀ mark ∈ Block.marks (splitBlocks source), mark.IsSound := by
  intro mark hmark
  rw [Block.marks, filterMap_splitBlocks (fun _ => rfl) rfl] at hmark
  obtain ⟨⟨line, kind⟩, hentry, hkind⟩ := List.mem_filterMap.mp hmark
  obtain ⟨fence, innermost, hreads⟩ := Standing.exists_reads hentry
  cases kind with
  | opening colons opened =>
    cases hkind
    exact isSound_containerOpening? hreads.2
  | leaf leaf =>
    cases hkind
    exact isSound_leafLine? hreads.2
  | closing | kept => cases hkind

end Source

end MarkdownDirectives
