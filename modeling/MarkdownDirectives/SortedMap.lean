/-!
# Maps sorted by key

A finite map from strings, kept as the list of its entries with strictly increasing keys. The
order is that of the code points of the keys, which is also the order of their UTF-8 bytes, and it
is the order in which a map is written. Because the order is part of the type, two maps with the
same entries are equal.

Main statements: `get?_insert`, `ofList_entries`, `nodup_keys`, `get?_eq_some_iff`, `eq_of_get?`,
`get?_ofList`, `get?_overlay`.
-/

namespace MarkdownDirectives

/-- A finite map from strings, listed in the order of its keys. -/
structure SortedMap (α : Type) where
  /-- The entries, in the order of their keys. -/
  entries : List (String × α)
  /-- The keys increase strictly. -/
  sorted : entries.Pairwise (fun a b => a.1 < b.1)
deriving DecidableEq

namespace SortedMap

variable {α β : Type}

/-- The map without entries. -/
def empty : SortedMap α :=
  ⟨[], List.Pairwise.nil⟩

instance : EmptyCollection (SortedMap α) := ⟨empty⟩

instance : Inhabited (SortedMap α) := ⟨empty⟩

/-- The value of a key. -/
def get? (m : SortedMap α) (key : String) : Option α :=
  m.entries.lookup key

/-- Whether a key has a value. -/
def contains (m : SortedMap α) (key : String) : Bool :=
  (m.get? key).isSome

/-- The keys in order. -/
def keys (m : SortedMap α) : List String :=
  m.entries.map Prod.fst

/-- Whether there is no entry. -/
def isEmpty (m : SortedMap α) : Bool :=
  m.entries.isEmpty

/-! ## Insertion -/

/-- Puts an entry at its place, over an entry of the same key. -/
def insertEntry (key : String) (value : α) : List (String × α) → List (String × α)
  | [] => [(key, value)]
  | (k, v) :: rest =>
    if key < k then (key, value) :: (k, v) :: rest
    else if key = k then (key, value) :: rest
    else (k, v) :: insertEntry key value rest

theorem mem_insertEntry {key : String} {value : α} {l : List (String × α)}
    {e : String × α} (h : e ∈ insertEntry key value l) : e = (key, value) ∨ e ∈ l := by
  induction l with
  | nil => exact Or.inl (List.mem_singleton.mp h)
  | cons head rest ih =>
    obtain ⟨k, v⟩ := head
    rw [insertEntry] at h
    split at h
    · exact List.mem_cons.mp h
    · split at h
      · exact (List.mem_cons.mp h).imp_right (List.mem_cons_of_mem _)
      · rcases List.mem_cons.mp h with rfl | h
        · exact Or.inr List.mem_cons_self
        · exact (ih h).imp_right (List.mem_cons_of_mem _)

theorem pairwise_insertEntry (key : String) (value : α) {l : List (String × α)}
    (h : l.Pairwise (fun a b => a.1 < b.1)) :
    (insertEntry key value l).Pairwise (fun a b => a.1 < b.1) := by
  induction l with
  | nil => simp [insertEntry]
  | cons head rest ih =>
    obtain ⟨k, v⟩ := head
    rw [List.pairwise_cons] at h
    rw [insertEntry]
    split
    · next hlt =>
      refine List.pairwise_cons.mpr ⟨fun e he => ?_, List.pairwise_cons.mpr h⟩
      rcases List.mem_cons.mp he with rfl | he
      · exact hlt
      · exact String.lt_trans hlt (h.1 e he)
    · next hnlt =>
      split
      · next heq => subst heq; exact List.pairwise_cons.mpr h
      · next hne =>
        refine List.pairwise_cons.mpr ⟨fun e he => ?_, ih h.2⟩
        rcases mem_insertEntry he with rfl | he
        · rcases Std.lt_trichotomy k key with hk | hk | hk
          · exact hk
          · exact absurd hk.symm hne
          · exact absurd hk hnlt
        · exact h.1 e he

/-- Sets the value of a key. -/
def insert (m : SortedMap α) (key : String) (value : α) : SortedMap α :=
  ⟨insertEntry key value m.entries, pairwise_insertEntry key value m.sorted⟩

/-- The map of a list of entries; of two entries of one key the later one counts. -/
def ofList (entries : List (String × α)) : SortedMap α :=
  entries.foldl (fun m e => m.insert e.1 e.2) empty

/-- Sets the value of a key that has none yet. -/
def insertIfNew (m : SortedMap α) (key : String) (value : α) : SortedMap α :=
  if m.contains key then m else m.insert key value

/-- The entries of the second map over those of the first. -/
def overlay (m n : SortedMap α) : SortedMap α :=
  n.entries.foldl (fun m e => m.insert e.1 e.2) m

/-- The entries whose key satisfies `p`. -/
def filterKeys (p : String → Bool) (m : SortedMap α) : SortedMap α :=
  ⟨m.entries.filter (fun e => p e.1), m.sorted.filter _⟩

/-- The map without a key. -/
def erase (m : SortedMap α) (key : String) : SortedMap α :=
  m.filterKeys (· != key)

/-- Applies a function to every value. -/
def mapValues (f : α → β) (m : SortedMap α) : SortedMap β :=
  ⟨m.entries.map (fun e => (e.1, f e.2)), List.pairwise_map.mpr m.sorted⟩

/-! ## Looking up -/

theorem lookup_insertEntry (key key' : String) (value : α) (l : List (String × α)) :
    (insertEntry key value l).lookup key' = if key' = key then some value else l.lookup key' := by
  induction l with
  | nil =>
    by_cases hk : key' = key
    · simp [insertEntry, hk]
    · simp only [insertEntry, List.lookup_cons, List.lookup_nil, beq_false_of_ne hk, if_neg hk]
  | cons head rest ih =>
    obtain ⟨k, v⟩ := head
    rw [insertEntry]
    split
    · by_cases hk : key' = key
      · subst hk; simp
      · rw [List.lookup_cons, beq_false_of_ne hk, if_neg hk]
    · split
      · next heq =>
        subst heq
        by_cases hk : key' = key
        · subst hk; simp
        · rw [List.lookup_cons, List.lookup_cons, beq_false_of_ne hk, if_neg hk]
      · next hne =>
        rw [List.lookup_cons, List.lookup_cons, ih]
        by_cases hk : key' = key
        · subst hk; simp [beq_false_of_ne hne]
        · simp only [if_neg hk]

/-- **Setting a value changes that key and no other.** -/
theorem get?_insert (m : SortedMap α) (key key' : String) (value : α) :
    (m.insert key value).get? key' = if key' = key then some value else m.get? key' :=
  lookup_insertEntry key key' value m.entries

theorem get?_empty (key : String) : (empty : SortedMap α).get? key = none := rfl

/-- A value that is there already stays. -/
theorem get?_insertIfNew (m : SortedMap α) (key key' : String) (value : α) :
    (m.insertIfNew key value).get? key'
      = (m.get? key').or (if key' = key then some value else none) := by
  rw [insertIfNew, contains]
  cases hkey : m.get? key with
  | none =>
    rw [Option.isSome_none, if_neg Bool.false_ne_true, get?_insert]
    by_cases heq : key' = key
    · rw [heq, hkey, if_pos rfl, Option.none_or]
    · rw [if_neg heq, if_neg heq, Option.or_none]
  | some old =>
    rw [Option.isSome_some, if_pos rfl]
    by_cases heq : key' = key
    · rw [heq, hkey, Option.some_or]
    · rw [if_neg heq, Option.or_none]

theorem lookup_map_snd (f : α → β) (entries : List (String × α)) (key : String) :
    (entries.map fun e => (e.1, f e.2)).lookup key = (entries.lookup key).map f := by
  induction entries with
  | nil => rfl
  | cons entry rest ih =>
    rw [List.map_cons, List.lookup_cons, List.lookup_cons, ih]
    split <;> rfl

theorem get?_mapValues (f : α → β) (m : SortedMap α) (key : String) :
    (m.mapValues f).get? key = (m.get? key).map f :=
  lookup_map_snd f m.entries key

theorem lookup_filter (p : String → Bool) (entries : List (String × α)) (key : String) :
    (entries.filter fun e => p e.1).lookup key = if p key then entries.lookup key else none := by
  induction entries with
  | nil => simp
  | cons entry rest ih =>
    obtain ⟨k, v⟩ := entry
    by_cases hk : key = k
    · subst hk
      cases hp : p key <;> simp [hp, ih]
    · have hne := beq_false_of_ne hk
      cases hp : p k <;> simp [hp, List.lookup_cons, hne, ih]

/-- Leaving keys out leaves the values of the others. -/
theorem get?_filterKeys (p : String → Bool) (m : SortedMap α) (key : String) :
    (m.filterKeys p).get? key = if p key then m.get? key else none :=
  lookup_filter p m.entries key

/-! ## Entries -/

section Entries

variable {key : String} {value : α}

theorem eq_of_entries {m n : SortedMap α} (h : m.entries = n.entries) : m = n := by
  cases m
  cases n
  cases h
  rfl

/-- A key beyond all others goes to the end. -/
theorem insertEntry_of_forall_lt {l : List (String × α)} (h : ∀ e ∈ l, e.1 < key) :
    insertEntry key value l = l ++ [(key, value)] := by
  induction l with
  | nil => rfl
  | cons head rest ih =>
    obtain ⟨k, v⟩ := head
    have hk : k < key := h (k, v) List.mem_cons_self
    have hne : key ≠ k := by
      rintro rfl
      exact String.lt_irrefl _ hk
    rw [insertEntry, if_neg (String.lt_asymm hk), if_neg hne,
      ih fun e he => h e (List.mem_cons_of_mem _ he)]
    rfl

/-- An entry that is there already stays where it is. -/
theorem insertEntry_of_lookup {l : List (String × α)} (hs : l.Pairwise (fun a b => a.1 < b.1))
    (h : l.lookup key = some value) : insertEntry key value l = l := by
  induction l with
  | nil => cases h
  | cons head rest ih =>
    obtain ⟨k, v⟩ := head
    obtain ⟨hk, hrest⟩ := List.pairwise_cons.mp hs
    rw [insertEntry]
    by_cases heq : key = k
    · subst heq
      rw [List.lookup_cons_self, Option.some.injEq] at h
      rw [if_neg (String.lt_irrefl _), if_pos rfl, h]
    · rw [List.lookup_cons, beq_false_of_ne heq] at h
      obtain ⟨before, after, hsplit, -⟩ := List.lookup_eq_some_iff.mp h
      have hlt : k < key := hk (key, value) (by rw [hsplit]; simp)
      rw [if_neg (String.lt_asymm hlt), if_neg heq, ih hrest h]

/-- The entry of a new key is put between those that were there. -/
theorem exists_insertEntry_eq (value : α) {l : List (String × α)} (h : key ∉ l.map Prod.fst) :
    ∃ before after, l = before ++ after ∧
      insertEntry key value l = before ++ (key, value) :: after := by
  induction l with
  | nil => exact ⟨[], [], rfl, rfl⟩
  | cons head rest ih =>
    obtain ⟨k, v⟩ := head
    rw [List.map_cons, List.mem_cons, not_or] at h
    rw [insertEntry]
    by_cases hlt : key < k
    · rw [if_pos hlt]
      exact ⟨[], (k, v) :: rest, rfl, rfl⟩
    · obtain ⟨before, after, hsplit, hinsert⟩ := ih h.2
      rw [if_neg hlt, if_neg h.1, hinsert, hsplit]
      exact ⟨(k, v) :: before, after, rfl, rfl⟩

/-- Setting a key to the value that it has changes nothing. -/
theorem insert_of_get? {m : SortedMap α} (h : m.get? key = some value) :
    m.insert key value = m :=
  eq_of_entries (insertEntry_of_lookup m.sorted h)

/-- Entries beyond those of a map are put behind them. -/
theorem entries_foldl_insert (entries : List (String × α)) (m : SortedMap α)
    (h : (m.entries ++ entries).Pairwise (fun a b => a.1 < b.1)) :
    (entries.foldl (fun m e => m.insert e.1 e.2) m).entries = m.entries ++ entries := by
  induction entries generalizing m with
  | nil => rw [List.foldl_nil, List.append_nil]
  | cons entry rest ih =>
    have hlast : (m.insert entry.1 entry.2).entries = m.entries ++ [entry] :=
      insertEntry_of_forall_lt fun e he =>
        (List.pairwise_append.mp h).2.2 e he entry List.mem_cons_self
    rw [List.append_cons, ← hlast] at h
    rw [List.foldl_cons, ih _ h, hlast, List.append_assoc, List.singleton_append]

/-- **A map is the map of its entries.** -/
theorem ofList_entries (m : SortedMap α) : ofList m.entries = m :=
  eq_of_entries (entries_foldl_insert m.entries empty m.sorted)

/-- Of several entries of one key the last one counts. -/
theorem get?_ofList (entries : List (String × α)) (key : String) :
    (ofList entries).get? key = entries.reverse.lookup key := by
  have hfold (m : SortedMap α) : (entries.foldl (fun m e => m.insert e.1 e.2) m).get? key
      = (entries.reverse.lookup key).or (m.get? key) := by
    induction entries generalizing m with
    | nil => rfl
    | cons entry rest ih =>
      obtain ⟨k, v⟩ := entry
      rw [List.foldl_cons, ih, get?_insert, List.reverse_cons, List.lookup_append,
        Option.or_assoc, List.lookup_cons, List.lookup_nil]
      by_cases heq : key = k
      · rw [if_pos heq, beq_iff_eq.mpr heq]
        rfl
      · rw [if_neg heq, beq_false_of_ne heq]
        rfl
  rw [ofList, hfold, get?_empty, Option.or_none]

end Entries

/-! ## Keys -/

section Keys

variable {m : SortedMap α} {key : String}

theorem nodup_keys (m : SortedMap α) : m.keys.Nodup := by
  refine List.pairwise_map.mpr (m.sorted.imp fun {first second} hlt heq => ?_)
  rw [heq] at hlt
  exact String.lt_irrefl _ hlt

theorem mem_entries_of_get? {value : α} (h : m.get? key = some value) :
    (key, value) ∈ m.entries := by
  obtain ⟨before, after, heq, -⟩ := List.lookup_eq_some_iff.mp h
  rw [heq]
  exact List.mem_append_right _ List.mem_cons_self

/-- In front of an entry are the smaller keys, and behind it the greater ones. -/
theorem lt_of_split {value : α} {before after : List (String × α)}
    (h : m.entries = before ++ (key, value) :: after) :
    (∀ e ∈ before, e.1 < key) ∧ ∀ e ∈ after, key < e.1 := by
  have hsorted := m.sorted
  rw [h] at hsorted
  obtain ⟨-, htail, hfront⟩ := List.pairwise_append.mp hsorted
  exact ⟨fun e he => hfront e he (key, value) List.mem_cons_self,
    (List.pairwise_cons.mp htail).1⟩

/-- The values of a map are those of its entries. -/
theorem get?_eq_some_iff {value : α} : m.get? key = some value ↔ (key, value) ∈ m.entries := by
  refine ⟨mem_entries_of_get?, fun h => ?_⟩
  obtain ⟨before, after, hsplit⟩ := List.append_of_mem h
  refine List.lookup_eq_some_iff.mpr ⟨before, after, hsplit, fun e he => bne_iff_ne.mpr ?_⟩
  intro heq
  have hlt := (lt_of_split hsplit).1 e he
  rw [heq] at hlt
  exact String.lt_irrefl _ hlt

theorem mem_keys_insert {new : String} {value : α} (h : key ∈ (m.insert new value).keys) :
    key = new ∨ key ∈ m.keys := by
  obtain ⟨entry, hentry, rfl⟩ := List.mem_map.mp h
  rcases mem_insertEntry hentry with rfl | hold
  · exact Or.inl rfl
  · exact Or.inr (List.mem_map_of_mem hold)

theorem mem_keys_foldl_insert {entries : List (String × α)}
    (h : key ∈ (entries.foldl (fun m e => m.insert e.1 e.2) m).keys) :
    key ∈ entries.map Prod.fst ∨ key ∈ m.keys := by
  induction entries generalizing m with
  | nil => exact Or.inr h
  | cons entry rest ih =>
    rcases ih h with hrest | hm
    · exact Or.inl (List.mem_cons_of_mem _ hrest)
    · rcases mem_keys_insert hm with rfl | hold
      · exact Or.inl List.mem_cons_self
      · exact Or.inr hold

theorem mem_keys_ofList {entries : List (String × α)} (h : key ∈ (ofList entries).keys) :
    key ∈ entries.map Prod.fst := by
  rcases mem_keys_foldl_insert h with hentry | hempty
  · exact hentry
  · exact absurd hempty List.not_mem_nil

theorem mem_keys_overlay {n : SortedMap α} (h : key ∈ (m.overlay n).keys) :
    key ∈ n.keys ∨ key ∈ m.keys :=
  mem_keys_foldl_insert h

theorem mem_keys_insertIfNew {new : String} {value : α}
    (h : key ∈ (m.insertIfNew new value).keys) : key = new ∨ key ∈ m.keys := by
  unfold insertIfNew at h
  split at h
  · exact Or.inr h
  · exact mem_keys_insert h

theorem mem_keys_filterKeys {p : String → Bool} (h : key ∈ (m.filterKeys p).keys) :
    key ∈ m.keys :=
  (List.filter_sublist.map Prod.fst).subset h

theorem keys_mapValues (f : α → β) (m : SortedMap α) : (m.mapValues f).keys = m.keys := by
  rw [keys, mapValues, List.map_map]
  rfl

end Keys

/-! ## Equal maps -/

section Equal

theorem lookup_eq_none_of_lt {key : String} {l : List (String × α)} (h : ∀ e ∈ l, key < e.1) :
    l.lookup key = none := by
  rw [List.lookup_eq_none_iff]
  intro e he
  have hne : key ≠ e.1 := by
    intro heq
    exact String.lt_irrefl key (heq ▸ h e he)
  exact bne_iff_ne.mpr hne

theorem entries_eq_of_lookup {l l' : List (String × α)} (hs : l.Pairwise (fun a b => a.1 < b.1))
    (hs' : l'.Pairwise (fun a b => a.1 < b.1)) (h : ∀ key, l.lookup key = l'.lookup key) :
    l = l' := by
  induction l generalizing l' with
  | nil =>
    cases l' with
    | nil => rfl
    | cons head' rest' =>
      have hhead := h head'.1
      rw [List.lookup_nil, List.lookup_cons_self] at hhead
      cases hhead
  | cons head rest ih =>
    obtain ⟨k, v⟩ := head
    cases l' with
    | nil =>
      have hhead := h k
      rw [List.lookup_nil, List.lookup_cons_self] at hhead
      cases hhead
    | cons head' rest' =>
      obtain ⟨k', v'⟩ := head'
      obtain ⟨hk, hrest⟩ := List.pairwise_cons.mp hs
      obtain ⟨hk', hrest'⟩ := List.pairwise_cons.mp hs'
      -- a smaller first key would be missing in the other list
      have hkey : k = k' := by
        rcases Std.lt_trichotomy k k' with hlt | heq | hlt
        · have hnone : ((k', v') :: rest').lookup k = none :=
            lookup_eq_none_of_lt (List.forall_mem_cons.mpr
              ⟨hlt, fun e he => String.lt_trans hlt (hk' e he)⟩)
          rw [← h k, List.lookup_cons_self] at hnone
          cases hnone
        · exact heq
        · have hnone : ((k, v) :: rest).lookup k' = none :=
            lookup_eq_none_of_lt (List.forall_mem_cons.mpr
              ⟨hlt, fun e he => String.lt_trans hlt (hk e he)⟩)
          rw [h k', List.lookup_cons_self] at hnone
          cases hnone
      subst hkey
      have hvalue := h k
      rw [List.lookup_cons_self, List.lookup_cons_self, Option.some.injEq] at hvalue
      have htail : rest = rest' := by
        refine ih hrest hrest' fun key => ?_
        by_cases heq : key = k
        · rw [heq, lookup_eq_none_of_lt hk, lookup_eq_none_of_lt hk']
        · have hboth := h key
          rwa [List.lookup_cons, List.lookup_cons, beq_false_of_ne heq] at hboth
      rw [hvalue, htail]

/-- **Maps with the same values are equal.** -/
theorem eq_of_get? {m n : SortedMap α} (h : ∀ key, m.get? key = n.get? key) : m = n :=
  eq_of_entries (entries_eq_of_lookup m.sorted n.sorted h)

end Equal

/-! ## Overlays -/

theorem get?_foldl_insert {entries : List (String × α)}
    (hs : entries.Pairwise (fun a b => a.1 < b.1)) (m : SortedMap α) (key : String) :
    (entries.foldl (fun m e => m.insert e.1 e.2) m).get? key
      = (entries.lookup key).or (m.get? key) := by
  induction entries generalizing m with
  | nil => rfl
  | cons entry rest ih =>
    obtain ⟨k, v⟩ := entry
    obtain ⟨hk, hrest⟩ := List.pairwise_cons.mp hs
    rw [List.foldl_cons, ih hrest, get?_insert, List.lookup_cons]
    by_cases heq : key = k
    · subst heq
      rw [if_pos rfl, lookup_eq_none_of_lt hk, beq_self_eq_true]
      rfl
    · rw [if_neg heq, beq_false_of_ne heq]

/-- **An overlay has the values of the upper map, and those of the lower one elsewhere.** -/
theorem get?_overlay (m n : SortedMap α) (key : String) :
    (m.overlay n).get? key = (n.get? key).or (m.get? key) :=
  get?_foldl_insert n.sorted m key

/-- A value that is set in the upper map is set in the overlay. -/
theorem overlay_insert (m n : SortedMap α) (key : String) (value : α) :
    m.overlay (n.insert key value) = (m.overlay n).insert key value := by
  refine eq_of_get? fun other => ?_
  rw [get?_overlay, get?_insert, get?_insert, get?_overlay]
  split
  · rfl
  · rfl

end SortedMap

end MarkdownDirectives
