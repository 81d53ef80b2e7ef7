import MarkdownDirectives.Proofs.Layers.Grouping

/-!
# What layers amount to

The merge goes through the entries of all layers once. Here its outcome is said key by key, without
following it: a property has the last value that counts for it, and the classes are those that the
layers give under both class keys, each where it comes first.

* `Merged.get?_addLayers`, `Merged.classes_addLayers` — what a run of the merge adds, from any start
* `get?_mergeLayers` — the merged properties, key by key

## Layers are sorted

A layer lists its entries in the order of their keys and each key once. So its classes under
`class` come before those under `className`, and one lookup finds all that it says of a key.
-/

namespace MarkdownDirectives

/-! ## What layers give -/

/-- The values that count for a key, in the order of the layers. -/
def givenValues (layers : List (Option Properties)) (key : String) : List Property :=
  ((layers.filterMap id).filterMap (·.get? key)).filter Property.truthy

/-- The values under the class keys of a layer, those under `class` first. -/
def layerClassValues (layer : Properties) : List Property :=
  (layer.get? "class").toList ++ (layer.get? "className").toList

/-- The values under the class keys of all layers in their order. -/
def classValues (layers : List (Option Properties)) : List Property :=
  (layers.filterMap id).flatMap layerClassValues

/-- The classes that a value gives: the words of a string, or the items of a list that are not
empty. -/
def givenClasses : Property → List String
  | .string text => Text.wordList text
  | .list items => items.filter (!·.isEmpty)
  | .bool _ | .int _ => []

/-- The classes that the layers give, each where it comes first. -/
def listedClasses (layers : List (Option Properties)) : List String :=
  ((classValues layers).flatMap givenClasses).eraseDups

/-! ## Classes that are collected -/

/-- Collecting what is not there yet keeps each item where it comes first. -/
theorem foldl_eq_append_eraseDups {α : Type} [BEq α] [LawfulBEq α] {add : List α → α → List α}
    {items kept : List α}
    (hadd : ∀ kept, ∀ item ∈ items, add kept item = if item ∈ kept then kept else kept ++ [item]) :
    items.foldl add kept = kept ++ (items.filter (!kept.contains ·)).eraseDups := by
  induction items generalizing kept with
  | nil => simp
  | cons item rest ih =>
    have hrest : ∀ kept, ∀ other ∈ rest,
        add kept other = if other ∈ kept then kept else kept ++ [other] :=
      fun kept other hother => hadd kept other (List.mem_cons_of_mem _ hother)
    rw [List.foldl_cons, hadd kept item List.mem_cons_self]
    by_cases hmem : item ∈ kept
    · rw [if_pos hmem, ih hrest]
      simp [hmem]
    · rw [if_neg hmem, ih hrest, List.filter_cons_of_pos (by simpa using hmem),
        List.eraseDups_cons, List.filter_filter, List.append_assoc, List.singleton_append]
      congr 3
      refine List.filter_congr fun other _ => ?_
      rw [List.contains_append, List.contains_cons, List.contains_nil, Bool.or_false,
        Bool.not_or, Bool.and_comm]

section Collected

variable {classes tokens : List String}

/-- Classes that are collected stay each where it comes first. -/
theorem foldl_addClass_eq (h : ∀ token ∈ tokens, token.isEmpty = false) :
    tokens.foldl addClass classes
      = classes ++ (tokens.filter (!classes.contains ·)).eraseDups := by
  refine foldl_eq_append_eraseDups fun kept token htoken => ?_
  by_cases hmem : token ∈ kept
  · rw [addClass_of_mem (.inr hmem), if_pos hmem]
  · rw [addClass_of_not_mem (h token htoken) hmem, if_neg hmem]

theorem foldl_addClass_nil (h : ∀ token ∈ tokens, token.isEmpty = false) :
    tokens.foldl addClass [] = tokens.eraseDups := by
  have hall : tokens.filter (!([] : List String).contains ·) = tokens :=
    List.filter_eq_self.mpr fun _ _ => rfl
  rw [foldl_addClass_eq h, hall, List.nil_append]

end Collected

/-- An empty class is passed over. -/
theorem foldl_addClass_filter (tokens classes : List String) :
    (tokens.filter (!·.isEmpty)).foldl addClass classes = tokens.foldl addClass classes := by
  induction tokens generalizing classes with
  | nil => rfl
  | cons token rest ih =>
    cases hempty : token.isEmpty with
    | true => rw [List.filter_cons_of_neg (by simp [hempty]), ih, List.foldl_cons,
        addClass_of_mem (.inl hempty)]
    | false => rw [List.filter_cons_of_pos (by simp [hempty]), List.foldl_cons, ih, List.foldl_cons]

theorem foldl_addClass_classTokens (value : Property) (classes : List String) :
    (classTokens value).foldl addClass classes = (givenClasses value).foldl addClass classes := by
  cases value with
  | list items => exact (foldl_addClass_filter items classes).symm
  | string text => rfl
  | bool value => rfl
  | int value => rfl

/-- A value that does not count gives no class. -/
theorem givenClasses_of_untruthy {value : Property} (h : value.truthy = false) :
    givenClasses value = [] := by
  cases value with
  | string text =>
    obtain rfl : text = "" := by simpa [Property.truthy] using h
    rfl
  | list items => cases h
  | bool value => rfl
  | int value => rfl

theorem isEmpty_of_mem_givenClasses {value : Property} :
    ∀ token ∈ givenClasses value, token.isEmpty = false := by
  intro token htoken
  cases value with
  | string text =>
    obtain ⟨word, hword, rfl⟩ := List.mem_map.mp htoken
    have hne := (Text.wordsBy_clean word hword).1
    simpa using hne
  | list items => simpa using (List.mem_filter.mp htoken).2
  | bool value => cases htoken
  | int value => cases htoken

namespace Merged

/-! ## One entry -/

variable {m : Merged} {key : String}

theorem get?_addEntry (hkey : isClassKey key = false) (m : Merged) (entry : String × Property) :
    (m.addEntry entry).properties.get? key
      = (if key = entry.1 then Option.filter Property.truthy (some entry.2) else none).or
          (m.properties.get? key) := by
  cases ht : entry.2.truthy with
  | false =>
    rw [addEntry_untruthy ht, Option.filter_some, ht]
    simp
  | true =>
    cases hk : isClassKey entry.1 with
    | true =>
      have hne : key ≠ entry.1 := by
        rintro rfl
        rw [hk] at hkey
        cases hkey
      rw [addEntry_classes ht hk, if_neg hne, Option.none_or]
    | false =>
      rw [addEntry_property ht hk, SortedMap.get?_insert, Option.filter_some, ht]
      split <;> simp

/-- The classes of an entry. -/
def entryClasses (entry : String × Property) : List String :=
  if isClassKey entry.1 then givenClasses entry.2 else []

theorem classes_addEntry (m : Merged) (entry : String × Property) :
    (m.addEntry entry).classes = (entryClasses entry).foldl addClass m.classes := by
  unfold entryClasses
  cases ht : entry.2.truthy with
  | false =>
    rw [addEntry_untruthy ht, givenClasses_of_untruthy ht]
    simp
  | true =>
    cases hk : isClassKey entry.1 with
    | true =>
      rw [addEntry_classes ht hk, if_pos rfl]
      exact foldl_addClass_classTokens entry.2 m.classes
    | false =>
      rw [addEntry_property ht hk]
      rfl

/-! ## A layer -/

/-- One lookup finds all that a layer says of a key. -/
theorem get?_addLayer (hkey : isClassKey key = false) (layer : Properties) :
    (m.addLayer layer).properties.get? key
      = ((layer.get? key).filter Property.truthy).or (m.properties.get? key) := by
  have hsorted := layer.sorted
  unfold addLayer SortedMap.get?
  generalize layer.entries = entries at hsorted
  induction entries generalizing m with
  | nil => rfl
  | cons entry rest ih =>
    obtain ⟨hfirst, hrest⟩ := List.pairwise_cons.mp hsorted
    have hentry := get?_addEntry hkey m entry
    unfold SortedMap.get? at hentry
    rw [List.foldl_cons, ih hrest, hentry]
    obtain ⟨k, v⟩ := entry
    by_cases heq : key = k
    · subst heq
      rw [SortedMap.lookup_eq_none_of_lt hfirst, List.lookup_cons_self, if_pos rfl]
      rfl
    · rw [List.lookup_cons, beq_false_of_ne heq, if_neg heq, Option.none_or]

/-- Of two keys in their order the entries of a layer stand in that order. -/
theorem flatMap_entries {α β : Type} {first second : String} (hlt : first < second) (f : α → List β)
    {entries : List (String × α)} (hs : entries.Pairwise (fun a b => a.1 < b.1)) :
    (entries.flatMap fun entry =>
        if entry.1 == first || entry.1 == second then f entry.2 else [])
      = ((entries.lookup first).toList ++ (entries.lookup second).toList).flatMap f := by
  induction entries with
  | nil => rfl
  | cons entry rest ih =>
    obtain ⟨k, v⟩ := entry
    obtain ⟨hfirst, hrest⟩ := List.pairwise_cons.mp hs
    rw [List.flatMap_cons, ih hrest]
    by_cases h₁ : first = k
    · subst h₁
      have hne : second ≠ first := by
        rintro rfl
        exact String.lt_irrefl _ hlt
      rw [SortedMap.lookup_eq_none_of_lt hfirst, List.lookup_cons_self, List.lookup_cons,
        beq_false_of_ne hne]
      simp
    · by_cases h₂ : second = k
      · subst h₂
        have hnone : rest.lookup first = none :=
          SortedMap.lookup_eq_none_of_lt fun e he => String.lt_trans hlt (hfirst e he)
        rw [hnone, SortedMap.lookup_eq_none_of_lt hfirst, List.lookup_cons_self,
          List.lookup_cons, beq_false_of_ne h₁, hnone]
        simp
      · rw [List.lookup_cons, List.lookup_cons, beq_false_of_ne h₁, beq_false_of_ne h₂]
        simp [Ne.symm h₁, Ne.symm h₂]

theorem classes_addLayer (m : Merged) (layer : Properties) :
    (m.addLayer layer).classes
      = ((layerClassValues layer).flatMap givenClasses).foldl addClass m.classes := by
  have hlayer : (layerClassValues layer).flatMap givenClasses
      = layer.entries.flatMap entryClasses :=
    (flatMap_entries (by decide) givenClasses layer.sorted).symm
  rw [hlayer, List.foldl_flatMap, addLayer]
  generalize layer.entries = entries
  induction entries generalizing m with
  | nil => rfl
  | cons entry rest ih => rw [List.foldl_cons, ih, classes_addEntry, List.foldl_cons]

/-! ## All layers -/

/-- **The last value that counts for a key is over all earlier ones.** -/
theorem get?_addLayers (hkey : isClassKey key = false) (layers : List (Option Properties)) :
    (m.addLayers layers).properties.get? key
      = (givenValues layers key).getLast?.or (m.properties.get? key) := by
  induction layers generalizing m with
  | nil => rfl
  | cons layer rest ih =>
    cases layer with
    | none => exact ih
    | some layer =>
      have hgiven : givenValues (some layer :: rest) key
          = ((layer.get? key).filter Property.truthy).toList ++ givenValues rest key := by
        cases hvalue : layer.get? key with
        | none => simp [givenValues, hvalue]
        | some value =>
          cases ht : value.truthy <;> simp [givenValues, hvalue, ht, Option.filter_some]
      rw [addLayers_some, ih, get?_addLayer hkey, hgiven, List.getLast?_append, Option.or_assoc]
      cases (layer.get? key).filter Property.truthy <;> rfl

/-- **The classes that the layers give are collected in their order.** -/
theorem classes_addLayers (m : Merged) (layers : List (Option Properties)) :
    (m.addLayers layers).classes
      = ((classValues layers).flatMap givenClasses).foldl addClass m.classes := by
  induction layers generalizing m with
  | nil => rfl
  | cons layer rest ih =>
    cases layer with
    | none => exact ih m
    | some layer =>
      have hvalues : classValues (some layer :: rest)
          = layerClassValues layer ++ classValues rest := rfl
      rw [addLayers_some, ih, classes_addLayer, hvalues, List.flatMap_append, List.foldl_append]

end Merged

/-! ## Key by key -/

theorem mergeLayers_eq (layers : List (Option Properties)) :
    mergeLayers layers = (Merged.addLayers {} layers).finish := rfl

theorem classes_eq_listedClasses (layers : List (Option Properties)) :
    (Merged.addLayers {} layers).classes = listedClasses layers := by
  rw [Merged.classes_addLayers, listedClasses]
  refine foldl_addClass_nil fun token htoken => ?_
  obtain ⟨value, -, hvalue⟩ := List.mem_flatMap.mp htoken
  exact isEmpty_of_mem_givenClasses token hvalue

theorem get?_finish (m : Merged) (key : String) :
    m.finish.get? key
      = if key = "className" ∧ m.classes ≠ [] then some (.list m.classes)
        else m.properties.get? key := by
  rw [Merged.finish]
  by_cases hempty : m.classes = []
  · simp [hempty]
  · rw [if_neg (by simpa using hempty), SortedMap.get?_insert]
    simp [hempty]

/-- Classes are never properties of their own while layers are merged. -/
theorem get?_classKey {m : Merged} (h : m.IsNormal) (key : String) (hkey : isClassKey key = true) :
    m.properties.get? key = none := by
  rw [Option.eq_none_iff_forall_ne_some]
  intro value hvalue
  have hno := h.noClass (key, value) (SortedMap.mem_entries_of_get? hvalue)
  rw [hkey] at hno
  cases hno

theorem get?_className (layers : List (Option Properties)) :
    (mergeLayers layers).get? "className"
      = if listedClasses layers = [] then none else some (.list (listedClasses layers)) := by
  have hnone := get?_classKey (Merged.isNormal_empty.addLayers layers) "className" (by decide)
  rw [mergeLayers_eq, get?_finish, hnone, classes_eq_listedClasses]
  by_cases hempty : listedClasses layers = [] <;> simp [hempty]

/--
**The merged properties, key by key.**

A property has the value of the last layer that gives one that counts. The classes stand in one
list, each where it comes first, unless there are none, and never under `class`.
-/
theorem get?_mergeLayers (layers : List (Option Properties)) (key : String) :
    (mergeLayers layers).get? key =
      if key = "class" then none
      else if key = "className" then
        if listedClasses layers = [] then none else some (.list (listedClasses layers))
      else (givenValues layers key).getLast? := by
  by_cases hclass : key = "class"
  · have hnone := get?_classKey (Merged.isNormal_empty.addLayers layers) "class" (by decide)
    rw [if_pos hclass, hclass, mergeLayers_eq, get?_finish, hnone]
    simp
  · rw [if_neg hclass]
    by_cases hname : key = "className"
    · rw [if_pos hname, hname, get?_className]
    · have hkey : isClassKey key = false := by simp [isClassKey, hclass, hname]
      rw [if_neg hname, mergeLayers_eq, get?_finish, if_neg (by simp [hname]),
        Merged.get?_addLayers hkey]
      exact Option.or_none

/-- A value that does not count leaves the last one that does. -/
example :
    (mergeLayers [some (.single "width" (.int 1)), none, some (.single "width" (.int 2)),
      some (.single "width" (.int 0))]).get? "width" = some (.int 2) := by
  decide

end MarkdownDirectives
