import MarkdownDirectives.Family.Image

/-!
# Merging again

Once a layer has been merged in, it holds nothing new: adding it a second time changes nothing
(`addLayer_addLayer`). And merged properties are read as they have been written: as a layer they
bring in the classes in their order and the other properties as they are (`addLayer_finish`).
So an image that gets the same properties several times is as it was after the first time
(`addProperties_addProperties`).

## Normal forms

The classes of a merge have one key, but a layer may list them under two, as words or as items,
some of them several times and some of them empty. `IsNormal` says that none of this is left.
-/

namespace MarkdownDirectives

/-! ## Classes -/

/-- Classes that are listed once each, without an empty one. -/
structure IsClassList (classes : List String) : Prop where
  nodup : classes.Nodup
  nonempty : ∀ token ∈ classes, token.isEmpty = false

section Classes

variable {classes tokens : List String} {token : String}

theorem isClassList_nil : IsClassList [] :=
  ⟨List.nodup_nil, List.forall_mem_nil _⟩

theorem addClass_of_mem (h : token.isEmpty = true ∨ token ∈ classes) :
    addClass classes token = classes := by
  rw [addClass, if_pos]
  rcases h with hempty | hmem
  · rw [hempty, Bool.true_or]
  · rw [List.contains_iff_mem.mpr hmem, Bool.or_true]

theorem addClass_of_not_mem (hempty : token.isEmpty = false) (h : token ∉ classes) :
    addClass classes token = classes ++ [token] := by
  have hc : classes.contains token = false := by
    rw [← Bool.not_eq_true, List.contains_iff_mem]
    exact h
  rw [addClass, hempty, hc]
  rfl

theorem subset_addClass : classes ⊆ addClass classes token := by
  by_cases h : token.isEmpty = true ∨ token ∈ classes
  · rw [addClass_of_mem h]
    exact List.Subset.refl classes
  · rw [not_or, Bool.not_eq_true] at h
    rw [addClass_of_not_mem h.1 h.2]
    exact List.subset_append_left classes [token]

theorem mem_addClass (hempty : token.isEmpty = false) : token ∈ addClass classes token := by
  by_cases h : token ∈ classes
  · exact subset_addClass h
  · rw [addClass_of_not_mem hempty h]
    exact List.mem_append_right _ List.mem_cons_self

theorem IsClassList.addClass (h : IsClassList classes) (token : String) :
    IsClassList (addClass classes token) := by
  by_cases hmem : token.isEmpty = true ∨ token ∈ classes
  · rw [addClass_of_mem hmem]
    exact h
  · rw [not_or, Bool.not_eq_true] at hmem
    rw [addClass_of_not_mem hmem.1 hmem.2]
    refine ⟨List.nodup_append.mpr ⟨h.nodup, List.pairwise_singleton _ _, ?_⟩,
      List.forall_mem_append.mpr ⟨h.nonempty, List.forall_mem_singleton.mpr hmem.1⟩⟩
    rintro old hold new hnew rfl
    rw [List.mem_singleton.mp hnew] at hold
    exact hmem.2 hold

theorem subset_foldl_addClass : classes ⊆ tokens.foldl addClass classes := by
  induction tokens generalizing classes with
  | nil => exact List.Subset.refl classes
  | cons token rest ih => exact List.Subset.trans subset_addClass ih

theorem mem_foldl_addClass (h : token ∈ tokens) (hempty : token.isEmpty = false) :
    token ∈ tokens.foldl addClass classes := by
  induction tokens generalizing classes with
  | nil => cases h
  | cons first rest ih =>
    rw [List.foldl_cons]
    rcases List.mem_cons.mp h with rfl | hrest
    · exact subset_foldl_addClass (mem_addClass hempty)
    · exact ih hrest

theorem foldl_addClass_of_mem (h : ∀ token ∈ tokens, token.isEmpty = true ∨ token ∈ classes) :
    tokens.foldl addClass classes = classes := by
  induction tokens with
  | nil => rfl
  | cons token rest ih =>
    obtain ⟨htoken, hrest⟩ := List.forall_mem_cons.mp h
    rw [List.foldl_cons, addClass_of_mem htoken, ih hrest]

theorem IsClassList.foldl_addClass (h : IsClassList classes) (tokens : List String) :
    IsClassList (tokens.foldl MarkdownDirectives.addClass classes) := by
  induction tokens generalizing classes with
  | nil => exact h
  | cons token rest ih => exact ih (h.addClass token)

/-- A list of classes is taken over as it is where none of them has been seen. -/
theorem foldl_addClass_append (h : IsClassList (classes ++ tokens)) :
    tokens.foldl addClass classes = classes ++ tokens := by
  induction tokens generalizing classes with
  | nil => rw [List.foldl_nil, List.append_nil]
  | cons token rest ih =>
    have hempty : token.isEmpty = false :=
      h.nonempty token (List.mem_append_right _ List.mem_cons_self)
    have hnew : token ∉ classes := fun hold =>
      (List.nodup_append.mp h.nodup).2.2 token hold token List.mem_cons_self rfl
    rw [List.append_cons] at h
    rw [List.foldl_cons, addClass_of_not_mem hempty hnew, ih h, List.append_assoc,
      List.singleton_append]

end Classes

namespace Merged

variable {m n : Merged} {entry other : String × Property} {layer : Properties}

/-! ## One entry -/

theorem addEntry_untruthy (h : entry.2.truthy = false) : m.addEntry entry = m := by
  rw [addEntry, h]
  rfl

theorem addEntry_classes (ht : entry.2.truthy = true) (hk : isClassKey entry.1 = true) :
    m.addEntry entry = { m with classes := (classTokens entry.2).foldl addClass m.classes } := by
  rw [addEntry, ht, hk]
  rfl

theorem addEntry_property (ht : entry.2.truthy = true) (hk : isClassKey entry.1 = false) :
    m.addEntry entry = { m with properties := m.properties.insert entry.1 entry.2 } := by
  rw [addEntry, ht, hk]
  rfl

/-- What the entry asks for is there. -/
inductive Holds (m : Merged) (entry : String × Property) : Prop
  /-- A value that does not count asks for nothing. -/
  | untruthy (ht : entry.2.truthy = false)
  | classes (ht : entry.2.truthy = true) (hk : isClassKey entry.1 = true)
      (h : ∀ token ∈ classTokens entry.2, token.isEmpty = true ∨ token ∈ m.classes)
  | property (ht : entry.2.truthy = true) (hk : isClassKey entry.1 = false)
      (h : m.properties.get? entry.1 = some entry.2)

theorem addEntry_of_holds (h : m.Holds entry) : m.addEntry entry = m := by
  cases h with
  | untruthy ht => exact addEntry_untruthy ht
  | classes ht hk h => rw [addEntry_classes ht hk, foldl_addClass_of_mem h]
  | property ht hk h => rw [addEntry_property ht hk, SortedMap.insert_of_get? h]

theorem holds_addEntry (m : Merged) (entry : String × Property) :
    (m.addEntry entry).Holds entry := by
  cases ht : entry.2.truthy with
  | false => exact .untruthy ht
  | true =>
    cases hk : isClassKey entry.1 with
    | true =>
      refine .classes ht hk fun token htoken => ?_
      rw [addEntry_classes ht hk]
      cases hempty : token.isEmpty with
      | true => exact Or.inl rfl
      | false => exact Or.inr (mem_foldl_addClass htoken hempty)
    | false =>
      refine .property ht hk ?_
      rw [addEntry_property ht hk, SortedMap.get?_insert, if_pos rfl]

/-- An entry takes nothing away from one of another key. -/
theorem Holds.addEntry (h : m.Holds entry) (hne : entry.1 ≠ other.1) :
    (m.addEntry other).Holds entry := by
  cases ht : other.2.truthy with
  | false =>
    rw [addEntry_untruthy ht]
    exact h
  | true =>
    cases hk : isClassKey other.1 with
    | true =>
      rw [addEntry_classes ht hk]
      cases h with
      | untruthy ht' => exact .untruthy ht'
      | classes ht' hk' h =>
        exact .classes ht' hk' fun token htoken =>
          (h token htoken).imp_right fun hmem => subset_foldl_addClass hmem
      | property ht' hk' h => exact .property ht' hk' h
    | false =>
      rw [addEntry_property ht hk]
      cases h with
      | untruthy ht' => exact .untruthy ht'
      | classes ht' hk' h => exact .classes ht' hk' h
      | property ht' hk' h =>
        refine .property ht' hk' ?_
        rw [SortedMap.get?_insert, if_neg hne]
        exact h

/-! ## A layer twice -/

theorem addLayer_of_holds (h : ∀ entry ∈ layer.entries, m.Holds entry) : m.addLayer layer = m := by
  unfold addLayer
  revert h
  generalize layer.entries = entries
  intro h
  induction entries with
  | nil => rfl
  | cons entry rest ih =>
    obtain ⟨hentry, hrest⟩ := List.forall_mem_cons.mp h
    rw [List.foldl_cons, addEntry_of_holds hentry, ih hrest]

/-- An entry stays held where no later one has its key. So all entries of a layer are held in the
end. -/
theorem holds_foldl_addEntry {entries : List (String × Property)}
    (hs : entries.Pairwise (fun a b => a.1 ≠ b.1)) :
    (∀ entry, m.Holds entry → entry.1 ∉ entries.map Prod.fst →
        (entries.foldl addEntry m).Holds entry) ∧
      ∀ entry ∈ entries, (entries.foldl addEntry m).Holds entry := by
  induction entries generalizing m with
  | nil => exact ⟨fun _ h _ => h, List.forall_mem_nil _⟩
  | cons first rest ih =>
    obtain ⟨hfirst, hrest⟩ := List.pairwise_cons.mp hs
    obtain ⟨hkeep, hadd⟩ := ih (m := m.addEntry first) hrest
    have hnew : first.1 ∉ rest.map Prod.fst := by
      intro hmem
      obtain ⟨later, hlater, heq⟩ := List.mem_map.mp hmem
      exact hfirst later hlater heq.symm
    refine ⟨fun entry h hmem => ?_, List.forall_mem_cons.mpr ⟨?_, hadd⟩⟩
    · rw [List.map_cons, List.mem_cons, not_or] at hmem
      exact hkeep entry (h.addEntry hmem.1) hmem.2
    · exact hkeep first (holds_addEntry m first) hnew

theorem holds_addLayer (m : Merged) (layer : Properties) :
    ∀ entry ∈ layer.entries, (m.addLayer layer).Holds entry := by
  have hkeys : layer.entries.Pairwise (fun a b => a.1 ≠ b.1) :=
    List.pairwise_map.mp layer.nodup_keys
  exact (holds_foldl_addEntry hkeys).2

/-- **A layer that has been added adds nothing a second time.** -/
theorem addLayer_addLayer (m : Merged) (layer : Properties) :
    (m.addLayer layer).addLayer layer = m.addLayer layer :=
  addLayer_of_holds (holds_addLayer m layer)

/-! ## Normal forms -/

/-- Every property counts, and the classes stand apart in a list. -/
structure IsNormal (m : Merged) : Prop where
  truthy : ∀ entry ∈ m.properties.entries, entry.2.truthy = true
  noClass : ∀ entry ∈ m.properties.entries, isClassKey entry.1 = false
  classes : IsClassList m.classes

theorem isNormal_empty : IsNormal {} :=
  ⟨List.forall_mem_nil _, List.forall_mem_nil _, isClassList_nil⟩

theorem IsNormal.addEntry (h : m.IsNormal) (entry : String × Property) :
    (m.addEntry entry).IsNormal := by
  cases ht : entry.2.truthy with
  | false =>
    rw [addEntry_untruthy ht]
    exact h
  | true =>
    cases hk : isClassKey entry.1 with
    | true =>
      rw [addEntry_classes ht hk]
      exact ⟨h.truthy, h.noClass, h.classes.foldl_addClass _⟩
    | false =>
      rw [addEntry_property ht hk]
      refine ⟨fun e he => ?_, fun e he => ?_, h.classes⟩
      · rcases SortedMap.mem_insertEntry he with rfl | hold
        · exact ht
        · exact h.truthy e hold
      · rcases SortedMap.mem_insertEntry he with rfl | hold
        · exact hk
        · exact h.noClass e hold

theorem IsNormal.addLayer (h : m.IsNormal) (layer : Properties) : (m.addLayer layer).IsNormal := by
  unfold Merged.addLayer
  generalize layer.entries = entries
  induction entries generalizing m with
  | nil => exact h
  | cons entry rest ih => exact ih (h.addEntry entry)

/-! ## Merged properties as a layer -/

/-- What `n` amounts to, behind what `m` amounts to. -/
def join (m n : Merged) : Merged where
  properties := m.properties.overlay n.properties
  classes := n.classes.foldl addClass m.classes

theorem foldl_addEntry_properties {entries : List (String × Property)}
    (ht : ∀ entry ∈ entries, entry.2.truthy = true)
    (hk : ∀ entry ∈ entries, isClassKey entry.1 = false) (m : Merged) :
    entries.foldl addEntry m
      = { m with properties := entries.foldl (fun p e => p.insert e.1 e.2) m.properties } := by
  induction entries generalizing m with
  | nil => rfl
  | cons entry rest ih =>
    obtain ⟨htruthy, htruthy'⟩ := List.forall_mem_cons.mp ht
    obtain ⟨hkey, hkey'⟩ := List.forall_mem_cons.mp hk
    rw [List.foldl_cons, addEntry_property htruthy hkey, ih htruthy' hkey']
    rfl

/-- The classes of merged properties stand somewhere between the others. -/
theorem entries_finish (hn : n.IsNormal) (hclasses : n.classes ≠ []) :
    ∃ before after, n.properties.entries = before ++ after ∧
      n.finish.entries = before ++ ("className", .list n.classes) :: after := by
  have hfree : "className" ∉ n.properties.entries.map Prod.fst := by
    intro hmem
    obtain ⟨entry, hentry, hkey⟩ := List.mem_map.mp hmem
    have hno := hn.noClass entry hentry
    rw [hkey] at hno
    exact absurd hno (by decide)
  rw [finish, List.isEmpty_eq_false_iff.mpr hclasses, if_neg Bool.false_ne_true]
  exact SortedMap.exists_insertEntry_eq (.list n.classes) hfree

/-- **Merged properties are read as they have been written.** -/
theorem addLayer_finish (hn : n.IsNormal) (m : Merged) : m.addLayer n.finish = m.join n := by
  by_cases hempty : n.classes = []
  · have hfinish : n.finish = n.properties := by
      rw [finish, hempty]
      rfl
    rw [hfinish, addLayer, foldl_addEntry_properties hn.truthy hn.noClass, join, hempty]
    rfl
  · obtain ⟨before, after, hsplit, hfinish⟩ := entries_finish hn hempty
    obtain ⟨htbefore, htafter⟩ := List.forall_mem_append.mp (hsplit ▸ hn.truthy)
    obtain ⟨hkbefore, hkafter⟩ := List.forall_mem_append.mp (hsplit ▸ hn.noClass)
    have hclasses : ∀ m : Merged, m.addEntry ("className", .list n.classes)
        = { m with classes := n.classes.foldl addClass m.classes } := by
      intro m
      exact addEntry_classes rfl rfl
    rw [addLayer, hfinish, List.foldl_append, List.foldl_cons,
      foldl_addEntry_properties htbefore hkbefore, hclasses,
      foldl_addEntry_properties htafter hkafter, join, SortedMap.overlay, hsplit,
      List.foldl_append]

theorem join_empty (hn : n.IsNormal) : join {} n = n := by
  have hproperties : SortedMap.overlay SortedMap.empty n.properties = n.properties :=
    SortedMap.ofList_entries n.properties
  have hclasses : n.classes.foldl addClass [] = n.classes :=
    foldl_addClass_append hn.classes
  rw [join, hproperties, hclasses]

end Merged

/-! ## Properties of images -/

/-- Merging a layer into what it has been merged into changes nothing. -/
theorem mergeLayers_again (first : Option Properties) (added : Properties) :
    mergeLayers [some (mergeLayers [first, some added]), some added]
      = mergeLayers [first, some added] := by
  have hmerge : ∃ m : Merged, mergeLayers [first, some added] = m.finish ∧ m.IsNormal ∧
      m.addLayer added = m := by
    cases first with
    | none =>
      exact ⟨Merged.addLayer {} added, rfl, Merged.isNormal_empty.addLayer added,
        Merged.addLayer_addLayer _ added⟩
    | some first =>
      exact ⟨(Merged.addLayer {} first).addLayer added, rfl,
        (Merged.isNormal_empty.addLayer first).addLayer added, Merged.addLayer_addLayer _ added⟩
  obtain ⟨m, hm, hnormal, hadded⟩ := hmerge
  have hread : Merged.addLayer {} m.finish = m := by
    rw [Merged.addLayer_finish hnormal, Merged.join_empty hnormal]
  rw [hm]
  show ((Merged.addLayer {} m.finish).addLayer added).finish = m.finish
  rw [hread, hadded]

/-- **Giving an image the same properties a second time changes nothing.** -/
theorem addProperties_addProperties (properties : Option Properties) (image : Image) :
    (image.addProperties properties).addProperties properties = image.addProperties properties := by
  cases properties with
  | none => rfl
  | some added =>
    simp only [Image.addProperties, mergeLayers_again]

end MarkdownDirectives
