import MarkdownDirectives.Proofs.Layers.Merging

/-!
# Merging in groups

Some neighbouring layers can be merged first and stand as one layer among the others: the outcome
is the same (`mergeLayers_grouped`). What a group amounts to is read as it has been written, so
the question is whether it matters that the entries of the group meet each other before they meet
those of the layers below. It does not: an entry that goes into the group and then on top of the
layers below goes on top of both (`join_addEntry`).

## Groups in groups

`Grouping` is a layer or a group of groupings. `mergeLayers_layersList` is the same statement for
groups at any depth, by an induction that follows the grouping.
-/

namespace MarkdownDirectives

/-! ## Classes -/

theorem foldl_addClass_addClass (lower upper : List String) (token : String) :
    (addClass upper token).foldl addClass lower = addClass (upper.foldl addClass lower) token := by
  by_cases h : token.isEmpty = true ∨ token ∈ upper
  · rw [addClass_of_mem h]
    -- a class of the upper list is in the outcome by then
    have hboth : token.isEmpty = true ∨ token ∈ upper.foldl addClass lower := by
      cases hempty : token.isEmpty with
      | true => exact Or.inl rfl
      | false => exact Or.inr (mem_foldl_addClass (h.resolve_left (by simp [hempty])) hempty)
    rw [addClass_of_mem hboth]
  · rw [not_or, Bool.not_eq_true] at h
    rw [addClass_of_not_mem h.1 h.2, List.foldl_append, List.foldl_cons, List.foldl_nil]

/-- Classes that are collected apart are collected in the same order. -/
theorem foldl_addClass_foldl (lower upper tokens : List String) :
    (tokens.foldl addClass upper).foldl addClass lower
      = tokens.foldl addClass (upper.foldl addClass lower) := by
  induction tokens generalizing upper with
  | nil => rfl
  | cons token rest ih => rw [List.foldl_cons, ih, foldl_addClass_addClass, List.foldl_cons]

namespace Merged

variable {m n : Merged}

/-! ## On top of other layers -/

theorem join_nothing (m : Merged) : m.join {} = m := rfl

/-- An entry on top of two joined parts is one on top of the upper part. -/
theorem join_addEntry (m n : Merged) (entry : String × Property) :
    (m.join n).addEntry entry = m.join (n.addEntry entry) := by
  cases ht : entry.2.truthy with
  | false => rw [addEntry_untruthy ht, addEntry_untruthy ht]
  | true =>
    cases hk : isClassKey entry.1 with
    | true =>
      rw [addEntry_classes ht hk, addEntry_classes ht hk]
      simp only [join, foldl_addClass_foldl]
    | false =>
      rw [addEntry_property ht hk, addEntry_property ht hk]
      simp only [join, SortedMap.overlay_insert]

theorem join_addLayer (m n : Merged) (layer : Properties) :
    (m.join n).addLayer layer = m.join (n.addLayer layer) := by
  unfold addLayer
  generalize layer.entries = entries
  induction entries generalizing n with
  | nil => rfl
  | cons entry rest ih => rw [List.foldl_cons, List.foldl_cons, join_addEntry, ih]

/-- Adds layers that may be absent, one after the other. -/
def addLayers (m : Merged) (layers : List (Option Properties)) : Merged :=
  (layers.filterMap id).foldl addLayer m

theorem addLayers_nil (m : Merged) : m.addLayers [] = m := rfl

theorem addLayers_none (m : Merged) (rest : List (Option Properties)) :
    m.addLayers (none :: rest) = m.addLayers rest := rfl

theorem addLayers_some (m : Merged) (layer : Properties) (rest : List (Option Properties)) :
    m.addLayers (some layer :: rest) = (m.addLayer layer).addLayers rest := rfl

theorem addLayers_append (m : Merged) (first second : List (Option Properties)) :
    m.addLayers (first ++ second) = (m.addLayers first).addLayers second := by
  rw [addLayers, List.filterMap_append, List.foldl_append]
  rfl

theorem join_addLayers (m n : Merged) (layers : List (Option Properties)) :
    (m.join n).addLayers layers = m.join (n.addLayers layers) := by
  induction layers generalizing n with
  | nil => rfl
  | cons layer rest ih =>
    cases layer with
    | none => rw [addLayers_none, addLayers_none, ih]
    | some layer => rw [addLayers_some, addLayers_some, join_addLayer, ih]

theorem IsNormal.addLayers (h : m.IsNormal) (layers : List (Option Properties)) :
    (m.addLayers layers).IsNormal := by
  induction layers generalizing m with
  | nil => exact h
  | cons layer rest ih =>
    cases layer with
    | none => exact ih h
    | some layer => exact ih (h.addLayer layer)

/-! ## A group as one layer -/

/-- **Merged layers are added as the layers are.** -/
theorem addLayers_mergeLayers (m : Merged) (group : List (Option Properties)) :
    m.addLayers [some (mergeLayers group)] = m.addLayers group :=
  calc m.addLayers [some (mergeLayers group)]
      = m.addLayer (addLayers {} group).finish := rfl
    _ = m.join (addLayers {} group) := addLayer_finish (isNormal_empty.addLayers group) m
    _ = (m.join {}).addLayers group := (join_addLayers m {} group).symm
    _ = m.addLayers group := by rw [join_nothing]

end Merged

/-! ## Groups in groups -/

/-- Layers with some of them put together. -/
inductive Grouping where
  | layer (properties : Option Properties)
  | group (parts : List Grouping)

namespace Grouping

mutual

/-- The layers of a grouping in order. -/
def layers : Grouping → List (Option Properties)
  | .layer properties => [properties]
  | .group parts => layersList parts

/-- The layers of groupings one after the other. -/
def layersList : List Grouping → List (Option Properties)
  | [] => []
  | part :: rest => layers part ++ layersList rest

end

mutual

/-- A grouping as one layer, inner groups merged first. -/
def merged : Grouping → Option Properties
  | .layer properties => properties
  | .group parts => some (mergeLayers (mergedList parts))

/-- Groupings as one layer each. -/
def mergedList : List Grouping → List (Option Properties)
  | [] => []
  | part :: rest => merged part :: mergedList rest

end

mutual

theorem addLayers_merged : ∀ (part : Grouping) (m : Merged),
    m.addLayers [merged part] = m.addLayers (layers part)
  | .layer _, _ => by rw [merged, layers]
  | .group parts, m => by
    rw [merged, layers, Merged.addLayers_mergeLayers, addLayers_mergedList parts]

theorem addLayers_mergedList : ∀ (parts : List Grouping) (m : Merged),
    m.addLayers (mergedList parts) = m.addLayers (layersList parts)
  | [], _ => rfl
  | part :: rest, m => by
    rw [mergedList, layersList, ← List.singleton_append, Merged.addLayers_append,
      Merged.addLayers_append, addLayers_merged part, addLayers_mergedList rest]

end

/-- **Layers can be merged in groups, and the groups in groups.** -/
theorem mergeLayers_mergedList (parts : List Grouping) :
    mergeLayers (mergedList parts) = mergeLayers (layersList parts) :=
  congrArg Merged.finish (addLayers_mergedList parts {})

end Grouping

/--
**Neighbouring layers can be merged first.** So merging merged properties changes nothing, absent
and empty layers count for nothing, and any grouping of the layers gives the same outcome.
-/
theorem mergeLayers_grouped :
    (∀ below group above : List (Option Properties),
      mergeLayers (below ++ group ++ above)
        = mergeLayers (below ++ [some (mergeLayers group)] ++ above)) ∧
    (∀ layers : List (Option Properties),
      mergeLayers [some (mergeLayers layers)] = mergeLayers layers) ∧
    (∀ below above : List (Option Properties),
      mergeLayers (below ++ [none] ++ above) = mergeLayers (below ++ above) ∧
        mergeLayers (below ++ [some SortedMap.empty] ++ above) = mergeLayers (below ++ above)) ∧
    ∀ parts : List Grouping,
      mergeLayers (Grouping.mergedList parts) = mergeLayers (Grouping.layersList parts) := by
  have hgroup (below group above : List (Option Properties)) :
      mergeLayers (below ++ group ++ above)
        = mergeLayers (below ++ [some (mergeLayers group)] ++ above) := by
    refine congrArg Merged.finish ?_
    change Merged.addLayers {} _ = Merged.addLayers {} _
    simp only [Merged.addLayers_append, Merged.addLayers_mergeLayers]
  refine ⟨hgroup, fun layers => ?_, fun below above => ⟨?_, ?_⟩,
    Grouping.mergeLayers_mergedList⟩
  · have halone := hgroup [] layers []
    rw [List.append_nil, List.append_nil, List.nil_append, List.nil_append] at halone
    exact halone.symm
  · refine congrArg Merged.finish ?_
    change Merged.addLayers {} _ = Merged.addLayers {} _
    rw [Merged.addLayers_append, Merged.addLayers_append, Merged.addLayers_append,
      Merged.addLayers_none, Merged.addLayers_nil]
  · -- an empty layer is what no layers are merged into
    have hempty := hgroup below [] above
    rw [List.append_nil] at hempty
    exact hempty.symm

/-- Two groups, one of them in the other, with classes under both keys. -/
example :
    mergeLayers [some (mergeLayers [some (.single "class" (.string "b a")),
        some (mergeLayers [none, some (.single "className" (.list ["c", "a", ""]))])]),
      some (.single "title" (.string ""))]
      = .single "className" (.list ["b", "a", "c"]) := by
  decide

end MarkdownDirectives
