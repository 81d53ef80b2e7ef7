import MarkdownDirectives.Markup
import MarkdownDirectives.Proofs.Text.ByteOrder

/-!
# The element of an unknown name

An attribute sets one property or none (`genericProperty?`), and the attributes are taken in the
order of their keys, so a property has the value that the greatest of the keys that set it gives
it. A class list without words sets nothing and is passed over.

`Element.IsGeneric` says property by property what the element of a name and its attributes is.
Main statements: `get?_generic_of_isGreatest`, `Element.generic_reference`.
-/

namespace MarkdownDirectives

/-! ## The greatest key -/

namespace SortedMap

section Greatest

variable {α : Type} {m : SortedMap α} {p : String → α → Prop} {key : String} {value : α}

/-- The key is the greatest, in the order of bytes, of those whose entries satisfy `p`. -/
structure IsGreatest (m : SortedMap α) (p : String → α → Prop) (key : String) (value : α) :
    Prop where
  get? : m.get? key = some value
  holds : p key value
  le : ∀ key' value', m.get? key' = some value' → p key' value' → Text.bytes key' ≤ Text.bytes key

/-- The entry of the greatest key is the last one that satisfies `p`. -/
theorem isGreatest_iff : m.IsGreatest p key value ↔
    p key value ∧ ∃ before after, m.entries = before ++ (key, value) :: after ∧
      ∀ entry ∈ after, ¬ p entry.1 entry.2 := by
  constructor
  · intro h
    obtain ⟨before, after, hsplit⟩ := List.append_of_mem (mem_entries_of_get? h.get?)
    refine ⟨h.holds, before, after, hsplit, fun entry hentry hp => ?_⟩
    have hmem : entry ∈ m.entries := by simp [hsplit, hentry]
    have hle := Text.bytes_le_iff.mp (h.le entry.1 entry.2 (get?_eq_some_iff.mpr hmem) hp)
    exact hle ((lt_of_split hsplit).2 entry hentry)
  · rintro ⟨hp, before, after, hsplit, hafter⟩
    refine ⟨get?_eq_some_iff.mpr (by simp [hsplit]), hp, fun key' value' hget hp' => ?_⟩
    have hmem := mem_entries_of_get? hget
    rw [hsplit, List.mem_append, List.mem_cons] at hmem
    rw [Text.bytes_le_iff]
    rcases hmem with hbefore | heq | hafter'
    · exact String.lt_asymm ((lt_of_split hsplit).1 _ hbefore)
    · cases heq
      exact String.lt_irrefl _
    · exact absurd hp' (hafter _ hafter')

/-- Of the keys whose entries satisfy `p` one is the greatest. -/
theorem exists_isGreatest (hget : m.get? key = some value) (hp : p key value) :
    ∃ key value, m.IsGreatest p key value := by
  classical
  obtain ⟨entry, hlast⟩ : ∃ entry, m.entries.reverse.find? (fun e => p e.1 e.2) = some entry := by
    rw [← Option.isSome_iff_exists, List.find?_isSome]
    exact ⟨(key, value), List.mem_reverse.mpr (mem_entries_of_get? hget), decide_eq_true hp⟩
  obtain ⟨hentry, after, before, hsplit, hafter⟩ := List.find?_eq_some_iff_append.mp hlast
  refine ⟨entry.1, entry.2, isGreatest_iff.mpr ⟨of_decide_eq_true hentry, before.reverse,
    after.reverse, ?_, fun e he => ?_⟩⟩
  · rw [← List.reverse_reverse m.entries, hsplit]
    simp
  · simpa using hafter e (List.mem_reverse.mp he)

theorem IsGreatest.congr {q : String → α → Prop} (h : m.IsGreatest p key value)
    (heq : ∀ key value, p key value ↔ q key value) : m.IsGreatest q key value where
  get? := h.get?
  holds := (heq _ _).mp h.holds
  le key' value' hget hq := h.le key' value' hget ((heq _ _).mpr hq)

end Greatest

end SortedMap

/-! ## The property of an attribute -/

/-- The property that an attribute sets, unless it is a class list without words. -/
def genericProperty? (entry : String × String) : Option (String × Property) :=
  let key := Text.lowercase entry.1
  if isClassName key then
    match Text.wordList entry.2 with
    | [] => none
    | classes => some ("className", .list classes)
  else some (key, genericValue key entry.2)

theorem addGeneric_eq (properties : Properties) (entry : String × String) :
    addGeneric properties entry
      = match genericProperty? entry with
        | some set => properties.insert set.1 set.2
        | none => properties := by
  unfold addGeneric genericProperty?
  dsimp only
  by_cases hclass : isClassName (Text.lowercase entry.1) = true
  · rw [if_pos hclass, if_pos hclass]
    cases Text.wordList entry.2 <;> rfl
  · rw [if_neg hclass, if_neg hclass]

/-- The properties are those that the attributes set, in the order of their keys. -/
theorem generic_properties (name : String) (attributes : Attributes) :
    (Element.generic name attributes).properties
      = SortedMap.ofList (attributes.entries.filterMap genericProperty?) := by
  have hfold (entries : List (String × String)) (properties : Properties) :
      entries.foldl addGeneric properties
        = (entries.filterMap genericProperty?).foldl (fun m e => m.insert e.1 e.2) properties := by
    induction entries generalizing properties with
    | nil => rfl
    | cons entry rest ih =>
      rw [List.foldl_cons, addGeneric_eq, ih, List.filterMap_cons]
      cases genericProperty? entry <;> rfl
  exact hfold attributes.entries SortedMap.empty

section Attribute

variable {key value k : String} {v : Property}

/-- The attribute lists classes: it has one of the two names, in any case, and is not blank. -/
def ListsClasses (key value : String) : Prop :=
  (Text.lowercase key = "class" ∨ Text.lowercase key = "classname") ∧
    ∃ c ∈ value.toList, Text.isBlank c = false

/-- What an attribute that lists no classes sets: a flag, or the text. -/
def givenProperty (key value : String) : Property :=
  if key ∈ booleanAttributes ∧ (value = "" ∨ Text.lowercase value = Text.lowercase key) then
    .bool true
  else .string value

theorem isClassName_iff : isClassName key = true ↔ key = "class" ∨ key = "classname" := by
  simp [isClassName]

theorem wordList_eq_nil_iff {text : String} :
    Text.wordList text = [] ↔ ∀ c ∈ text.toList, Text.isBlank c = true := by
  rw [Text.wordList, List.map_eq_nil_iff, Text.words_eq_nil_iff, Text.blank, List.all_eq_true]

theorem exists_visible_iff {text : String} :
    (∃ c ∈ text.toList, Text.isBlank c = false) ↔ Text.wordList text ≠ [] := by
  rw [Ne, wordList_eq_nil_iff]
  simp

theorem genericValue_eq (h : Text.lowercase key = key) :
    genericValue key value = givenProperty key value := by
  rw [genericValue, givenProperty, h]
  simp

/-- **What an attribute sets:** the classes, or the property of its name in lower case. -/
theorem genericProperty?_eq_some_iff : genericProperty? (key, value) = some (k, v) ↔
    k = "className" ∧ ListsClasses key value ∧ v = .list (Text.wordList value) ∨
      isClassName k = false ∧ Text.lowercase key = k ∧ v = givenProperty k value := by
  unfold genericProperty? ListsClasses
  rw [← isClassName_iff, exists_visible_iff]
  dsimp only
  cases hclass : isClassName (Text.lowercase key) with
  | true =>
    rw [if_pos rfl]
    constructor
    · intro h
      split at h
      · cases h
      · next hwords =>
        cases h
        exact Or.inl ⟨rfl, ⟨rfl, hwords⟩, rfl⟩
    · rintro (⟨rfl, ⟨-, hwords⟩, rfl⟩ | ⟨hk, rfl, -⟩)
      · split
        · next h => exact absurd h hwords
        · rfl
      · rw [hclass] at hk
        cases hk
  | false =>
    rw [if_neg Bool.false_ne_true]
    constructor
    · intro h
      cases h
      exact Or.inr ⟨hclass, rfl, genericValue_eq (Text.lowercase_lowercase key)⟩
    · rintro (⟨-, ⟨h, -⟩, -⟩ | ⟨-, rfl, rfl⟩)
      · cases h
      · rw [genericValue_eq (Text.lowercase_lowercase key)]

end Attribute

/-! ## The properties of the element -/

section Properties

variable {name : String} {attributes : Attributes} {key value k : String} {v : Property}

/-- Some attribute sets a property that is there. -/
theorem exists_of_get?_generic (h : (Element.generic name attributes).properties.get? k = some v) :
    ∃ key value, attributes.get? key = some value ∧
      genericProperty? (key, value) = some (k, v) := by
  rw [generic_properties, SortedMap.get?_ofList] at h
  obtain ⟨before, after, hsplit, -⟩ := List.lookup_eq_some_iff.mp h
  have hmem : (k, v) ∈ attributes.entries.filterMap genericProperty? :=
    List.mem_reverse.mp (by simp [hsplit])
  obtain ⟨entry, hentry, hset⟩ := List.mem_filterMap.mp hmem
  exact ⟨entry.1, entry.2, SortedMap.get?_eq_some_iff.mpr hentry, hset⟩

/-- The greatest of the keys that set a property gives it its value. -/
theorem get?_generic_of_isGreatest
    (h : attributes.IsGreatest
      (fun key value => ∃ v, genericProperty? (key, value) = some (k, v)) key value)
    (hset : genericProperty? (key, value) = some (k, v)) :
    (Element.generic name attributes).properties.get? k = some v := by
  obtain ⟨-, before, after, hsplit, hafter⟩ := SortedMap.isGreatest_iff.mp h
  rw [generic_properties, SortedMap.get?_ofList, hsplit, List.filterMap_append,
    List.filterMap_cons_some hset, List.reverse_append, List.reverse_cons, List.append_assoc,
    List.singleton_append]
  refine List.lookup_eq_some_iff.mpr ⟨_, _, rfl, fun set hlater => bne_iff_ne.mpr ?_⟩
  rintro rfl
  obtain ⟨entry, hentry, hset⟩ := List.mem_filterMap.mp (List.mem_reverse.mp hlater)
  exact hafter entry hentry ⟨set.2, hset⟩

/-- A value is there exactly when some attribute satisfies `p`, and it is what `f` makes of the
attribute with the greatest such key. -/
structure IsSetBy (attributes : Attributes) (p : String → String → Prop) (f : String → Property)
    (value? : Option Property) : Prop where
  isSome_iff : value?.isSome = true ↔ ∃ key value, attributes.get? key = some value ∧ p key value
  eq : ∀ {key value}, attributes.IsGreatest p key value → value? = some (f value)

theorem IsSetBy.unique {p : String → String → Prop} {f : String → Property}
    {value? value?' : Option Property} (h : IsSetBy attributes p f value?)
    (h' : IsSetBy attributes p f value?') : value? = value?' := by
  by_cases hset : ∃ key value, attributes.get? key = some value ∧ p key value
  · obtain ⟨key, value, hget, hp⟩ := hset
    obtain ⟨key, value, hgreatest⟩ := SortedMap.exists_isGreatest hget hp
    rw [h.eq hgreatest, h'.eq hgreatest]
  · have hnone := mt h.isSome_iff.mp hset
    have hnone' := mt h'.isSome_iff.mp hset
    rw [Option.not_isSome_iff_eq_none] at hnone hnone'
    rw [hnone, hnone']

theorem isSetBy_generic {p : String → String → Prop} {f : String → Property}
    (h : ∀ {key value v}, genericProperty? (key, value) = some (k, v) ↔ p key value ∧ v = f value) :
    IsSetBy attributes p f ((Element.generic name attributes).properties.get? k) := by
  have hp {key value : String} :
      p key value ↔ ∃ v, genericProperty? (key, value) = some (k, v) := by
    simp [h]
  have heq {key value : String} (hgreatest : attributes.IsGreatest p key value) :
      (Element.generic name attributes).properties.get? k = some (f value) :=
    get?_generic_of_isGreatest (hgreatest.congr fun _ _ => hp) (h.mpr ⟨hgreatest.holds, rfl⟩)
  refine ⟨⟨fun hsome => ?_, ?_⟩, heq⟩
  · obtain ⟨v, hget⟩ := Option.isSome_iff_exists.mp hsome
    obtain ⟨key, value, hthere, hset⟩ := exists_of_get?_generic hget
    exact ⟨key, value, hthere, hp.mpr ⟨v, hset⟩⟩
  · rintro ⟨key, value, hthere, hholds⟩
    obtain ⟨key, value, hgreatest⟩ := SortedMap.exists_isGreatest hthere hholds
    rw [heq hgreatest, Option.isSome_some]

/-- Neither name of the class list is a property. -/
theorem get?_generic_of_isClassName (hclass : isClassName k = true) :
    (Element.generic name attributes).properties.get? k = none := by
  refine Option.eq_none_iff_forall_ne_some.mpr fun v hget => ?_
  obtain ⟨key, value, -, hset⟩ := exists_of_get?_generic hget
  rcases genericProperty?_eq_some_iff.mp hset with ⟨rfl, -⟩ | ⟨hother, -⟩
  · revert hclass
    decide
  · rw [hclass] at hother
    cases hother

theorem lowercase_ne_className : Text.lowercase key ≠ "className" := by
  intro h
  have hlower := Text.lowercase_lowercase key
  rw [h] at hlower
  revert hlower
  decide

end Properties

/-! ## The reference -/

/-- What the element of a name and its attributes is, one property at a time. -/
structure Element.IsGeneric (name : String) (attributes : Attributes) (element : Element) :
    Prop where
  tagName : element.tagName = Text.lowercase name
  children : element.children = []
  className : IsSetBy attributes ListsClasses (fun value => .list (Text.wordList value))
    (element.properties.get? "className")
  noClass : element.properties.get? "class" = none
  noClassname : element.properties.get? "classname" = none
  other : ∀ k ∉ ["className", "class", "classname"],
    IsSetBy attributes (fun key _ => Text.lowercase key = k) (givenProperty k)
      (element.properties.get? k)

theorem isGeneric_generic (name : String) (attributes : Attributes) :
    (Element.generic name attributes).IsGeneric name attributes where
  tagName := rfl
  children := rfl
  className := isSetBy_generic <| by
    simp [genericProperty?_eq_some_iff, lowercase_ne_className]
  noClass := get?_generic_of_isClassName rfl
  noClassname := get?_generic_of_isClassName rfl
  other k hk := by
    simp only [List.mem_cons, List.not_mem_nil, or_false, not_or] at hk
    have hclass : isClassName k = false := by simp [isClassName, hk]
    exact isSetBy_generic (by simp [genericProperty?_eq_some_iff, hk.1, hclass])

theorem Element.IsGeneric.unique {name : String} {attributes : Attributes}
    {element element' : Element} (h : element.IsGeneric name attributes)
    (h' : element'.IsGeneric name attributes) : element = element' := by
  have hproperties : element.properties = element'.properties := by
    refine SortedMap.eq_of_get? fun k => ?_
    by_cases hk : k ∈ ["className", "class", "classname"]
    · simp only [List.mem_cons, List.not_mem_nil, or_false] at hk
      rcases hk with rfl | rfl | rfl
      · exact h.className.unique h'.className
      · rw [h.noClass, h'.noClass]
      · rw [h.noClassname, h'.noClassname]
    · exact (h.other k hk).unique (h'.other k hk)
  cases element
  cases element'
  rw [Element.mk.injEq]
  exact ⟨h.tagName.trans h'.tagName.symm, hproperties, h.children.trans h'.children.symm⟩

/-! ## Keys in lower case -/

section Lower

variable {name : String} {attributes : Attributes} {key value k : String}

/-- What becomes of an attribute whose key is in lower case. Only a class list can be lost: when
it is blank, or when the other name has one. -/
inductive Element.Keeps (element : Element) (attributes : Attributes) : String → String → Prop
  | property {key value : String} (hclass : isClassName key = false)
      (h : element.properties.get? key = some (givenProperty key value)) :
      Keeps element attributes key value
  | classes {key value : String} (hclass : isClassName key = true)
      (h : element.properties.get? "className" = some (.list (Text.wordList value))) :
      Keeps element attributes key value
  | blank {key value : String} (hclass : isClassName key = true)
      (h : ∀ c ∈ value.toList, Text.isBlank c = true) : Keeps element attributes key value
  | covered {value other : String} (hget : attributes.get? "classname" = some other)
      (hother : ∃ c ∈ other.toList, Text.isBlank c = false)
      (h : element.properties.get? "className" = some (.list (Text.wordList other))) :
      Keeps element attributes "class" value

/-- A property other than the classes has a name without upper case. -/
theorem isUpper_of_mem_generic {c : Char}
    (h : (Element.generic name attributes).properties.contains k = true) (hk : k ≠ "className")
    (hc : c ∈ k.toList) : c.isUpper = false := by
  obtain ⟨v, hget⟩ := Option.isSome_iff_exists.mp h
  obtain ⟨key, value, -, hset⟩ := exists_of_get?_generic hget
  rcases genericProperty?_eq_some_iff.mp hset with ⟨hclass, -⟩ | ⟨-, rfl, -⟩
  · exact absurd hclass hk
  · exact Text.isUpper_of_mem_lowercase hc

theorem keeps_generic (hlower : ∀ key ∈ attributes.keys, Text.lowercase key = key)
    (hget : attributes.get? key = some value) :
    (Element.generic name attributes).Keeps attributes key value := by
  have hkey {key value : String} (hget : attributes.get? key = some value) :
      Text.lowercase key = key :=
    hlower key (List.mem_map_of_mem (SortedMap.mem_entries_of_get? hget))
  have hgeneric := isGeneric_generic name attributes
  cases hclass : isClassName key with
  | false =>
    have hother : key ∉ ["className", "class", "classname"] := by
      have hne : key ≠ "className" := hkey hget ▸ lowercase_ne_className
      simpa [isClassName, hne] using hclass
    have hgreatest : attributes.IsGreatest (fun key' _ => Text.lowercase key' = key) key value := by
      refine ⟨hget, hkey hget, fun key' value' hget' heq => ?_⟩
      rw [← heq, hkey hget']
      exact List.le_refl _
    exact .property hclass ((hgeneric.other key hother).eq hgreatest)
  | true =>
    by_cases hvisible : ∃ c ∈ value.toList, Text.isBlank c = false
    · have hlists : ListsClasses key value := by
        refine ⟨isClassName_iff.mp ?_, hvisible⟩
        rwa [hkey hget]
      obtain ⟨greatest, other, hgreatest⟩ := SortedMap.exists_isGreatest hget hlists
      have hwords := hgeneric.className.eq hgreatest
      have hle := Text.bytes_le_iff.mp (hgreatest.le key value hget hlists)
      have hname := hgreatest.holds.1
      rw [hkey hgreatest.get?] at hname
      -- of the two names `classname` is the greater one
      rcases isClassName_iff.mp hclass with rfl | rfl <;> rcases hname with rfl | rfl
      · exact .classes hclass (Option.some.inj (hget.symm.trans hgreatest.get?) ▸ hwords)
      · exact .covered hgreatest.get? hgreatest.holds.2 hwords
      · exact absurd hle (by decide)
      · exact .classes hclass (Option.some.inj (hget.symm.trans hgreatest.get?) ▸ hwords)
    · exact .blank hclass (by simpa using hvisible)

end Lower

/--
**The element of an unknown name, property by property.**

The element is the only one that the reference describes. But for the classes no property name has
a letter in upper case, and of attributes whose keys are in lower case only class lists are lost.
-/
theorem Element.generic_reference (name : String) (attributes : Attributes) :
    (∀ element : Element,
      element = Element.generic name attributes ↔ element.IsGeneric name attributes) ∧
    (∀ k, (Element.generic name attributes).properties.contains k = true → k ≠ "className" →
      ∀ c ∈ k.toList, c.isUpper = false) ∧
    ((∀ key ∈ attributes.keys, Text.lowercase key = key) →
      ∀ key value, attributes.get? key = some value →
        (Element.generic name attributes).Keeps attributes key value) := by
  refine ⟨fun element => ⟨?_, fun h => h.unique (isGeneric_generic name attributes)⟩,
    fun k h hk c => isUpper_of_mem_generic h hk, fun hlower key value => keeps_generic hlower⟩
  rintro rfl
  exact isGeneric_generic name attributes

/-! ### Several spellings -/

/-- Both names of the class list and a flag, each in several spellings. -/
def asideAttributes : Attributes :=
  .ofList [("CLASS", "wide"), ("HIDDEN", ""), ("Hidden", "later"), ("class", "note tip"),
    ("classname", " ")]

/-- Both names of the class list and a flag, in lower case. -/
def detailsAttributes : Attributes :=
  .ofList [("class", "note"), ("classname", "tip"), ("open", "")]

/-- A blank class list leaves the one before it in force, and a flag that is text replaces the one
that was set. In lower case the flag is kept, and the first class list is not. -/
theorem generic_reference_spellings :
    (Element.generic "Aside" asideAttributes).IsGeneric "Aside" asideAttributes ∧
      (Element.generic "Aside" asideAttributes).properties.get? "className"
        = some (.list ["note", "tip"]) ∧
      (Element.generic "Aside" asideAttributes).properties.get? "hidden"
        = some (.string "later") ∧
      (∀ key ∈ detailsAttributes.keys, Text.lowercase key = key) ∧
      (Element.generic "details" detailsAttributes).Keeps detailsAttributes "class" "note" := by
  have haside := ((Element.generic_reference "Aside" asideAttributes).1 _).mp rfl
  have hclasses : asideAttributes.IsGreatest ListsClasses "class" "note tip" := by
    refine SortedMap.isGreatest_iff.mpr ⟨⟨by decide, 'n', by decide, by decide⟩,
      [("CLASS", "wide"), ("HIDDEN", ""), ("Hidden", "later")], [("classname", " ")],
      by decide, ?_⟩
    rintro entry hentry ⟨-, c, hc, hvisible⟩
    rw [List.mem_singleton.mp hentry] at hc
    obtain rfl : c = ' ' := by simpa using hc
    exact absurd hvisible (by decide)
  have hflag : asideAttributes.IsGreatest (fun key _ => Text.lowercase key = "hidden") "Hidden"
      "later" :=
    SortedMap.isGreatest_iff.mpr ⟨by decide, [("CLASS", "wide"), ("HIDDEN", "")],
      [("class", "note tip"), ("classname", " ")], by decide, by decide⟩
  have hlower : ∀ key ∈ detailsAttributes.keys, Text.lowercase key = key := by decide
  exact ⟨haside, haside.className.eq hclasses,
    (haside.other "hidden" (by decide)).eq hflag, hlower,
    (Element.generic_reference "details" detailsAttributes).2.2 hlower "class" "note" (by decide)⟩

end MarkdownDirectives
