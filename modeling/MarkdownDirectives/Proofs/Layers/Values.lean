import MarkdownDirectives.Options
import MarkdownDirectives.Proofs.Layers.Reference

/-!
# The value of one key

A family merges a few layers: its own class, the properties of the options, a marker, and the
attributes that the author wrote and the family has no use for. Here it is said what each of them
has for a key, so that a merge is read key by key: of what the layers have, the last that counts.

* `get?_mergeLayers_property` — the value of a property is the last that counts
* `get?_mergeLayers_classLayer` — the class in front of them has no part in it
* `className_mergeLayers` — the class of the first layer comes first
* `className_stringLayer` — a property in front of the layers changes no class
* `get?_ownAttributes` — what the author's attributes say, those apart that the family reads
-/

namespace MarkdownDirectives

/-- The last of some values that counts. -/
def lastGiven (values : List (Option Property)) : Option Property :=
  ((values.filterMap id).filter Property.truthy).getLast?

/-- What a property source has for a key. -/
def sourceValue (source : Option PropertySource) (d : Directive) (key : String) : Option Property :=
  (resolveSource source d).bind (·.get? key)

/-- What a property of one name has for a key. -/
def namedValue (name : String) (value : Option String) (key : String) : Option Property :=
  if key = name then value.map .string else none

/-- What a directive's attributes have for a key, those apart that are read for something else. -/
def Directive.ownValue (d : Directive) (read : List String) (key : String) : Option Property :=
  if key ∈ read then none else (d.attribute? key).map .string

variable {key : String}

/-! ## Attributes -/

theorem Directive.given?_eq_some_iff {d : Directive} {value : String} :
    d.given? key = some value ↔ d.attribute? key = some value ∧ value ≠ "" := by
  simp [given?, Option.filter_eq_some_iff]

/-- Without a value an attribute is absent or empty. -/
theorem Directive.given?_eq_none_iff {d : Directive} :
    d.given? key = none ↔ ∀ value, d.attribute? key = some value → value = "" := by
  simp [given?, Option.filter_eq_none_iff]

/-! ## Layers -/

theorem get?_single (name : String) (value : Property) (key : String) :
    (Properties.single name value).get? key = if key = name then some value else none := by
  rw [Properties.single, SortedMap.get?_insert, SortedMap.get?_empty]

theorem get?_stringLayer (name value key : String) :
    (stringLayer name value).bind (·.get? key) = namedValue name (some value) key :=
  get?_single name (.string value) key

theorem get?_classLayer (name : String) (hkey : isClassKey key = false) :
    (classLayer name).bind (·.get? key) = none := by
  have hne : key ≠ "className" := by
    rintro rfl
    exact absurd hkey (by decide)
  rw [classLayer, Option.bind_some, get?_single, if_neg hne]

theorem get?_ownAttributes (d : Directive) (read : List String) (key : String) :
    ((d.attributes.without read).toProperties).get? key = d.ownValue read key := by
  rw [Attributes.toProperties, SortedMap.get?_mapValues, Attributes.without,
    SortedMap.get?_filterKeys, Directive.ownValue, Directive.attribute?]
  by_cases hread : key ∈ read
  · simp [hread]
  · simp [hread]

/-! ## Merges -/

theorem givenValues_eq (layers : List (Option Properties)) (key : String) :
    (givenValues layers key).getLast? = lastGiven (layers.map fun layer => layer.bind (·.get? key))
    := by
  rw [givenValues, lastGiven, List.filterMap_filterMap, List.filterMap_map]
  rfl

/-- **A property has the last value that counts.** -/
theorem get?_mergeLayers_property (hkey : isClassKey key = false)
    (layers : List (Option Properties)) :
    (mergeLayers layers).get? key
      = lastGiven (layers.map fun layer => layer.bind (·.get? key)) := by
  have hne : key ≠ "className" := by
    rintro rfl
    exact absurd hkey (by decide)
  rw [mergeLayers_eq, get?_finish, if_neg (by simp [hne]), Merged.get?_addLayers hkey,
    ← givenValues_eq]
  exact Option.or_none

/-- A class in front of the layers changes no property. -/
theorem get?_mergeLayers_classLayer (hkey : isClassKey key = false) (name : String)
    (layers : List (Option Properties)) :
    (mergeLayers (classLayer name :: layers)).get? key
      = lastGiven (layers.map fun layer => layer.bind (·.get? key)) := by
  rw [get?_mergeLayers_property hkey, List.map_cons, get?_classLayer name hkey]
  rfl

/-- An absent value does not count. -/
theorem lastGiven_single (value : Option Property) :
    lastGiven [value, none, none] = value.filter Property.truthy := by
  cases value with
  | none => rfl
  | some value => cases ht : value.truthy <;> simp [lastGiven, ht, Option.filter_some]

/-- **The class of the first layer is the first class.** -/
theorem className_mergeLayers {name : String} (hname : name.isEmpty = false)
    (layers : List (Option Properties)) :
    ∃ more, (mergeLayers (classLayer name :: layers)).get? "className"
      = some (.list (name :: more)) := by
  have hlayer : layerClassValues (Properties.single "className" (.list [name]))
      = [.list [name]] := by
    rw [layerClassValues, get?_single, get?_single]
    rfl
  have hvalues : classValues (classLayer name :: layers)
      = layerClassValues (Properties.single "className" (.list [name])) ++ classValues layers := rfl
  have hgiven : givenClasses (.list [name]) = [name] := by
    simp [givenClasses, hname]
  have hclasses : listedClasses (classLayer name :: layers)
      = (name :: (classValues layers).flatMap givenClasses).eraseDups := by
    rw [listedClasses, hvalues, hlayer, List.singleton_append, List.flatMap_cons, hgiven,
      List.singleton_append]
  rw [get?_className, hclasses, List.eraseDups_cons, if_neg (List.cons_ne_nil _ _)]
  exact ⟨_, rfl⟩

/-- A property that is no class has no part in the classes. -/
theorem listedClasses_stringLayer {name : String} (hname : isClassKey name = false)
    (value : String) (layers : List (Option Properties)) :
    listedClasses (stringLayer name value :: layers) = listedClasses layers := by
  have hne : "class" ≠ name ∧ "className" ≠ name := by
    constructor <;>
    · rintro rfl
      exact absurd hname (by decide)
  have hnone : layerClassValues (Properties.single name (.string value)) = [] := by
    rw [layerClassValues, get?_single, get?_single, if_neg hne.1, if_neg hne.2]
    rfl
  have hvalues : classValues (stringLayer name value :: layers)
      = layerClassValues (Properties.single name (.string value)) ++ classValues layers := rfl
  rw [listedClasses, hvalues, hnone, List.nil_append, listedClasses]

theorem className_stringLayer {name : String} (hname : isClassKey name = false)
    (value : String) (layers : List (Option Properties)) :
    (mergeLayers (stringLayer name value :: layers)).get? "className"
      = (mergeLayers layers).get? "className" := by
  rw [get?_className, get?_className, listedClasses_stringLayer hname]

end MarkdownDirectives
