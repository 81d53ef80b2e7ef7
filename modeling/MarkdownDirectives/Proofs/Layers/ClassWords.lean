import Mathlib.Data.List.Basic
import Mathlib.Data.List.Induction
import MarkdownDirectives.Proofs.Layers.Reference

/-!
# Merged classes as an attribute

The classes of a merge are written as one attribute, with a space between any two, and whoever
reads the attribute cuts it at white space. A class that is an item of a list is kept as it is,
white space included, while a string is cut into its words. So what is read back are the words that
the layers give, in the order in which they come first, but an item of several words can bring one
of them in again, and an item of nothing but white space is a class without a word.

* `Text.wordList_intercalate` — the words of texts with spaces between them
* `writtenWords_mergeLayers` — the words that are read back, and when each of them stands once
* `writtenWords_repeats` — an item of two words

## Dropping what comes again

Cutting classes into words after dropping those that come again leaves the same words as cutting
first, once the words that come again are dropped too. Words are collected like classes, so this is
`foldl_addClass_flatMap`: a class that has come before brings in no new word.
-/

namespace MarkdownDirectives

namespace Text

/-! ## Words between spaces -/

theorem words_append_space (front behind : List Char) :
    words (front ++ ' ' :: behind) = words front ++ words behind := by
  have hspace (rest : List Char) : words (' ' :: rest) = words rest := by
    rw [words, wordsBy, if_pos (by decide)]
    rfl
  induction front with
  | nil => exact hspace behind
  | cons c rest ih =>
    rw [List.cons_append, words, wordsBy, words, wordsBy, ← words, ← words, ih]
    by_cases hblank : isBlank c = true
    · rw [if_pos hblank, if_pos hblank]
    · rw [if_neg hblank, if_neg hblank]
      cases rest with
      | nil => rfl
      | cons d more =>
        rw [List.cons_append, List.head?_cons, List.head?_cons, Option.all_some]
        by_cases hd : isBlank d = true
        · rw [if_pos hd, if_pos hd, List.cons_append]
        · -- the word that `c` is put in front of does not reach the space
          rw [if_neg hd, if_neg hd]
          have hwords : words (d :: more) ≠ [] := by
            rw [Ne, words_eq_nil_iff, blank, List.all_cons, Bool.and_eq_true]
            exact fun h => hd h.1
          obtain ⟨word, words, heq⟩ := List.exists_cons_of_ne_nil hwords
          rw [heq]
          rfl

theorem wordList_intercalate (items : List String) :
    wordList (" ".intercalate items) = items.flatMap wordList := by
  have hspace : " ".toList = [' '] := rfl
  rw [wordList, String.toList_intercalate, hspace]
  induction items with
  | nil => rfl
  | cons item rest ih =>
    cases rest with
    | nil => simp [wordList]
    | cons next more =>
      rw [List.map_cons, List.map_cons, List.intercalate_cons_cons, List.append_assoc,
        List.singleton_append, words_append_space, List.map_append, ← List.map_cons, ih,
        List.flatMap_cons]
      rfl

/-- A text without white space is one word. -/
theorem words_of_visible {cs : List Char} (hne : cs ≠ []) (h : ∀ c ∈ cs, isBlank c = false) :
    words cs = [cs] := by
  induction cs with
  | nil => exact absurd rfl hne
  | cons c rest ih =>
    obtain ⟨hc, hrest⟩ := List.forall_mem_cons.mp h
    rw [words, wordsBy, if_neg (by simp [hc]), ← words]
    cases rest with
    | nil => rfl
    | cons d more =>
      have hd : isBlank d = false := hrest d List.mem_cons_self
      rw [List.head?_cons, Option.all_some, if_neg (by simp [hd]), ih (by simp) hrest]

theorem wordList_of_visible {word : String} (hne : word.isEmpty = false)
    (h : ∀ c ∈ word.toList, isBlank c = false) : wordList word = [word] := by
  have hnil : word.toList ≠ [] := by simpa using hne
  rw [wordList, words_of_visible hnil h, List.map_singleton, String.ofList_toList]

/-- The words of a text have no words but themselves. -/
theorem wordList_of_mem {text word : String} (h : word ∈ wordList text) :
    wordList word = [word] := by
  obtain ⟨cs, hcs, rfl⟩ := List.mem_map.mp h
  obtain ⟨hne, hvisible⟩ := wordsBy_clean cs hcs
  refine wordList_of_visible (by simpa using hne) ?_
  rwa [String.toList_ofList]

theorem isEmpty_of_mem_wordList {text word : String} (h : word ∈ wordList text) :
    word.isEmpty = false := by
  obtain ⟨cs, hcs, rfl⟩ := List.mem_map.mp h
  simpa using (wordsBy_clean cs hcs).1

end Text

open Text

/-! ## What is given and what is written -/

/-- The words of the classes that a value gives. -/
def classWords : Property → List String
  | .string text => wordList text
  | .list items => items.flatMap wordList
  | .bool _ | .int _ => []

/-- The words of the classes that the layers give, in their order. -/
def givenWords (layers : List (Option Properties)) : List String :=
  (classValues layers).flatMap classWords

/-- The words that are read in the class attribute of an element with the properties. -/
def writtenWords (properties : Properties) : List String :=
  (properties.get? "className").toList.flatMap fun value => wordList value.display

theorem flatMap_givenClasses (value : Property) :
    (givenClasses value).flatMap wordList = classWords value := by
  cases value with
  | string text =>
    change (wordList text).flatMap wordList = wordList text
    rw [List.flatMap_congr fun word hword => wordList_of_mem hword]
    exact List.flatMap_singleton' (wordList text)
  | list items =>
    change (items.filter (!·.isEmpty)).flatMap wordList = items.flatMap wordList
    induction items with
    | nil => rfl
    | cons item rest ih =>
      cases hempty : item.isEmpty with
      | true =>
        obtain rfl : item = "" := by simpa using hempty
        rw [List.filter_cons_of_neg (by decide), ih]
        rfl
      | false =>
        rw [List.filter_cons_of_pos (by simp [hempty]), List.flatMap_cons, ih, List.flatMap_cons]
  | bool value => rfl
  | int value => rfl

theorem givenWords_eq (layers : List (Option Properties)) :
    givenWords layers = ((classValues layers).flatMap givenClasses).flatMap wordList := by
  rw [List.flatMap_assoc]
  exact List.flatMap_congr fun value _ => (flatMap_givenClasses value).symm

theorem writtenWords_eq (layers : List (Option Properties)) :
    writtenWords (mergeLayers layers) = (listedClasses layers).flatMap wordList := by
  rw [writtenWords, get?_className]
  by_cases hempty : listedClasses layers = []
  · rw [if_pos hempty, hempty]
    rfl
  · rw [if_neg hempty]
    simp [Property.display, wordList_intercalate]

/-! ## Words of collected classes -/

/-- A class that has been collected brings in no new word. -/
theorem foldl_addClass_flatMap (classes words : List String) :
    ((classes.foldl addClass []).flatMap wordList).foldl addClass words
      = (classes.flatMap wordList).foldl addClass words := by
  induction classes using List.reverseRecOn with
  | nil => rfl
  | append_singleton classes token ih =>
    rw [List.foldl_append, List.foldl_cons, List.foldl_nil, List.flatMap_append,
      List.flatMap_singleton, List.foldl_append, ← ih]
    by_cases hmem : token.isEmpty = true ∨ token ∈ classes.foldl addClass []
    · rw [addClass_of_mem hmem]
      refine (foldl_addClass_of_mem fun word hword => .inr ?_).symm
      rcases hmem with hempty | hmem
      · obtain rfl : token = "" := by simpa using hempty
        cases hword
      · exact mem_foldl_addClass (List.mem_flatMap.mpr ⟨token, hmem, hword⟩)
          (isEmpty_of_mem_wordList hword)
    · rw [not_or, Bool.not_eq_true] at hmem
      rw [addClass_of_not_mem hmem.1 hmem.2, List.flatMap_append, List.flatMap_singleton,
        List.foldl_append]

theorem eraseDups_flatMap {classes : List String} (h : ∀ token ∈ classes, token.isEmpty = false) :
    (classes.eraseDups.flatMap wordList).eraseDups = (classes.flatMap wordList).eraseDups := by
  have hwords (tokens : List String) :
      (tokens.flatMap wordList).foldl addClass [] = (tokens.flatMap wordList).eraseDups := by
    refine foldl_addClass_nil fun word hword => ?_
    obtain ⟨token, -, htoken⟩ := List.mem_flatMap.mp hword
    exact isEmpty_of_mem_wordList htoken
  rw [← hwords, ← hwords, ← foldl_addClass_nil h, foldl_addClass_flatMap]

/-! ## The attribute -/

/-- No item of a list under a class key holds white space. -/
def HasPlainItems (layers : List (Option Properties)) : Prop :=
  ∀ items, .list items ∈ classValues layers → ∀ item ∈ items, ∀ c ∈ item.toList, isBlank c = false

/-- Where no item holds white space every class is a word. -/
theorem wordList_of_plainItems {layers : List (Option Properties)} (h : HasPlainItems layers) :
    ∀ token ∈ (classValues layers).flatMap givenClasses, wordList token = [token] := by
  intro token htoken
  obtain ⟨value, hvalue, hgiven⟩ := List.mem_flatMap.mp htoken
  cases value with
  | string text => exact wordList_of_mem hgiven
  | list items =>
    obtain ⟨hitem, hne⟩ := List.mem_filter.mp hgiven
    exact wordList_of_visible (by simpa using hne) (h items hvalue token hitem)
  | bool value => cases hgiven
  | int value => cases hgiven

theorem listedClasses_of_plainItems {layers : List (Option Properties)} (h : HasPlainItems layers) :
    listedClasses layers = (givenWords layers).eraseDups := by
  rw [listedClasses, givenWords_eq, List.flatMap_congr (wordList_of_plainItems h),
    List.flatMap_singleton']

theorem nodup_listedClasses (layers : List (Option Properties)) : (listedClasses layers).Nodup := by
  rw [← classes_eq_listedClasses]
  exact (Merged.isNormal_empty.addLayers layers).classes.nodup

/--
**What is read back of merged classes.**

The words are those that the layers give, each where it comes first once the repetitions are
dropped. There are none to drop if no item of a list holds white space, and then the classes are
absent exactly when no layer gives a word.
-/
theorem writtenWords_mergeLayers (layers : List (Option Properties)) :
    (writtenWords (mergeLayers layers)).eraseDups = (givenWords layers).eraseDups ∧
    (HasPlainItems layers →
      (writtenWords (mergeLayers layers)).Nodup ∧
      writtenWords (mergeLayers layers) = (givenWords layers).eraseDups ∧
      ((mergeLayers layers).get? "className" = none ↔ givenWords layers = [])) := by
  have hgiven : ∀ token ∈ (classValues layers).flatMap givenClasses, token.isEmpty = false := by
    intro token htoken
    obtain ⟨value, -, hvalue⟩ := List.mem_flatMap.mp htoken
    exact isEmpty_of_mem_givenClasses token hvalue
  refine ⟨?_, fun hplain => ?_⟩
  · rw [writtenWords_eq, listedClasses, eraseDups_flatMap hgiven, givenWords_eq]
  · have hlisted := listedClasses_of_plainItems hplain
    have hwords : ∀ token ∈ listedClasses layers, wordList token = [token] := by
      intro token htoken
      exact wordList_of_plainItems hplain token (List.mem_eraseDups.mp htoken)
    have hwritten : writtenWords (mergeLayers layers) = listedClasses layers := by
      rw [writtenWords_eq, List.flatMap_congr hwords, List.flatMap_singleton']
    have hempty : listedClasses layers = [] ↔ givenWords layers = [] := by
      rw [hlisted, List.eq_nil_iff_forall_not_mem, List.eq_nil_iff_forall_not_mem]
      simp only [List.mem_eraseDups]
    refine ⟨?_, hwritten.trans hlisted, ?_⟩
    · rw [hwritten]
      exact nodup_listedClasses layers
    · rw [get?_className, ← hempty]
      simp

/-- A string, a list with an empty item and one that repeats a class. -/
def badgeLayers : List (Option Properties) :=
  [some (.single "class" (.string " rds-badge  new ")), none,
    some ((Properties.single "class" (.list ["new", ""])).insert "className"
      (.list ["wide", "new"]))]

theorem writtenWords_mergeLayers_badge :
    HasPlainItems badgeLayers ∧ (writtenWords (mergeLayers badgeLayers)).Nodup ∧
      writtenWords (mergeLayers badgeLayers) = ["rds-badge", "new", "wide"] ∧
      (mergeLayers badgeLayers).get? "className" ≠ none := by
  have hplain : HasPlainItems badgeLayers := by
    have hvalues : classValues badgeLayers
        = [.string " rds-badge  new ", .list ["new", ""], .list ["wide", "new"]] := by decide
    have hclear : ∀ items ∈ [["new", ""], ["wide", "new"]], ∀ item ∈ items,
        item.toList.any isBlank = false := by decide
    intro items hitems item hitem c hc
    rw [hvalues] at hitems
    have hclear := hclear items (by simpa using hitems) item hitem
    simpa using List.any_eq_false.mp hclear c hc
  have hgiven : givenWords badgeLayers = ["rds-badge", "new", "new", "wide", "new"] := by decide
  obtain ⟨-, hread⟩ := writtenWords_mergeLayers badgeLayers
  obtain ⟨hnodup, hwords, habsent⟩ := hread hplain
  refine ⟨hplain, hnodup, ?_, fun hnone => ?_⟩
  · rw [hwords, hgiven]
    decide
  · rw [habsent.mp hnone] at hgiven
    cases hgiven

/-- A list with an item of two words. -/
def twoWordItem : List (Option Properties) :=
  [some (.single "className" (.list ["a b", "a"]))]

/-- A list with an item of nothing but white space. -/
def blankItem : List (Option Properties) :=
  [some (.single "className" (.list [" "]))]

/-- An item of two words brings in a class that is there already, and an item of nothing but white
space is written as a class. -/
theorem writtenWords_repeats :
    writtenWords (mergeLayers twoWordItem) = ["a", "b", "a"] ∧
      ¬ (writtenWords (mergeLayers twoWordItem)).Nodup ∧
      (givenWords twoWordItem).eraseDups = ["a", "b"] ∧
      (mergeLayers blankItem).get? "className" = some (.list [" "]) ∧
      givenWords blankItem = [] := by
  decide

end MarkdownDirectives
