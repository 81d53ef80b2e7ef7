import MarkdownDirectives.Text.Class

/-!
# Words and trimming

Texts are lists of characters. `words` cuts a text at white space; `trim` drops white space at
both ends. Main statements: no word is empty or holds white space, and a text has words exactly
when it is not blank.
-/

namespace MarkdownDirectives.Text

/-! ## Cutting -/

/-- The longest beginning whose characters satisfy `p`, and the rest. -/
def cut (p : Char → Bool) (cs : List Char) : List Char × List Char :=
  (cs.takeWhile p, cs.dropWhile p)

theorem length_cut_le (p : Char → Bool) (cs : List Char) : (cut p cs).2.length ≤ cs.length :=
  (List.dropWhile_sublist p).length_le

/-- All characters belong to a run. -/
theorem cut_of_forall {p : Char → Bool} {cs : List Char} (h : ∀ d ∈ cs, p d = true) :
    cut p cs = (cs, []) := by
  rw [← List.append_nil cs, cut, List.takeWhile_append_of_pos h, List.dropWhile_append_of_pos h]
  simp

/-- A run of characters ends at the first one that does not belong to it. -/
theorem cut_append {p : Char → Bool} {c : Char} {cs : List Char} (h : ∀ d ∈ cs, p d = true)
    (hc : p c = false) (rest : List Char) : cut p (cs ++ c :: rest) = (cs, c :: rest) := by
  rw [cut, List.takeWhile_append_of_pos h, List.dropWhile_append_of_pos h]
  simp [hc]

/-- A run of characters goes as far as it can. -/
theorem cut_eq_iff {p : Char → Bool} {cs run rest : List Char} :
    cut p cs = (run, rest)
      ↔ cs = run ++ rest ∧ (∀ c ∈ run, p c = true) ∧ ∀ c, rest.head? = some c → p c = false := by
  constructor
  · intro h
    obtain ⟨rfl, rfl⟩ := Prod.mk.inj h
    refine ⟨List.takeWhile_append_dropWhile.symm, List.all_eq_true.mp List.all_takeWhile, ?_⟩
    intro c hc
    have hend := List.head?_dropWhile_not p cs
    rw [hc] at hend
    simpa using hend
  · rintro ⟨rfl, hrun, hend⟩
    cases rest with
    | nil => rw [List.append_nil, cut_of_forall hrun]
    | cons c rest => exact cut_append hrun (hend c rfl) rest

/-! ## Trimming -/

/-- The text without the white space it starts with. -/
def trimStart (cs : List Char) : List Char :=
  cs.dropWhile isBlank

/-- The text without the white space it ends with. -/
def trimEnd (cs : List Char) : List Char :=
  (cs.reverse.dropWhile isBlank).reverse

/-- The text without the narrow white space it ends with. -/
def dropTrailing (cs : List Char) : List Char :=
  (cs.reverse.dropWhile isSpace).reverse

/-- The text without the white space at its ends. -/
def trim (cs : List Char) : List Char :=
  trimEnd (trimStart cs)

/-- Nothing but white space. -/
def blank (cs : List Char) : Bool :=
  cs.all isBlank

/-! ## Words -/

/-- The maximal runs of characters that are not spaces, in order; `space` says what a space is. -/
def wordsBy (space : Char → Bool) : List Char → List (List Char)
  | [] => []
  | c :: rest =>
    if space c then wordsBy space rest
    else if rest.head?.all space then [c] :: wordsBy space rest
    else match wordsBy space rest with
      | [] => [[c]]
      | word :: more => (c :: word) :: more

/-- The words of a text: its maximal runs without white space. -/
def words (cs : List Char) : List (List Char) :=
  wordsBy isBlank cs

/-- A text has no word exactly when it is blank. -/
theorem words_eq_nil_iff {cs : List Char} : words cs = [] ↔ blank cs = true := by
  unfold words blank
  induction cs with
  | nil => simp [wordsBy]
  | cons c rest ih =>
    rw [wordsBy, List.all_cons]
    split
    · next h => simp [h, ih]
    · next h =>
      split
      · simp [h]
      · split <;> simp [h]

/-- A word holds at least one character and no space. -/
theorem wordsBy_clean {space : Char → Bool} {cs : List Char} :
    ∀ word ∈ wordsBy space cs, word ≠ [] ∧ ∀ c ∈ word, space c = false := by
  induction cs with
  | nil => simp [wordsBy]
  | cons c rest ih =>
    intro word hw
    rw [wordsBy] at hw
    split at hw
    · exact ih word hw
    · next h =>
      split at hw
      · rcases List.mem_cons.mp hw with rfl | hw
        · simpa using h
        · exact ih word hw
      · split at hw
        · simp only [List.mem_singleton] at hw
          subst hw; simpa using h
        · next first more heq =>
          rw [heq] at ih
          rcases List.mem_cons.mp hw with rfl | hw
          · refine ⟨by simp, fun d hd => ?_⟩
            rcases List.mem_cons.mp hd with rfl | hd
            · simpa using h
            · exact (ih first List.mem_cons_self).2 d hd
          · exact ih word (List.mem_cons_of_mem _ hw)

/-! ## The same on strings -/

/-- A string without the white space at its ends. -/
def trimmed (s : String) : String :=
  String.ofList (trim s.toList)

/-- A string of nothing but white space. -/
def isBlankString (s : String) : Bool :=
  blank s.toList

/-- The words of a string. -/
def wordList (s : String) : List String :=
  (words s.toList).map String.ofList

/-- A string in ASCII lower case. Letters beyond ASCII stay as they are. -/
def lowercase (s : String) : String :=
  String.ofList (s.toList.map Char.toLower)

/-! ## Lower case -/

/-- A letter in lower case is no letter in upper case. -/
theorem isUpper_toLower (c : Char) : c.toLower.isUpper = false := by
  refine decide_eq_false fun h => ?_
  unfold Char.toLower at h
  split at h
  · next hc =>
    simp only [ge_iff_le, UInt32.le_iff_toNat_le, UInt32.toNat_add] at h hc
    have hA : 'A'.val.toNat = 65 := rfl
    have hZ : 'Z'.val.toNat = 90 := rfl
    have hshift : ('a'.val - 'A'.val).toNat = 32 := rfl
    omega
  · next hc => exact hc h

theorem toLower_toLower (c : Char) : c.toLower.toLower = c.toLower :=
  dif_neg (of_decide_eq_false (isUpper_toLower c))

theorem lowercase_lowercase (text : String) : lowercase (lowercase text) = lowercase text := by
  unfold lowercase
  rw [String.toList_ofList, List.map_map]
  exact congrArg String.ofList (List.map_congr_left fun c _ => toLower_toLower c)

theorem isUpper_of_mem_lowercase {text : String} {c : Char} (h : c ∈ (lowercase text).toList) :
    c.isUpper = false := by
  rw [lowercase, String.toList_ofList] at h
  obtain ⟨d, -, rfl⟩ := List.mem_map.mp h
  exact isUpper_toLower d

end MarkdownDirectives.Text
