import MarkdownDirectives.Property
import MarkdownDirectives.Html.Writer

/-!
# Attribute blocks

What stands between the braces of a directive: `#id`, `.class`, `key="value"`, `key='value'`,
`key=value` and bare words, separated by white space. The block is read item by item, and the
items are then folded into one map.

## Termination

Every item takes at least the character that it starts with, so the rest of the block is shorter.
-/

namespace MarkdownDirectives.Source

open Text

/-- One item of an attribute block. -/
inductive Item where
  | id (value : List Char)
  | className (value : List Char)
  | entry (key value : List Char)
deriving DecidableEq, Inhabited

/-! ## One item -/

/-- A character that ends a shorthand. -/
def endsShorthand (c : Char) : Bool :=
  isBlank c || c == '.' || c == '#'

/-- The text before the first `mark` and the text after it. -/
def splitAtFirst (mark : Char) : List Char → Option (List Char × List Char)
  | [] => none
  | c :: rest =>
    if c = mark then some ([], rest)
    else (splitAtFirst mark rest).map fun (before, after) => (c :: before, after)

/-- The value behind an equals sign. One that starts with a quote needs a quote to end it. -/
def readValue : List Char → Option (List Char × List Char)
  | '"' :: rest => splitAtFirst '"' rest
  | '\'' :: rest => splitAtFirst '\'' rest
  | cs => some (cut (!isBlank ·) cs)

/-- A key, an equals sign and a value. The key is all before the first equals sign. -/
def readEntry (cs : List Char) : Option (Item × List Char) :=
  match splitAtFirst '=' cs with
  | none => none
  | some (key, rest) =>
    if Html.isAttributeName key then
      (readValue rest).map fun (value, rest) => (.entry key value, rest)
    else none

/-- A shorthand behind its mark. An empty one is no item. -/
def readShorthand (item : List Char → Item) (cs : List Char) : Option Item × List Char :=
  let (value, rest) := cut (!endsShorthand ·) cs
  (if value.isEmpty then none else some (item value), rest)

/-- A bare word, which is a key with an empty value. One that cannot be a key is no item. -/
def readWord (cs : List Char) : Option Item × List Char :=
  let (word, rest) := cut (!isBlank ·) cs
  (if Html.isAttributeName word then some (.entry word []) else none, rest)

/-- The item that a text starts with, which is known not to be white space, and the rest. -/
def readItem (c : Char) (rest : List Char) : Option Item × List Char :=
  if c = '#' then readShorthand .id rest
  else if c = '.' then readShorthand .className rest
  else match readEntry (c :: rest) with
    | some (item, rest) => (some item, rest)
    | none => readWord (c :: rest)

/-! ## Every item takes a character -/

theorem length_splitAtFirst {mark : Char} {cs before after : List Char}
    (h : splitAtFirst mark cs = some (before, after)) : after.length < cs.length := by
  induction cs generalizing before with
  | nil => simp [splitAtFirst] at h
  | cons c rest ih =>
    rw [splitAtFirst] at h
    split at h
    · simp only [Option.some.injEq, Prod.mk.injEq] at h
      rw [← h.2]; simp
    · simp only [Option.map_eq_some_iff, Prod.mk.injEq, Prod.exists] at h
      obtain ⟨b, a, hs, -, rfl⟩ := h
      have := ih hs
      simp; omega

theorem length_readValue {cs value rest : List Char} (h : readValue cs = some (value, rest)) :
    rest.length ≤ cs.length := by
  unfold readValue at h
  split at h
  · have := length_splitAtFirst h; simp; omega
  · have := length_splitAtFirst h; simp; omega
  · have := length_cut_le (!isBlank ·) cs
    simp only [Option.some.injEq] at h
    rw [h] at this
    exact this

theorem length_readEntry {cs rest : List Char} {item : Item}
    (h : readEntry cs = some (item, rest)) : rest.length < cs.length := by
  unfold readEntry at h
  split at h
  · simp at h
  · next key tail hs =>
    split at h
    · simp only [Option.map_eq_some_iff, Prod.mk.injEq, Prod.exists] at h
      obtain ⟨value, after, hv, -, rfl⟩ := h
      have := length_splitAtFirst hs
      have := length_readValue hv
      omega
    · simp at h

theorem length_readItem {c : Char} {rest : List Char} (hc : isBlank c = false) :
    (readItem c rest).2.length ≤ rest.length := by
  unfold readItem
  split
  · exact length_cut_le _ rest
  · split
    · exact length_cut_le _ rest
    · split
      · next item after h =>
        have := length_readEntry h
        simp at this ⊢; omega
      · unfold readWord
        rw [cut, List.dropWhile_cons]
        simp only [hc, Bool.not_false, if_true]
        exact (List.dropWhile_sublist _).length_le

theorem trimStart_head {cs rest : List Char} {c : Char} (h : trimStart cs = c :: rest) :
    isBlank c = false ∧ rest.length < cs.length := by
  constructor
  · have := List.head?_dropWhile_not isBlank cs
    rw [show cs.dropWhile isBlank = c :: rest from h] at this
    simpa using this
  · have := length_cut_le isBlank cs
    rw [cut] at this
    rw [show cs.dropWhile isBlank = c :: rest from h] at this
    simp at this; omega

/-! ## The block -/

/-- The items of a text in order. -/
def readItems (cs : List Char) : List Item :=
  match _h : trimStart cs with
  | [] => []
  | c :: rest =>
    let found := readItem c rest
    found.1.toList ++ readItems found.2
termination_by cs.length
decreasing_by
  have hc := trimStart_head _h
  have : (readItem c rest).2.length ≤ rest.length := length_readItem hc.1
  omega

/-- The last `#` shorthand. -/
def lastId (items : List Item) : Option String :=
  (items.filterMap fun | .id value => some (String.ofList value) | _ => none).getLast?

/-- The `.` shorthands. -/
def classNames (items : List Item) : List String :=
  items.filterMap fun | .className value => some (String.ofList value) | _ => none

/-- The keys with their values. -/
def entries (items : List Item) : List (String × String) :=
  items.filterMap fun
    | .entry key value => some (String.ofList key, String.ofList value)
    | _ => none

/--
The map of a list of items.

Of several values of one key the last counts. A `#` shorthand comes after every `id`, and the `.`
shorthands come behind the words of the `class` value.
-/
def foldItems (items : List Item) : Attributes :=
  let explicit : Attributes := SortedMap.ofList (entries items)
  let withId := match lastId items with
    | some id => explicit.insert "id" id
    | none => explicit
  match classNames items with
  | [] => withId
  | names =>
    withId.insert "class" (" ".intercalate (wordList ((withId.get? "class").getD "") ++ names))

/-- The attributes of an attribute block. -/
def readAttributes (block : List Char) : Attributes :=
  foldItems (readItems (trim block))

end MarkdownDirectives.Source
