import MarkdownDirectives.Proofs.Source.Written

/-!
# Quoted values and the braces around them

The end of an attribute block is looked for before its items are read, by counting braces alone. So
a quoted value may hold any white space and any brackets, but its braces have to be balanced: with a
brace too much or too few the line is no directive (`leafLine?_quoted`), although the value by
itself would be read to the quote that ends it (`readItems_quoted`).

* `wholeTail_block` — a directive of a name and an attribute block
* `readAttributes_quoted`, `balanced_quoted_iff` — the block of one quoted value
* `leafLine?_quoted` — the line of a leaf directive with one quoted value
-/

namespace MarkdownDirectives.Source

open Text

variable {name block key value : List Char} {quote : Char}

/-! ## The end of the block -/

/-- **An attribute block ends in front of the last brace of a line, or there is no directive.** -/
theorem wholeTail_block (hname : isName name = true) (block : List Char) :
    wholeTail (name ++ '{' :: (block ++ ['}']))
      = if Balanced '{' '}' block then
          some { name := String.ofList name, attributes := readAttributes block }
        else none := by
  have hchars : ∀ c ∈ name, isNameChar c = true := by
    rw [isName, Bool.and_eq_true, List.all_eq_true] at hname
    exact hname.2
  have hcut := cut_append (c := '{') hchars (by decide) (block ++ ['}'])
  have hlabel : readLabel ('{' :: (block ++ ['}'])) = some (none, '{' :: (block ++ ['}'])) := rfl
  rw [wholeTail, readTail, hcut]
  dsimp only
  rw [if_pos hname, hlabel]
  dsimp only
  by_cases hblock : Balanced '{' '}' block
  · rw [readBlock, readBracketed_balanced (by decide) hblock, if_pos hblock]
    rfl
  · rw [readBlock, if_neg hblock]
    cases hread : readBracketed '{' '}' 0 (block ++ ['}']) with
    | none => rfl
    | some found =>
      obtain ⟨inside, rest⟩ := found
      obtain ⟨hsplit, hinside⟩ := (readBracketed_eq_some_iff (by decide)).mp hread
      -- what is left over ends in the last brace of the line
      have hrest : blank rest = false := by
        rcases List.eq_nil_or_concat' rest with rfl | ⟨more, c, rfl⟩
        · rw [List.append_cancel_right hsplit] at hblock
          exact absurd (closesPairs_zero.mp hinside) hblock
        · have hlast := congrArg List.getLast? hsplit
          obtain rfl : '}' = c := by simpa [List.getLast?_cons] using hlast
          rw [blank, List.all_append]
          exact Bool.and_false _
      dsimp only [Option.map_some, Option.getD_some]
      rw [if_neg (by simp [hrest])]

/-! ## One quoted value -/

theorem breaksAttributeName_of_isNameChar {c : Char} (h : isNameChar c = true) :
    Html.breaksAttributeName c = false := by
  have hblank := isBlank_of_isNameChar h
  have hcontrol : isControl c = false := by
    have hrange := toNat_of_isNameChar h
    simp only [isControl, Bool.or_eq_false_iff, Bool.and_eq_false_iff, decide_eq_false_iff_not]
    omega
  have hne : ∀ d : Char, isNameChar d = false → (c == d) = false := by
    rintro d hd
    rw [beq_eq_false_iff_ne]
    rintro rfl
    rw [h] at hd
    cases hd
  simp [Html.breaksAttributeName, hblank, hcontrol, hne _ (by decide : isNameChar '"' = false),
    hne _ (by decide : isNameChar '\'' = false), hne _ (by decide : isNameChar '<' = false),
    hne _ (by decide : isNameChar '>' = false), hne _ (by decide : isNameChar '/' = false),
    hne _ (by decide : isNameChar '=' = false)]

/-- A key of letters, digits, hyphens and underscores. -/
structure IsPlainKey (key : List Char) : Prop where
  nonempty : key ≠ []
  chars : ∀ c ∈ key, isNameChar c = true

theorem IsPlainKey.isAttributeName (h : IsPlainKey key) : Html.isAttributeName key = true := by
  rw [Html.isAttributeName, Bool.and_eq_true, Bool.not_eq_true', Bool.not_eq_true',
    List.isEmpty_eq_false_iff, List.any_eq_false]
  refine ⟨h.nonempty, fun c hc => ?_⟩
  rw [breaksAttributeName_of_isNameChar (h.chars c hc)]
  exact Bool.false_ne_true

theorem IsPlainKey.not_mem (h : IsPlainKey key) {c : Char} (hc : isNameChar c = false) :
    c ∉ key := by
  intro hmem
  rw [h.chars c hmem] at hc
  cases hc

/-- **The block of one quoted value is read as that value under its key.** -/
theorem readAttributes_quoted (hkey : IsPlainKey key) (hquote : quote = '"' ∨ quote = '\'')
    (hvalue : quote ∉ value) :
    readAttributes (key ++ '=' :: quote :: (value ++ [quote]))
      = SortedMap.ofList [(String.ofList key, String.ofList value)] := by
  have hblank : isBlank quote = false := by
    rcases hquote with rfl | rfl <;> decide
  have htrim : trim (key ++ '=' :: quote :: (value ++ [quote]))
      = key ++ '=' :: quote :: (value ++ [quote]) := by
    obtain ⟨c, tail, rfl, hc⟩ := exists_cons_of_isAttributeName hkey.isAttributeName
    refine trim_of_ends ?_ ?_
    · rintro d ⟨⟩
      exact hc
    · intro d hd
      rw [List.append_cons, List.append_cons, ← List.append_assoc, List.getLast?_concat] at hd
      rw [← Option.some.inj hd]
      exact hblank
  have hhead : ∀ c : Char, isNameChar c = false → key.head? ≠ some c := by
    intro c hc hhead
    exact hkey.not_mem hc (List.mem_of_head? hhead)
  have hitems := readItems_quoted hkey.isAttributeName (hhead '#' (by decide))
    (hhead '.' (by decide)) hquote hvalue []
  have hfold := foldItems_entries [(String.ofList key, String.ofList value)]
  rw [List.map_singleton, String.toList_ofList, String.toList_ofList] at hfold
  rw [readAttributes, htrim, hitems, readItems_nil, hfold]

/-- The braces of the block are those of the value. -/
theorem balanced_quoted_iff (hkey : IsPlainKey key) (hquote : quote = '"' ∨ quote = '\'') :
    Balanced '{' '}' (key ++ '=' :: quote :: (value ++ [quote])) ↔ Balanced '{' '}' value := by
  have hfree : ∀ brace : Char, isNameChar brace = false → brace ≠ '=' → brace ≠ quote →
      brace ∉ key ++ ['=', quote] ∧ brace ∉ [quote] := by
    intro brace hbrace hequals hne
    simp [hkey.not_mem hbrace, hequals, hne]
  have hne : '{' ≠ quote ∧ '}' ≠ quote := by
    rcases hquote with rfl | rfl <;> decide
  have hopening := hfree '{' (by decide) (by decide) hne.1
  have hclosing := hfree '}' (by decide) (by decide) hne.2
  have hparts : key ++ '=' :: quote :: (value ++ [quote])
      = (key ++ ['=', quote]) ++ (value ++ [quote]) := by simp
  rw [hparts, balanced_append_left_iff hopening.1 hclosing.1,
    balanced_append_right_iff hopening.2 hclosing.2]

/-! ## The line -/

/-- Behind two colons stands a leaf directive or nothing. -/
theorem leafLine?_cons {c : Char} (hc : c ≠ ':') (rest : List Char) :
    leafLine? (':' :: ':' :: c :: rest) = wholeTail (c :: rest) := by
  have hline : lineColons (':' :: ':' :: c :: rest) = some (2, c :: rest) :=
    lineColons_append_cons (Nat.zero_le 3) 2 (by decide) hc rest
  rw [leafLine?_eq, hline, Option.bind_some]
  exact if_pos rfl

/--
**A quoted value protects everything but a brace without its partner.**

The value may hold anything but its quote. With balanced braces it is read as it is; without, the
line is no leaf directive at all.
-/
theorem leafLine?_quoted (hname : isName name = true) (hkey : IsPlainKey key)
    (hquote : quote = '"' ∨ quote = '\'') (hvalue : quote ∉ value) :
    leafLine? (':' :: ':' :: (name ++ '{' :: (key ++ '=' :: quote :: (value ++ [quote, '}']))))
      = if Balanced '{' '}' value then
          some { name := String.ofList name
                 attributes := SortedMap.ofList [(String.ofList key, String.ofList value)] }
        else none := by
  have hblock := wholeTail_block hname (key ++ '=' :: quote :: (value ++ [quote]))
  have hend : (key ++ '=' :: quote :: (value ++ [quote])) ++ ['}']
      = key ++ '=' :: quote :: (value ++ [quote, '}']) := by simp
  rw [hend, readAttributes_quoted hkey hquote hvalue] at hblock
  simp only [balanced_quoted_iff hkey hquote] at hblock
  -- a name does not start with a colon, so there are two of them
  obtain ⟨c, tail, rfl⟩ := List.exists_cons_of_ne_nil (show name ≠ [] by rintro rfl; cases hname)
  have hc : c ≠ ':' := by
    rintro rfl
    cases hname
  rw [List.cons_append, leafLine?_cons hc]
  exact hblock

/-- A value with white space, a bracket, the other quote and a pair of braces. -/
theorem leafLine?_quoted_braces :
    isName "card".toList = true ∧ IsPlainKey "title".toList ∧
    '\'' ∉ "a \x7bb [c\x7d \"".toList ∧ Balanced '{' '}' "a \x7bb [c\x7d \"".toList ∧
    leafLine? "::card\x7btitle='a \x7bb [c\x7d \"'\x7d".toList
      = some { name := "card"
               attributes := SortedMap.ofList [("title", "a \x7bb [c\x7d \"")] } := by
  have hname : isName "card".toList = true := by decide
  have hkey : IsPlainKey "title".toList :=
    ⟨by decide, List.all_eq_true.mp (by decide)⟩
  have hvalue : '\'' ∉ "a \x7bb [c\x7d \"".toList := by decide
  have hbalanced : Balanced '{' '}' "a \x7bb [c\x7d \"".toList := by decide
  have hread := leafLine?_quoted hname hkey (.inr rfl) hvalue
  rw [if_pos hbalanced] at hread
  exact ⟨hname, hkey, hvalue, hbalanced, hread⟩

/-- One closing brace in quotes, or one opening brace, and the line is no directive. -/
theorem leafLine?_lone_brace :
    isName "name".toList = true ∧ IsPlainKey "key".toList ∧
    '"' ∉ ['}'] ∧ '\n' ∉ ['}'] ∧ leafLine? "::name\x7bkey=\"\x7d\"\x7d".toList = none ∧
    '"' ∉ ['{'] ∧ '\n' ∉ ['{'] ∧ leafLine? "::name\x7bkey=\"\x7b\"\x7d".toList = none :=
  ⟨by decide, ⟨by decide, List.all_eq_true.mp (by decide)⟩, by decide, by decide, by decide,
    by decide, by decide, by decide⟩

end MarkdownDirectives.Source
