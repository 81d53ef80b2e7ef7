import MarkdownDirectives.Text.NamedCharacter
import MarkdownDirectives.Text.Punctuation
import MarkdownDirectives.Text.Words

/-!
# Character references and escapes

`&name;`, `&#number;` and `&#xnumber;` stand for characters, and a backslash makes an ASCII
punctuation character stand for itself. `unescape` does both in link destinations, link titles and
info strings.
-/

namespace MarkdownDirectives.Markdown

open Text

/-- The value of a digit, hexadecimal ones included. -/
def digitValue (c : Char) : Nat :=
  if c.isDigit then c.toNat - 0x30 else c.toLower.toNat - 0x57

/-- A hexadecimal digit. -/
def isHexDigit (c : Char) : Bool :=
  c.isDigit || ('a' ≤ c.toLower && c.toLower ≤ 'f')

/-- The number that digits stand for. -/
def numberOf (base : Nat) (digits : List Char) : Nat :=
  digits.foldl (fun n c => n * base + digitValue c) 0

/-- The character of a code point. Zero, surrogates and numbers that are too large stand for the
replacement character. -/
def characterOf (n : Nat) : Char :=
  if 0 < n && (n < 0xD800 || (0xDFFF < n && n < 0x110000)) then Char.ofNat n else '\uFFFD'

/-- A numeric reference behind `&#`: at most `limit` digits and a semicolon. -/
def numericReference (base limit : Nat) (isDigit : Char → Bool) (cs : List Char) :
    Option (List Char × List Char) :=
  let digits := (cs.takeWhile isDigit).take limit
  if digits.isEmpty then none
  else match cs.drop digits.length with
    | ';' :: rest => some ([characterOf (numberOf base digits)], rest)
    | _ => none

/-- The reference behind an ampersand: the characters it stands for and the rest. -/
def readReference : List Char → Option (List Char × List Char)
  | '#' :: 'x' :: rest => numericReference 16 6 isHexDigit rest
  | '#' :: 'X' :: rest => numericReference 16 6 isHexDigit rest
  | '#' :: rest => numericReference 10 7 Char.isDigit rest
  | cs =>
    let (name, rest) := cut Char.isAlphanum cs
    match rest with
    | ';' :: rest => (namedCharacter? name).map (·, rest)
    | _ => none

theorem length_numericReference {base limit : Nat} {isDigit : Char → Bool}
    {cs chars rest : List Char}
    (h : numericReference base limit isDigit cs = some (chars, rest)) :
    rest.length < cs.length := by
  unfold numericReference at h
  simp only at h
  split at h
  · simp at h
  · split at h
    · next tail ht =>
      simp only [Option.some.injEq, Prod.mk.injEq] at h
      obtain ⟨-, rfl⟩ := h
      have := congrArg List.length ht
      simp only [List.length_drop, List.length_cons] at this
      omega
    · simp at h

/-- A reference is shorter behind than in front. -/
theorem length_readReference {cs chars rest : List Char}
    (h : readReference cs = some (chars, rest)) : rest.length < cs.length := by
  unfold readReference at h
  split at h
  · have := length_numericReference h; simp; omega
  · have := length_numericReference h; simp; omega
  · have := length_numericReference h; simp; omega
  · have hc := length_cut_le Char.isAlphanum cs
    simp only at h
    split at h
    · next tail ht =>
      simp only [Option.map_eq_some_iff, Prod.mk.injEq] at h
      obtain ⟨c, -, -, rfl⟩ := h
      rw [ht] at hc
      simp at hc; omega
    · simp at h

/-- A text with its escapes and references resolved, and without carriage returns. -/
def unescape (cs : List Char) : List Char :=
  match cs with
  | [] => []
  | '\\' :: c :: rest =>
    if isAsciiPunctuation c then c :: unescape rest else '\\' :: unescape (c :: rest)
  | '\r' :: rest => unescape rest
  | '&' :: rest =>
    match _h : readReference rest with
    | some (chars, after) => chars ++ unescape after
    | none => '&' :: unescape rest
  | c :: rest => c :: unescape rest
termination_by cs.length
decreasing_by
  · simp only [List.length_cons]; omega
  · simp only [List.length_cons]; omega
  · exact Nat.lt_succ_self _
  · exact Nat.lt_succ_of_lt (length_readReference _h)
  · exact Nat.lt_succ_self _
  · exact Nat.lt_succ_self _

end MarkdownDirectives.Markdown
