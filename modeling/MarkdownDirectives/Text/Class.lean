/-!
# Character classes

Classes of characters that are short enough to be written out. `isBlank` is the Unicode property
White_Space; every trimming, every split into words and every "nothing but blanks" in this library
is about that class. `isSpace` is the narrower class of Markdown lines.
-/

namespace MarkdownDirectives.Text

/-- A code point lies in one of the given closed ranges. -/
def inRanges (ranges : List (Nat × Nat)) (c : Char) : Bool :=
  ranges.any fun (lo, hi) => lo ≤ c.toNat && c.toNat ≤ hi

/-- Ranges of the white space code points. -/
def blankRanges : List (Nat × Nat) := [
  (0x9, 0xD), (0x20, 0x20), (0x85, 0x85), (0xA0, 0xA0), (0x1680, 0x1680), (0x2000, 0x200A),
  (0x2028, 0x2029), (0x202F, 0x202F), (0x205F, 0x205F), (0x3000, 0x3000)]

/-- White space of any script, line ends included. -/
def isBlank (c : Char) : Bool :=
  inRanges blankRanges c

/-- A control character (category Cc). -/
def isControl (c : Char) : Bool :=
  c.toNat ≤ 0x1F || (0x7F ≤ c.toNat && c.toNat ≤ 0x9F)

/-- White space inside a Markdown line: space, tab, vertical tab and form feed. -/
def isSpace (c : Char) : Bool :=
  c == ' ' || c == '\t' || c == '\x0b' || c == '\x0c'

/-- An ASCII letter, an ASCII digit, a hyphen or an underscore. -/
def isNameChar (c : Char) : Bool :=
  c.isAlphanum || c == '-' || c == '_'

end MarkdownDirectives.Text
