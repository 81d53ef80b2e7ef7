import MarkdownDirectives.Text.Class

/-!
# Escaping

The five characters that mean something in HTML are written as entities. Every other character
stands for itself. Main statement: the escaped text holds no bracket and no quote.
-/

namespace MarkdownDirectives.Html

/-- How a character is written in text and in attribute values. -/
def escapeChar : Char → List Char
  | '&' => ['&', 'a', 'm', 'p', ';']
  | '<' => ['&', 'l', 't', ';']
  | '>' => ['&', 'g', 't', ';']
  | '"' => ['&', 'q', 'u', 'o', 't', ';']
  | '\'' => ['&', '#', 'x', '2', '7', ';']
  | c => [c]

/-- A text as it is written. -/
def escapeChars (cs : List Char) : List Char :=
  cs.flatMap escapeChar

/-- A string as it is written. -/
def escape (s : String) : String :=
  String.ofList (escapeChars s.toList)

/-- Escaping works on every part of a text by itself. -/
theorem escapeChars_append (s t : List Char) :
    escapeChars (s ++ t) = escapeChars s ++ escapeChars t :=
  List.flatMap_append

/-- What a character is written as holds no bracket and no quote. -/
theorem escapeChar_clean (c : Char) :
    ∀ d ∈ escapeChar c, d ≠ '<' ∧ d ≠ '>' ∧ d ≠ '"' ∧ d ≠ '\'' := by
  unfold escapeChar
  split <;> simp_all

/-- **An escaped text holds no bracket and no quote.** -/
theorem escapeChars_clean (cs : List Char) :
    ∀ d ∈ escapeChars cs, d ≠ '<' ∧ d ≠ '>' ∧ d ≠ '"' ∧ d ≠ '\'' := by
  intro d hd
  obtain ⟨c, -, hc⟩ := List.mem_flatMap.mp hd
  exact escapeChar_clean c d hc

end MarkdownDirectives.Html
