/-!
# Lines

A text as the list of its lines. A line ends at a line feed; a carriage return directly before the
line feed belongs to the end of the line. A last line without a line feed counts if it is not
empty, and keeps a carriage return at its end.
-/

namespace MarkdownDirectives.Text

/-- The lines of a text, without their ends. -/
def lines : List Char → List (List Char)
  | [] => []
  | '\n' :: rest => [] :: lines rest
  | '\r' :: '\n' :: rest => [] :: lines rest
  | c :: rest =>
    match lines rest with
    | [] => [[c]]
    | line :: more => (c :: line) :: more

end MarkdownDirectives.Text
