/-!
# Searching texts

Whether a text holds another one, and replacing what it holds. Replacing goes from left to right
over the text as it was: what is put in is not searched again.
-/

namespace MarkdownDirectives.Text

/-- Whether a text holds another one. -/
def holds (mark : List Char) : List Char → Bool
  | [] => mark.isEmpty
  | c :: rest => mark.isPrefixOf (c :: rest) || holds mark rest

/-- Replaces every occurrence of a text that is not empty. -/
def replaceAll (mark new : List Char) (cs : List Char) : List Char :=
  match cs with
  | [] => []
  | c :: rest =>
    if mark.isPrefixOf (c :: rest) then new ++ replaceAll mark new (rest.drop (mark.length - 1))
    else c :: replaceAll mark new rest
termination_by cs.length
decreasing_by
  · simp only [List.length_drop, List.length_cons]; omega
  · simp

/-! ## The same on strings -/

/-- Whether a string holds another one. -/
def holdsString (mark s : String) : Bool :=
  holds mark.toList s.toList

/-- Replaces every occurrence of a string that is not empty. -/
def replaceString (mark new s : String) : String :=
  String.ofList (replaceAll mark.toList new.toList s.toList)

end MarkdownDirectives.Text
