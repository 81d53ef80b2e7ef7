import MarkdownDirectives.Markdown.Passage
import MarkdownDirectives.Markdown.Reference
import MarkdownDirectives.Text.CaseFold

/-!
# Link targets

Where a link leads: a destination and a title, written behind the link's text or in a definition
of its own that links refer to by a label. Labels are compared by `labelKey`.

The functions read from the front of the text of a passage and give back the rest.
-/

namespace MarkdownDirectives.Markdown

open Text

/-- A destination and a title, which is empty if there is none. -/
structure Target where
  url : List Char
  title : List Char := []
deriving DecidableEq, Inhabited

/-! ## Destinations -/

/-- A destination behind its opening angle bracket. -/
def pointyDestination : List Char → Option (List Char × List Char)
  | [] => none
  | '\\' :: c :: rest =>
    if isAsciiPunctuation c then
      (pointyDestination rest).map fun (url, rest) => ('\\' :: c :: url, rest)
    else (pointyDestination (c :: rest)).map fun (url, rest) => ('\\' :: url, rest)
  | c :: rest =>
    if c = '>' then some ([], rest)
    else if c = '<' || c = '\n' || c = '\r' then none
    else (pointyDestination rest).map fun (url, rest) => (c :: url, rest)

/-- A destination without brackets. It ends at a space, a control character or a parenthesis that
it did not open; it may not open more than `limit + 1` at a time. -/
def bareDestination (limit depth : Nat) : List Char → Option (List Char × List Char)
  | [] => if depth = 0 then some ([], []) else none
  | '\\' :: c :: rest =>
    if isAsciiPunctuation c then
      (bareDestination limit depth rest).map fun (url, rest) => ('\\' :: c :: url, rest)
    else (bareDestination limit depth (c :: rest)).map fun (url, rest) => ('\\' :: url, rest)
  | c :: rest =>
    if c ≤ ' ' || (c = ')' && depth = 0) then
      if depth = 0 then some ([], c :: rest) else none
    else if c = '(' && limit < depth then none
    else
      let depth := if c = '(' then depth + 1 else if c = ')' then depth - 1 else depth
      (bareDestination limit depth rest).map fun (url, rest) => (c :: url, rest)

/-- A destination. Without brackets it may be empty. -/
def readDestination (limit : Nat) : List Char → Option (List Char × List Char)
  | '<' :: rest => pointyDestination rest
  | cs => bareDestination limit 0 cs

/-! ## Titles -/

/-- What titles do at the ends of lines. -/
structure TitleLines where
  /-- Whether a title may not go on in front of a text. -/
  stops : List Char → Bool := fun _ => false
  /-- Whether the first backslash of a line is lost if it stands in front of punctuation, so that it
  protects nothing. -/
  bare : Bool := false

/-- A title up to its closing mark. A parenthesis may not be opened inside. `fresh` tells whether
the text starts a line. -/
def titleBody (lines : TitleLines) (opening closing : Char) (fresh : Bool) :
    List Char → Option (List Char × List Char)
  | [] => none
  | '\\' :: c :: rest =>
    if !isAsciiPunctuation c then
      (titleBody lines opening closing false (c :: rest)).map fun (title, rest) =>
        ('\\' :: title, rest)
    else if fresh && lines.bare then titleBody lines opening closing false (c :: rest)
    else
      (titleBody lines opening closing false rest).map fun (title, rest) =>
        ('\\' :: c :: title, rest)
  | c :: rest =>
    if c = closing then some ([], rest)
    else if c = opening || (c = '\n' && lines.stops rest) then none
    else
      (titleBody lines opening closing (c = '\n') rest).map fun (title, rest) => (c :: title, rest)

/-- A title, with its escapes resolved. -/
def readTitle (lines : TitleLines) (cs : List Char) : Option (List Char × List Char) :=
  let body := match cs with
    | '"' :: rest => titleBody lines '"' '"' false rest
    | '\'' :: rest => titleBody lines '\'' '\'' false rest
    | '(' :: rest => titleBody lines '(' ')' false rest
    | _ => none
  body.map fun (title, rest) => (unescape title, rest)

/-! ## Labels -/

/-- A space inside a label. -/
def isLabelSpace (c : Char) : Bool :=
  isSpace c || c == '\n'

/-- A label behind its opening bracket, up to the closing one. -/
def labelBody : List Char → Option (List Char × List Char)
  | [] => none
  | '\\' :: c :: rest => (labelBody rest).map fun (label, rest) => ('\\' :: c :: label, rest)
  | c :: rest =>
    if c = ']' then some ([], rest)
    else if c = '[' then none
    else (labelBody rest).map fun (label, rest) => (c :: label, rest)

/-- The least weight that is too much for a label. -/
def labelLimit : Nat := 1000

/-- What a label weighs, with `below` line feeds behind it: one for every space in the source and
every backslash, and one for every byte of a character that is not ASCII, the first byte behind a
backslash aside. -/
def labelWeight (p : Passage) (below : Nat) : List Char → Nat
  | [] => 0
  | '\\' :: c :: rest => c.utf8Size + labelWeight p below rest
  | c :: rest =>
    (if c = '\n' then
      let gap := p.gap (rest.count '\n' + below)
      gap.ending.length + gap.lead.length
    else if isSpace c then 1
    else if c.toNat < 0x80 then 0
    else c.utf8Size) + labelWeight p below rest

/-- Whether a label has a line of nothing but spaces between two others. -/
def hasBlankLine (label : List Char) : Bool :=
  ((label.splitOn '\n').drop 1).dropLast.any onlySpace

/-- What a label is compared by: its words in one case, with single spaces between them. -/
def labelKey (label : List Char) : List Char :=
  foldCase ([' '].intercalate (wordsBy isLabelSpace label))

/-- A label behind its opening bracket. It may be neither blank nor too heavy, and no line of it may
be blank. -/
def readLabel (p : Passage) (cs : List Char) : Option (List Char × List Char) :=
  match labelBody cs with
  | some (label, rest) =>
    if label.all isLabelSpace || hasBlankLine label
        || labelLimit ≤ labelWeight p (rest.count '\n') label then none
    else some (labelKey label, rest)
  | none => none

/-! ## Inline targets -/

/-- The parentheses that a destination may have open at a time, less one. -/
def maxParentheses : Nat := 32

/-- A text behind spaces with at most one line end among them. -/
def skipSpace (cs : List Char) : List Char :=
  match cs.dropWhile isSpace with
  | '\n' :: rest => rest.dropWhile isSpace
  | cs => cs

/-- The title behind a destination, empty if there is none, and the rest behind spaces. -/
def optionalTitle (cs : List Char) : List Char × List Char :=
  match readTitle { bare := true } cs with
  | some (title, rest) => (title, skipSpace rest)
  | none => ([], cs)

/-- A target in parentheses, behind the closing bracket of a link text. -/
def inlineTarget : List Char → Option (Target × List Char)
  | '(' :: rest =>
    match readDestination maxParentheses (skipSpace rest) with
    | none => none
    | some (url, rest) =>
      match optionalTitle (skipSpace rest) with
      | (title, ')' :: rest) => some (⟨unescape url, title⟩, rest)
      | _ => none
  | _ => none

/-! ## Definitions -/

/-- A target with the label that links refer to it by. -/
structure Definition where
  key : List Char
  target : Target
deriving DecidableEq, Inhabited

/-- The text behind spaces with at most one line end among them, `none` if the line behind that end
would underline a heading. -/
def skipToDestination (p : Passage) (cs : List Char) : Option (List Char) :=
  match cs.dropWhile isSpace with
  | '\n' :: rest => if p.underlines rest then none else some (rest.dropWhile isSpace)
  | cs => some cs

/-- The text behind the end of a line, if only spaces come before that end. -/
def lineEnd? (cs : List Char) : Option (List Char) :=
  match cs.dropWhile isSpace with
  | [] => some []
  | '\n' :: rest => some rest
  | _ => none

/-- A title that ends its line, and the text behind that line. -/
def closingTitle (p : Passage) (cs : List Char) : Option (List Char × List Char) :=
  match readTitle { stops := p.underlines } cs with
  | some (title, rest) => (lineEnd? rest).map (title, ·)
  | none => none

/--
The title in a definition, behind its destination, and the text behind the definition.

On the line of the destination a title needs a space in front, and nothing else may stand there.
A title on the next line that does not end its line is no title, and the definition ends before.
-/
def definitionTitle (p : Passage) (cs : List Char) : Option (List Char × List Char) :=
  match lineEnd? cs with
  | some next =>
    match closingTitle p (next.dropWhile isSpace) with
    | some found => some found
    | none => some ([], next)
  | none =>
    match cs with
    | c :: _ => if isSpace c then closingTitle p (cs.dropWhile isSpace) else none
    | [] => none

/-- A definition at the front of a passage, and the text behind it, which starts with a line. -/
def readDefinition (p : Passage) : Option (Definition × List Char) :=
  match p.text with
  | '[' :: rest =>
    match readLabel p rest with
    | some (key, ':' :: rest) =>
      match skipToDestination p rest with
      | some start =>
        match readDestination maxParentheses start with
        | some (url, rest) =>
          if rest.length = start.length then none
          else
            (definitionTitle p rest).map fun (title, rest) => (⟨key, ⟨unescape url, title⟩⟩, rest)
        | none => none
      | none => none
    | _ => none
  | _ => none

/-- The target of the first definition with a key. -/
def lookupTarget (definitions : List Definition) (key : List Char) : Option Target :=
  (definitions.find? (fun d => d.key == key)).map Definition.target

end MarkdownDirectives.Markdown
