import MarkdownDirectives.Toml.Lexeme
import MarkdownDirectives.Toml.Table

/-!
# Reading TOML

A text is read value by value and line by line, and its lines are put together to one table.

## Termination

Values nest, so the readers of values take the number of steps that are left. Every step takes a
character; the length of the text is enough. They also take how many brackets and braces may still
be opened: values that nest too deep are refused.
-/

namespace MarkdownDirectives.Toml

/-! ## Values -/

mutual

/-- A value at the front of a text. -/
def readValue : Nat → Nat → List Char → Option (Value × List Char)
  | 0, _, _ => none
  | _, _, [] => none
  | fuel + 1, depth, c :: rest =>
    if c = '"' || c = '\'' then
      (readString c rest).map fun (text, rest) => (.string (String.ofList text), rest)
    else if c = '[' then
      if depth = 0 then none
      else
        (readItems fuel (depth - 1) (skipBlank rest)).map fun (items, rest) => (.array items, rest)
    else if c = '{' then
      if depth = 0 then none
      else do
        let (entries, rest) ← readEntries fuel (depth - 1) (skipBlank rest)
        let table ← Draft.inlineTable entries
        some (table, rest)
    else readWord (c :: rest)

/-- The items of an array and the text behind its closing bracket. -/
def readItems : Nat → Nat → List Char → Option (List Value × List Char)
  | 0, _, _ => none
  | _, _, ']' :: rest => some ([], rest)
  | fuel + 1, depth, cs => do
    let (item, rest) ← readValue fuel depth cs
    match skipBlank rest with
    | ',' :: rest =>
      let (items, rest) ← readItems fuel depth (skipBlank rest)
      some (item :: items, rest)
    | ']' :: rest => some ([item], rest)
    | _ => none

/-- The entries of an inline table and the text behind its closing brace. -/
def readEntries : Nat → Nat → List Char → Option (List (List String × Value) × List Char)
  | 0, _, _ => none
  | _, _, '}' :: rest => some ([], rest)
  | fuel + 1, depth, cs => do
    let (key, rest) ← readKey cs
    match rest with
    | '=' :: rest =>
      let (value, rest) ← readValue fuel depth (skipGap rest)
      match skipBlank rest with
      | ',' :: rest =>
        let (entries, rest) ← readEntries fuel depth (skipBlank rest)
        some ((key, value) :: entries, rest)
      | '}' :: rest => some ([(key, value)], rest)
      | _ => none
    | _ => none

end

/-! ## Lines -/

/-- What a line says. -/
inductive Statement where
  | header (path : List String)
  | entry (key : List String) (value : Value)
deriving Inhabited

/-- What stands at the front of a text that neither is empty nor starts with a line end. -/
def readStatement (cs : List Char) : Option (Statement × List Char) :=
  match cs with
  | '[' :: rest => do
    let (path, rest) ← readKey rest
    match rest with
    | ']' :: rest => some (.header path, rest)
    | _ => none
  | _ => do
    let (key, rest) ← readKey cs
    match rest with
    | '=' :: rest =>
      let rest := skipGap rest
      let (value, rest) ← readValue (rest.length + 1) maxDepth rest
      some (.entry key value, rest)
    | _ => none

/-- The text behind the line end that follows a statement. -/
def endStatement (cs : List Char) : Option (List Char) :=
  match skipComment (skipGap cs) with
  | [] => some []
  | cs => readLineEnd cs

/-- The statements of a text, at most `fuel` of them. -/
def readStatements : Nat → List Char → Option (List Statement)
  | 0, _ => none
  | fuel + 1, cs =>
    match skipBlank cs with
    | [] => some []
    | cs => do
      let (statement, rest) ← readStatement cs
      let rest ← endStatement rest
      let more ← readStatements fuel rest
      some (statement :: more)

/-! ## The whole text -/

/-- The entries so far and the header above. -/
structure Assembly where
  entries : List (String × Draft) := []
  header : List String := []
deriving Inhabited

/-- Takes a statement. -/
def Assembly.take (a : Assembly) : Statement → Option Assembly
  | .header path => (Draft.addHeader path a.entries).map fun entries => ⟨entries, path⟩
  | .entry key value =>
    (Draft.addBelow a.header key value a.entries).map fun entries => { a with entries }

/-- A text without a byte order mark. -/
def dropMark : List Char → List Char
  | c :: rest => if c.toNat = 0xFEFF then rest else c :: rest
  | [] => []

/-- The table that a text describes. -/
def Table.ofText (text : String) : Option Table := do
  let cs := dropMark text.toList
  let statements ← readStatements (cs.length + 1) cs
  let assembly ← statements.foldlM Assembly.take {}
  some (Draft.finishEntries assembly.entries)

end MarkdownDirectives.Toml
