/-!
# JSON

JSON values without fractions, and their text on several lines: two more spaces for every level, a
line for every item and every member, and nothing between the brackets of an empty array or object.
-/

namespace MarkdownDirectives

/-- A JSON value. The members of an object stand in the order they are written in. -/
inductive Json where
  | null
  | bool (value : Bool)
  | int (value : Int)
  | string (value : String)
  | array (items : List Json)
  | object (members : List (String × Json))
deriving Inhabited, BEq

namespace Json

/-- A string, or null. -/
def ofString? : Option String → Json
  | some value => string value
  | none => null

/-- A list of strings. -/
def ofStrings (values : List String) : Json :=
  array (values.map string)

/-! ## Strings -/

/-- A lower-case hexadecimal digit. -/
def hexDigit (n : Nat) : Char :=
  if n < 10 then Char.ofNat (0x30 + n) else Char.ofNat (0x57 + n)

/-- A character inside a string. Only quotes, backslashes and control characters are escaped. -/
def quoteChar (c : Char) : List Char :=
  match c with
  | '"' => ['\\', '"']
  | '\\' => ['\\', '\\']
  | '\n' => ['\\', 'n']
  | '\r' => ['\\', 'r']
  | '\t' => ['\\', 't']
  | '\x08' => ['\\', 'b']
  | '\x0c' => ['\\', 'f']
  | c =>
    if c.toNat < 0x20 then ['\\', 'u', '0', '0', hexDigit (c.toNat / 16), hexDigit (c.toNat % 16)]
    else [c]

/-- A string in quotes. -/
def quote (s : String) : String :=
  "\"" ++ String.ofList (s.toList.flatMap quoteChar) ++ "\""

/-! ## Layout -/

/-- The start of a line at a level. -/
def newLine (level : Nat) : String :=
  "\n" ++ String.ofList (List.replicate (2 * level) ' ')

/-- Parts between two brackets, each on a line of its own one level deeper than the brackets. -/
def enclose (opening closing : String) (level : Nat) (parts : List String) : String :=
  if parts.isEmpty then opening ++ closing
  else opening ++ ",".intercalate (parts.map (newLine (level + 1) ++ ·)) ++ newLine level ++ closing

mutual

/-- The text of a value that starts at a level. -/
def renderAt (level : Nat) : Json → String
  | null => "null"
  | bool value => if value then "true" else "false"
  | int value => toString value
  | string value => quote value
  | array items => enclose "[" "]" level (renderItems (level + 1) items)
  | object members => enclose "\x7b" "\x7d" level (renderMembers (level + 1) members)

/-- The texts of the items of an array. -/
def renderItems (level : Nat) : List Json → List String
  | [] => []
  | item :: rest => renderAt level item :: renderItems level rest

/-- The texts of the members of an object. -/
def renderMembers (level : Nat) : List (String × Json) → List String
  | [] => []
  | (key, value) :: rest => (quote key ++ ": " ++ renderAt level value) :: renderMembers level rest

end

/-- The text of a value. -/
def render (value : Json) : String :=
  value.renderAt 0

end Json

end MarkdownDirectives
