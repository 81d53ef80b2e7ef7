import MarkdownDirectives.Toml.Value

/-!
# TOML lexemes

Spaces, comments, line ends, strings, numbers, moments and keys. Each reader starts at the front of
a text and gives what it read and the rest, or nothing if the text does not start with it.
-/

namespace MarkdownDirectives.Toml

/-! ## Spaces -/

/-- A space inside a line. -/
def isGap (c : Char) : Bool :=
  c == ' ' || c == '\t'

/-- A text behind spaces. -/
def skipGap (cs : List Char) : List Char :=
  cs.dropWhile isGap

/-- A control character that may stand nowhere; a tab may. -/
def isForbidden (c : Char) : Bool :=
  (c.toNat < 0x20 && c != '\t') || c.toNat == 0x7F

/-- A text behind a line end. -/
def readLineEnd : List Char → Option (List Char)
  | '\n' :: rest => some rest
  | '\r' :: '\n' :: rest => some rest
  | _ => none

/-- A text behind a comment, if it starts with one. -/
def skipComment : List Char → List Char
  | '#' :: rest => rest.dropWhile (!isForbidden ·)
  | cs => cs

/-- A text behind spaces, comments and line ends; at most `fuel` of the latter. -/
def skipLines : Nat → List Char → List Char
  | 0, cs => cs
  | fuel + 1, cs =>
    let cs := skipComment (skipGap cs)
    match readLineEnd cs with
    | some rest => skipLines fuel rest
    | none => cs

/-- A text behind all spaces, comments and line ends. -/
def skipBlank (cs : List Char) : List Char :=
  skipLines cs.length cs

/-! ## Strings -/

/-- The value of a hexadecimal digit. -/
def hexValue? (c : Char) : Option Nat :=
  if c.isDigit then some (c.toNat - 0x30)
  else if 'a' ≤ c.toLower && c.toLower ≤ 'f' then some (c.toLower.toNat - 0x57)
  else none

/-- The character that exactly `digits` hexadecimal digits stand for. -/
def readCodePoint (digits : Nat) (cs : List Char) : Option (Char × List Char) := do
  let values ← (cs.take digits).mapM hexValue?
  let n := values.foldl (fun n d => n * 16 + d) 0
  if values.length = digits && (n < 0xD800 || (0xDFFF < n && n < 0x110000)) then
    some (Char.ofNat n, cs.drop digits)
  else none

/-- The character of an escape behind its backslash. -/
def readEscape : List Char → Option (Char × List Char)
  | 'b' :: rest => some ('\x08', rest)
  | 't' :: rest => some ('\t', rest)
  | 'n' :: rest => some ('\n', rest)
  | 'f' :: rest => some ('\x0c', rest)
  | 'r' :: rest => some ('\r', rest)
  | 'e' :: rest => some ('\x1b', rest)
  | '"' :: rest => some ('"', rest)
  | '\\' :: rest => some ('\\', rest)
  | 'x' :: rest => readCodePoint 2 rest
  | 'u' :: rest => readCodePoint 4 rest
  | 'U' :: rest => readCodePoint 8 rest
  | _ => none

/-- Puts a character in front of what was read. -/
def pushChar (c : Char) : Option (List Char × List Char) → Option (List Char × List Char) :=
  Option.map fun (text, rest) => (c :: text, rest)

/-- A string on one line behind its opening quote. Only between double quotes there are escapes. -/
def readLine (quote : Char) : Nat → List Char → Option (List Char × List Char)
  | 0, _ => none
  | _, [] => none
  | fuel + 1, c :: rest =>
    if c = quote then some ([], rest)
    else if isForbidden c then none
    else if c = '\\' && quote = '"' then
      match readEscape rest with
      | some (d, rest) => pushChar d (readLine quote fuel rest)
      | none => none
    else pushChar c (readLine quote fuel rest)

/-- What ends a string of several lines: three quotes, and up to two more in front of them that
belong to the string. -/
def readClosing (quote : Char) (cs : List Char) : Option (List Char × List Char) :=
  let quotes := cs.takeWhile (· == quote)
  if 3 ≤ quotes.length && quotes.length ≤ 5 then
    some (quotes.drop 3, cs.drop quotes.length)
  else none

/-- A text behind spaces and line ends. -/
def skipGapLines : List Char → List Char
  | '\r' :: '\n' :: rest => skipGapLines rest
  | c :: rest => if isGap c || c == '\n' then skipGapLines rest else c :: rest
  | [] => []

/-- A text behind a backslash at the end of a line, and behind the spaces and line ends below. -/
def skipFold (cs : List Char) : Option (List Char) :=
  (readLineEnd (skipGap cs)).map skipGapLines

/-- A string of several lines behind its opening quotes. Its line ends stay as they are. -/
def readText (quote : Char) : Nat → List Char → Option (List Char × List Char)
  | 0, _ => none
  | _, [] => none
  | fuel + 1, c :: rest =>
    if c = quote then
      match readClosing quote (c :: rest) with
      | some found => some found
      | none =>
        if 5 < ((c :: rest).takeWhile (· == quote)).length then none
        else pushChar c (readText quote fuel rest)
    else if c = '\\' && quote = '"' then
      match skipFold rest with
      | some rest => readText quote fuel rest
      | none =>
        match readEscape rest with
        | some (d, rest) => pushChar d (readText quote fuel rest)
        | none => none
    else if (readLineEnd (c :: rest)).isSome || !isForbidden c then
      pushChar c (readText quote fuel rest)
    else none

/-- A string behind its first quote. A line end right behind three quotes does not count. -/
def readString (quote : Char) (cs : List Char) : Option (List Char × List Char) :=
  match cs with
  | a :: b :: rest =>
    if a = quote && b = quote then
      let body := (readLineEnd rest).getD rest
      readText quote (body.length + 1) body
    else readLine quote (cs.length + 1) cs
  | _ => readLine quote (cs.length + 1) cs

/-! ## Numbers -/

/-- The value of digits in a base. Single underscores may stand between digits. -/
def readDigits (base : Nat) (value : Nat) : List Char → Option Nat
  | [] => some value
  | '_' :: c :: rest => do
    let d ← hexValue? c
    if d < base then readDigits base (value * base + d) rest else none
  | c :: rest => do
    let d ← hexValue? c
    if d < base then readDigits base (value * base + d) rest else none

/-- The value of digits of which the first is no underscore. -/
def readNatural (base : Nat) : List Char → Option Nat
  | [] => none
  | c :: rest => if c = '_' then none else readDigits base 0 (c :: rest)

/-- A decimal number without a sign. Only zero starts with a zero. -/
def readDecimal : List Char → Option Nat
  | ['0'] => some 0
  | '0' :: _ => none
  | cs => readNatural 10 cs

/-- An integer that is written with the given characters. -/
def integer? : List Char → Option Int
  | '0' :: 'x' :: digits => (readNatural 16 digits).map Int.ofNat
  | '0' :: 'o' :: digits => (readNatural 8 digits).map Int.ofNat
  | '0' :: 'b' :: digits => (readNatural 2 digits).map Int.ofNat
  | '-' :: digits => (readDecimal digits).map fun n => -(n : Int)
  | '+' :: digits => (readDecimal digits).map Int.ofNat
  | digits => (readDecimal digits).map Int.ofNat

/-- A number without its sign. -/
def dropSign : List Char → List Char
  | '+' :: rest => rest
  | '-' :: rest => rest
  | cs => cs

/-- A digit, or what may stand between two. -/
def isNumeral (c : Char) : Bool :=
  c.isDigit || c == '_'

/-- Whether characters are an exponent. -/
def isExponent : List Char → Bool
  | c :: rest => (c == 'e' || c == 'E') && (readNatural 10 (dropSign rest)).isSome
  | [] => false

/-- Whether characters are what follows the point of a number. -/
def isFraction (cs : List Char) : Bool :=
  let digits := cs.takeWhile isNumeral
  let rest := cs.drop digits.length
  (readNatural 10 digits).isSome && (rest.isEmpty || isExponent rest)

/-- Whether characters are a number with a fraction or an exponent, or stand for none. -/
def isFloat (cs : List Char) : Bool :=
  let cs := dropSign cs
  let digits := cs.takeWhile isNumeral
  cs = "inf".toList || cs = "nan".toList ||
    ((readDecimal digits).isSome &&
      match cs.drop digits.length with
      | '.' :: rest => isFraction rest
      | rest => isExponent rest)

/-! ## Words -/

/-- A character of a word, which is a boolean, a number or a moment. -/
def isWordChar (c : Char) : Bool :=
  c.isAlphanum || c == '_' || c == '+' || c == '-' || c == '.' || c == ':'

/-- A word and the text behind it. -/
def splitWord (cs : List Char) : List Char × List Char :=
  let word := cs.takeWhile isWordChar
  (word, cs.drop word.length)

/-- A moment whose time is a word of its own. -/
def readApart (word : List Char) : List Char → Option (Value × List Char)
  | ' ' :: rest =>
    let (clock, rest) := splitWord rest
    (Moment.ofList (word ++ ' ' :: clock)).map fun m => (.moment m, rest)
  | _ => none

/-- The value of a word. -/
def wordValue? (word : List Char) : Option Value :=
  if word = "true".toList then some (.bool true)
  else if word = "false".toList then some (.bool false)
  else
    match integer? word with
    | some n => some (.int n)
    | none =>
      if isFloat word then some (.float (String.ofList word))
      else (Moment.ofList word).map .moment

/-- A boolean, a number or a moment. -/
def readWord (cs : List Char) : Option (Value × List Char) :=
  let (word, rest) := splitWord cs
  match readApart word rest with
  | some found => some found
  | none => (wordValue? word).map fun value => (value, rest)

/-! ## Keys -/

/-- A character of a key without quotes. -/
def isKeyChar (c : Char) : Bool :=
  c.isAlphanum || c == '-' || c == '_'

/-- One part of a key. A quoted one ends on its line. -/
def readSimpleKey (cs : List Char) : Option (String × List Char) :=
  match cs with
  | [] => none
  | c :: rest =>
    if c = '"' || c = '\'' then
      (readLine c (rest.length + 1) rest).map fun (key, rest) => (String.ofList key, rest)
    else
      let key := cs.takeWhile isKeyChar
      if key.isEmpty then none else some (String.ofList key, cs.drop key.length)

/-- The parts of a key, with dots between them. Spaces may stand around the dots. -/
def readParts : Nat → List Char → Option (List String × List Char)
  | 0, _ => none
  | fuel + 1, cs => do
    let (part, rest) ← readSimpleKey (skipGap cs)
    match skipGap rest with
    | '.' :: rest =>
      let (parts, rest) ← readParts fuel rest
      some (part :: parts, rest)
    | rest => some ([part], rest)

/-- How deep values may nest, and how many parts a key may have. -/
def maxDepth : Nat := 80

/-- A key and the text behind it and the spaces that follow. -/
def readKey (cs : List Char) : Option (List String × List Char) := do
  let (parts, rest) ← readParts (cs.length + 1) cs
  if parts.length ≤ maxDepth then some (parts, rest) else none

end MarkdownDirectives.Toml
