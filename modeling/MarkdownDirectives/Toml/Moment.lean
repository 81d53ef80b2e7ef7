/-!
# Dates and times

A moment in a TOML text is a date, a time of day, or both; only both together may say how far
local time is from universal time. The numbers of a moment have a fixed count of digits, and only
moments that exist are read.
-/

namespace MarkdownDirectives.Toml

/-! ## Parts -/

/-- A day of the calendar. -/
structure Date where
  year : Nat
  month : Nat
  day : Nat
deriving DecidableEq, Inhabited

/-- A time of day. Its seconds may be left out, and so may the billionths below them. -/
structure Time where
  hour : Nat
  minute : Nat
  second : Option (Nat × Option Nat) := none
deriving DecidableEq, Inhabited

/-- How far local time is from universal time. -/
inductive Offset where
  /-- Not at all. -/
  | universal
  /-- By hours and minutes, ahead of it or behind. -/
  | shifted (behind : Bool) (hours minutes : Nat)
deriving DecidableEq, Inhabited

/-- A moment. -/
inductive Moment where
  | date (date : Date)
  | time (time : Time)
  | both (date : Date) (time : Time) (offset : Option Offset)
deriving DecidableEq, Inhabited

/-! ## Which ones exist -/

/-- Whether February has a day more. -/
def isLeapYear (year : Nat) : Bool :=
  year % 4 = 0 && (year % 100 != 0 || year % 400 = 0)

/-- The number of days of a month. -/
def daysOfMonth (year month : Nat) : Nat :=
  if month = 2 then (if isLeapYear year then 29 else 28)
  else if month = 4 || month = 6 || month = 9 || month = 11 then 30
  else 31

/-- Whether a day is in the calendar. -/
def Date.valid (d : Date) : Bool :=
  1 ≤ d.month && d.month ≤ 12 && 1 ≤ d.day && d.day ≤ daysOfMonth d.year d.month

/-- Whether a day has a time. A minute may have a leap second. -/
def Time.valid (t : Time) : Bool :=
  t.hour ≤ 23 && t.minute ≤ 59 && (t.second.map (·.1)).getD 0 ≤ 60

/-- Whether an offset is less than a day. -/
def Offset.valid : Offset → Bool
  | universal => true
  | .shifted _ hours minutes => hours ≤ 23 && minutes ≤ 59

/-! ## Reading -/

/-- The value of decimal digits. -/
def decimalValue (digits : List Char) : Nat :=
  digits.foldl (fun n c => n * 10 + (c.toNat - 0x30)) 0

/-- The number at the front of a text that is written with exactly `count` digits. -/
def readFixed (count : Nat) (cs : List Char) : Option (Nat × List Char) :=
  let digits := cs.takeWhile Char.isDigit
  if digits.length = count then some (decimalValue digits, cs.drop count) else none

/-- The number behind a separator. -/
def readBehind (separator : Char) (count : Nat) : List Char → Option (Nat × List Char)
  | c :: rest => if c = separator then readFixed count rest else none
  | [] => none

/-- A date at the front of a text. -/
def readDate (cs : List Char) : Option (Date × List Char) := do
  let (year, rest) ← readFixed 4 cs
  let (month, rest) ← readBehind '-' 2 rest
  let (day, rest) ← readBehind '-' 2 rest
  let date : Date := ⟨year, month, day⟩
  if date.valid then some (date, rest) else none

/-- The billionths that digits behind a point stand for. Further digits do not count. -/
def billionths (digits : List Char) : Nat :=
  decimalValue ((digits ++ List.replicate 9 '0').take 9)

/-- Billionths at the front of a text, if there is a point. -/
def readBillionths : List Char → Option (Option Nat × List Char)
  | '.' :: rest =>
    let digits := rest.takeWhile Char.isDigit
    if digits.isEmpty then none else some (some (billionths digits), rest.drop digits.length)
  | cs => some (none, cs)

/-- A time at the front of a text. -/
def readTime (cs : List Char) : Option (Time × List Char) := do
  let (hour, rest) ← readFixed 2 cs
  let (minute, rest) ← readBehind ':' 2 rest
  let (time, rest) ← match rest with
    | ':' :: _ => do
      let (second, rest) ← readBehind ':' 2 rest
      let (part, rest) ← readBillionths rest
      some (Time.mk hour minute (some (second, part)), rest)
    | _ => some (Time.mk hour minute none, rest)
  if time.valid then some (time, rest) else none

/-- The hours and minutes of an offset behind its sign. -/
def readShift (behind : Bool) (cs : List Char) : Option (Offset × List Char) := do
  let (hours, rest) ← readFixed 2 cs
  let (minutes, rest) ← readBehind ':' 2 rest
  let offset := Offset.shifted behind hours minutes
  if offset.valid then some (offset, rest) else none

/-- An offset at the front of a text. -/
def readOffset : List Char → Option (Offset × List Char)
  | 'Z' :: rest => some (.universal, rest)
  | 'z' :: rest => some (.universal, rest)
  | '+' :: rest => readShift false rest
  | '-' :: rest => readShift true rest
  | _ => none

/-- Whether a character may stand between a date and a time. -/
def isDateEnd (c : Char) : Bool :=
  c == 'T' || c == 't' || c == ' '

/-- A time behind a date, with its offset. -/
def readClock (date : Date) (cs : List Char) : Option Moment := do
  let (time, rest) ← readTime cs
  match rest with
  | [] => some (.both date time none)
  | rest =>
    match readOffset rest with
    | some (offset, []) => some (.both date time (some offset))
    | _ => none

/-- The moment that a text describes. -/
def Moment.ofList (cs : List Char) : Option Moment :=
  match readDate cs with
  | some (d, []) => some (.date d)
  | some (d, c :: rest) => if isDateEnd c then readClock d rest else none
  | none =>
    match readTime cs with
    | some (t, []) => some (.time t)
    | _ => none

/-! ## Writing -/

/-- A number with zeros in front, `count` digits at least. -/
def padded (count n : Nat) : List Char :=
  let digits := (ToString.toString n).toList
  List.replicate (count - digits.length) '0' ++ digits

/-- Digits without the zeros at the end; one digit stays. -/
def trimZeros (digits : List Char) : List Char :=
  match (digits.reverse.dropWhile (· == '0')).reverse with
  | [] => ['0']
  | digits => digits

/-- The text of a date. -/
def Date.toList (d : Date) : List Char :=
  padded 4 d.year ++ '-' :: padded 2 d.month ++ '-' :: padded 2 d.day

/-- The text of seconds, which are left out together with the colon. -/
def secondText : Option (Nat × Option Nat) → List Char
  | none => []
  | some (second, none) => ':' :: padded 2 second
  | some (second, some part) => ':' :: padded 2 second ++ '.' :: trimZeros (padded 9 part)

/-- The text of a time. -/
def Time.toList (t : Time) : List Char :=
  padded 2 t.hour ++ ':' :: padded 2 t.minute ++ secondText t.second

/-- The text of an offset. One of no length is never behind. -/
def Offset.toList : Offset → List Char
  | universal => ['Z']
  | .shifted behind hours minutes =>
    (if behind && (hours != 0 || minutes != 0) then '-' else '+')
      :: padded 2 hours ++ ':' :: padded 2 minutes

/-- The text of a moment. -/
def Moment.toList : Moment → List Char
  | .date d => d.toList
  | .time t => t.toList
  | .both d t offset => d.toList ++ 'T' :: t.toList ++ (offset.map Offset.toList).getD []

/-- The text of a moment. -/
def Moment.text (m : Moment) : String :=
  String.ofList m.toList

end MarkdownDirectives.Toml
