import MarkdownDirectives.Toml.Value

/-!
# Building tables

Lines of a TOML text make tables bit by bit, and the same table may not be made twice. So a table
in the making remembers what made it: a header of its own, a header of a table inside it, or a
dotted key.
-/

namespace MarkdownDirectives.Toml

/-- What made a table. -/
inductive Origin where
  /-- A header of its own. -/
  | header
  /-- The header of a table inside. -/
  | path
  /-- A dotted key. -/
  | dotted
deriving DecidableEq, Inhabited

/-- A table in the making, or a value in one. Values do not change any more. -/
inductive Draft where
  | value (value : Value)
  | table (origin : Origin) (entries : List (String × Draft))
deriving Inhabited

namespace Draft

/-- Replaces the value of a key that is there. -/
def replace (key : String) (draft : Draft) (entries : List (String × Draft)) :
    List (String × Draft) :=
  entries.map fun e => if e.1 == key then (key, draft) else e

/-- Changes the table at a path. Tables on the way are made where there are none: `dotted` tells
whether the path is a dotted key, which may not lead into a table that has a header. -/
def modifyAt (dotted : Bool) (f : List (String × Draft) → Option (List (String × Draft))) :
    List String → List (String × Draft) → Option (List (String × Draft))
  | [], entries => f entries
  | key :: path, entries =>
    match entries.lookup key with
    | none => (modifyAt dotted f path []).map fun inner =>
        entries ++ [(key, table (if dotted then .dotted else .path) inner)]
    | some (table origin inner) =>
      if dotted && origin = .header then none
      else (modifyAt dotted f path inner).map fun inner =>
        replace key (table origin inner) entries
    | some (value _) => none

/-- Adds a value under a new key. -/
def addValue (key : String) (v : Value) (entries : List (String × Draft)) :
    Option (List (String × Draft)) :=
  if (entries.lookup key).isSome then none else some (entries ++ [(key, value v)])

/-- Adds the value of a dotted key. -/
def addEntry (key : List String) (v : Value) (entries : List (String × Draft)) :
    Option (List (String × Draft)) :=
  match key.getLast? with
  | some last => modifyAt true (addValue last v) key.dropLast entries
  | none => none

/-- Gives a table its header. It may have been made by headers of tables inside it only. -/
def openTable (key : String) (entries : List (String × Draft)) :
    Option (List (String × Draft)) :=
  match entries.lookup key with
  | none => some (entries ++ [(key, table .header [])])
  | some (table .path inner) => some (replace key (table .header inner) entries)
  | _ => none

/-- Takes a header. -/
def addHeader (path : List String) (entries : List (String × Draft)) :
    Option (List (String × Draft)) :=
  match path.getLast? with
  | some last => modifyAt false (openTable last) path.dropLast entries
  | none => none

/-- Takes an entry below a header. -/
def addBelow (header key : List String) (v : Value) (entries : List (String × Draft)) :
    Option (List (String × Draft)) :=
  modifyAt false (addEntry key v) header entries

mutual

/-- The value that was made. -/
def finish : Draft → Value
  | value v => v
  | table _ entries => .table (finishEntries entries)

/-- The entries that were made. -/
def finishEntries : List (String × Draft) → Table
  | [] => []
  | (key, draft) :: rest => (key, finish draft) :: finishEntries rest

end

/-- The table of entries, each with its dotted key, `none` if a key is made twice. -/
def inlineTable (entries : List (List String × Value)) : Option Value :=
  (entries.foldlM (fun drafts e => addEntry e.1 e.2 drafts) []).map fun drafts =>
    .table (finishEntries drafts)

end Draft

end MarkdownDirectives.Toml
