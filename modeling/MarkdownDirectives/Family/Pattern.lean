import MarkdownDirectives.Family.Basic

/-!
# Names of a family

A family is known by its own name and by aliases. A pattern holds them in order; a directive's name
is compared with each of them, alone or with a suffix behind a hyphen, as the family's rule says.
-/

namespace MarkdownDirectives

/-- The names that a family is known by. -/
structure Pattern where
  family : Family
  /-- The family's own name first, no name twice. -/
  names : List String
deriving DecidableEq, Inhabited

/-- What a name says beside its family. -/
structure NameMatch where
  suffix : Option String := none
deriving DecidableEq, Inhabited, Repr

namespace Pattern

/-- Adds a name that is not there yet. -/
def addName (names : List String) (name : String) : List String :=
  if names.contains name then names else names ++ [name]

/-- A family's own name and its aliases. -/
def namesOf (family : Family) (aliases : List String) : List String :=
  aliases.foldl addName [family.name]

/-- The first other family whose name is among the names. -/
def reserved? (family : Family) (names : List String) : Option Family :=
  (Family.all.filter (· != family)).find? fun other => names.contains other.name

/-- The pattern of a family. The name of another family is no alias. -/
def build (family : Family) (aliases : List String) : Except DirectiveError Pattern :=
  let names := namesOf family aliases
  match reserved? family names with
  | some owner => .error (.reservedAlias family owner)
  | none => .ok ⟨family, names⟩

/-- A character of a suffix. -/
def isSuffixChar (c : Char) : Bool :=
  c.isAlphanum || c == '_'

/-- The suffix that a name carries behind a hyphen. -/
def suffix? (own name : List Char) : Option (List Char) :=
  if (own ++ ['-']).isPrefixOf name then
    let suffix := name.drop (own.length + 1)
    if !suffix.isEmpty && suffix.all isSuffixChar then some suffix else none
  else none

/-- Compares a name with one name of a family. -/
def matchName? (rule : SuffixRule) (own name : String) : Option NameMatch :=
  if rule != .required && name == own then some {}
  else if rule != .none then
    (suffix? own.toList name.toList).map fun suffix => ⟨some (String.ofList suffix)⟩
  else none

/-- Compares a name with the names of a family. The first one that fits decides. -/
def match? (p : Pattern) (name : String) : Option NameMatch :=
  p.names.findSome? fun own => matchName? p.family.suffixRule own name

end Pattern

end MarkdownDirectives
