/-!
# Paths

A path is a sequence of names with slashes between them. It is kept as it was written: empty names
and dots stay where they are. Parents are taken by the writing alone, so the parent of `a/..` is
`a`, whatever `..` leads to.
-/

namespace MarkdownDirectives

/-- A path as it was written. -/
structure Path where
  /-- Whether it starts with a slash. -/
  absolute : Bool := false
  /-- What stands between the slashes. -/
  parts : List (List Char) := []
deriving DecidableEq, Inhabited

namespace Path

/-- The path with a given text. -/
def ofList : List Char → Path
  | [] => ⟨false, []⟩
  | '/' :: rest => ⟨true, rest.splitOn '/'⟩
  | cs => ⟨false, cs.splitOn '/'⟩

/-- The path with a given text. -/
def ofString (s : String) : Path :=
  ofList s.toList

/-- The text of a path. -/
def toList (p : Path) : List Char :=
  (if p.absolute then ['/'] else []) ++ ['/'].intercalate p.parts

/-- The text of a path. -/
def toString (p : Path) : String :=
  String.ofList p.toList

/-- The text of the path of a file in a directory. -/
def join (p : Path) (name : String) : String :=
  let cs := p.toList
  if cs.isEmpty || cs.getLast? = some '/' then String.ofList cs ++ name
  else String.ofList cs ++ "/" ++ name

/-! ## Parents -/

/-- Parts without those at the end that lead nowhere: empty ones and dots. -/
def trimParts (parts : List (List Char)) : List (List Char) :=
  (parts.reverse.dropWhile fun part => part.isEmpty || part == ['.']).reverse

/-- The path without its last name, `none` if there is no name. -/
def parent? (p : Path) : Option Path :=
  if p.absolute then
    if (trimParts p.parts).isEmpty then none
    else some { p with parts := trimParts (trimParts p.parts).dropLast }
  else
    match p.parts with
    | [] => none
    | first :: rest =>
      if (trimParts rest).isEmpty then some { p with parts := [] }
      else some { p with parts := first :: trimParts (trimParts rest).dropLast }

theorem length_trimParts (parts : List (List Char)) : (trimParts parts).length ≤ parts.length := by
  have h : (parts.reverse.dropWhile fun part => part.isEmpty || part == ['.']).length
      ≤ parts.reverse.length := (List.dropWhile_sublist _).length_le
  simpa [trimParts] using h

theorem length_trimParts_dropLast {parts : List (List Char)}
    (h : (trimParts parts).isEmpty = false) :
    (trimParts (trimParts parts).dropLast).length < parts.length := by
  have h1 := length_trimParts (trimParts parts).dropLast
  have h2 := length_trimParts parts
  have h3 : (trimParts parts) ≠ [] := by simpa using h
  have h4 := List.length_pos_iff.mpr h3
  simp only [List.length_dropLast] at h1
  omega

/-- A parent is shorter. -/
theorem length_parent {p q : Path} (h : p.parent? = some q) :
    q.parts.length < p.parts.length := by
  unfold parent? at h
  split at h
  · split at h
    · simp at h
    · next hne =>
      simp only [Option.some.injEq] at h
      subst h
      exact length_trimParts_dropLast (by simpa using hne)
  · split at h
    · simp at h
    · next first rest hp =>
      split at h
      · simp only [Option.some.injEq] at h
        subst h
        simp [hp]
      · next hne =>
        simp only [Option.some.injEq] at h
        subst h
        have : (trimParts (trimParts rest).dropLast).length < rest.length :=
          length_trimParts_dropLast (by simpa using hne)
        simp only [hp, List.length_cons]
        omega

/-- A path, its parent, the parent of that, and so on. -/
def ancestors (p : Path) : List Path :=
  match _h : p.parent? with
  | some parent => p :: ancestors parent
  | none => [p]
termination_by p.parts.length
decreasing_by exact length_parent _h

end Path

end MarkdownDirectives
