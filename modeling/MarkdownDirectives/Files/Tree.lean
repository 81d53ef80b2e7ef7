import MarkdownDirectives.Files.View

/-!
# Trees of files

Directories and files by their full paths. A path is followed name by name: a dot stays where it
is, two dots go up, and only a directory can be gone through.
-/

namespace MarkdownDirectives

/-- The place of a file or directory: the names on the way from the root. -/
abbrev Place := List String

/-- Directories and files by their places. The root is always there. -/
structure FileTree where
  entries : List (Place × Entry) := []
deriving Inhabited

namespace FileTree

/-- What stands at a place. -/
def entry? (tree : FileTree) (place : Place) : Option Entry :=
  if place.isEmpty then some .directory else tree.entries.lookup place

/-- Puts an entry at a place, over what stands there. -/
def set (tree : FileTree) (place : Place) (entry : Entry) : FileTree :=
  ⟨(place, entry) :: tree.entries.filter (·.1 != place)⟩

/-- Makes the directories on the way to a place that are missing. -/
def makeDirectories (tree : FileTree) (place : Place) : FileTree :=
  (List.range (place.length + 1)).foldl
    (fun tree n =>
      let above := place.take n
      if (tree.entry? above).isSome then tree else tree.set above .directory)
    tree

/-- Puts a file at a place and makes the directories on the way there. -/
def addFile (tree : FileTree) (place : Place) (text : Option String) : FileTree :=
  (tree.makeDirectories place.dropLast).set place (.file text)

/-- Whether no file can have a name. -/
def isLongName (name : String) : Bool :=
  255 < name.utf8ByteSize

/-- Whether a path is too long to be followed. -/
def isLongPath (path : String) : Bool :=
  4095 < path.utf8ByteSize

/-- The place that a path leads to from a place. -/
def walk (tree : FileTree) (place : Place) : List String → Except FileError Place
  | [] => .ok place
  | name :: rest =>
    match tree.entry? place with
    | none => .error .notFound
    | some (.file _) => .error .notDirectory
    | some .directory =>
      if name = "" || name = "." then walk tree place rest
      else if name = ".." then walk tree place.dropLast rest
      else if isLongName name then .error .nameTooLong
      else if (tree.entry? (place ++ [name])).isSome then walk tree (place ++ [name]) rest
      else .error .notFound

/-- The names of a path. -/
def namesOf (path : Path) : List String :=
  path.parts.map String.ofList

/-- The place that a path starts from. -/
def startOf (workingDirectory : Place) (path : Path) : Place :=
  if path.absolute then [] else workingDirectory

/-- What a path leads to. -/
def find (tree : FileTree) (workingDirectory : Place) (path : String) : Except FileError Entry :=
  let p := Path.ofString path
  if p.parts.isEmpty then .error .notFound
  else if isLongPath path then .error .nameTooLong
  else
    match tree.walk (startOf workingDirectory p) (namesOf p) with
    | .ok place =>
      match tree.entry? place with
      | some entry => .ok entry
      | none => .error .notFound
    | .error e => .error e

/-- The tree as it is seen from one of its directories. -/
def view (tree : FileTree) (workingDirectory : Place) : FileView :=
  ⟨"/" ++ "/".intercalate workingDirectory, tree.find workingDirectory⟩

/-- Names without the empty ones at the end. -/
def trimNames (names : List String) : List String :=
  (names.reverse.dropWhile String.isEmpty).reverse

/-- Whether the last of the names can only be that of a directory. -/
def isDirectoryName (name : String) : Bool :=
  name = "." || name = ".."

/-- Writes a file. A file that is there is replaced; its directory must be there. A path with a
slash at its end is no path of a file. -/
def write (tree : FileTree) (workingDirectory : Place) (path text : String) :
    Except FileError FileTree :=
  let p := Path.ofString path
  let names := trimNames (namesOf p)
  if isLongPath path then .error .nameTooLong
  else
    match names.getLast? with
    | none => .error (if p.absolute then .isDirectory else .notFound)
    | some name =>
      match tree.walk (startOf workingDirectory p) names.dropLast with
      | .error e => .error e
      | .ok above =>
        match tree.entry? above with
        | some .directory =>
          if isDirectoryName name || names.length < p.parts.length then .error .isDirectory
          else if isLongName name then .error .nameTooLong
          else
            match tree.entry? (above ++ [name]) with
            | some .directory => .error .isDirectory
            | _ => .ok (tree.set (above ++ [name]) (.file (some text)))
        | some (.file _) => .error .notDirectory
        | none => .error .notFound

end FileTree

end MarkdownDirectives
