import MarkdownDirectives.Files.Path

/-!
# Files

What a program sees of the files around it: for every path it asks for, what is there. The content
of a file counts as text only if it is UTF-8.
-/

namespace MarkdownDirectives

/-- What a path leads to. -/
inductive Entry where
  | directory
  /-- A file with its text, `none` if its content is no text. -/
  | file (text : Option String)
deriving DecidableEq, Inhabited

/-- Why a file cannot be read or written. -/
inductive FileError where
  | notFound
  | notDirectory
  | isDirectory
  | notText
  | nameTooLong
  /-- Another reason, in words. -/
  | other (reason : String)
deriving DecidableEq, Inhabited

/-- What a file error is reported as. -/
def FileError.message : FileError → String
  | notFound => "No such file or directory (os error 2)"
  | notDirectory => "Not a directory (os error 20)"
  | isDirectory => "Is a directory (os error 21)"
  | notText => "stream did not contain valid UTF-8"
  | nameTooLong => "File name too long (os error 36)"
  | other reason => reason

/-- Files as they are seen from a working directory. -/
structure FileView where
  /-- The full path of the working directory. -/
  workingDirectory : String
  /-- What a path leads to. A path that does not start with a slash starts at the working
  directory. -/
  find : String → Except FileError Entry

namespace FileView

/-- Whether there is anything at a path. -/
def present (view : FileView) (path : String) : Bool :=
  (view.find path).isOk

/-- Whether there is a file at a path. -/
def isFile (view : FileView) (path : String) : Bool :=
  match view.find path with
  | .ok (.file _) => true
  | _ => false

/-- The text of the file at a path. -/
def read (view : FileView) (path : String) : Except FileError String :=
  match view.find path with
  | .ok (.file (some text)) => .ok text
  | .ok (.file none) => .error .notText
  | .ok .directory => .error .isDirectory
  | .error e => .error e

end FileView

end MarkdownDirectives
