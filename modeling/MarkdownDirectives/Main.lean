import MarkdownDirectives.Command.Render

/-!
# The program

Looks at the files that the command asks for, lets it decide, and writes what it says.
-/

namespace MarkdownDirectives.Main

/-- The number of a failure, which the system may give with its sign turned. -/
def errorNumber (code : UInt32) : UInt32 :=
  if code < 0x80000000 then code else 0 - code

/-- The error that stands for a failure of the system. -/
def fileErrorOf : IO.Error → FileError
  | .noFileOrDirectory .. => .notFound
  | .inappropriateType _ code _ => if errorNumber code = 20 then .notDirectory else .isDirectory
  | .invalidArgument path code details =>
    if errorNumber code = 36 then .nameTooLong
    else .other (toString (IO.Error.invalidArgument path code details))
  | e => .other (toString e)

/-- The text of bytes. -/
def textOf (bytes : ByteArray) : Except FileError String :=
  match String.fromUTF8? bytes with
  | some text => .ok text
  | none => .error .notText

/-- What a path leads to. -/
def entryAt (path : String) : IO (Except FileError Entry) := do
  try
    let place := (← IO.currentDir) / path
    if path.isEmpty then return .error .notFound
    if ← place.isDir then return .ok .directory
    return .ok (.file (String.fromUTF8? (← IO.FS.readBinFile place)))
  catch e => return .error (fileErrorOf e)

/-- All bytes of a stream. -/
partial def readAll (stream : IO.FS.Stream) (bytes : ByteArray) : IO ByteArray := do
  let more ← stream.read 65536
  if more.isEmpty then return bytes
  readAll stream (bytes ++ more)

/-- Writes a file. -/
def writeAt (path text : String) : IO (Except FileError Unit) := do
  try
    IO.FS.writeFile path text
    return .ok ()
  catch e => return .error (fileErrorOf e)

/-- The files that the command looks at. -/
def viewOf (args : List String) : IO FileView := do
  let workingDirectory := (← IO.currentDir).toString
  let entries ← (Command.pathsOf workingDirectory args).mapM fun path => do
    return (path, ← entryAt path)
  return ⟨workingDirectory, fun path => (entries.lookup path).getD (.error .notFound)⟩

/-- Does what is left to do. -/
def perform : Command.Outcome → IO Command.Answer
  | .ended answer => return answer
  | .write path text answer => return answer.afterWrite (← writeAt path text)

/-- The standard input, if the command reads it. -/
def stdinFor (args : List String) : IO (Except FileError String) := do
  if Command.readsStdin args then
    return textOf (← readAll (← IO.getStdin) .empty)
  return .ok ""

end MarkdownDirectives.Main

open MarkdownDirectives in
/-- Runs the command. -/
def main (args : List String) : IO UInt32 := do
  let outcome := Command.run (← Main.viewOf args) (← Main.stdinFor args) args
  let answer ← Main.perform outcome
  IO.print answer.stdout
  IO.eprint answer.stderr
  return answer.code.toUInt32
