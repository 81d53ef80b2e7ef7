import MarkdownDirectives.Command.Arguments
import MarkdownDirectives.Config.Load
import MarkdownDirectives.Files.Tree
import MarkdownDirectives.Html.Writer
import MarkdownDirectives.Json.Document
import MarkdownDirectives.Reader
import MarkdownDirectives.Transform

/-!
# The command

What the command does, as a function of its arguments, the files around it and its standard input.
Everything that can fail is done before anything is written, so a failure leaves no output behind.
-/

namespace MarkdownDirectives.Command

/-- How the command ends. -/
structure Answer where
  code : Nat
  stdout : String := ""
  stderr : String := ""
deriving DecidableEq, Inhabited, Repr

/-- What is left to do once the text is there. -/
inductive Outcome where
  | ended (answer : Answer)
  /-- A file has to be written; the answer holds if that works. -/
  | write (path text : String) (answer : Answer)
deriving DecidableEq, Inhabited, Repr

/-- The answer to a failure. -/
def Answer.failed (message : String) : Answer :=
  { code := 1, stderr := "Error: " ++ message ++ "\n" }

/-- The answer to arguments that make no sense. -/
def Answer.usage : Answer :=
  { code := 2, stderr := "Usage: rds render <INPUT> [--config <PATH>] [--output <PATH>] "
      ++ "[--format <html|json>] [--verbose]\n" }

/-- Why a document cannot be rendered. -/
inductive RenderError where
  | config (error : ConfigError)
  | file (error : FileError)
  | directive (error : DirectiveError)
deriving DecidableEq, Inhabited

/-- What an error is reported as. -/
def RenderError.message : RenderError → String
  | config error => error.message
  | file error => error.message
  | directive error => error.message

/-! ## Rendering -/

/-- A document in a format. -/
def Format.write (format : Format) (document : Document) : String :=
  match format with
  | .html => document.html
  | .json => document.toJson.render

/-- The text that a source is rendered as. -/
def renderSource (config : Config) (format : Format) (source : String) :
    Except DirectiveError String := do
  let t ← Transformer.ofOptions (.ofConfig config)
  let transformed := t.transform (.ofSource source)
  let _ ← transformed.result
  return format.write transformed.document

/-- The source that is to be rendered. -/
def readSource (view : FileView) (stdin : Except FileError String) (input : String) :
    Except FileError String :=
  if input = "-" then stdin else view.read input

/-- The rendered text. Settings come first, then the source. -/
def renderText (view : FileView) (stdin : Except FileError String) (a : RenderArguments) :
    Except RenderError String := do
  let loaded ← (Config.load view a.config).mapError .config
  let source ← (readSource view stdin a.input).mapError .file
  (renderSource loaded.config a.format source).mapError .directive

/-- What is printed once the output is written. -/
def writtenNote (a : RenderArguments) (path : String) : String :=
  (if a.verbose then "Source: " ++ a.input ++ "\n" else "") ++ "Rendered to " ++ path ++ "\n"

/-- Renders as the arguments say. -/
def render (view : FileView) (stdin : Except FileError String) (a : RenderArguments) : Outcome :=
  match renderText view stdin a with
  | .error e => .ended (.failed e.message)
  | .ok text =>
    match a.output with
    | none => .ended { code := 0, stdout := text }
    | some path => .write path text { code := 0, stderr := writtenNote a path }

/-- The text for the version. -/
def versionText : String := "rds 0.1.0\n"

/-- Does what the arguments ask for. -/
def run (view : FileView) (stdin : Except FileError String) (args : List String) : Outcome :=
  match Request.ofArguments args with
  | none => .ended .usage
  | some .version => .ended { code := 0, stdout := versionText }
  | some .help => .ended { code := 0, stdout := Answer.usage.stderr }
  | some (.render a) => render view stdin a

/-- The answer once the output is written, or cannot be written. -/
def Answer.afterWrite (answer : Answer) : Except FileError Unit → Answer
  | .ok () => answer
  | .error e => .failed e.message

/-- What an outcome makes of a tree of files, and the answer. -/
def Outcome.on (tree : FileTree) (workingDirectory : Place) : Outcome → FileTree × Answer
  | .ended answer => (tree, answer)
  | .write path text answer =>
    match tree.write workingDirectory path text with
    | .ok tree => (tree, answer.afterWrite (.ok ()))
    | .error e => (tree, answer.afterWrite (.error e))

/-- The command on a tree of files: the tree afterwards, and the answer. -/
def runOn (tree : FileTree) (workingDirectory : Place) (stdin : Except FileError String)
    (args : List String) : FileTree × Answer :=
  (run (tree.view workingDirectory) stdin args).on tree workingDirectory

/-! ## Files that matter -/

/-- The paths that the command looks at: those of the settings, and that of the source. -/
def pathsOf (workingDirectory : String) (args : List String) : List String :=
  match Request.ofArguments args with
  | some (.render a) =>
    let configs := match a.config with
      | some path => [path]
      | none => (Path.ofString workingDirectory).ancestors.map (·.join Config.fileName)
    if a.input = "-" then configs else a.input :: configs
  | _ => []

/-- Whether the command reads its standard input. -/
def readsStdin (args : List String) : Bool :=
  match Request.ofArguments args with
  | some (.render a) => a.input = "-"
  | _ => false

end MarkdownDirectives.Command
