/-!
# Arguments of the command

The command line names an operation and its options. An option with a value takes it behind an
equals sign or as the next argument; one letter stands behind one hyphen, several letters without
a value together. No option may be given twice, and behind `--` there are no options.
-/

namespace MarkdownDirectives.Command

/-- The form a document is written in. -/
inductive Format where
  | html
  | json
deriving DecidableEq, Inhabited, Repr

/-- What to render and how. -/
structure RenderArguments where
  /-- The path of the source, or a hyphen for the standard input. -/
  input : String
  /-- The path of the settings. Without it they are searched for. -/
  config : Option String := none
  /-- The path of the output. Without it the output is printed. -/
  output : Option String := none
  format : Format := .html
  verbose : Bool := false
deriving DecidableEq, Inhabited, Repr

/-- What the command is asked for. -/
inductive Request where
  | version
  | help
  | render (arguments : RenderArguments)
deriving DecidableEq, Inhabited, Repr

/-! ## Options -/

/-- An option with a value. -/
inductive OptionKey where
  | config
  | output
  | format
deriving DecidableEq, Inhabited, Repr

/-- What a part of an argument says. -/
inductive ArgumentItem where
  | help
  | verbose
  /-- An option with its value, `none` if the value is the next argument. -/
  | option (key : OptionKey) (value : Option (List Char))
deriving DecidableEq, Inhabited, Repr

/-- What stands behind the letter of an option: its value, with an equals sign in front or not. -/
def attachedValue : List Char → Option (List Char)
  | [] => none
  | '=' :: value => some value
  | value => some value

/-- The letters behind a hyphen. -/
def readLetters : List Char → Option (List ArgumentItem)
  | [] => some []
  | 'h' :: _ => some [.help]
  | 'v' :: rest => (readLetters rest).map (.verbose :: ·)
  | 'c' :: rest => some [.option .config (attachedValue rest)]
  | 'o' :: rest => some [.option .output (attachedValue rest)]
  | _ => none

/-- The word behind two hyphens. -/
def readWord (cs : List Char) : Option (List ArgumentItem) :=
  let name := cs.takeWhile (· != '=')
  let value := match cs.drop name.length with
    | _ :: value => some value
    | [] => none
  match String.ofList name, value with
  | "help", none => some [.help]
  | "verbose", none => some [.verbose]
  | "config", value => some [.option .config value]
  | "output", value => some [.option .output value]
  | "format", value => some [.option .format value]
  | _, _ => none

/-! ## Collecting -/

/-- The arguments so far. -/
structure ArgumentDraft where
  input : Option String := none
  config : Option String := none
  output : Option String := none
  format : Option Format := none
  verbose : Bool := false
deriving DecidableEq, Inhabited, Repr

/-- Sets a path that is not set yet. A path is not empty. -/
def setPath (current : Option String) (value : List Char) : Option (Option String) :=
  if current.isSome || value.isEmpty then none else some (some (String.ofList value))

/-- The format with a given name. -/
def formatOf (name : List Char) : Option Format :=
  match String.ofList name with
  | "html" => some .html
  | "json" => some .json
  | _ => none

namespace ArgumentDraft

/-- Sets an option. -/
def set (d : ArgumentDraft) (key : OptionKey) (value : List Char) : Option ArgumentDraft :=
  match key with
  | .config => (setPath d.config value).map fun config => { d with config }
  | .output => (setPath d.output value).map fun output => { d with output }
  | .format =>
    if d.format.isSome then none
    else (formatOf value).map fun format => { d with format := some format }

/-- Sets the path of the source. -/
def setInput (d : ArgumentDraft) (value : List Char) : Option ArgumentDraft :=
  (setPath d.input value).map fun input => { d with input }

/-- The request, which needs a source. -/
def finish (d : ArgumentDraft) : Option Request :=
  d.input.map fun input =>
    .render ⟨input, d.config, d.output, d.format.getD .html, d.verbose⟩

end ArgumentDraft

/-- Whether an argument stands for itself. -/
def isPlain (cs : List Char) : Bool :=
  cs.head? != some '-' || cs == ['-']

/-- What is left to do with the items of an argument. -/
inductive Pending where
  | help
  | done (draft : ArgumentDraft)
  /-- The next argument is the value of an option. -/
  | awaits (key : OptionKey) (draft : ArgumentDraft)
deriving DecidableEq, Inhabited, Repr

/-- Takes the items of an argument. -/
def takeItems (d : ArgumentDraft) : List ArgumentItem → Option Pending
  | [] => some (.done d)
  | .help :: _ => some .help
  | .verbose :: rest => if d.verbose then none else takeItems { d with verbose := true } rest
  | .option key (some value) :: rest => (d.set key value).bind (takeItems · rest)
  | .option key none :: _ => some (.awaits key d)

/-- Takes arguments that stand for themselves. -/
def readPlain (d : ArgumentDraft) (args : List String) : Option Request :=
  (args.foldlM (fun d arg => ArgumentDraft.setInput d arg.toList) d).bind ArgumentDraft.finish

/-- The items of an argument that starts with a hyphen. -/
def itemsOf : List Char → Option (List ArgumentItem)
  | '-' :: '-' :: word => readWord word
  | '-' :: letters => readLetters letters
  | _ => none

/-- The request of the arguments behind `render`. -/
def readRender (d : ArgumentDraft) : List String → Option Request
  | [] => d.finish
  | arg :: rest =>
    if isPlain arg.toList then (d.setInput arg.toList).bind (readRender · rest)
    else if arg = "--" then readPlain d rest
    else
      match (itemsOf arg.toList).bind (takeItems d) with
      | none => none
      | some .help => some .help
      | some (.done d) => readRender d rest
      | some (.awaits key d) =>
        match rest with
        | value :: rest =>
          if isPlain value.toList then (d.set key value.toList).bind (readRender · rest) else none
        | [] => none

/-- The operations that help is given on. -/
def helpTopics : List String :=
  ["render", "help"]

/-- The request of all arguments, `none` if they make no sense. -/
def Request.ofArguments : List String → Option Request
  | "render" :: rest => readRender {} rest
  | ["help"] => some .help
  | ["help", topic] => if helpTopics.contains topic then some .help else none
  | "--version" :: _ => some .version
  | "--help" :: _ => some .help
  | arg :: _ =>
    if "-V".toList.isPrefixOf arg.toList then some .version
    else if "-h".toList.isPrefixOf arg.toList then some .help
    else none
  | [] => none

end MarkdownDirectives.Command
