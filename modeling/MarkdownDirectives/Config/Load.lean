import MarkdownDirectives.Config.Decode
import MarkdownDirectives.Files.View
import MarkdownDirectives.Toml.Reader

/-!
# Loading settings

Settings come from a file that is named, or else from the nearest file with the usual name in the
working directory and the directories above it. Without such a file all settings have their
defaults. A file that cannot be used is an error; no file further up is tried.
-/

namespace MarkdownDirectives

/-- Why settings cannot be loaded. -/
inductive ConfigError where
  /-- There is nothing at the path that was named. -/
  | notFound (path : String)
  | file (error : FileError)
  /-- The text is no TOML, or not of the form that settings have. -/
  | malformed
  | invalid (fault : ConfigFault)
deriving DecidableEq, Inhabited

/-- What an error is reported as. -/
def ConfigError.message : ConfigError → String
  | notFound path => "Configuration file not found: " ++ path
  | file error => "I/O error: " ++ error.message
  | malformed => "TOML parse error"
  | invalid fault => "Configuration error: " ++ fault.message

/-- Settings and the path of the file they come from. -/
structure LoadedConfig where
  config : Config
  path : Option String := none
deriving Inhabited

namespace Config

/-- The usual name of a file with settings. -/
def fileName : String := "rds.toml"

/-- The settings of a text. -/
def ofText (text : String) : Except ConfigError Config :=
  match (Toml.Table.ofText text).bind ofTable with
  | none => .error .malformed
  | some config =>
    match config.fault? with
    | some fault => .error (.invalid fault)
    | none => .ok config

/-- The settings of a file. -/
def ofFile (view : FileView) (path : String) : Except ConfigError LoadedConfig :=
  match view.read path with
  | .error e => .error (.file e)
  | .ok text => (ofText text).map fun config => ⟨config, some path⟩

/-- The nearest file with the usual name, in a directory or above it. -/
def discover (view : FileView) (start : String) : Option String :=
  ((Path.ofString start).ancestors.map (·.join fileName)).find? view.isFile

/-- The settings of a named file, or of the nearest one. -/
def load (view : FileView) (path : Option String) : Except ConfigError LoadedConfig :=
  match path with
  | some path => if view.present path then ofFile view path else .error (.notFound path)
  | none =>
    match discover view view.workingDirectory with
    | some path => ofFile view path
    | none => .ok { config := {} }

end Config

end MarkdownDirectives
