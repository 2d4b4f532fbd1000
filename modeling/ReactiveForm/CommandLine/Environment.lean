import ReactiveForm.CommandLine.Invocation
import ReactiveForm.Config.Text
import ReactiveForm.FileTree.Basic
import ReactiveForm.Fixture.Text

/-!
# `ReactiveForm.CommandLine.Environment` — what a command finds when it runs

A command finds files, a place for its configuration and fixtures. The configuration is at the place that
an option names, else at the one that a variable names, else in the home directory; where there is no
file, it is the default.

## Contents
- `Environment`.
- `ConfigFileError`, with its text on one line and as a report.
- `configPath`, `loadConfig` and `saveConfig`.
- `FixtureFileError` and `loadDocument`.
-/

namespace ReactiveForm

namespace CommandLine

/-- What a command finds when it runs. -/
structure Environment where
  files : FileTree := {}
  /-- The variable that names the configuration file. -/
  configVariable : Option String := none
  /-- The home directory. -/
  home : Option String := none
  /-- Whether results go to a terminal. -/
  terminal : Bool := false

/-! ## Errors with causes -/

/-- An error, and what it was caused by. -/
structure Caused where
  message : String
  cause : Option String := none
  deriving DecidableEq, Repr

namespace Caused

/-- The error and its cause on one line. -/
def line (c : Caused) : String :=
  match c.cause with
  | none => c.message
  | some cause => c.message ++ ": " ++ cause

/-- A text whose lines are indented. -/
def indented (text : String) : String :=
  "\n".intercalate ((Text.splitAll '\n' text.toList).map fun l => "    " ++ String.ofList l)

/-- The error and its cause as a report of several lines. -/
def report (c : Caused) : String :=
  match c.cause with
  | none => "Error: " ++ c.message ++ "\n"
  | some cause => "Error: " ++ c.message ++ "\n\nCaused by:\n" ++ indented cause ++ "\n"

end Caused

/-! ## The configuration file -/

/-- Why the configuration cannot be loaded or saved. -/
inductive ConfigFileError where
  | noHome
  | unreadable (path : Path) (error : FileError)
  | malformed (path : Path) (error : Json5.ReadError)
  | noDirectory (error : FileError)
  | unwritable (path : Path) (error : FileError)
  deriving DecidableEq, Repr

/-- What an error says, and its cause. -/
def ConfigFileError.caused : ConfigFileError → Caused
  | noHome => ⟨"Could not find home directory", none⟩
  | unreadable path error => ⟨"Failed to read config file: " ++ path.text, some error.message⟩
  | malformed path error => ⟨"Failed to parse config file: " ++ path.text, some error.message⟩
  | noDirectory error => ⟨error.message, none⟩
  | unwritable path error => ⟨"Failed to write config file: " ++ path.text, some error.message⟩

namespace Environment

/-- The path of the configuration file. -/
def configPath (env : Environment) (s : Settings) : Except ConfigFileError Path :=
  match s.config, env.configVariable, env.home with
  | some path, _, _ => .ok path
  | none, some text, _ => .ok ⟨text⟩
  | none, none, some home => .ok (((Path.mk home).join ".formfx").join "config.json")
  | none, none, none => .error .noHome

/-- The configuration that the file at a path describes. -/
def readConfig (env : Environment) (path : Path) : Except ConfigFileError Config := do
  let text ← (env.files.read path).mapError (.unreadable path)
  (Config.read text).mapError (.malformed path)

/-- The configuration in force. -/
def loadConfig (env : Environment) (s : Settings) : Except ConfigFileError Config := do
  let path ← env.configPath s
  if env.files.contains path then env.readConfig path else return {}

/-- The files after a configuration has been saved. -/
def saveConfig (env : Environment) (s : Settings) (c : Config) : Except ConfigFileError FileTree := do
  let path ← env.configPath s
  let files ← (env.files.createDirectories path).mapError .noDirectory
  (files.write path c.text).mapError (.unwritable path)

end Environment

/-! ## Fixtures -/

/-- Why a file gives no document. -/
inductive FixtureFileError where
  | unreadable (path : Path) (error : FileError)
  | load (error : LoadError)
  deriving DecidableEq, Repr

/-- The text of an error. -/
def FixtureFileError.message : FixtureFileError → String
  | unreadable path error => "failed to read fixture " ++ path.text ++ ": " ++ error.message
  | load error => error.message

/-- The document that the file at a path describes. -/
def Environment.loadDocument (env : Environment) (path : Path) : Except FixtureFileError Document := do
  let text ← (env.files.read path).mapError (.unreadable path)
  (Document.load text).mapError .load

end CommandLine

end ReactiveForm
