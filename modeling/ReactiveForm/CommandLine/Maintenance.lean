import ReactiveForm.CommandLine.Response
import ReactiveForm.Config.Set

/-!
# `ReactiveForm.CommandLine.Maintenance` — commands on the configuration file

These commands write text in every mode, and only two of them write files. A change that fails leaves
the configuration as it was.

## Contents
- `MaintenanceError` and `Maintained`.
- `Environment.maintain`, a command on the configuration file.
- `Response.ofMaintenance`.
-/

namespace ReactiveForm

namespace CommandLine

/-- Why a command on the configuration fails. -/
inductive MaintenanceError where
  | file (error : ConfigFileError)
  | set (fault : SetFault)
  | missing (path : Path)
  | unreadable (path : Path) (error : FileError)
  | malformed (error : Json5.ReadError)
  /-- The configuration can be read, but it has problems. -/
  | problems (path : Path) (problems : List ConfigProblem)
  deriving DecidableEq, Repr

namespace MaintenanceError

/-- What an error says, and its cause. -/
def caused : MaintenanceError → Caused
  | file error => error.caused
  | set fault => ⟨fault.message, none⟩
  | missing path => ⟨"config file not found: " ++ path.text, none⟩
  | unreadable path error =>
    ⟨"failed to read config file: " ++ path.text, some error.message⟩
  | malformed error => ⟨"invalid config: " ++ error.message, none⟩
  | problems _ _ => ⟨"configuration validation failed", none⟩

/-- What is written to the output in spite of an error. -/
def output : MaintenanceError → String
  | problems path found =>
    "✗ Configuration has " ++ toString found.length ++ " error(s): " ++ path.text ++ "\n\n" ++
      String.join (found.map fun p => "  - " ++ p.message ++ "\n")
  | _ => ""

end MaintenanceError

/-- What a command on the configuration has done. -/
inductive Maintained where
  | config (config : Config)
  | path (path : Path)
  | set (key value : String)
  | reset
  | valid (path : Path)
  deriving DecidableEq, Repr

/-- The text of what has been done. Of changes, a quiet command does not tell. -/
def Maintained.text (mode : OutputMode) : Maintained → String
  | config c => c.text ++ "\n"
  | path p => p.text ++ "\n"
  | set key value => if mode = .quiet then "" else "Set " ++ key ++ " = " ++ value ++ "\n"
  | reset => if mode = .quiet then "" else "Configuration reset to defaults\n"
  | valid p => "✓ Configuration is valid: " ++ p.text ++ "\n"

namespace Environment

/-- Changes one setting in the configuration file. -/
def set (env : Environment) (s : Settings) (key value : String) :
    Except MaintenanceError FileTree := do
  let config ← (env.loadConfig s).mapError .file
  let config ← (config.set key value).mapError .set
  (env.saveConfig s config).mapError .file

/-- Looks for problems of the configuration file, which has to exist. -/
def verify (env : Environment) (s : Settings) : Except MaintenanceError Path := do
  let path ← (env.configPath s).mapError .file
  if !env.files.contains path then throw (.missing path)
  let text ← (env.files.read path).mapError (.unreadable path)
  let config ← (Config.read text).mapError .malformed
  if config.problems.isEmpty then return path else throw (.problems path config.problems)

/-- Runs a command on the configuration file, and answers with the files after it. -/
def maintain (env : Environment) (s : Settings) :
    ConfigCommand → Except MaintenanceError (Maintained × FileTree)
  | .print => do return (.config (← (env.loadConfig s).mapError .file), env.files)
  | .printPath => do return (.path (← (env.configPath s).mapError .file), env.files)
  | .set key value => do return (.set key value, ← env.set s key value)
  | .reset => do return (.reset, ← (env.saveConfig s {}).mapError .file)
  | .printDefaults => .ok (.config {}, env.files)
  | .verify => do return (.valid (← env.verify s), env.files)

end Environment

/-- The response to a command on the configuration file. -/
def Response.ofMaintenance (mode : OutputMode) : Except MaintenanceError Maintained → Response
  | .ok m => { output := m.text mode }
  | .error e => { output := e.output, errors := e.caused.report, code := ExitStatus.failure.code }

end CommandLine

end ReactiveForm
