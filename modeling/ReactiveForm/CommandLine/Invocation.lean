import ReactiveForm.CommandLine.Arguments
import ReactiveForm.FileTree.Path

/-!
# `ReactiveForm.CommandLine.Invocation` — which command is to be run

## Contents
- `Query`, `ConfigCommand` and `Command`.
- `Settings`, what the options common to all commands say, and `OutputMode`.
- `Invocation.parse`, from the arguments of the program.
-/

namespace ReactiveForm

namespace CommandLine

/-! ## Commands -/

/-- The commands that work on the configuration file. -/
inductive ConfigCommand where
  | print
  | printPath
  | set (key value : String)
  | reset
  | printDefaults
  | verify
  deriving DecidableEq, Repr

/-- What a condition is evaluated with. -/
structure EvalRequest where
  condition : String
  /-- Values of inputs, as `name=value`. -/
  values : List String := []
  /-- A document whose inputs have values too. -/
  fixture : Option Path := none
  /-- The precedence, if not that of the configuration. -/
  precedence : Option Precedence := none
  deriving DecidableEq, Repr

/-- The commands that answer and change nothing. -/
inductive Query where
  | eval (request : EvalRequest)
  | refs (condition : String)
  | mount (fixture : Path)
  | simulate (fixture : Path) (steps : List String)
  deriving DecidableEq, Repr

/-- The commands of the program. -/
inductive Command where
  | query (query : Query)
  | config (command : ConfigCommand)
  deriving DecidableEq, Repr

/-! ## Common options -/

/-- How results are written. -/
inductive OutputMode where
  | text
  | json
  | quiet
  deriving DecidableEq, Repr

/-- What the options common to all commands say. -/
structure Settings where
  config : Option Path := none
  json : Bool := false
  noJson : Bool := false
  quiet : Bool := false
  deriving DecidableEq, Repr

namespace Settings

/-- What the options given at several levels say, outermost first: the innermost value counts. -/
def ofReadings (readings : List Reading) : Settings where
  config := ((readings.filterMap (·.value? .config)).getLast?).map Path.mk
  json := readings.any (·.has .json)
  noJson := readings.any (·.has .noJson)
  quiet := readings.any (·.has .quiet)

/-- How results are written. Without a wish, they are written as text to a terminal only. -/
def mode (s : Settings) (terminal : Bool) : OutputMode :=
  if s.quiet then .quiet
  else if s.json then .json
  else if s.noJson || terminal then .text
  else .json

end Settings

/-! ## Names of commands -/

/-- The commands by name, and the request for help. -/
inductive CommandName where
  | eval
  | refs
  | mount
  | simulate
  | config
  | help
  deriving DecidableEq, Repr

/-- The commands on the configuration by name, and the request for help. -/
inductive ConfigCommandName where
  | print
  | printPath
  | set
  | reset
  | printDefaults
  | verify
  | help
  deriving DecidableEq, Repr

/-- The options that every command takes. -/
def commonOptions : List OptionName := [.config, .json, .noJson, .quiet, .verbose, .help]

/-- What may be given before any command. -/
def topLevel : Level CommandName where
  options := .version :: commonOptions
  commands :=
    [("eval", .eval), ("refs", .refs), ("mount", .mount), ("simulate", .simulate),
      ("config", .config), ("help", .help)]

/-- What may be given to the command that chooses a command on the configuration. -/
def configLevel : Level ConfigCommandName where
  options := commonOptions
  commands :=
    [("show", .print), ("path", .printPath), ("set", .set), ("reset", .reset),
      ("default", .printDefaults), ("verify", .verify), ("help", .help)]

/-- What may be given to a command that has no commands below it. -/
def leafLevel (options : List OptionName) (arguments : List ArgumentKind) : Level Empty where
  options := options ++ commonOptions
  arguments := arguments

/-! ## Reading -/

/-- A command with the settings that apply to it. -/
structure Invocation where
  settings : Settings
  command : Command
  deriving DecidableEq, Repr

namespace Invocation

/-- What is given to a command that has no commands below it; all its arguments are needed. -/
def readLeaf (options : List OptionName) (arguments : List ArgumentKind) (args : List String) :
    Except Stop Reading := do
  let (r, _) ← Reading.scan (leafLevel options arguments) {} args
  if r.arguments.length < arguments.length then throw .usage
  return r

/-- Whether a request for help names a command; `inner` tells it of the names that follow. -/
def helpTopic {κ : Type} (level : Level κ) (inner : κ → List String → Stop) : List String → Stop
  | [] => .help
  | name :: rest =>
    match level.commands.lookup name with
    | some command => inner command rest
    | none => .usage

/-- The help on a command that has no commands below it. -/
def leafHelp : List String → Stop
  | [] => .help
  | _ => .usage

/-- The help on a command on the configuration. -/
def configHelp : List String → Stop := helpTopic configLevel fun _ => leafHelp

/-- The help on a command. -/
def commandHelp : List String → Stop := helpTopic topLevel fun
  | .config => configHelp
  | _ => leafHelp

/-- A command on the configuration, with what was given at its level. -/
def readConfigCommand (args : List String) : ConfigCommandName →
    Except Stop (Reading × ConfigCommand)
  | .print => do return (← readLeaf [] [] args, .print)
  | .printPath => do return (← readLeaf [] [] args, .printPath)
  | .set => do
    let r ← readLeaf [] [.text, .text] args
    match r.arguments with
    | [key, value] => return (r, .set key value)
    | _ => throw .usage
  | .reset => do return (← readLeaf [] [] args, .reset)
  | .printDefaults => do return (← readLeaf [] [] args, .printDefaults)
  | .verify => do return (← readLeaf [] [] args, .verify)
  | .help => throw (configHelp args)

/-- A command, with what was given at its level and below. -/
def readCommand (args : List String) : CommandName → Except Stop (List Reading × Command)
  | .eval => do
    let r ← readLeaf [.value, .fixture, .precedence] [.text] args
    match r.arguments with
    | [condition] => return ([r], .query <| .eval {
        condition
        values := r.values .value
        fixture := (r.value? .fixture).map Path.mk
        precedence := (r.value? .precedence).bind fun word => precedenceChoices.lookup word })
    | _ => throw .usage
  | .refs => do
    let r ← readLeaf [] [.text] args
    match r.arguments with
    | [condition] => return ([r], .query (.refs condition))
    | _ => throw .usage
  | .mount => do
    let r ← readLeaf [] [.path] args
    match r.arguments with
    | [fixture] => return ([r], .query (.mount ⟨fixture⟩))
    | _ => throw .usage
  | .simulate => do
    let r ← readLeaf [.step] [.path] args
    match r.arguments with
    | [fixture] => return ([r], .query (.simulate ⟨fixture⟩ (r.values .step)))
    | _ => throw .usage
  | .config => do
    let (r, inner) ← Reading.scan configLevel {} args
    match inner with
    | some (name, rest) =>
      let (leaf, command) ← readConfigCommand rest name
      return ([r, leaf], .config command)
    | none => throw .usage
  | .help => throw (commandHelp args)

/-- The command that the arguments of the program ask for. -/
def parse (args : List String) : Except Stop Invocation := do
  let (r, inner) ← Reading.scan topLevel {} args
  match inner with
  | some (name, rest) =>
    let (readings, command) ← readCommand rest name
    if (r :: readings).any Reading.isContradictory then throw .usage
    return ⟨.ofReadings (r :: readings), command⟩
  | none => throw .usage

end Invocation

end CommandLine

end ReactiveForm
