import ReactiveForm.CommandLine.Maintenance

/-!
# `ReactiveForm.CommandLine.Run` — the whole program

## Contents
- `Outcome`, what the program writes and what files there are then.
- `Invocation.run`, one command.
- `Stop.response`, the answer to arguments that run no command, and `run`, from the arguments.
-/

namespace ReactiveForm

namespace CommandLine

/-- What the program writes, and the files after it. -/
structure Outcome where
  response : Response
  files : FileTree

/-! ## Commands -/

/-- The outcome of a command. A query changes no files, and neither does a command that fails. -/
def Invocation.run (env : Environment) (i : Invocation) : Outcome :=
  let mode := i.settings.mode env.terminal
  match i.command with
  | .query q => ⟨.ofQuery mode (env.answer i.settings q), env.files⟩
  | .config command =>
    match env.maintain i.settings command with
    | .ok (done, files) => ⟨.ofMaintenance mode (.ok done), files⟩
    | .error e => ⟨.ofMaintenance mode (.error e), env.files⟩

/-! ## Arguments -/

/-- The name of the program with its version. -/
def versionText : String := "formfx 0.1.0\n"

/-- How the program is used. -/
def usageText : String :=
  "Usage: formfx [OPTIONS] <COMMAND>\n\n" ++
  "Commands:\n" ++
  "  eval <CONDITION> [--value NAME=VALUE]... [--fixture FILE] [--precedence PRECEDENCE]\n" ++
  "  refs <CONDITION>\n" ++
  "  mount <FIXTURE>\n" ++
  "  simulate <FIXTURE> [--step STEP]...\n" ++
  "  config show | path | set <KEY> <VALUE> | reset | default | verify\n\n" ++
  "Options:\n" ++
  "  --config FILE, -j/--json, --no-json, -q/--quiet, -v/--verbose, -h/--help, -V/--version\n"

/-- The code of a program that was given the wrong arguments. -/
def usageCode : Nat := 2

/-- The response to arguments that run no command. -/
def Stop.response : Stop → Response
  | usage => { errors := usageText, code := usageCode }
  | help => { output := usageText }
  | version => { output := versionText }

/-- The outcome of running the program with some arguments. -/
def run (env : Environment) (args : List String) : Outcome :=
  match Invocation.parse args with
  | .ok i => i.run env
  | .error stop => ⟨stop.response, env.files⟩

end CommandLine

end ReactiveForm
