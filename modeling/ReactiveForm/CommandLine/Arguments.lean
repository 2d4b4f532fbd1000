import ReactiveForm.CommandLine.Options
import ReactiveForm.Text.Split

/-!
# `ReactiveForm.CommandLine.Arguments` — reading what is given to one command

Options and arguments may be mixed. An option that takes a value takes the next argument, unless its
value is attached; letters of flags may share one dash. After `--` nothing is an option any more. Reading
stops at the name of a command below the one that is read.

## Contents
- `Stop`, what is answered instead of running a command.
- `Reading`, what has been given so far.
- `Reading.scan`, from left to right over the arguments of one level.
-/

namespace ReactiveForm

namespace CommandLine

/-- What is answered instead of running a command. -/
inductive Stop where
  /-- The arguments fit no command. -/
  | usage
  | help
  | version
  deriving DecidableEq, Repr

/-- What has been given to one command so far. -/
structure Reading where
  /-- The options with their values, in order; the value of a flag is empty. -/
  options : List (OptionName × String) := []
  arguments : List String := []
  /-- An option that waits for its value. -/
  pending : Option OptionName := none
  /-- Whether all that follows are arguments. -/
  literal : Bool := false
  deriving Repr

namespace Reading

/-! ## What has been given -/

/-- Whether an option has been given. -/
def has (r : Reading) (o : OptionName) : Bool := r.options.any (·.1 == o)

/-- The values of an option, in order. -/
def values (r : Reading) (o : OptionName) : List String :=
  (r.options.filter (·.1 == o)).map Prod.snd

/-- The value of an option that is given once. -/
def value? (r : Reading) (o : OptionName) : Option String := (r.values o).head?

/-- Whether two options contradict each other. -/
def isContradictory (r : Reading) : Bool := r.has .json && r.has .noJson

/-! ## One argument -/

/-- Takes an option with its value. Only some options may be given more than once. -/
def give (r : Reading) (o : OptionName) (text : String) : Except Stop Reading :=
  if (o.arity != .repeated && r.has o) || !o.accepts text then .error .usage
  else .ok { r with options := r.options ++ [(o, text)], pending := none }

/-- Takes a flag; two flags are answered at once. -/
def raise (r : Reading) : OptionName → Except Stop Reading
  | .help => .error .help
  | .version => .error .version
  | o => r.give o ""

/-- Takes what follows two dashes: a spelling, and perhaps a value after `=`. -/
def readSpelled {κ : Type} (level : Level κ) (r : Reading) (cs : List Char) : Except Stop Reading :=
  match Text.splitFirst '=' cs with
  | some (spelling, attached) =>
    match level.optionSpelled? (String.ofList spelling) with
    | some o => if o.takesValue then r.give o (String.ofList attached) else .error .usage
    | none => .error .usage
  | none =>
    match level.optionSpelled? (String.ofList cs) with
    | some o => if o.takesValue then .ok { r with pending := some o } else r.raise o
    | none => .error .usage

/-- Takes what follows one dash: letters of flags, and perhaps that of an option with its value, which
may stand after `=`. -/
def readLetters {κ : Type} (level : Level κ) (r : Reading) : List Char → Except Stop Reading
  | [] => .ok r
  | c :: cs =>
    match level.optionLettered? c with
    | none => .error .usage
    | some o =>
      if o.takesValue then
        match cs with
        | [] => .ok { r with pending := some o }
        | '=' :: attached => r.give o (String.ofList attached)
        | attached => r.give o (String.ofList attached)
      else do
        let r ← r.raise o
        readLetters level r cs

/-- Takes an argument without an option. -/
def readArgument {κ : Type} (level : Level κ) (r : Reading) (text : String) : Except Stop Reading :=
  match level.arguments[r.arguments.length]? with
  | some kind =>
    if kind.accepts text then .ok { r with arguments := r.arguments ++ [text] } else .error .usage
  | none => .error .usage

/-- Takes what is no name of a command. A lone dash is an argument like any other. -/
def read {κ : Type} (level : Level κ) (r : Reading) (text : String) : Except Stop Reading :=
  if r.literal then readArgument level r text
  else
    match r.pending, text.toList with
    | some o, ['-'] => r.give o text
    | some _, '-' :: _ => .error .usage
    | some o, _ => r.give o text
    | none, ['-', '-'] => .ok { r with literal := true }
    | none, '-' :: '-' :: spelled => readSpelled level r spelled
    | none, '-' :: letter :: letters => readLetters level r (letter :: letters)
    | none, _ => readArgument level r text

/-! ## All arguments -/

/-- The command that an argument names. It names none where a value or plain arguments are expected. -/
def command? {κ : Type} (level : Level κ) (r : Reading) (text : String) : Option κ :=
  if r.literal || r.pending.isSome then none else level.commands.lookup text

/-- Reads arguments up to the name of a command; that command is answered with what follows it. -/
def scan {κ : Type} (level : Level κ) (r : Reading) :
    List String → Except Stop (Reading × Option (κ × List String))
  | [] => if r.pending.isSome then .error .usage else .ok (r, none)
  | text :: rest =>
    match command? level r text with
    | some command => .ok (r, some (command, rest))
    | none => do
      let r ← read level r text
      scan level r rest

end Reading

end CommandLine

end ReactiveForm
