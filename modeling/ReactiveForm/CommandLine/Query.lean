import ReactiveForm.Binding.Step
import ReactiveForm.CommandLine.Environment
import ReactiveForm.Document.Html

/-!
# `ReactiveForm.CommandLine.Query` — commands that answer and change nothing

Each command is a row of stages, and the first stage that fails decides the error.

## Contents
- `QueryError`, with its exit status, message and details.
- `Answer`, what the commands answer with.
- `Environment.eval`, `refs`, `mount` and `simulate`; `Environment.answer` for any of them.
-/

namespace ReactiveForm

namespace CommandLine

/-! ## Errors -/

/-- How the program ends. -/
inductive ExitStatus where
  | success
  | failure
  | parse
  | unknownInput
  | arguments
  | config
  | fixture
  deriving DecidableEq, Repr

/-- The number of a status. -/
def ExitStatus.code : ExitStatus → Nat
  | success => 0
  | failure => 1
  | parse => 2
  | unknownInput => 3
  | arguments => 4
  | config => 5
  | fixture => 6

/-- Why a command has no answer. -/
inductive QueryError where
  | config (error : ConfigFileError)
  | value (error : InputValueError)
  | step (error : StepError)
  | fixture (error : FixtureFileError)
  | parse (condition : String) (error : Condition.ParseError)
  | unknownInput (error : UnknownInput)
  | mount (error : DocumentError)
  | interaction (step : Step) (error : DocumentError)
  deriving DecidableEq, Repr

namespace QueryError

/-- How the program ends after an error. -/
def status : QueryError → ExitStatus
  | config _ => .config
  | value _ => .arguments
  | step _ => .arguments
  | fixture _ => .fixture
  | parse _ _ => .parse
  | unknownInput _ => .unknownInput
  | mount _ => .failure
  | interaction _ _ => .arguments

/-- The text of an error. -/
def message : QueryError → String
  | config e => e.caused.line
  | value e => e.message
  | step e => e.message
  | fixture e => e.message
  | parse _ e => e.text
  | unknownInput e => e.message
  | mount e => e.message
  | interaction s e => "step '" ++ s.text ++ "' failed: " ++ e.message

/-- The inputs that may have been meant. -/
def suggestions : QueryError → List String
  | unknownInput e => e.suggestions
  | _ => []

/-- A line with a caret after as many blanks as there are bytes before the error. -/
def caretLine (e : Condition.ParseError) : String :=
  String.ofList (List.replicate e.position ' ') ++ "^"

/-- What is written below the message. -/
def details? : QueryError → Option String
  | parse condition e => some (condition ++ "\n" ++ caretLine e)
  | _ => none

end QueryError

/-! ## Answers -/

/-- A step with the report on it. -/
structure Replayed where
  step : Step
  report : Report
  deriving DecidableEq, Repr

/-- What a command answers with. -/
inductive Answer where
  | truth (condition : Condition) (value : Bool)
  | references (condition : Condition)
  | mounted (report : Report) (listeners : Nat) (html : String)
  | simulated (mount : Report) (steps : List Replayed) (html : String)
  deriving DecidableEq, Repr

/-! ## Commands -/

namespace Environment

/-- The condition that a text spells. -/
def readCondition (precedence : Precedence) (text : String) : Except QueryError Condition :=
  (Condition.parse precedence text).mapError (.parse text)

/-- The values of inputs that some texts give; of two for one input the later counts. -/
def readValues (texts : List String) : Except QueryError (StringMap String) := do
  let given ← texts.mapM fun text => (InputValue.parse text).mapError .value
  return .ofList (given.map fun v => (v.name, v.value))

/-- The inputs of a fixture, if there is one. -/
def fixtureValues (env : Environment) : Option Path → Except QueryError ValueSource
  | none => return .ofMap .empty
  | some path => do
    let d ← (env.loadDocument path).mapError .fixture
    return d.values

/-- Evaluates a condition; the values that are given hide those of the fixture. -/
def eval (env : Environment) (s : Settings) (request : EvalRequest) : Except QueryError Answer := do
  let config ← (env.loadConfig s).mapError .config
  let values ← readValues request.values
  let inputs ← env.fixtureValues request.fixture
  let condition ←
    readCondition (request.precedence.getD config.evaluation.precedence) request.condition
  let ctx : Context := {
    source := .layered (.ofMap values) inputs
    unknownInput := config.evaluation.unknownInput }
  let value ← (condition.evaluate ctx).mapError .unknownInput
  return .truth condition value

/-- Lists the inputs that a condition names. -/
def refs (env : Environment) (s : Settings) (text : String) : Except QueryError Answer := do
  let config ← (env.loadConfig s).mapError .config
  let condition ← readCondition config.evaluation.precedence text
  return .references condition

/-- The page of a fixture, mounted. -/
def mountPage (env : Environment) (s : Settings) (fixture : Path) :
    Except QueryError (Page × Report) := do
  let config ← (env.loadConfig s).mapError .config
  let d ← (env.loadDocument fixture).mapError .fixture
  (Page.ofDocument d config).mount.mapError .mount

/-- Mounts the page of a fixture. -/
def mount (env : Environment) (s : Settings) (fixture : Path) : Except QueryError Answer := do
  let (page, report) ← env.mountPage s fixture
  return .mounted report page.controller.listenerCount page.document.html

/-- The page after some steps, with the reports on them. -/
def replay (page : Page) : List Step → Except QueryError (Page × List Replayed)
  | [] => .ok (page, [])
  | step :: rest => do
    let (page, report) ← (step.apply page).mapError (.interaction step)
    let (page, replayed) ← replay page rest
    return (page, ⟨step, report⟩ :: replayed)

/-- Mounts the page of a fixture and takes some steps on it. -/
def simulate (env : Environment) (s : Settings) (fixture : Path) (steps : List String) :
    Except QueryError Answer := do
  let steps ← steps.mapM fun text => (Step.parse text).mapError .step
  let (page, report) ← env.mountPage s fixture
  let (page, replayed) ← replay page steps
  return .simulated report replayed page.document.html

/-- The answer of a command. -/
def answer (env : Environment) (s : Settings) : Query → Except QueryError Answer
  | .eval request => env.eval s request
  | .refs condition => env.refs s condition
  | .mount fixture => env.mount s fixture
  | .simulate fixture steps => env.simulate s fixture steps

end Environment

end CommandLine

end ReactiveForm
