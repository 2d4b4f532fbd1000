import ReactiveForm.Binding.Page
import ReactiveForm.Text.Lowercase
import ReactiveForm.Text.Split

/-!
# `ReactiveForm.Binding.Step` — user interactions as text

A step is written as an action and its argument: `set:name=value`, `check:name`, `uncheck:name` or
`click:id`. The action may be written in either case.

## Contents
- `InputValue.parse?`, the reader of `name=value`.
- `Step`, with `Step.parse`, `Step.text` and `Step.apply`.
-/

namespace ReactiveForm

/-! ## Values of inputs -/

/-- An input and the value it is given. -/
structure InputValue where
  name : String
  value : String
  deriving DecidableEq, Repr

/-- Why a text gives no input a value. -/
inductive InputValueError where
  | missingEquals (text : String)
  | missingName (text : String)
  deriving DecidableEq, Repr

/-- The text of an error. -/
def InputValueError.message : InputValueError → String
  | missingEquals text => "invalid assignment '" ++ text ++ "': expected name=value"
  | missingName text => "invalid assignment '" ++ text ++ "': missing input name"

/-- The value that a text gives to an input: it is cut at the first `=`, and only the name is
trimmed. -/
def InputValue.parse (text : String) : Except InputValueError InputValue :=
  match Text.splitFirst '=' text.toList with
  | none => .error (.missingEquals text)
  | some (name, value) =>
    let name := Text.trimChars name
    if name.isEmpty then .error (.missingName text)
    else .ok ⟨String.ofList name, String.ofList value⟩

/-! ## Steps -/

/-- An interaction of a user with a page. -/
inductive Step where
  | set (name value : String)
  | check (name : String)
  | uncheck (name : String)
  | click (id : String)
  deriving DecidableEq, Repr

/-- Why a text is no step. -/
inductive StepError where
  | missingColon (text : String)
  | missingArgument (text : String)
  | unknownAction (text action : String)
  | assignment (error : InputValueError)
  deriving DecidableEq, Repr

/-- The text of an error. -/
def StepError.message : StepError → String
  | missingColon text => "invalid step '" ++ text ++ "': expected action:argument"
  | missingArgument text => "invalid step '" ++ text ++ "': missing argument"
  | unknownAction text action =>
    "invalid step '" ++ text ++ "': unknown action '" ++ action ++
      "', use set, check, uncheck, or click"
  | assignment error => error.message

namespace Step

/-- The argument of a step that takes a name. -/
def nameArgument (text : String) (cs : List Char) : Except StepError String :=
  let name := Text.trimChars cs
  if name.isEmpty then .error (.missingArgument text) else .ok (String.ofList name)

/-- The step that a text spells. -/
def parse (text : String) : Except StepError Step := do
  match Text.splitFirst ':' text.toList with
  | none => throw (.missingColon text)
  | some (action, argument) =>
    let action := Text.lowercase (String.ofList (Text.trimChars action))
    if action = "set" then
      let given ← (InputValue.parse (String.ofList argument)).mapError .assignment
      return set given.name given.value
    else if action = "check" then return check (← nameArgument text argument)
    else if action = "uncheck" then return uncheck (← nameArgument text argument)
    else if action = "click" then return click (← nameArgument text argument)
    else throw (.unknownAction text action)

/-- The spelling of a step. -/
def text : Step → String
  | set name value => "set:" ++ name ++ "=" ++ value
  | check name => "check:" ++ name
  | uncheck name => "uncheck:" ++ name
  | click id => "click:" ++ id

/-- What a step does to a page. -/
def apply (p : Page) : Step → Page.Interaction
  | set name value => p.set name value
  | check name => p.setChecked name true
  | uncheck name => p.setChecked name false
  | click id => p.clickId id

end Step

end ReactiveForm
