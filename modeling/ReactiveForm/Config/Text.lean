import ReactiveForm.Config.Basic
import ReactiveForm.Json.Basic
import ReactiveForm.Json5.Decode

/-!
# `ReactiveForm.Config.Text` — configurations in JSON5 and in JSON

A configuration is read from JSON5, where everything may be left out, and written as JSON, where
nothing is.

## Contents
- `Precedence.names` and `UnknownInputPolicy.names`, the spellings of the choices.
- `Config.decode` and `Config.read`.
- `Config.json` and `Config.text`.
-/

namespace ReactiveForm

open Json5 (Value Decoded)

/-! ## Names of choices -/

/-- The precedences by their names. -/
def Precedence.names : List (String × Precedence) :=
  [("left_to_right", .leftToRight), ("standard", .standard)]

/-- The name of a precedence. -/
def Precedence.name : Precedence → String
  | leftToRight => "left_to_right"
  | standard => "standard"

/-- The policies for unknown inputs by their names. -/
def UnknownInputPolicy.names : List (String × UnknownInputPolicy) :=
  [("error", .fail), ("false", .assumeFalse)]

/-- The name of a policy for unknown inputs. -/
def UnknownInputPolicy.name : UnknownInputPolicy → String
  | fail => "error"
  | assumeFalse => "false"

theorem Precedence.lookup_name (p : Precedence) : names.lookup p.name = some p := by
  cases p <;> decide

theorem UnknownInputPolicy.lookup_name (p : UnknownInputPolicy) : names.lookup p.name = some p := by
  cases p <;> decide

/-! ## Reading -/

/-- The marker classes that a value describes. -/
def MarkerClasses.decode (v : Value) : Decoded MarkerClasses :=
  v.asRecord "struct MarkerClasses"
    [⟨"hidden", fun c v => do return { c with hidden := ← v.asText }⟩,
      ⟨"disabled", fun c v => do return { c with disabled := ← v.asText }⟩]
    {}

/-- The settings of the evaluation that a value describes. -/
def EvaluationSettings.decode (v : Value) : Decoded EvaluationSettings :=
  v.asRecord "struct Evaluation"
    [⟨"precedence", fun e v => do return { e with precedence := ← v.asVariant Precedence.names }⟩,
      ⟨"unknown_input", fun e v => do
        return { e with unknownInput := ← v.asVariant UnknownInputPolicy.names }⟩]
    {}

/-- The capabilities that a value describes. -/
def Capabilities.decode (v : Value) : Decoded Capabilities :=
  v.asRecord "struct Capabilities"
    [⟨"switch", fun c v => do return { c with switches := ← v.asBool }⟩,
      ⟨"quoted_classnames", fun c v => do return { c with quotedClassLists := ← v.asBool }⟩]
    {}

namespace Config

/-- The configuration that a value describes. -/
def decode (v : Value) : Decoded Config :=
  v.asRecord "struct Config"
    [⟨"classes", fun c v => do return { c with classes := ← MarkerClasses.decode v }⟩,
      ⟨"evaluation", fun c v => do return { c with evaluation := ← EvaluationSettings.decode v }⟩,
      ⟨"capabilities", fun c v => do return { c with capabilities := ← Capabilities.decode v }⟩]
    {}

/-- The configuration that a text describes. -/
def read (text : String) : Except Json5.ReadError Config := Json5.read decode text

/-! ## Writing -/

/-- The JSON value of a configuration. -/
def json (c : Config) : Json :=
  .object [
    ("classes", .object [
      ("hidden", .string c.classes.hidden),
      ("disabled", .string c.classes.disabled)]),
    ("evaluation", .object [
      ("precedence", .string c.evaluation.precedence.name),
      ("unknown_input", .string c.evaluation.unknownInput.name)]),
    ("capabilities", .object [
      ("switch", .bool c.capabilities.switches),
      ("quoted_classnames", .bool c.capabilities.quotedClassLists)])]

/-- The text of a configuration. -/
def text (c : Config) : String := c.json.pretty

end Config

end ReactiveForm
