import ReactiveForm.Condition.Evaluation
import ReactiveForm.Document.Basic

/-!
# `ReactiveForm.Document.Snapshot` — the value that a condition sees

A checkbox has the value `true` or `false`, a text field or a selection its raw value. Radio buttons
of one name form one input: its value is that of the checked button, and `false` when none is checked.

## Contents
- `Document.controlSnapshot`, the value of one control.
- `Document.inputSnapshot`, the value of an input, found by its name.
- `Document.values`, the inputs of a document as a source of values.
-/

namespace ReactiveForm

/-- The value of a radio button, or of a group of them, that is not checked. -/
def uncheckedRadio : String := "false"

/-- The value that a control of the given kind reports. -/
def Element.snapshot (e : Element) : ControlKind → String
  | .checkbox => if e.checked then "true" else "false"
  | .radio => if e.checked then e.value else uncheckedRadio
  | .text => e.value
  | .select => e.value

namespace Document

/-- The value of the control at a node. -/
def controlSnapshot (d : Document) (node : NodeId) : Option String := do
  let e ← d.element? node
  let kind ← e.control?
  return e.snapshot kind

/-- The controls with a name, in document order. -/
def controlsNamed (d : Document) (name : String) : List NodeId :=
  (d.named name).filter fun node => (d.control? node).isSome

/-- The value of the checked radio button among some nodes. -/
def checkedRadioValue (d : Document) (nodes : List NodeId) : String :=
  match nodes.find? fun n => d.control? n == some .radio && d.isChecked n with
  | some n => ((d.element? n).map Element.value).getD ""
  | none => uncheckedRadio

/-- The value of the input with a name: its first control decides how it is read. -/
def inputSnapshot (d : Document) (name : String) : Option String := do
  let controls := d.controlsNamed name
  let first ← controls.head?
  if d.control? first = some .radio then return d.checkedRadioValue controls
  else d.controlSnapshot first

/-- The names of the inputs, each once, in document order. -/
def inputNames (d : Document) : List String :=
  ((d.withAttribute "name").filterMap fun node =>
    if (d.control? node).isSome then d.attribute? node "name" else none).eraseDups

/-- The inputs of a document as a source of values. -/
def values (d : Document) : ValueSource := ⟨d.inputSnapshot, d.inputNames⟩

end Document

end ReactiveForm
