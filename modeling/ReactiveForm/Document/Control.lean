/-!
# `ReactiveForm.Document.Control` — events and form controls

## Contents
- `Event`, with the reader `Event.ofName?`.
- `ControlKind`, with `classify` from a tag and a `type`, and the event that a control fires.
-/

namespace ReactiveForm

/-! ## Events -/

/-- The events that elements can fire. -/
inductive Event where
  | input
  | change
  | click
  deriving DecidableEq, Repr

namespace Event

/-- The name of an event. -/
def name : Event → String
  | input => "input"
  | change => "change"
  | click => "click"

/-- The event of a name. -/
def ofName? (s : String) : Option Event :=
  if s = "input" then some input
  else if s = "change" then some change
  else if s = "click" then some click
  else none

/-- What is said of a name that no event has. -/
def unknownMessage (s : String) : String :=
  "unknown event '" ++ s ++ "': use input, change, or click"

end Event

/-! ## Controls -/

/-- How a form control reports its value. -/
inductive ControlKind where
  /-- A text field, of one line or of many. -/
  | text
  | checkbox
  | radio
  | select
  deriving DecidableEq, Repr

namespace ControlKind

/-- The name of a kind. -/
def name : ControlKind → String
  | text => "text"
  | checkbox => "checkbox"
  | radio => "radio"
  | select => "select"

/-- The kind of control that a tag and a `type` make; the case of the type does not matter. -/
def classify (tag : String) (type : Option String) : Option ControlKind :=
  if tag = "select" then some select
  else if tag = "textarea" then some text
  else if tag = "input" then
    match type.map (String.map Char.toLower) with
    | some t => if t = "checkbox" then some checkbox else if t = "radio" then some radio else some text
    | none => some text
  else none

/-- The event that a user's change of a control fires. -/
def event : ControlKind → Event
  | select => .change
  | _ => .input

end ControlKind

end ReactiveForm
