import ReactiveForm.Binding.Controller

/-!
# `ReactiveForm.Binding.Page` — a document with its controller, driven like a user would

An interaction changes a control first and then fires the event that the change of such a control
fires. An interaction that fails changes nothing.

## Contents
- `Page`, with `mount` and `unmount`.
- `fire`, `click` and `clickId`; `typeText`, `setChecked`, `checkRadio` and `set`.
-/

namespace ReactiveForm

/-- A document and its controller. -/
structure Page where
  document : Document
  controller : Controller

namespace Page

/-- A document with a controller that has not been connected. -/
def ofDocument (d : Document) (config : Config) : Page := ⟨d, .ofConfig config⟩

/-- What an interaction answers with. -/
abbrev Interaction := Except DocumentError (Page × Report)

/-- The page after an update of its controller. -/
def ofUpdate (u : Update) : Page × Report := (⟨u.document, u.controller⟩, u.report)

/-- Connects the controller. -/
def mount (p : Page) : Interaction := (p.controller.connect p.document).map ofUpdate

/-- Disconnects the controller. -/
def unmount (p : Page) : Page :=
  let (c, d) := p.controller.disconnect p.document
  ⟨d, c⟩

/-! ## Events -/

/-- Fires an event of a node, which need not exist. -/
def fire (p : Page) (node : NodeId) (event : Event) : Page × Report :=
  ofUpdate (p.controller.handleEvent p.document node event)

/-- Clicks a node. -/
def click (p : Page) (node : NodeId) : Page × Report := p.fire node .click

/-- Clicks the element with an `id`. -/
def clickId (p : Page) (id : String) : Interaction :=
  match p.document.byId? id with
  | some node => .ok (p.click node)
  | none => .error (.noElementWithId id)

/-- Fires the event of a control after the document has been changed. -/
def fireControl (p : Page) (d : Document) (node : NodeId) : Page × Report :=
  { p with document := d }.fire node (((d.control? node).map ControlKind.event).getD .input)

/-! ## Controls -/

/-- Replaces the value of the first control with a name. -/
def typeText (p : Page) (name value : String) : Interaction := do
  let node ← p.document.controlNamed name
  let d ← p.document.setValue node value
  return p.fireControl d node

/-- Checks or unchecks the first control with a name. -/
def setChecked (p : Page) (name : String) (checked : Bool) : Interaction := do
  let node ← p.document.controlNamed name
  let d ← p.document.setChecked node checked
  return p.fireControl d node

/-- The first radio button with a name and a value. -/
def radioWith? (d : Document) (name value : String) : Option NodeId :=
  (d.named name).find? fun node =>
    d.control? node == some .radio && (d.element? node).map Element.value == some value

/-- Checks the radio button with a name and a value. -/
def checkRadio (p : Page) (name value : String) : Interaction := do
  match radioWith? p.document name value with
  | some node =>
    let d ← p.document.setChecked node true
    return p.fireControl d node
  | none => throw (.noSuchRadio name value)

/-- Sets the first control with a name: a text field and a selection to the value, a checkbox to
whether the value is `true`, and a group of radio buttons to the one with the value. -/
def set (p : Page) (name value : String) : Interaction := do
  let node ← p.document.controlNamed name
  match p.document.control? node with
  | some .radio => p.checkRadio name value
  | some .checkbox => p.setChecked name (value == "true")
  | _ => p.typeText name value

end Page

end ReactiveForm
