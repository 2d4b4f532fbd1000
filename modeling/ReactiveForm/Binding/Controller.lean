import ReactiveForm.Binding.Effect

/-!
# `ReactiveForm.Binding.Controller` — keeping a document in step with its inputs

A controller is connected to a document once and disconnected once. Connecting reads the directives,
applies them all and attaches listeners to the controls that concern them; after that every change of
a control applies only the directives that it concerns.

## Contents
- `Controller` and `Update`, what an operation on one answers with.
- `Controller.init`, `connect` and `disconnect`.
- `handleChange`, `handleToggle` and `handleEvent`.
-/

namespace ReactiveForm

/-! ## Controllers -/

/-- What a controller does when a listener of its own is called. -/
inductive Handler where
  | change
  | toggle
  deriving DecidableEq, Repr

/-- A listener that a controller has attached. -/
structure Registration where
  id : ListenerId
  node : NodeId
  event : Event
  handler : Handler
  deriving DecidableEq, Repr

/-- The binding of one document. -/
structure Controller where
  config : Config
  index : Index
  registrations : List Registration
  states : EffectStates
  connected : Bool
  deriving DecidableEq, Repr

/-- A controller and a document after an operation, with the report on it. -/
structure Update where
  controller : Controller
  document : Document
  report : Report

namespace Controller

/-- A controller that has not been connected. -/
def ofConfig (config : Config) : Controller := ⟨config, .empty, [], .none, false⟩

/-- How many listeners a controller holds. -/
def listenerCount (c : Controller) : Nat := c.registrations.length

/-- The last truth of the condition of a directive. -/
def effectState? (c : Controller) (node : NodeId) (kind : DirectiveKind) : Option EffectState :=
  c.states.get? node kind

/-- The update that changes nothing. -/
def unchanged (c : Controller) (d : Document) : Update := ⟨c, d, {}⟩

/-! ## Applying directives -/

/-- Applies some directives, and adds what becomes of them to a report. -/
def applyAll (c : Controller) (d : Document) (change : Option Change) (report : Report)
    (entries : List IndexedDirective) : Update :=
  let pass := Pass.applyAll c.config change ⟨d, c.states, report⟩ entries
  ⟨{ c with states := pass.states }, pass.document, pass.report⟩

/-- Reads the directives of a document and applies all of them. No input counts as changed. -/
def init (c : Controller) (d : Document) : Update :=
  let index := Index.build d c.config.directiveOptions c.config.capabilities.switches
  let entries := index.entries.filter (·.directive.kind != .switch)
  { c with index }.applyAll d none { failures := index.failures } entries

/-! ## Connecting -/

/-- Detaches every listener of a controller, and forgets the directives. -/
def disconnect (c : Controller) (d : Document) : Controller × Document :=
  (ofConfig c.config,
    c.registrations.foldl (fun d registration => (d.removeListener registration.id).1) d)

/-- Where a controller listens: at selections, then at inputs, that concern a directive, and then at
the triggers of switch groups. -/
def listeningPoints (c : Controller) (d : Document) : List (NodeId × Event × Handler) :=
  let registered (node : NodeId) : Bool := (d.attribute? node "name").any c.index.isRegistered
  ((d.withTag "select").filter registered).map (·, Event.change, Handler.change) ++
    ((d.withTag "input").filter registered).map (·, Event.input, Handler.change) ++
    (if c.config.capabilities.switches then
      (c.index.triggers d).map (·, Event.click, Handler.toggle)
    else [])

/-- Attaches one listener. -/
def listen (c : Controller) (d : Document) (point : NodeId × Event × Handler) :
    Except DocumentError (Controller × Document) := do
  let (node, event, handler) := point
  let (d, id) ← d.addListener node event
  return ({ c with registrations := c.registrations ++ [⟨id, node, event, handler⟩] }, d)

/-- Connects a controller to a document; if it is connected, it is disconnected first. -/
def connect (c : Controller) (d : Document) : Except DocumentError Update := do
  let (c, d) := if c.connected then c.disconnect d else (c, d)
  let update := c.init d
  let c := { update.controller with connected := true }
  let (c, d) ← (c.listeningPoints update.document).foldlM
    (fun (c, d) point => c.listen d point) (c, update.document)
  return ⟨c, d, update.report⟩

/-! ## Events -/

/-- The value that the input of a node has after a change of that node. -/
def changedValue? (d : Document) (node : NodeId) (name : String) : Option String :=
  if d.control? node = some .radio then d.inputSnapshot name else d.controlSnapshot node

/-- Applies the directives that the input at a node concerns, using its new value. -/
def handleChange (c : Controller) (d : Document) (node : NodeId) : Update :=
  match d.attribute? node "name" with
  | none => c.unchanged d
  | some name =>
    match changedValue? d node name with
    | none => c.unchanged d
    | some value => c.applyAll d (some ⟨name, value⟩) {} (c.index.dependents name)

/-- The members of a switch group, with the class that each of them toggles. -/
def toggled (c : Controller) (group : String) : List (NodeId × String) :=
  c.index.entries.filterMap fun entry =>
    match entry.directive with
    | .switch g ownClass =>
      if g = group then some (entry.node, ownClass.getD c.config.classes.hidden) else none
    | _ => none

/-- Toggles the class of one member of a switch group. -/
def toggleMember (acc : Document × Report) (member : NodeId × String) : Document × Report :=
  match acc.1.toggleClass member.1 member.2 with
  | .ok (d, _) => (d, acc.2.succeed)
  | .error e => (acc.1, acc.2.fail ⟨member.1, .switch, .document e⟩)

/-- Toggles the switch group that a node names. -/
def handleToggle (c : Controller) (d : Document) (trigger : NodeId) : Update :=
  if !c.config.capabilities.switches then c.unchanged d
  else
    match d.attribute? trigger DirectiveKind.switch.attributeName with
    | none => c.unchanged d
    | some group =>
      let (d, report) := (c.toggled (Text.trim group)).foldl toggleMember (d, {})
      ⟨c, d, report⟩

/-- What a listener of a controller does. -/
def handle (c : Controller) (d : Document) (node : NodeId) : Handler → Update
  | .change => c.handleChange d node
  | .toggle => c.handleToggle d node

/-- What a controller does when an event of a node is fired: each listener of its own that is attached
there is called. -/
def handleEvent (c : Controller) (d : Document) (node : NodeId) (event : Event) : Update :=
  let attached := d.listeners.idsFor node event
  let called := c.registrations.filter fun registration => attached.contains registration.id
  called.foldl
    (fun update registration =>
      let after := update.controller.handle update.document node registration.handler
      { after with report := update.report.merge after.report })
    (c.unchanged d)

end Controller

end ReactiveForm
