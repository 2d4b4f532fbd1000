import ReactiveForm.Proofs.Binding.Ready

/-!
# `ReactiveForm.Proofs.Binding.Interaction` — operations on a page, one after the other

Whatever is done to a page is one of a few operations. One that fails leaves the page as it is, so that a
run is a fold. The interactions with a control all come to the same: an input is entered, and one of its
controls fires its event.

## Contents
- `Page.Action`, `Page.attempt`, `Page.run` and `Page.mounted`.
- `Document.form`, documents to try things on.
- `Page.Enters`, `Page.Fires` and `Page.Sets`, what an interaction with a control comes to.
- `Page.attempt_cases` and `Page.after_induction`, what any operation comes to.
- `Controller.Ready.fired`, **the event of a control applies the dependents of its input**.
-/

namespace ReactiveForm

namespace Page

/-! ## Runs -/

/-- An operation on a page. -/
inductive Action where
  | mount
  | unmount
  | set (name value : String)
  | typeText (name value : String)
  | setChecked (name : String) (checked : Bool)
  | checkRadio (name value : String)
  | click (node : NodeId)
  | clickId (id : String)
  | fire (node : NodeId) (event : Event)
  deriving DecidableEq, Repr

/-- What an operation answers with. -/
def attempt (p : Page) : Action → Interaction
  | .mount => p.mount
  | .unmount => .ok (p.unmount, {})
  | .set name value => p.set name value
  | .typeText name value => p.typeText name value
  | .setChecked name checked => p.setChecked name checked
  | .checkRadio name value => p.checkRadio name value
  | .click node => .ok (p.click node)
  | .clickId id => p.clickId id
  | .fire node event => .ok (p.fire node event)

/-- The page after an operation, which changes nothing when it fails. -/
def after (p : Page) (action : Action) : Page :=
  match p.attempt action with
  | .ok (q, _) => q
  | .error _ => p

/-- The page after some operations. -/
def run (p : Page) (actions : List Action) : Page := actions.foldl after p

/-- A document that is mounted. -/
def mounted (d : Document) (config : Config) : Page := (ofDocument d config).run [.mount]

theorem after_of_ok {p q : Page} {action : Action} {report : Report}
    (h : p.attempt action = .ok (q, report)) : p.after action = q := by
  unfold after
  rw [h]

theorem after_of_error {p : Page} {action : Action} {e : DocumentError}
    (h : p.attempt action = .error e) : p.after action = p := by
  unfold after
  rw [h]

/-- **What every operation preserves holds throughout a run.** -/
theorem run_induction {P : Page → Prop} (hstep : ∀ p action, P p → P (p.after action)) {p : Page}
    (hp : P p) (actions : List Action) : P (p.run actions) := by
  induction actions generalizing p with
  | nil => exact hp
  | cons action rest ih => exact ih (hstep p action hp)

end Page

/-- An element as it is written: a tag with attributes. -/
def Element.ofAttributes (tag : String) (attributes : List (String × String)) : Element :=
  attributes.foldl (fun e (key, value) => e.withAttribute key value) (.ofTag tag)

/-- A form with some elements in it. -/
def Document.form (elements : List Element) : Document where
  tree :=
    { parents := List.replicate elements.length Tree.root
      older := fun k parent h => by
        rw [List.eq_of_mem_replicate (List.mem_of_getElem? h)]
        exact Nat.zero_le k }
  elements := .ofTag "form" :: elements
  listeners := .none
  complete := by rw [List.length_cons, Tree.size, List.length_replicate]

namespace Page

/-! ## Interactions with controls -/

/-- **An input of a page has been entered:** the document is new in values and states of the name only,
and a control of the name has fired its event. -/
def Enters (p : Page) (name : String) (q : Page) : Prop :=
  ∃ node kind d, node ∈ p.document.controlsNamed name ∧ p.document.control? node = some kind ∧
    Document.Entered name p.document d ∧ q = (fire ⟨d, p.controller⟩ node kind.event).1

variable {p q : Page} {name value : String} {report : Report}

theorem fireControl_eq {d : Document} {node : NodeId} {kind : ControlKind}
    (hkind : p.document.control? node = some kind) (hd : Document.Entered name p.document d) :
    p.fireControl d node = fire ⟨d, p.controller⟩ node kind.event := by
  have hcontrol : d.control? node = some kind :=
    (Document.control?_congr hd.controlView node).trans hkind
  unfold fireControl
  rw [hcontrol]
  rfl

/-- **What an interaction with an input answers with:** the document is new in values and states of the name
only, and a control of the name has fired its event. -/
def Fires (p : Page) (name : String) (node : NodeId) (answer : Page × Report) : Prop :=
  node ∈ p.document.controlsNamed name ∧
    ∃ d, Document.Entered name p.document d ∧ p.fireControl d node = answer

variable {node : NodeId} {answer : Page × Report}

theorem Fires.enters (h : p.Fires name node (q, report)) : p.Enters name q := by
  obtain ⟨hn, d, hd, hq⟩ := h
  obtain ⟨kind, hkind⟩ := Option.isSome_iff_exists.mp (Document.mem_controlsNamed.mp hn).2.2
  exact ⟨node, kind, d, hn, hkind, hd, by rw [← fireControl_eq hkind hd, hq]⟩

/-- **An input has been set:** one of its controls has been given a value or a state. -/
def Sets (p : Page) (name : String) (node : NodeId) (d : Document) : Prop :=
  node ∈ p.document.controlsNamed name ∧
    ((∃ value, p.document.setValue node value = .ok d) ∨
      ∃ checked, p.document.setChecked node checked = .ok d)

theorem Sets.entered {d : Document} (h : p.Sets name node d) : Document.Entered name p.document d := by
  obtain ⟨hn, hset⟩ := h
  have hname := (Document.mem_controlsNamed.mp hn).2.1
  rcases hset with ⟨value, hd⟩ | ⟨checked, hd⟩
  · exact Document.entered_setValue hname hd
  · exact Document.entered_setChecked hname hd

theorem Sets.fires {d : Document} (h : p.Sets name node d) : p.Fires name node (p.fireControl d node) :=
  ⟨h.1, d, h.entered, rfl⟩

theorem typeText_sets (h : p.typeText name value = .ok answer) :
    ∃ node d, p.document.controlNamed name = .ok node ∧ p.Sets name node d ∧
      p.fireControl d node = answer := by
  obtain ⟨node, hnode, h⟩ := bind_eq_ok_iff.mp h
  obtain ⟨d, hd, h⟩ := bind_eq_ok_iff.mp h
  exact ⟨node, d, hnode, ⟨Document.mem_of_controlNamed hnode, .inl ⟨value, hd⟩⟩, Except.ok.inj h⟩

theorem setChecked_sets {checked : Bool} (h : p.setChecked name checked = .ok answer) :
    ∃ node d, p.document.controlNamed name = .ok node ∧ p.Sets name node d ∧
      p.fireControl d node = answer := by
  obtain ⟨node, hnode, h⟩ := bind_eq_ok_iff.mp h
  obtain ⟨d, hd, h⟩ := bind_eq_ok_iff.mp h
  exact ⟨node, d, hnode, ⟨Document.mem_of_controlNamed hnode, .inr ⟨checked, hd⟩⟩, Except.ok.inj h⟩

theorem mem_of_radioWith? {d : Document} (h : radioWith? d name value = some node) :
    node ∈ d.controlsNamed name ∧ d.control? node = some .radio := by
  have hmem := List.mem_of_find?_eq_some h
  have hradio := List.find?_some h
  rw [Bool.and_eq_true, beq_iff_eq] at hradio
  refine ⟨List.mem_filter.mpr ⟨hmem, ?_⟩, hradio.1⟩
  rw [hradio.1]
  rfl

theorem checkRadio_sets (h : p.checkRadio name value = .ok answer) :
    ∃ node d, p.document.control? node = some .radio ∧ p.Sets name node d ∧
      p.fireControl d node = answer := by
  unfold checkRadio at h
  split at h
  · next node hnode =>
    obtain ⟨d, hd, h⟩ := bind_eq_ok_iff.mp h
    obtain ⟨hn, hradio⟩ := mem_of_radioWith? hnode
    exact ⟨node, d, hradio, ⟨hn, .inr ⟨true, hd⟩⟩, Except.ok.inj h⟩
  · cases h

/-- Setting an input sets its first control, or a radio button. -/
theorem set_sets (h : p.set name value = .ok answer) :
    ∃ node d, (p.document.controlNamed name = .ok node ∨ p.document.control? node = some .radio) ∧
      p.Sets name node d ∧ p.fireControl d node = answer := by
  obtain ⟨first, -, h⟩ := bind_eq_ok_iff.mp h
  split at h
  · obtain ⟨node, d, hradio, hsets⟩ := checkRadio_sets h
    exact ⟨node, d, .inr hradio, hsets⟩
  · obtain ⟨node, d, hnode, hsets⟩ := setChecked_sets h
    exact ⟨node, d, .inl hnode, hsets⟩
  · obtain ⟨node, d, hnode, hsets⟩ := typeText_sets h
    exact ⟨node, d, .inl hnode, hsets⟩

theorem typeText_fires (h : p.typeText name value = .ok answer) :
    ∃ node, p.document.controlNamed name = .ok node ∧ p.Fires name node answer := by
  obtain ⟨node, d, hnode, hsets, rfl⟩ := typeText_sets h
  exact ⟨node, hnode, hsets.fires⟩

/-- Setting an input has its first control fire, or a radio button. -/
theorem set_fires (h : p.set name value = .ok answer) :
    ∃ node, (p.document.controlNamed name = .ok node ∨ p.document.control? node = some .radio) ∧
      p.Fires name node answer := by
  obtain ⟨node, d, hnode, hsets, rfl⟩ := set_sets h
  exact ⟨node, hnode, hsets.fires⟩

/-- **What an operation answers with:** unless it mounts a page or unmounts it, it fires an event, or sets an
input and has one of its controls fire. -/
theorem attempt_cases {action : Action} (h : p.attempt action = .ok answer) :
    action = .mount ∨ action = .unmount ∨ (∃ node event, p.fire node event = answer) ∨
      ∃ name node d, p.Sets name node d ∧ p.fireControl d node = answer := by
  cases action with
  | mount => exact .inl rfl
  | unmount => exact .inr (.inl rfl)
  | set name value =>
    obtain ⟨node, d, -, hset⟩ := set_sets h
    exact .inr (.inr (.inr ⟨name, node, d, hset⟩))
  | typeText name value =>
    obtain ⟨node, d, -, hset⟩ := typeText_sets h
    exact .inr (.inr (.inr ⟨name, node, d, hset⟩))
  | setChecked name checked =>
    obtain ⟨node, d, -, hset⟩ := setChecked_sets h
    exact .inr (.inr (.inr ⟨name, node, d, hset⟩))
  | checkRadio name value =>
    obtain ⟨node, d, -, hset⟩ := checkRadio_sets h
    exact .inr (.inr (.inr ⟨name, node, d, hset⟩))
  | click node => exact .inr (.inr (.inl ⟨node, .click, Except.ok.inj h⟩))
  | clickId id =>
    have hclick : p.clickId id = .ok answer := h
    unfold clickId at hclick
    split at hclick
    · next node _ => exact .inr (.inr (.inl ⟨node, .click, Except.ok.inj hclick⟩))
    · cases hclick
  | fire node event => exact .inr (.inr (.inl ⟨node, event, Except.ok.inj h⟩))

/-- **What mounting, unmounting, firing an event and setting an input lead to, every operation leads to.** One
that fails does nothing. -/
theorem after_induction {P : Page → Prop} (hp : P p) (hmount : P (p.after .mount))
    (hunmount : P (p.after .unmount)) (hfire : ∀ node event, P (p.fire node event).1)
    (hsets : ∀ name node d, p.Sets name node d → P (p.fireControl d node).1) (action : Action) :
    P (p.after action) := by
  cases hresult : p.attempt action with
  | error e =>
    rw [after_of_error hresult]
    exact hp
  | ok answer =>
    have hafter : p.after action = answer.1 := after_of_ok hresult
    rcases attempt_cases hresult with rfl | rfl | ⟨node, event, rfl⟩ | ⟨name, node, d, hset, rfl⟩
    · exact hmount
    · exact hunmount
    · rw [hafter]
      exact hfire node event
    · rw [hafter]
      exact hsets name node d hset

end Page

/-! ## The event of a control -/

namespace Controller

variable {c : Controller} {d : Document} {name : String} {node : NodeId} {kind : ControlKind}

theorem event_ne_click (kind : ControlKind) : kind.event ≠ .click := by
  cases kind <;> decide

/-- **The event of a control applies the dependents of its input,** once and with nothing else. -/
theorem Ready.fired (h : c.Ready d) (hconfig : c.config.problems = []) (hinert : c.index.Inert)
    (hcarried : c.index.isRegistered name = true → d.Carried name)
    (hn : node ∈ d.controlsNamed name) (hkind : d.control? node = some kind) :
    (c.handleEvent d node kind.event).controller =
        (c.applyAll d none {} (c.index.dependents name)).controller ∧
      (c.handleEvent d node kind.event).document =
        (c.applyAll d none {} (c.index.dependents name)).document := by
  by_cases hreg : c.index.isRegistered name = true
  · have hcarried := hcarried hreg
    have hpoint := mem_inputPoints_of_control hn hkind (hcarried.tag_ne_textarea hn) hreg
    have hs : ∀ entry ∈ c.index.dependents name, entry.Sound c.config d :=
      fun entry hentry => h.sound hconfig hinert (h.mem_dependents.mp hentry).1
    rw [← handleChange_of_carried hcarried hn hs]
    rw [h.listening.handleEvent_of_mem (event_ne_click kind) hpoint]
    exact ⟨rfl, rfl⟩
  · -- nobody listens, but then no directive names the input either
    have hpoint : (node, kind.event, Handler.change) ∉ c.inputPoints d := by
      intro hmem
      obtain ⟨⟨other, hother, hregistered⟩, -⟩ := mem_inputPoints.mp hmem
      rw [show d.attribute? node "name" = some name from (Document.mem_controlsNamed.mp hn).2.1]
        at hother
      rw [Option.some.inj hother] at hreg
      exact hreg hregistered
    have hnone : c.index.dependents name = [] := by
      refine List.eq_nil_iff_forall_not_mem.mpr fun entry hentry => hreg ?_
      rw [h.index] at hentry ⊢
      exact Index.isRegistered_build.mpr ⟨entry, Index.mem_dependents_build.mp hentry⟩
    rw [h.listening.handleEvent_of_not_mem (event_ne_click kind) hpoint, hnone]
    exact ⟨rfl, rfl⟩

end Controller

end ReactiveForm
