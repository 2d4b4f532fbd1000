import ReactiveForm.Proofs.Binding.Shown

/-!
# `ReactiveForm.Proofs.Binding.Synchrony` — a mounted page shows what its inputs say

A change applies the directives of one input and no others, and it does not look at the rest of the page.
All the same the page stays in step: whatever is done to it, in any order, a directive that is decided by
a condition shows what the condition evaluates to at that very moment.

## Contents
- `Document.Reclassed` and `Controller.handleToggle_spec`, what the toggling of a switch group changes.
- `Document.Regular`, documents on which the directives do not get in each other's way.
- `Controller.Live`, **the invariant of a mounted page**, kept by each handler and by entering an input.
- `Page.Steady`, kept by each operation, and `Page.run_in_sync`.
-/

namespace ReactiveForm

/-! ## Switch groups -/

/-- An element without its classes. -/
def Element.classless (e : Element) : Element := { e with classes := [] }

theorem Element.classless_congr {e e' : Element} (h : e.classless = e'.classless) :
    e.inputPart = e'.inputPart ∧ e.attributes = e'.attributes := by
  have hi := congrArg Element.inputPart h
  have ha := congrArg Element.attributes h
  exact ⟨hi, ha⟩

namespace Document

/-- **Classes of some nodes have changed,** and nothing else has. -/
structure Reclassed (nodes : List NodeId) (d d' : Document) : Prop where
  classless : d'.view Element.classless = d.view Element.classless
  others : ∀ node, node ∉ nodes → d'.element? node = d.element? node
  listeners : d'.listeners = d.listeners

namespace Reclassed

variable {nodes : List NodeId} {d d' d'' : Document}

theorem refl (nodes : List NodeId) (d : Document) : Reclassed nodes d d := ⟨rfl, fun _ _ => rfl, rfl⟩

theorem trans (h : Reclassed nodes d d') (h' : Reclassed nodes d' d'') : Reclassed nodes d d'' where
  classless := h'.classless.trans h.classless
  others node hn := (h'.others node hn).trans (h.others node hn)
  listeners := h'.listeners.trans h.listeners

theorem inputView (h : Reclassed nodes d d') :
    d'.view Element.inputPart = d.view Element.inputPart :=
  view_of_view h.classless fun _ _ he => (Element.classless_congr he).1

theorem directiveView (h : Reclassed nodes d d') :
    d'.view Element.directivePart = d.view Element.directivePart := by
  refine view_of_view h.classless fun e e' he => ?_
  unfold Element.directivePart Element.attribute?
  rw [(Element.classless_congr he).2]

theorem attribute? (h : Reclassed nodes d d') (node : NodeId) (key : String) :
    d'.attribute? node key = d.attribute? node key := by
  refine bind_element?_congr (map_element?_of_view h.classless node) fun e e' he => ?_
  unfold Element.attribute?
  rw [(Element.classless_congr he).2]

theorem hasClass (h : Reclassed nodes d d') {node : NodeId} (hn : node ∉ nodes) (c : String) :
    d'.hasClass node c = d.hasClass node c := by
  unfold Document.hasClass
  rw [h.others node hn]

end Reclassed

/-- Flipping a class changes classes of its node. -/
theorem reclassed_toggleClass {d d' : Document} {node : NodeId} {c : String} {present : Bool}
    {nodes : List NodeId} (hn : node ∈ nodes) (h : d.toggleClass node c = .ok (d', present)) :
    Reclassed nodes d d' := by
  have hmodify : ∀ f : Element → Element, (∀ e, (f e).classless = e.classless) →
      d.editClass node c f = .ok d' → Reclassed nodes d d' := by
    intro f hf hedit
    unfold editClass at hedit
    split at hedit
    · obtain ⟨-, rfl⟩ := edit_eq_ok_iff.mp hedit
      refine ⟨view_modify hf d node, fun other hother => ?_, rfl⟩
      rw [element?_modify, if_neg]
      rintro rfl
      exact hother hn
    · cases hedit
  obtain ⟨d'', hset, hpair⟩ := bind_eq_ok_iff.mp h
  obtain rfl : d'' = d' := congrArg Prod.fst (Except.ok.inj hpair)
  unfold setClass at hset
  split at hset
  · refine hmodify _ (fun e => ?_) hset
    unfold Element.withClass
    split <;> rfl
  · exact hmodify (·.withoutClass c) (fun e => rfl) hset

end Document

namespace Controller

variable {c : Controller} {d : Document}

/-- The nodes of the members of switch groups. -/
def members (c : Controller) : List NodeId :=
  (c.index.entries.filter (·.directive.kind == .switch)).map (·.node)

theorem mem_members_of_toggled {group : String} {member : NodeId × String}
    (h : member ∈ c.toggled group) : member.1 ∈ c.members := by
  obtain ⟨entry, hentry, hmember⟩ := List.mem_filterMap.mp h
  refine List.mem_map.mpr ⟨entry, List.mem_filter.mpr ⟨hentry, ?_⟩, ?_⟩
  · cases hd : entry.directive with
    | switch _ _ => rfl
    | _ => simp [hd] at hmember
  · cases hd : entry.directive with
    | switch g ownClass =>
      simp only [hd, Option.ite_none_right_eq_some] at hmember
      rw [← Option.some.inj hmember.2]
    | _ => simp [hd] at hmember

theorem reclassed_toggleMembers {nodes : List NodeId} (members : List (NodeId × String))
    (h : ∀ member ∈ members, member.1 ∈ nodes) (d : Document) (report : Report) :
    Document.Reclassed nodes d (members.foldl toggleMember (d, report)).1 := by
  induction members generalizing d report with
  | nil => exact .refl nodes d
  | cons member rest ih =>
    obtain ⟨hmember, hrest⟩ := List.forall_mem_cons.mp h
    have hstep : Document.Reclassed nodes d (toggleMember (d, report) member).1 := by
      unfold toggleMember
      split
      · next htoggle => exact Document.reclassed_toggleClass hmember htoggle
      · exact .refl nodes d
    exact hstep.trans (ih hrest _ _)

/-- **Toggling a switch group** changes classes of members of switch groups only. -/
theorem handleToggle_spec (c : Controller) (d : Document) (trigger : NodeId) :
    (c.handleToggle d trigger).controller = c ∧
      Document.Reclassed c.members d (c.handleToggle d trigger).document := by
  unfold handleToggle
  split
  · exact ⟨rfl, .refl _ d⟩
  · split
    · exact ⟨rfl, .refl _ d⟩
    · exact ⟨rfl, reclassed_toggleMembers _ (fun _ hm => mem_members_of_toggled hm) d {}⟩

end Controller

/-! ## Regular documents -/

namespace Document

/-- The index of a document with a configuration. -/
def index (d : Document) (config : Config) : Index :=
  Index.build d config.directiveOptions config.capabilities.switches

theorem index_congr {d d' : Document} (h : d'.view Element.directivePart = d.view Element.directivePart)
    (config : Config) : d'.index config = d.index config := Index.build_congr h _ _

/-- **A document on which directives do not get in each other's way:** they assign nothing that is read,
they do not dispute marker classes, and their inputs are carried as a handler expects. -/
structure Regular (config : Config) (d : Document) : Prop where
  valid : config.problems = []
  carried : ∀ entry ∈ (d.index config).entries, ∀ name ∈ entry.directive.references, d.Carried name
  inert : (d.index config).Inert
  undisputed : (d.index config).Undisputed config

instance (config : Config) (d : Document) : Decidable (d.Regular config) :=
  decidable_of_iff (_ ∧ _ ∧ _ ∧ _)
    ⟨fun ⟨hv, hc, hi, hu⟩ => ⟨hv, hc, hi, hu⟩, fun h => ⟨h.valid, h.carried, h.inert, h.undisputed⟩⟩

theorem Regular.congr {config : Config} {d d' : Document} (h : d.Regular config)
    (hcontrol : d'.view Element.controlPart = d.view Element.controlPart)
    (hdirective : d'.view Element.directivePart = d.view Element.directivePart) :
    d'.Regular config := by
  refine ⟨h.valid, ?_, ?_, ?_⟩ <;> rw [index_congr hdirective]
  · exact fun entry hentry name hname => (h.carried entry hentry name hname).congr hcontrol.symm
  · exact h.inert
  · exact h.undisputed

end Document

/-! ## Mounted pages -/

namespace Controller

variable {c : Controller} {d d' : Document} {name : String} {node : NodeId} {event : Event}

theorem Ready.index_eq (h : c.Ready d) : c.index = d.index c.config := h.index

theorem Ready.inert (h : c.Ready d) (hregular : d.Regular c.config) : c.index.Inert := by
  rw [h.index_eq]
  exact hregular.inert

/-- **The invariant of a mounted page:** the controller is ready and in sync, on a regular document. -/
structure Live (c : Controller) (d : Document) : Prop where
  regular : d.Regular c.config
  ready : c.Ready d
  inSync : c.InSync d

/-- Applying directives keeps a document regular. -/
theorem Ready.regular_applyAll (h : c.Ready d) (hregular : d.Regular c.config)
    {entries : List IndexedDirective} (hsub : ∀ entry ∈ entries, entry ∈ c.index.entries)
    (report : Report) : (c.applyAll d none report entries).document.Regular c.config := by
  have hinert := h.inert hregular
  have hs : ∀ entry ∈ entries, entry.Sound c.config d :=
    fun entry hentry => h.sound hregular.valid hinert (hsub entry hentry)
  have hinput : (c.applyAll d none report entries).document.view Element.inputPart =
      d.view Element.inputPart := Pass.inputView_applyAll hs
  refine hregular.congr (Document.controlView_of_inputView hinput) ?_
  exact Pass.view_applyAll hs fun entry hentry _ ho => hinert.directivePart_write (hsub entry hentry) ho

/-- **Applying what is not shown makes a controller live.** -/
theorem Ready.live_applyAll (h : c.Ready d) (hregular : d.Regular c.config)
    {entries : List IndexedDirective} (hsub : ∀ entry ∈ entries, entry ∈ c.index.entries)
    {report : Report}
    (hshown : ∀ entry ∈ c.index.entries, entry ∉ entries → entry.directive.condition?.isSome = true →
      ∀ o, entry.directive.outcome c.config none d = .ok o → entry.Shown c.states d o) :
    (c.applyAll d none report entries).controller.Live (c.applyAll d none report entries).document where
  regular := h.regular_applyAll hregular hsub report
  ready := h.applyAll hregular.valid (h.inert hregular) hsub none report
  inSync := inSync_applyAll h.index hregular.valid (h.inert hregular)
    (h.index_eq ▸ hregular.undisputed) hsub hshown

namespace Live

theorem carried (h : c.Live d) (hreg : c.index.isRegistered name = true) : d.Carried name := by
  rw [h.ready.index_eq] at hreg
  obtain ⟨entry, hentry, hname⟩ := Index.isRegistered_build.mp hreg
  exact h.regular.carried entry hentry name hname

/-- **Applying the dependents of an input keeps a controller live,** even if the input is new. -/
theorem applyDependents (h : c.Live d) (hentered : Document.Entered name d d') :
    (c.applyAll d' none {} (c.index.dependents name)).controller.Live
      (c.applyAll d' none {} (c.index.dependents name)).document := by
  have hready := h.ready.entered hentered
  refine hready.live_applyAll (h.regular.congr hentered.controlView hentered.directiveView)
    (fun entry hentry => (hready.mem_dependents.mp hentry).1) ?_
  -- a directive that is not applied does not name the input, and is shown as before
  intro entry hentry hnot hcondition o ho
  have hname : name ∉ entry.directive.references :=
    fun hname => hnot (hready.mem_dependents.mpr ⟨hentry, hname⟩)
  have ho : entry.directive.outcome c.config none d = .ok o :=
    (Directive.outcome_of_differs hentered.differs hname).trans ho
  have hshown := h.inSync entry hentry hcondition o ho
  refine ⟨fun cl x hc => ?_, fun a ha => ?_, hshown.state⟩
  · rw [hentered.hasClass]
    exact hshown.classes cl x hc
  · rw [hentered.attribute?]
    exact hshown.assigned a ha

/-- **Handling a change where changes are listened for keeps a controller live.** -/
theorem handleChange (h : c.Live d) (hpoint : (node, event, Handler.change) ∈ c.inputPoints d) :
    (c.handleChange d node).controller.Live (c.handleChange d node).document := by
  cases hcontrol : (d.control? node).isSome with
  | false =>
    rw [handleChange_of_not_control hcontrol]
    exact h
  | true =>
    obtain ⟨⟨name, hname, hreg⟩, htag⟩ := mem_inputPoints.mp hpoint
    have hnode : node ∈ d.descendants := by
      rcases htag with ⟨htag, -⟩ | ⟨htag, -⟩ <;> exact (Document.mem_select.mp htag).1
    have hn : node ∈ d.controlsNamed name := Document.mem_controlsNamed.mpr ⟨hnode, hname, hcontrol⟩
    have hs : ∀ entry ∈ c.index.dependents name, entry.Sound c.config d :=
      fun entry hentry => h.ready.sound h.regular.valid (h.ready.inert h.regular)
        (h.ready.mem_dependents.mp hentry).1
    rw [handleChange_of_carried (h.carried hreg) hn hs]
    exact h.applyDependents (.refl name d)

/-- A directive with a condition that writes classes is one that marks. -/
theorem marks_of_setting {directive : Directive} {config : Config} {o : Outcome} {cl : String}
    {x : Bool} (hcondition : directive.condition?.isSome = true)
    (ho : directive.outcome config none d = .ok o) (hc : lastSetting o.classes cl = some x) :
    directive.marks = true := by
  have hmem : cl ∈ directive.classNames config := by
    rw [← Directive.map_fst_classes ho]
    by_contra hnot
    rw [lastSetting_eq_none_iff.mpr hnot] at hc
    cases hc
  cases directive with
  | showIf _ | hideIf _ | disableIf _ => rfl
  | attributeIf _ => cases hmem
  | classIf _ | echo _ | switch _ _ => cases hcondition

/-- **Toggling a switch group keeps a controller live,** since no member of a group is marked. -/
theorem handleToggle (h : c.Live d) (trigger : NodeId) :
    (c.handleToggle d trigger).controller.Live (c.handleToggle d trigger).document := by
  obtain ⟨hc, hd⟩ := handleToggle_spec c d trigger
  rw [hc]
  have hcontrol := Document.controlView_of_inputView hd.inputView
  refine ⟨h.regular.congr hcontrol hd.directiveView,
    h.ready.keep c.states hcontrol hd.directiveView hd.listeners, ?_⟩
  intro entry hentry hcondition o ho
  have ho : entry.directive.outcome c.config none d = .ok o :=
    (Directive.outcome_of_values (Document.values_congr hd.inputView)).symm.trans ho
  have hshown := h.inSync entry hentry hcondition o ho
  refine ⟨fun cl x hc => ?_, fun a ha => ?_, hshown.state⟩
  · -- what writes a class here is a mark, and a marked element is no member of a group
    have hnot : entry.node ∉ c.members := by
      intro hmember
      obtain ⟨other, hother, hn⟩ := List.mem_map.mp hmember
      obtain ⟨hother, hkind⟩ := List.mem_filter.mp hother
      have hundisputed : c.index.Undisputed c.config := h.ready.index_eq ▸ h.regular.undisputed
      exact hundisputed.switches entry hentry (marks_of_setting hcondition ho hc) other hother hn
        (beq_iff_eq.mp hkind)
    rw [hd.hasClass hnot]
    exact hshown.classes cl x hc
  · rw [hd.attribute?]
    exact hshown.assigned a ha

/-- A click calls toggles only. -/
theorem toggles_of_click (h : c.Live d) {r : Registration} (hr : r ∈ c.called node .click) :
    r.handler = .toggle := by
  obtain ⟨hmem, hat⟩ := List.mem_filter.mp hr
  cases hhandler : r.handler with
  | toggle => rfl
  | change =>
    have hpoint : r.point ∈ c.inputPoints d := by
      rw [← h.ready.listening.changes]
      exact List.mem_map_of_mem (List.mem_filter.mpr ⟨hmem, beq_iff_eq.mpr hhandler⟩)
    have hclick : r.event = .click := beq_iff_eq.mp (Bool.and_eq_true_iff.mp hat).2
    rcases (mem_inputPoints.mp hpoint).2 with ⟨-, he⟩ | ⟨-, he⟩
    · rw [show r.event = .change from congrArg Prod.fst he] at hclick
      cases hclick
    · rw [show r.event = .input from congrArg Prod.fst he] at hclick
      cases hclick

/-- Toggles, one after the other. -/
theorem foldl_call (registrations : List Registration)
    (htoggle : ∀ r ∈ registrations, r.handler = .toggle) (u : Update)
    (hu : u.controller.Live u.document) :
    (registrations.foldl (call node) u).controller.Live (registrations.foldl (call node) u).document := by
  induction registrations generalizing u with
  | nil => exact hu
  | cons r rest ih =>
    obtain ⟨hr, hrest⟩ := List.forall_mem_cons.mp htoggle
    refine ih hrest (call node u r) ?_
    unfold call handle
    rw [hr]
    exact hu.handleToggle node

/-- **Whatever event is fired at whatever node, a controller stays live.** -/
theorem handleEvent (h : c.Live d) (node : NodeId) (event : Event) :
    (c.handleEvent d node event).controller.Live (c.handleEvent d node event).document := by
  by_cases hclick : event = .click
  · subst hclick
    rw [handleEvent_eq h.ready.listening.attached]
    exact foldl_call _ (fun r hr => h.toggles_of_click hr) _ h
  · by_cases hpoint : (node, event, Handler.change) ∈ c.inputPoints d
    · rw [h.ready.listening.handleEvent_of_mem hclick hpoint]
      exact h.handleChange hpoint
    · rw [h.ready.listening.handleEvent_of_not_mem hclick hpoint]
      exact h

/-- **Entering an input keeps a controller live,** with the event that its control fires. -/
theorem entered {kind : ControlKind} (h : c.Live d) (hentered : Document.Entered name d d')
    (hn : node ∈ d.controlsNamed name) (hkind : d.control? node = some kind) :
    (c.handleEvent d' node kind.event).controller.Live (c.handleEvent d' node kind.event).document := by
  have hnode : node ∈ d'.controlsNamed name := by
    rw [Document.controlsNamed_congr hentered.controlView]
    exact hn
  have hcontrol : d'.control? node = some kind :=
    (Document.control?_congr hentered.controlView node).trans hkind
  obtain ⟨hc, hd⟩ := (h.ready.entered hentered).fired h.regular.valid (h.ready.inert h.regular)
    (fun hreg => (h.carried hreg).congr hentered.controlView.symm) hnode hcontrol
  rw [hc, hd]
  exact h.applyDependents hentered

end Live

theorem config_handle (c : Controller) (d : Document) (node : NodeId) (handler : Handler) :
    (c.handle d node handler).controller.config = c.config := by
  cases handler with
  | change =>
    show (c.handleChange d node).controller.config = c.config
    unfold handleChange
    split
    · rfl
    · split <;> rfl
  | toggle =>
    show (c.handleToggle d node).controller.config = c.config
    rw [(handleToggle_spec c d node).1]

theorem config_handleEvent (c : Controller) (d : Document) (node : NodeId) (event : Event) :
    (c.handleEvent d node event).controller.config = c.config :=
  handleEvent_induction (R := fun c' _ => c'.config = c.config) c d node event rfl
    fun c' d' handler h => (config_handle c' d' node handler).trans h

/-- A controller without registrations does not notice events. -/
theorem handleEvent_of_idle (h : c.registrations = []) (d : Document) (node : NodeId) (event : Event) :
    c.handleEvent d node event = c.unchanged d := by
  unfold handleEvent
  rw [h]
  rfl

/-- **Connecting makes a controller live** on a regular document. -/
theorem connect_live (hidle : c.connected = false → c.registrations = [])
    (hregular : d.Regular c.config) :
    ∃ u, c.connect d = .ok u ∧ u.controller.config = c.config ∧ u.controller.Live u.document := by
  obtain ⟨u, hconnect, hu⟩ := connect_ready hidle hregular.valid hregular.inert
  obtain ⟨p, hp, hstates, hview⟩ := hu.pass
  have hlive : d.Regular u.controller.config := by
    rw [hu.config]
    exact hregular
  refine ⟨u, hconnect, hu.config, hlive.congr hu.controls hu.directives, hu.ready, ?_⟩
  -- the pass of the initialization, as one of the controller as it is now
  have hpart : ∀ {α : Type} {π : Element → α}, p.document.view π = d.view π := by
    intro α π
    exact Document.view_of_view hp fun _ _ he => congrArg π he
  have hregular : p.document.Regular u.controller.config := hlive.congr hpart hpart
  have hindex : u.controller.index = p.document.index u.controller.config := by
    rw [hu.index, hu.config]
    exact Index.build_congr hpart.symm _ _
  have hall : ∀ entry ∈ u.controller.index.entries, entry.directive.condition?.isSome = true →
      entry ∈ initial u.controller.index := by
    intro entry hentry hcondition
    refine List.mem_filter.mpr ⟨hentry, ?_⟩
    cases hd : entry.directive with
    | switch _ _ =>
      rw [hd] at hcondition
      cases hcondition
    | _ => rfl
  have hsync := @inSync_applyAll { u.controller with states := p.states } p.document
    (initial u.controller.index) p.report hindex hregular.valid (hindex ▸ hregular.inert)
    (hindex ▸ hregular.undisputed) (fun entry hentry => (List.mem_filter.mp hentry).1)
    fun entry hentry hnot hcondition => absurd (hall entry hentry hcondition) hnot
  rw [← hu.config] at hstates hview
  intro entry hentry hcondition o ho
  have ho : entry.directive.outcome u.controller.config none (Pass.applyAll u.controller.config none p
      (initial u.controller.index)).document = .ok o := by
    refine Eq.trans (Directive.outcome_of_values (Document.values_congr ?_)) ho
    exact Document.view_of_view hview.symm fun _ _ he => congrArg _ he
  have hshown := hsync entry hentry hcondition o ho
  rw [hstates]
  refine ⟨fun cl x hc => ?_, fun a ha => ?_, hshown.state⟩
  · refine Eq.trans ?_ (hshown.classes cl x hc)
    exact Document.any_element?_congr (Document.map_element?_of_view hview entry.node)
      fun _ _ he => congrArg (Element.hasClass · cl) he
  · refine Eq.trans ?_ (hshown.assigned a ha)
    exact Document.bind_element?_congr (Document.map_element?_of_view hview entry.node)
      fun _ _ he => congrArg (Element.attribute? · a.name) he

end Controller

/-! ## Runs -/

namespace Page

variable {config : Config} {p q : Page} {name : String}

/-- **The invariant of a page:** its document is regular, a controller that is connected is live, and one
that is not has no listeners. -/
structure Steady (config : Config) (p : Page) : Prop where
  config : p.controller.config = config
  regular : p.document.Regular p.controller.config
  idle : p.controller.connected = false → p.controller.registrations = []
  live : p.controller.connected = true → p.controller.Live p.document

/-- A page whose controller is live is steady. -/
theorem steady_of_live {c : Controller} {d : Document} (hconfig : c.config = config)
    (h : c.Live d) : Steady config ⟨d, c⟩ where
  config := hconfig
  regular := h.regular
  idle hc := absurd hc (ne_of_eq_of_ne h.ready.connected Bool.noConfusion)
  live _ := h

theorem steady_ofDocument {d : Document} (h : d.Regular config) : Steady config (ofDocument d config) where
  config := rfl
  regular := h
  idle _ := rfl
  live hc := nomatch hc

namespace Steady

theorem mount (h : p.Steady config) : (p.after .mount).Steady config := by
  obtain ⟨u, hconnect, hconfig, hlive⟩ := Controller.connect_live h.idle h.regular
  have hmount : p.attempt .mount = .ok (⟨u.document, u.controller⟩, u.report) := by
    show (p.controller.connect p.document).map ofUpdate = _
    rw [hconnect]
    rfl
  rw [after_of_ok hmount]
  exact steady_of_live (hconfig.trans h.config) hlive

theorem unmount (h : p.Steady config) : (p.after .unmount).Steady config where
  config := h.config
  regular := by
    have hview : (p.after .unmount).document.view id = p.document.view id :=
      Controller.view_removeAll p.controller.registrations p.document
    exact h.regular.congr (Document.view_of_view hview fun _ _ he => congrArg _ he)
      (Document.view_of_view hview fun _ _ he => congrArg _ he)
  idle _ := rfl
  live hc := nomatch hc

theorem fire (h : p.Steady config) (node : NodeId) (event : Event) :
    (p.fire node event).1.Steady config := by
  show Steady config ⟨(p.controller.handleEvent p.document node event).document,
    (p.controller.handleEvent p.document node event).controller⟩
  cases hc : p.controller.connected with
  | true =>
    exact steady_of_live ((Controller.config_handleEvent _ _ _ _).trans h.config)
      ((h.live hc).handleEvent node event)
  | false =>
    rw [Controller.handleEvent_of_idle (h.idle hc)]
    exact h

/-- **Entering an input keeps a page steady.** -/
theorem enters (h : p.Steady config) (hq : p.Enters name q) : q.Steady config := by
  obtain ⟨node, kind, d, hn, hkind, hd, rfl⟩ := hq
  show Steady config ⟨(p.controller.handleEvent d node kind.event).document,
    (p.controller.handleEvent d node kind.event).controller⟩
  cases hc : p.controller.connected with
  | true =>
    exact steady_of_live ((Controller.config_handleEvent _ _ _ _).trans h.config)
      ((h.live hc).entered hd hn hkind)
  | false =>
    rw [Controller.handleEvent_of_idle (h.idle hc)]
    refine ⟨h.config, h.regular.congr hd.controlView hd.directiveView, h.idle, fun hlive => ?_⟩
    rw [show p.controller.connected = true from hlive] at hc
    cases hc

/-- **Every operation keeps a page steady,** whether it succeeds or fails. -/
theorem after (h : p.Steady config) (action : Action) : (p.after action).Steady config :=
  after_induction h h.mount h.unmount h.fire (fun _ _ _ hsets => h.enters hsets.fires.enters) action

end Steady

end Page

/-! ## What is displayed -/

/-- **What an entry displays when its condition is true or false:** its element is hidden or disabled
accordingly, or the attribute has the value of the branch that is selected, if there is one. -/
def IndexedDirective.Displays (entry : IndexedDirective) (config : Config) (d : Document)
    (active : Bool) : Prop :=
  match entry.directive with
  | .showIf _ => d.hasClass entry.node config.classes.hidden = !active
  | .hideIf _ => d.hasClass entry.node config.classes.hidden = active
  | .disableIf _ => d.hasClass entry.node config.classes.disabled = active
  | .attributeIf rule =>
    ∀ a ∈ if active then some rule.whenTrue else rule.whenFalse,
      d.attribute? entry.node a.name = some a.value
  | _ => True

/-- A directive with a condition finds out what its condition evaluates to. -/
theorem Directive.outcome_of_evaluate {directive : Directive} {config : Config} {d : Document}
    {c : Condition} {active : Bool} (hc : directive.condition? = some c)
    (h : d.evaluate config none c = .ok active) :
    directive.outcome config none d = .ok (directive.settle config [active] none) := by
  have htruths : directive.truths config none d = .ok [active] := by
    have hconditions : directive.conditions = [c] := by
      cases directive with
      | showIf _ | hideIf _ | disableIf _ | attributeIf _ => rw [← Option.some.inj hc]; rfl
      | classIf _ | echo _ | switch _ _ => cases hc
    unfold truths
    rw [hconditions, List.mapM_cons, h]
    rfl
  refine outcome_eq_ok_iff.mpr ⟨[active], htruths, none, ?_, rfl⟩
  cases directive with
  | echo _ => cases hc
  | _ => rfl

theorem EffectState.ofBool_eq (active : Bool) : ofBool active = if active then .active else .inactive := by
  cases active <;> rfl

/-- A directive that is shown has its state, and displays it. -/
theorem IndexedDirective.Shown.displays {entry : IndexedDirective} {config : Config}
    {states : EffectStates} {d : Document} {c : Condition} {active : Bool}
    (hc : entry.directive.condition? = some c)
    (h : entry.Shown states d (entry.directive.settle config [active] none)) :
    states.get? entry.node entry.directive.kind = some (if active then .active else .inactive) ∧
      entry.Displays config d active := by
  obtain ⟨node, directive⟩ := entry
  rw [← EffectState.ofBool_eq]
  cases directive with
  | showIf _ | hideIf _ | disableIf _ =>
    exact ⟨h.state _ rfl, h.classes _ _ ((lastSetting_singleton _ _ _).trans (if_pos rfl))⟩
  | attributeIf _ => exact ⟨h.state _ rfl, h.assigned⟩
  | classIf _ | echo _ | switch _ _ => cases hc

namespace Page

/-- **Whatever is done to a page, in whatever order, it stays in step.** Whenever it is mounted, a
directive that is decided by a condition has the state that the condition evaluates to, and displays it. -/
theorem run_in_sync {config : Config} {d : Document} (h : d.Regular config) (actions : List Action) :
    let p := (ofDocument d config).run actions
    p.controller.connected = true →
      p.controller.index = p.document.index config ∧
        ∀ entry ∈ p.controller.index.entries, ∀ c, entry.directive.condition? = some c →
          ∀ active, p.document.evaluate config none c = .ok active →
            p.controller.effectState? entry.node entry.directive.kind =
              some (if active then .active else .inactive) ∧
              entry.Displays config p.document active := by
  intro p hconnected
  have hsteady : p.Steady config :=
    run_induction (fun p action hp => hp.after action) (steady_ofDocument h) actions
  have hlive := hsteady.live hconnected
  refine ⟨by rw [hlive.ready.index_eq, hsteady.config], fun entry hentry c hc active hactive => ?_⟩
  rw [← hsteady.config] at hactive ⊢
  have ho := Directive.outcome_of_evaluate hc hactive
  exact (hlive.inSync entry hentry (by rw [hc]; rfl) _ ho).displays hc

/-- A form with two radio buttons and a text field of which they decide. -/
def order : Document :=
  .form [.ofAttributes "input" [("type", "radio"), ("name", "plan"), ("value", "free")],
    .ofAttributes "input" [("type", "radio"), ("name", "plan"), ("value", "pro")],
    .ofAttributes "input" [("name", "seats"), ("data-if", "plan == pro ? max='50' : max='1'")],
    .ofAttributes "p" [("data-show", "plan == pro && seats != 1")]]

/-- In the order form the attribute follows the radio buttons, through an interruption and a stray
event. -/
theorem run_in_sync_order :
    order.Regular {} ∧
      ((ofDocument order {}).run [.mount, .unmount, .mount, .fire ⟨1⟩ .input,
        .set "plan" "pro"]).controller.connected = true ∧
      ((ofDocument order {}).run [.mount, .unmount, .mount, .fire ⟨1⟩ .input,
        .set "plan" "pro"]).document.attribute? ⟨3⟩ "max" = some "50" := by
  have hregular : order.Regular {} := by decide +kernel
  have hconnected : ((ofDocument order {}).run [.mount, .unmount, .mount, .fire ⟨1⟩ .input,
      .set "plan" "pro"]).controller.connected = true := by decide +kernel
  refine ⟨hregular, hconnected, ?_⟩
  obtain ⟨-, hsync⟩ := run_in_sync hregular _ hconnected
  exact (hsync
    ⟨⟨3⟩, .attributeIf ⟨.compare ⟨"plan", .equal, "pro"⟩, ⟨"max", "50"⟩, some ⟨"max", "1"⟩⟩⟩
    (by decide +kernel) _ rfl true (by decide +kernel)).2 ⟨"max", "50"⟩ rfl

end Page

end ReactiveForm
