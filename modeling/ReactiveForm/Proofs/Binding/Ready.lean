import ReactiveForm.Proofs.Binding.Change
import ReactiveForm.Proofs.Binding.Listening
import ReactiveForm.Proofs.Binding.Sparing

/-!
# `ReactiveForm.Proofs.Binding.Ready` — what stays true while a controller is connected

A connected controller relies on three things: the index is the one of the document, the listeners are
attached where they have to be, and both remain so. They do, because nothing that happens while the
controller is connected changes an attribute from which directives, controls or points are read — unless
a directive assigns such an attribute itself, which `Index.Inert` rules out.

## Contents
- `reservedAttributes` and `Index.Inert`, directives that do not rewrite what is read.
- `Controller.Ready`, with `Ready.keep`, `Ready.sound`, `Ready.applyAll` and `Ready.entered`.
- `Controller.Connected` and `connect_ready`, connecting establishes it.
-/

namespace ReactiveForm

/-! ## Inert directives -/

/-- The attributes from which the controls, the values and the directives of a document are read. -/
def reservedAttributes : List String :=
  ["class", "value", "checked", "name", "type", switchClassAttribute] ++
    DirectiveKind.all.map DirectiveKind.attributeName

/-- **Directives that assign no reserved attribute.** -/
def Index.Inert (i : Index) : Prop :=
  ∀ entry ∈ i.entries, ∀ a ∈ entry.directive.assignments, a.name ∉ reservedAttributes

instance (i : Index) : Decidable i.Inert :=
  inferInstanceAs (Decidable (∀ entry ∈ i.entries, ∀ a ∈ entry.directive.assignments,
    a.name ∉ reservedAttributes))

theorem not_mirrored_of_not_reserved {name : String} (h : name ∉ reservedAttributes) :
    name ∉ Document.mirroredAttributes := by
  intro hmirrored
  simp only [Document.mirroredAttributes, List.mem_cons, List.not_mem_nil, or_false] at hmirrored
  rcases hmirrored with he | he | he <;> exact h (by rw [he]; simp [reservedAttributes])

theorem ne_of_not_reserved {name key : String} (h : name ∉ reservedAttributes)
    (hkey : key ∈ reservedAttributes) : name ≠ key := fun he => h (he ▸ hkey)

/-- An attribute that is not reserved stands for itself only, and it is not read with inputs. -/
theorem plain_of_not_reserved {name : String} (h : name ∉ reservedAttributes) :
    name ∉ Document.mirroredAttributes ∧ name ≠ "name" ∧ name ≠ "type" :=
  ⟨not_mirrored_of_not_reserved h, ne_of_not_reserved h (by simp [reservedAttributes]),
    ne_of_not_reserved h (by simp [reservedAttributes])⟩

namespace Index

variable {config : Config} {d : Document} {entry : IndexedDirective}

theorem Inert.sound {options : DirectiveOptions} {switches : Bool} (hconfig : config.problems = [])
    (h : (build d options switches).Inert) (hmem : entry ∈ (build d options switches).entries) :
    entry.Sound config d :=
  sound_of_mem hconfig hmem fun a ha => plain_of_not_reserved (h entry hmem a ha)

/-- What an inert directive writes leaves the directives of an element as they are. -/
theorem Inert.directivePart_write {i : Index} (h : i.Inert) (hmem : entry ∈ i.entries) {o : Outcome}
    (ho : ∀ a ∈ o.assignment, a ∈ entry.directive.assignments) (e : Element) :
    (o.write e).directivePart = e.directivePart := by
  refine Outcome.directivePart_write (fun a ha => ?_) e
  have hreserved := h entry hmem a (ho a ha)
  refine ⟨ne_of_not_reserved hreserved (by simp [reservedAttributes]), fun kind => ?_⟩
  refine ne_of_not_reserved hreserved (List.mem_append_right _ ?_)
  exact List.mem_map_of_mem kind.mem_all

end Index

/-- Entering an input changes no directive. -/
theorem Document.Entered.directiveView {name : String} {d d' : Document}
    (h : Document.Entered name d d') :
    d'.view Element.directivePart = d.view Element.directivePart := by
  refine h.view fun e e' he => ?_
  unfold Element.directivePart Element.attribute?
  rw [(Element.stateless_congr he).2.1]

namespace Controller

variable {c c' : Controller} {d d' : Document}

/-! ## Being ready -/

/-- Listening is not touched by what leaves controls and listeners alone. -/
theorem Listening.keep (h : c.Listening d)
    (hcontrol : d'.view Element.controlPart = d.view Element.controlPart)
    (hlisteners : d'.listeners = d.listeners) : c.Listening d' where
  attached r hr := by
    rw [hlisteners]
    exact h.attached r hr
  changes := h.changes.trans (inputPoints_congr rfl hcontrol.symm)
  toggles := h.toggles

/-- **A controller that is ready for events:** it is connected, its index is the one of the document, and
it listens where it has to. -/
structure Ready (c : Controller) (d : Document) : Prop where
  connected : c.connected = true
  index : c.index = Index.build d c.config.directiveOptions c.config.capabilities.switches
  listening : c.Listening d

/-- What a controller needs to stay ready is not touched by a change of states, values, classes, texts
or other attributes. -/
theorem Ready.keep (h : c.Ready d) (states : EffectStates)
    (hcontrol : d'.view Element.controlPart = d.view Element.controlPart)
    (hdirective : d'.view Element.directivePart = d.view Element.directivePart)
    (hlisteners : d'.listeners = d.listeners) : Ready { c with states } d' where
  connected := h.connected
  index := h.index.trans (Index.build_congr hdirective.symm _ _)
  listening :=
    have hlistening := h.listening.keep hcontrol hlisteners
    ⟨hlistening.attached, hlistening.changes, hlistening.toggles⟩

theorem Ready.mem_dependents (h : c.Ready d) {name : String} {entry : IndexedDirective} :
    entry ∈ c.index.dependents name ↔
      entry ∈ c.index.entries ∧ name ∈ entry.directive.references := by
  rw [h.index]
  exact Index.mem_dependents_build

/-- The entries of a ready controller are sound, unless they assign a reserved attribute. -/
theorem Ready.sound (h : c.Ready d) (hconfig : c.config.problems = []) (hinert : c.index.Inert)
    {entry : IndexedDirective} (hmem : entry ∈ c.index.entries) : entry.Sound c.config d := by
  rw [h.index] at hinert hmem
  exact hinert.sound hconfig hmem

/-- **Applying directives of the index keeps a controller ready,** and the inputs as they are. -/
theorem Ready.applyAll (h : c.Ready d) (hconfig : c.config.problems = []) (hinert : c.index.Inert)
    {entries : List IndexedDirective} (hsub : ∀ entry ∈ entries, entry ∈ c.index.entries)
    (change : Option Change) (report : Report) :
    (c.applyAll d change report entries).controller.Ready (c.applyAll d change report entries).document := by
  have hs : ∀ entry ∈ entries, entry.Sound c.config d :=
    fun entry hentry => h.sound hconfig hinert (hsub entry hentry)
  have hinput : (c.applyAll d change report entries).document.view Element.inputPart =
      d.view Element.inputPart := Pass.inputView_applyAll hs
  refine h.keep _ (Document.controlView_of_inputView hinput) ?_ ?_
  · exact Pass.view_applyAll hs fun entry hentry _ ho =>
      hinert.directivePart_write (hsub entry hentry) ho
  · exact Pass.listeners_applyAll entries _

/-- Entering an input keeps a controller ready. -/
theorem Ready.entered {name : String} (h : c.Ready d) (hd : Document.Entered name d d') : c.Ready d' :=
  h.keep c.states hd.controlView hd.directiveView hd.listeners

/-! ## Becoming ready -/

/-- The entries that are applied when a controller is connected. -/
def initial (i : Index) : List IndexedDirective := i.entries.filter (·.directive.kind != .switch)

/-- Initializing leaves the tree as it is. -/
theorem tree_init (c : Controller) (d : Document) : (c.init d).document.tree = d.tree :=
  Pass.tree_applyAll (p := ⟨d, c.states, _⟩) fun _ hentry =>
    Index.lt_size_of_mem (List.mem_filter.mp hentry).1

/-- **What connecting leaves:** a controller that is ready, the controls and the directives as they were,
and, but for listeners, the document of a pass through all directives in kind order, begun from the
document as it was. -/
structure Connected (c : Controller) (d : Document) (u : Update) : Prop where
  config : u.controller.config = c.config
  ready : u.controller.Ready u.document
  controls : u.document.view Element.controlPart = d.view Element.controlPart
  directives : u.document.view Element.directivePart = d.view Element.directivePart
  pass : ∃ p : Pass, p.document.view id = d.view id ∧
    u.controller.states = (Pass.applyAll c.config none p (initial u.controller.index)).states ∧
    u.document.view id = (Pass.applyAll c.config none p (initial u.controller.index)).document.view id

theorem Connected.index {u : Update} (h : Connected c d u) :
    u.controller.index = Index.build d c.config.directiveOptions c.config.capabilities.switches := by
  rw [h.ready.index, h.config]
  exact Index.build_congr h.directives _ _

/-- Detaching listeners leaves the directives of a document as they are. -/
theorem build_fresh (c : Controller) (d : Document) :
    Index.build (c.fresh d).2 (c.fresh d).1.config.directiveOptions
        (c.fresh d).1.config.capabilities.switches =
      Index.build d c.config.directiveOptions c.config.capabilities.switches := by
  rw [config_fresh]
  exact Index.build_congr (Document.view_of_view (view_fresh c d) fun _ _ he => congrArg _ he) _ _

/-- Connecting reads the directives of the document as it is, and leaves the tree as it is. -/
theorem connect_index (c : Controller) (d : Document) :
    ∃ u, c.connect d = .ok u ∧ u.controller.config = c.config ∧
      u.controller.index =
        Index.build d c.config.directiveOptions c.config.capabilities.switches ∧
      u.document.tree = d.tree := by
  obtain ⟨new, d', hconnect, hnew⟩ := c.connect_eq d
  refine ⟨_, hconnect, c.config_fresh d, c.build_fresh d, ?_⟩
  exact (Document.tree_eq_of_view hnew.view).trans
    ((tree_init _ _).trans (Document.tree_eq_of_view (c.view_fresh d)))

/-- **Connecting succeeds.** -/
theorem connect_ready (hidle : c.connected = false → c.registrations = [])
    (hconfig : c.config.problems = [])
    (hinert : (Index.build d c.config.directiveOptions c.config.capabilities.switches).Inert) :
    ∃ u, c.connect d = .ok u ∧ Connected c d u := by
  obtain ⟨u, hconnect, -, hview, hc, hconnected, hindex, hstates, hlistening⟩ := connect_spec hidle d
  have hfresh := view_fresh c d
  have hindex : u.controller.index =
      Index.build d c.config.directiveOptions c.config.capabilities.switches := hindex.trans (build_fresh c d)
  -- the pass of the initialization, which runs on the document without the old listeners
  let built := Index.build (c.fresh d).2 (c.fresh d).1.config.directiveOptions
    (c.fresh d).1.config.capabilities.switches
  let p : Pass := ⟨(c.fresh d).2, (c.fresh d).1.states, { failures := built.failures }⟩
  have hview : u.document.view id =
      (Pass.applyAll (c.fresh d).1.config none p (initial built)).document.view id := hview
  have hstates : u.controller.states =
      (Pass.applyAll (c.fresh d).1.config none p (initial built)).states := hstates
  have hbuilt : built = u.controller.index := (build_fresh c d).trans hindex.symm
  rw [hbuilt, config_fresh] at hview hstates
  have hmem : ∀ entry ∈ initial u.controller.index, entry ∈ u.controller.index.entries :=
    fun entry h => (List.mem_filter.mp h).1
  have hs : ∀ entry ∈ initial u.controller.index, entry.Sound c.config p.document := by
    intro entry hentry
    have hentry := hmem entry hentry
    rw [hindex] at hentry
    have hsound := hinert.sound hconfig hentry
    exact ⟨by rw [Document.tree_eq_of_view hfresh]; exact hsound.inTree, hsound.writable, hsound.neutral⟩
  have hcontrols : u.document.view Element.controlPart = d.view Element.controlPart := by
    refine (Document.view_of_view hview fun _ _ he => congrArg _ he).trans ?_
    refine (Document.controlView_of_inputView (Pass.inputView_applyAll hs)).trans ?_
    exact Document.view_of_view hfresh fun _ _ he => congrArg _ he
  have hdirectives : u.document.view Element.directivePart = d.view Element.directivePart := by
    refine (Document.view_of_view hview fun _ _ he => congrArg _ he).trans ?_
    refine (Pass.view_applyAll hs fun entry hentry o ho => ?_).trans ?_
    · rw [← hindex] at hinert
      exact hinert.directivePart_write (hmem entry hentry) ho
    · exact Document.view_of_view hfresh fun _ _ he => congrArg _ he
  refine ⟨u, hconnect, hc, ⟨hconnected, ?_, hlistening⟩, hcontrols, hdirectives, p, hfresh, hstates, hview⟩
  rw [hc, hindex]
  exact Index.build_congr hdirectives.symm _ _

end Controller

end ReactiveForm
