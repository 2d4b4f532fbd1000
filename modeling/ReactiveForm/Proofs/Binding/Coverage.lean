import ReactiveForm.Proofs.Binding.Interaction

/-!
# `ReactiveForm.Proofs.Binding.Coverage` — which controls are heard

What a control is, is decided by its kind; where a controller listens, by tags. The two meet at every
selection and every input, but a textarea is a control to which nobody listens: its value is read like that
of any text field, and when it is set nothing happens.

## Contents
- `Controller.changesAt`, with `Listening.changesAt_of_control` and `changesAt_of_textarea`.
- `Page.Reapplies` and `Page.Unnoticed`, what an interaction comes to.
- `Page.mount_covers`, **the controls of a mounted page that are heard, and those that are not**.
-/

namespace ReactiveForm

/-- Whether a node is a textarea. -/
def Document.isTextarea (d : Document) (node : NodeId) : Bool :=
  (d.element? node).any (·.tag == "textarea")

namespace Controller

variable {c : Controller} {d : Document} {node : NodeId} {kind : ControlKind} {name : String}

/-! ## Registrations of a control -/

/-- The registrations of a controller for changes at a node. -/
def changesAt (c : Controller) (node : NodeId) : List Registration :=
  (c.registrations.filter (·.handler == .change)).filter (·.node == node)

theorem Listening.map_changesAt (h : c.Listening d) (node : NodeId) :
    (c.changesAt node).map Registration.point = (c.inputPoints d).filter (·.1 == node) := by
  rw [← h.changes, List.filter_map]
  rfl

/-- The tag of a point is that of a selection or of an input. -/
theorem tag_of_mem_inputPoints {point : NodeId × Event × Handler} (h : point ∈ c.inputPoints d) :
    ∃ e, d.element? point.1 = some e ∧
      (e.tag = "select" ∧ point.2 = (.change, .change) ∨ e.tag = "input" ∧ point.2 = (.input, .change)) := by
  rcases (mem_inputPoints.mp h).2 with ⟨htag, hpoint⟩ | ⟨htag, hpoint⟩
  · obtain ⟨-, e, he, htag⟩ := (mem_withTag (by decide +kernel)).mp htag
    exact ⟨e, he, .inl ⟨htag, hpoint⟩⟩
  · obtain ⟨-, e, he, htag⟩ := (mem_withTag (by decide +kernel)).mp htag
    exact ⟨e, he, .inr ⟨htag, hpoint⟩⟩

/-- The point of a control is for the event that it fires. -/
theorem event_of_mem_inputPoints {point : NodeId × Event × Handler} (h : point ∈ c.inputPoints d)
    (hkind : d.control? point.1 = some kind) : point = (point.1, kind.event, .change) := by
  obtain ⟨e, he, htag⟩ := tag_of_mem_inputPoints h
  obtain ⟨e', he', hek⟩ := Option.bind_eq_some_iff.mp hkind
  obtain rfl : e = e' := Option.some.inj (he.symm.trans he')
  refine Prod.ext rfl ?_
  -- of the kinds with the tag of the point, all fire the event that the point is for
  rcases htag with ⟨htag, hpoint⟩ | ⟨htag, hpoint⟩ <;>
    rcases tag_of_control hek with h | ⟨h, hevent⟩ | ⟨h, hevent⟩ <;> rw [htag] at h
  · exact absurd h (by decide)
  · rw [hpoint, hevent]
  · exact absurd h (by decide)
  · exact absurd h (by decide)
  · exact absurd h (by decide)
  · rw [hpoint, hevent]

/-- **A control that is not a textarea is registered once,** for the event that it fires. -/
theorem Listening.changesAt_of_control (h : c.Listening d) (hn : node ∈ d.controlsNamed name)
    (hkind : d.control? node = some kind) (htag : d.isTextarea node = false)
    (hreg : c.index.isRegistered name = true) :
    ∃ r, c.changesAt node = [r] ∧ r.event = kind.event ∧ r.listener ∈ d.listeners.live := by
  have hmem := mem_inputPoints_of_control hn hkind htag hreg
  -- all points at the node are this one, and no point is repeated
  have hone : (c.inputPoints d).filter (·.1 == node) = [(node, kind.event, .change)] := by
    have hpoint : (c.inputPoints d).filter (·.1 == node) =
        (c.inputPoints d).filter (· == (node, kind.event, Handler.change)) := by
      refine List.filter_congr fun point hp => Bool.eq_iff_iff.mpr ?_
      rw [beq_iff_eq, beq_iff_eq]
      refine ⟨fun he => ?_, fun he => congrArg Prod.fst he⟩
      have hevent := event_of_mem_inputPoints hp (he ▸ hkind)
      rwa [he] at hevent
    rw [hpoint, List.filter_beq, List.count_eq_one_of_mem (nodup_inputPoints c d) hmem]
    rfl
  have hmap := h.map_changesAt node
  rw [hone] at hmap
  obtain ⟨r, hr, hpoint⟩ := List.map_eq_singleton_iff.mp hmap
  refine ⟨r, hr, congrArg (·.2.1) hpoint, h.attached r ?_⟩
  have hrmem : r ∈ c.changesAt node := by
    rw [hr]
    exact List.mem_cons_self
  exact List.mem_of_mem_filter (List.mem_of_mem_filter hrmem)

theorem not_mem_inputPoints_of_textarea (htag : d.isTextarea node = true) (event : Event)
    (handler : Handler) : (node, event, handler) ∉ c.inputPoints d := by
  intro hmem
  obtain ⟨e, he, hpoint⟩ := tag_of_mem_inputPoints hmem
  have he : d.element? node = some e := he
  unfold Document.isTextarea at htag
  rw [he, Option.any_some, beq_iff_eq] at htag
  rcases hpoint with ⟨h, -⟩ | ⟨h, -⟩ <;> rw [htag] at h <;> exact absurd h (by decide)

/-- **A textarea is not registered,** whatever it is named. -/
theorem Listening.changesAt_of_textarea (h : c.Listening d) (htag : d.isTextarea node = true) :
    c.changesAt node = [] := by
  have hmap := h.map_changesAt node
  have hnone : (c.inputPoints d).filter (·.1 == node) = [] := by
    refine List.filter_eq_nil_iff.mpr fun point hp he => ?_
    obtain ⟨n, event, handler⟩ := point
    obtain rfl : n = node := beq_iff_eq.mp he
    exact not_mem_inputPoints_of_textarea htag event handler hp
  rw [hnone] at hmap
  exact List.map_eq_nil_iff.mp hmap

end Controller

/-! ## Interactions -/

theorem Document.Entered.isTextarea {d d' : Document} {name : String} (h : Document.Entered name d d')
    (node : NodeId) : d'.isTextarea node = d.isTextarea node :=
  Document.any_element?_congr (Document.map_element?_of_view h.controlView node) fun _ _ he =>
    congrArg (· == "textarea") (congrArg Element.ControlPart.tag he)

namespace Page

variable {p : Page} {d : Document} {name : String} {node : NodeId} {answer : Page × Report}

/-- **An interaction that has the directives of an input applied again,** with the value that the input has
got. -/
def Reapplies (p : Page) (name : String) (answer : Page × Report) : Prop :=
  ∃ node d value, node ∈ p.document.controlsNamed name ∧ Document.Entered name p.document d ∧
    Controller.changedValue? d node name = some value ∧
    answer = ofUpdate (p.controller.applyAll d (some ⟨name, value⟩) {} (p.controller.index.dependents name))

/-- **An interaction that goes unnoticed:** the input has been entered, and nothing else has happened. -/
def Unnoticed (p : Page) (name : String) (answer : Page × Report) : Prop :=
  ∃ d, Document.Entered name p.document d ∧ answer = (⟨d, p.controller⟩, {})

theorem Fires.reapplies (hfires : p.Fires name node answer) (h : p.controller.Listening p.document)
    (htag : p.document.isTextarea node = false) (hreg : p.controller.index.isRegistered name = true) :
    p.Reapplies name answer := by
  obtain ⟨hn, d, hd, rfl⟩ := hfires
  obtain ⟨kind, hkind⟩ := Option.isSome_iff_exists.mp (Document.mem_controlsNamed.mp hn).2.2
  have hnode : node ∈ d.controlsNamed name := by
    rw [Document.controlsNamed_congr hd.controlView]
    exact hn
  have hcontrol := (Document.control?_congr hd.controlView node).trans hkind
  have hpoint := Controller.mem_inputPoints_of_control hnode hcontrol ((hd.isTextarea node).trans htag) hreg
  have hlistening := h.keep hd.controlView hd.listeners
  obtain ⟨value, hvalue⟩ := Option.isSome_iff_exists.mp (Controller.isSome_changedValue? hnode)
  refine ⟨node, d, value, hn, hd, hvalue, ?_⟩
  rw [fireControl_eq hkind hd, ← Controller.handleChange_eq hnode hvalue]
  exact congrArg ofUpdate (hlistening.handleEvent_of_mem (Controller.event_ne_click kind) hpoint)

theorem Fires.unnoticed (hfires : p.Fires name node answer) (h : p.controller.Listening p.document)
    (htag : p.document.isTextarea node = true) : p.Unnoticed name answer := by
  obtain ⟨hn, d, hd, rfl⟩ := hfires
  obtain ⟨kind, hkind⟩ := Option.isSome_iff_exists.mp (Document.mem_controlsNamed.mp hn).2.2
  have hpoint := Controller.not_mem_inputPoints_of_textarea (c := p.controller)
    ((hd.isTextarea node).trans htag) kind.event .change
  have hlistening := h.keep hd.controlView hd.listeners
  refine ⟨d, hd, ?_⟩
  rw [fireControl_eq hkind hd]
  exact congrArg ofUpdate (hlistening.handleEvent_of_not_mem (Controller.event_ne_click kind) hpoint)

/-- Text can be typed wherever there is a control. -/
theorem exists_typeText (h : p.document.controlNamed name = .ok node) (value : String) :
    ∃ answer, p.typeText name value = .ok answer := by
  have hname := (Document.mem_controlsNamed.mp (Document.mem_of_controlNamed h)).2.1
  have hset := Document.edit_of_lt (Document.lt_size_of_attribute? hname) fun e => { e with value }
  exact ⟨_, bind_eq_ok_iff.mpr ⟨node, h, bind_eq_ok_iff.mpr ⟨_, hset, rfl⟩⟩⟩

/-- A textarea is set by typing. -/
theorem set_of_textarea (h : p.document.controlNamed name = .ok node)
    (htag : p.document.isTextarea node = true) (value : String) :
    p.set name value = p.typeText name value := by
  have hcontrol := Document.control?_of_textarea htag
  unfold set
  simp only [h, hcontrol, bind, Except.bind]

/-- **An input whose first control is no textarea** has its directives applied again when it is typed into or
set. -/
theorem reapplies_of_answer (h : p.controller.Listening p.document)
    (hreg : p.controller.index.isRegistered name = true) (hfirst : p.document.controlNamed name = .ok node)
    (htag : p.document.isTextarea node = false) {value : String}
    (hanswer : p.typeText name value = .ok answer ∨ p.set name value = .ok answer) :
    p.Reapplies name answer := by
  -- it is the first control of the name that fires, or a radio button of it
  obtain ⟨source, hsource, hfires⟩ : ∃ source,
      (p.document.controlNamed name = .ok source ∨ p.document.control? source = some .radio) ∧
        p.Fires name source answer := by
    rcases hanswer with htyped | hset
    · obtain ⟨source, hsource, hfires⟩ := typeText_fires htyped
      exact ⟨source, .inl hsource, hfires⟩
    · exact set_fires hset
  refine hfires.reapplies h ?_ hreg
  rcases hsource with hsource | hradio
  · rw [hfirst] at hsource
    rw [← Except.ok.inj hsource]
    exact htag
  · refine eq_false_of_ne_true fun htextarea => ?_
    have htext := Document.control?_of_textarea htextarea
    rw [hradio] at htext
    cases htext

/-- **An input whose first control is a textarea** is typed into and set without notice. -/
theorem unnoticed_of_answer (h : p.controller.Listening p.document)
    (hfirst : p.document.controlNamed name = .ok node) (htag : p.document.isTextarea node = true)
    {value : String} (hanswer : p.typeText name value = .ok answer ∨ p.set name value = .ok answer) :
    p.Unnoticed name answer := by
  have htyped : p.typeText name value = .ok answer := by
    rcases hanswer with htyped | hset
    · exact htyped
    · rw [← set_of_textarea hfirst htag]
      exact hset
  obtain ⟨source, hsource, hfires⟩ := typeText_fires htyped
  rw [hfirst] at hsource
  rw [Except.ok.inj hsource] at htag
  exact hfires.unnoticed h htag

/-- **Which controls of a mounted page are heard:** mounting succeeds, and a control whose name concerns a
directive has one live listener for changes, for the event that it fires, unless it is a textarea, which has
none. Text can be typed wherever there is a control; typing it, and setting an input if that succeeds, has
the directives of the input applied again, unless the first control of the name is a textarea: then the
input is entered, and nobody notices. -/
theorem mount_covers (p : Page) (hidle : p.controller.connected = false → p.controller.registrations = []) :
    ∃ q report, p.mount = .ok (q, report) ∧ ∀ name, q.controller.index.isRegistered name = true →
      (∀ node ∈ q.document.controlsNamed name, ∀ kind, q.document.control? node = some kind →
        (q.document.isTextarea node = false → ∃ r, q.controller.changesAt node = [r] ∧
          r.event = kind.event ∧ r.listener ∈ q.document.listeners.live) ∧
        (q.document.isTextarea node = true → q.controller.changesAt node = [])) ∧
      ∀ first, q.document.controlNamed name = .ok first → ∀ value,
        (∃ answer, q.typeText name value = .ok answer) ∧
        ∀ answer, q.typeText name value = .ok answer ∨ q.set name value = .ok answer →
          (q.document.isTextarea first = false → q.Reapplies name answer) ∧
          (q.document.isTextarea first = true → q.Unnoticed name answer) := by
  obtain ⟨u, hconnect, -, -, -, -, -, -, hlistening⟩ := Controller.connect_spec hidle p.document
  have hmount : p.mount = .ok (⟨u.document, u.controller⟩, u.report) := by
    unfold mount
    rw [hconnect]
    rfl
  refine ⟨_, _, hmount, fun name hreg => ⟨fun node hn kind hkind => ⟨fun htag => ?_, fun htag => ?_⟩,
    fun first hfirst value => ⟨?_, fun answer hanswer => ⟨fun htag => ?_, fun htag => ?_⟩⟩⟩⟩
  · exact hlistening.changesAt_of_control hn hkind htag hreg
  · exact hlistening.changesAt_of_textarea htag
  · exact exists_typeText hfirst value
  · exact reapplies_of_answer hlistening hreg hfirst htag hanswer
  · exact unnoticed_of_answer hlistening hfirst htag hanswer

/-- A form with a textarea and an input, on each of which a paragraph depends. -/
def mixed : Document := .form
  [.ofAttributes "textarea" [("name", "a")], .ofAttributes "input" [("name", "b")],
   .ofAttributes "p" [("data-show", "a == 1")], .ofAttributes "p" [("data-show", "b == 1")]]

/-- In the mixed form the input is heard, and the textarea is not. -/
theorem mount_covers_mixed :
    (ofDocument mixed {}).controller.registrations = [] ∧
      ∃ q report, (ofDocument mixed {}).mount = .ok (q, report) ∧
        (∃ r, q.controller.changesAt ⟨2⟩ = [r] ∧ r.event = .input ∧
          r.listener ∈ q.document.listeners.live) ∧
        (∃ answer, q.typeText "b" "1" = .ok answer ∧ q.Reapplies "b" answer) ∧
        q.controller.changesAt ⟨1⟩ = [] ∧
        ∃ answer, q.typeText "a" "1" = .ok answer ∧ q.Unnoticed "a" answer := by
  obtain ⟨q, report, hmount, hcovers⟩ := mount_covers (ofDocument mixed {}) fun _ => rfl
  obtain ⟨answer, hmount', ⟨hrega, ha, hkinda, htaga⟩, hregb, hb, hkindb, htagb⟩ := exists_ok_of_any
    (x := (ofDocument mixed {}).mount)
    (P := fun answer =>
      (answer.1.controller.index.isRegistered "a" = true ∧ answer.1.document.controlsNamed "a" = [⟨1⟩] ∧
        answer.1.document.control? ⟨1⟩ = some .text ∧ answer.1.document.isTextarea ⟨1⟩ = true) ∧
      answer.1.controller.index.isRegistered "b" = true ∧ answer.1.document.controlsNamed "b" = [⟨2⟩] ∧
        answer.1.document.control? ⟨2⟩ = some .text ∧ answer.1.document.isTextarea ⟨2⟩ = false)
    (by decide +kernel)
  rw [hmount] at hmount'
  obtain rfl : (q, report) = answer := Except.ok.inj hmount'
  have hfirst : ∀ {name node}, q.document.controlsNamed name = [node] →
      q.document.controlNamed name = .ok node := fun h => by
    rw [Document.controlNamed_eq, h]
    rfl
  obtain ⟨hlistena, htypea⟩ := hcovers "a" hrega
  obtain ⟨hlistenb, htypeb⟩ := hcovers "b" hregb
  obtain ⟨⟨typeda, htypeda⟩, ha'⟩ := htypea ⟨1⟩ (hfirst ha) "1"
  obtain ⟨⟨typedb, htypedb⟩, hb'⟩ := htypeb ⟨2⟩ (hfirst hb) "1"
  refine ⟨rfl, q, report, hmount, ?_, ⟨typedb, htypedb, ?_⟩, ?_, typeda, htypeda, ?_⟩
  · exact (hlistenb ⟨2⟩ (by rw [hb]; exact List.mem_cons_self) .text hkindb).1 htagb
  · exact (hb' typedb (.inl htypedb)).1 htagb
  · exact (hlistena ⟨1⟩ (by rw [ha]; exact List.mem_cons_self) .text hkinda).2 htaga
  · exact (ha' typeda (.inl htypeda)).2 htaga

/-- **A textarea is a control that is left without a listener,** so that the form no longer shows what it
should: when the textarea has been set to `1`, the condition on it is true, and the paragraph stays hidden. -/
theorem textarea_left_out :
    ∃ answer, (ofDocument mixed {}).mount = .ok answer ∧
      answer.1.document.control? ⟨1⟩ = some .text ∧ answer.1.controller.index.isRegistered "a" = true ∧
      (∀ r ∈ answer.1.controller.registrations, r.node ≠ ⟨1⟩) ∧
      let after := answer.1.after (.set "a" "1")
      after.document.inputSnapshot "a" = some "1" ∧ after.document.hasClass ⟨3⟩ "bs-d-none" = true := by
  refine exists_ok_of_any ?_
  decide +kernel

end Page

end ReactiveForm
