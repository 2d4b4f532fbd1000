import Mathlib.Data.List.Nodup
import ReactiveForm.Binding.Page
import ReactiveForm.Proofs.Binding.Pass
import ReactiveForm.Proofs.Document.Entry
import ReactiveForm.Proofs.Document.Tree

/-!
# `ReactiveForm.Proofs.Binding.Listening` — who is called when an event is fired

Connecting attaches one listener at each of some points, and keeps a registration of it. A fired event
calls the registrations whose listeners are found there. As long as every registration has its listener,
those are the registrations of the node and the event, and a control that concerns a directive is
registered once, for the event that it fires.

## Contents
- `Controller.Attached`, every registration has its listener, and `called_of_attached`.
- `Controller.handleEvent_induction`, what every handler preserves, an event preserves.
- `Controller.inputPoints`, where changes are listened for, with `nodup_inputPoints`.
- `Controller.Attaches`, what attaching listeners comes to, and `Controller.connect_eq`.
- `Controller.Listening`, what connecting establishes, and `Controller.connect_spec`.
- `Listening.handleEvent_of_mem`: **an event has the change handled once** where changes are listened for.
-/

namespace ReactiveForm

/-! ## Listeners -/

namespace Listeners

theorem mem_idsFor {ls : Listeners} {id : ListenerId} {node : NodeId} {event : Event} :
    id ∈ ls.idsFor node event ↔ ⟨id, node, event⟩ ∈ ls.live := by
  unfold idsFor
  rw [List.mem_map]
  constructor
  · rintro ⟨l, hl, rfl⟩
    obtain ⟨hmem, hat⟩ := List.mem_filter.mp hl
    obtain ⟨hnode, hevent⟩ := Bool.and_eq_true_iff.mp hat
    obtain ⟨id, n, e⟩ := l
    obtain rfl : n = node := beq_iff_eq.mp hnode
    obtain rfl : e = event := beq_iff_eq.mp hevent
    exact hmem
  · exact fun h => ⟨_, List.mem_filter.mpr ⟨h, by simp⟩, rfl⟩

/-- A number belongs to one listener. -/
theorem eq_of_id_eq {ls : Listeners} {l l' : Listener} (h : l ∈ ls.live) (h' : l' ∈ ls.live)
    (hid : l.id = l'.id) : l = l' := by
  have hnodup : (ls.live.map Listener.id).Nodup := by
    refine List.pairwise_map.mpr (ls.ascending.imp fun {a b} hlt he => ?_)
    rw [he] at hlt
    exact Nat.lt_irrefl _ hlt
  exact List.inj_on_of_nodup_map hnodup h h' hid

end Listeners

/-- Where a registration listens, and for what. -/
def Registration.point (r : Registration) : NodeId × Event × Handler := (r.node, r.event, r.handler)

/-- The listener that a registration stands for. -/
def Registration.listener (r : Registration) : Listener := ⟨r.id, r.node, r.event⟩

namespace Controller

variable {c : Controller} {d d' : Document}

/-! ## Registrations -/

/-- **Every registration has its listener.** -/
def Attached (registrations : List Registration) (d : Document) : Prop :=
  ∀ r ∈ registrations, ⟨r.id, r.node, r.event⟩ ∈ d.listeners.live

/-- The registrations that an event of a node calls. -/
def called (c : Controller) (node : NodeId) (event : Event) : List Registration :=
  c.registrations.filter fun r => r.node == node && r.event == event

theorem called_of_attached (h : Attached c.registrations d) (node : NodeId) (event : Event) :
    (c.registrations.filter fun r => (d.listeners.idsFor node event).contains r.id) =
      c.called node event := by
  refine List.filter_congr fun r hr => ?_
  rw [Bool.eq_iff_iff, List.contains_iff_mem, Listeners.mem_idsFor, Bool.and_eq_true, beq_iff_eq,
    beq_iff_eq]
  constructor
  · intro hmem
    have heq := Listeners.eq_of_id_eq hmem (h r hr) rfl
    exact ⟨(congrArg Listener.node heq).symm, (congrArg Listener.event heq).symm⟩
  · rintro ⟨rfl, rfl⟩
    exact h r hr

/-- The update after one more call. -/
def call (node : NodeId) (update : Update) (r : Registration) : Update :=
  let after := update.controller.handle update.document node r.handler
  { after with report := update.report.merge after.report }

/-- The first call answers with what its handler answers with. -/
theorem call_unchanged (c : Controller) (d : Document) (node : NodeId) (r : Registration) :
    call node (c.unchanged d) r = c.handle d node r.handler := by
  unfold call unchanged Report.merge
  simp only [Nat.zero_add, List.nil_append]

/-- **What every handler preserves, an event preserves.** Which registrations are called is settled before
the first of them is, so that this is a fold. -/
theorem handleEvent_induction {R : Controller → Document → Prop} (c : Controller) (d : Document)
    (node : NodeId) (event : Event) (h : R c d)
    (hstep : ∀ c d handler, R c d →
      R (c.handle d node handler).controller (c.handle d node handler).document) :
    R (c.handleEvent d node event).controller (c.handleEvent d node event).document := by
  have hcalls : ∀ (called : List Registration) (u : Update), R u.controller u.document →
      R (called.foldl (call node) u).controller (called.foldl (call node) u).document := by
    intro called
    induction called with
    | nil => exact fun _ hu => hu
    | cons r rest ih => exact fun u hu => ih _ (hstep u.controller u.document r.handler hu)
  exact hcalls _ _ h

theorem handleEvent_eq (h : Attached c.registrations d) (node : NodeId) (event : Event) :
    c.handleEvent d node event = (c.called node event).foldl (call node) (c.unchanged d) := by
  rw [← called_of_attached h]
  rfl

/-! ## Where changes are listened for -/

/-- The points of a controller that are selections and inputs. -/
def inputPoints (c : Controller) (d : Document) : List (NodeId × Event × Handler) :=
  let registered (node : NodeId) : Bool := (d.attribute? node "name").any c.index.isRegistered
  ((d.withTag "select").filter registered).map (·, Event.change, Handler.change) ++
    ((d.withTag "input").filter registered).map (·, Event.input, Handler.change)

/-- The points of a controller that are triggers. -/
def togglePoints (c : Controller) (d : Document) : List (NodeId × Event × Handler) :=
  if c.config.capabilities.switches then
    (c.index.triggers d).map (·, Event.click, Handler.toggle)
  else []

theorem listeningPoints_eq (c : Controller) (d : Document) :
    c.listeningPoints d = c.inputPoints d ++ c.togglePoints d := rfl

theorem mem_inputPoints {point : NodeId × Event × Handler} :
    point ∈ c.inputPoints d ↔
      (∃ name, d.attribute? point.1 "name" = some name ∧ c.index.isRegistered name = true) ∧
        (point.1 ∈ d.withTag "select" ∧ point.2 = (.change, .change) ∨
          point.1 ∈ d.withTag "input" ∧ point.2 = (.input, .change)) := by
  obtain ⟨node, listening⟩ := point
  simp only [inputPoints, List.mem_append, List.mem_map, List.mem_filter, Option.any_eq_true,
    Prod.mk.injEq]
  constructor
  · rintro (⟨n, ⟨htag, hname⟩, rfl, rfl⟩ | ⟨n, ⟨htag, hname⟩, rfl, rfl⟩)
    · exact ⟨hname, .inl ⟨htag, rfl⟩⟩
    · exact ⟨hname, .inr ⟨htag, rfl⟩⟩
  · rintro ⟨hname, ⟨htag, rfl⟩ | ⟨htag, rfl⟩⟩
    · exact .inl ⟨node, ⟨htag, hname⟩, rfl, rfl⟩
    · exact .inr ⟨node, ⟨htag, hname⟩, rfl, rfl⟩

theorem mem_togglePoints {point : NodeId × Event × Handler} (h : point ∈ c.togglePoints d) :
    point.2 = (.click, .toggle) := by
  unfold togglePoints at h
  split at h
  · obtain ⟨node, -, rfl⟩ := List.mem_map.mp h
    rfl
  · cases h

/-- **Changes are listened for once at each point.** -/
theorem nodup_inputPoints (c : Controller) (d : Document) : (c.inputPoints d).Nodup := by
  have hinj : ∀ x : Event × Handler, Function.Injective fun node : NodeId => (node, x) :=
    fun x a b h => congrArg Prod.fst h
  refine List.nodup_append.mpr ⟨?_, ?_, ?_⟩
  · exact List.Nodup.map (hinj _) ((d.nodup_select _).filter _)
  · exact List.Nodup.map (hinj _) ((d.nodup_select _).filter _)
  · intro a ha b hb hab
    obtain ⟨n, -, rfl⟩ := List.mem_map.mp ha
    obtain ⟨m, -, rfl⟩ := List.mem_map.mp hb
    cases congrArg (·.2.1) hab

/-- **Each event of a node is listened for once.** -/
theorem nodup_listeningPoints {built : Document} {options : DirectiveOptions} {switches : Bool}
    (h : c.index = Index.build built options switches) (d : Document) :
    ((c.listeningPoints d).map fun point => (point.1, point.2.1)).Nodup := by
  rw [listeningPoints_eq, List.map_append]
  refine List.nodup_append.mpr ⟨?_, ?_, ?_⟩
  · -- a point for changes is known from its node and its event
    refine (nodup_inputPoints c d).map_on fun a ha b hb hab => ?_
    have hchange : ∀ {point}, point ∈ c.inputPoints d → point = (point.1, point.2.1, Handler.change) := by
      rintro ⟨node, event, handler⟩ hp
      rcases (mem_inputPoints.mp hp).2 with ⟨-, he⟩ | ⟨-, he⟩ <;> cases he <;> rfl
    rw [hchange ha, hchange hb]
    rw [Prod.mk.injEq] at hab
    rw [hab.1, hab.2]
  · unfold togglePoints
    split
    · rw [List.map_map, h]
      exact (Index.nodup_triggers d).map fun a b hab => congrArg Prod.fst hab
    · exact List.nodup_nil
  · intro a ha b hb hab
    obtain ⟨point, hpoint, rfl⟩ := List.mem_map.mp ha
    obtain ⟨toggle, htoggle, rfl⟩ := List.mem_map.mp hb
    have hclick := mem_togglePoints htoggle
    have hevent : point.2.1 = toggle.2.1 := congrArg Prod.snd hab
    rw [hclick] at hevent
    rcases (mem_inputPoints.mp hpoint).2 with ⟨-, he⟩ | ⟨-, he⟩ <;> rw [he] at hevent <;> cases hevent

theorem inputPoints_congr {c' : Controller} (hindex : c.index = c'.index)
    (h : d.view Element.controlPart = d'.view Element.controlPart) :
    c.inputPoints d = c'.inputPoints d' := by
  have hname : (fun node => (d.attribute? node "name").any c.index.isRegistered) =
      fun node => (d'.attribute? node "name").any c'.index.isRegistered :=
    funext fun node => by rw [Document.nameOf_congr h, hindex]
  unfold inputPoints
  simp only [hname, Document.withTag_congr h]

/-- **The tags of controls,** each with the event that such a control fires. -/
theorem tag_of_control {e : Element} {kind : ControlKind} (h : e.control? = some kind) :
    e.tag = "textarea" ∨ (e.tag = "select" ∧ kind.event = .change) ∨
      (e.tag = "input" ∧ kind.event = .input) := by
  unfold Element.control? ControlKind.classify at h
  split at h
  · next hselect =>
    rw [← Option.some.inj h]
    exact .inr (.inl ⟨hselect, rfl⟩)
  · split at h
    · next htextarea => exact .inl htextarea
    · split at h
      · next hinput =>
        refine .inr (.inr ⟨hinput, ?_⟩)
        split at h
        · split at h
          · rw [← Option.some.inj h]
            rfl
          · split at h <;> rw [← Option.some.inj h] <;> rfl
        · rw [← Option.some.inj h]
          rfl
      · cases h

/-- The tags that a controller looks for are written in lower case. -/
theorem mem_withTag {tag : String} (hlower : tag.map Char.toLower = tag) {node : NodeId} :
    node ∈ d.withTag tag ↔ node ∈ d.descendants ∧ ∃ e, d.element? node = some e ∧ e.tag = tag := by
  unfold Document.withTag
  simp only [hlower, Document.mem_select, beq_iff_eq]

/-- **A control that is not a textarea is listened to for the event that it fires.** -/
theorem mem_inputPoints_of_control {name : String} {node : NodeId} {kind : ControlKind}
    (hn : node ∈ d.controlsNamed name) (hkind : d.control? node = some kind)
    (htag : (d.element? node).any (·.tag == "textarea") = false)
    (hreg : c.index.isRegistered name = true) :
    (node, kind.event, Handler.change) ∈ c.inputPoints d := by
  obtain ⟨hmem, hname, -⟩ := Document.mem_controlsNamed.mp hn
  refine mem_inputPoints.mpr ⟨⟨name, hname, hreg⟩, ?_⟩
  obtain ⟨e, he, hek⟩ := Option.bind_eq_some_iff.mp hkind
  rw [he, Option.any_some, beq_eq_false_iff_ne] at htag
  rcases tag_of_control hek with h | ⟨h, hevent⟩ | ⟨h, hevent⟩
  · exact absurd h htag
  · exact .inl ⟨(mem_withTag (by decide +kernel)).mpr ⟨hmem, e, he, h⟩, by rw [hevent]⟩
  · exact .inr ⟨(mem_withTag (by decide +kernel)).mpr ⟨hmem, e, he, h⟩, by rw [hevent]⟩

/-! ## Connecting -/

/-- **What connecting establishes:** every registration has its listener, the registrations for changes
are at the input points, and those for toggles are called by clicks only. -/
structure Listening (c : Controller) (d : Document) : Prop where
  attached : Attached c.registrations d
  changes : (c.registrations.filter (·.handler == .change)).map Registration.point = c.inputPoints d
  toggles : ∀ r ∈ c.registrations, r.handler = .toggle → r.event = .click

/-- **What attaching listeners at some points comes to:** each point gets a listener with a number that
has not been given before, and nothing else happens. -/
structure Attaches (points : List (NodeId × Event × Handler)) (new : List Registration)
    (d d' : Document) : Prop where
  points : new.map Registration.point = points
  live : d'.listeners.live = d.listeners.live ++ new.map Registration.listener
  fresh : ∀ r ∈ new, d.listeners.next ≤ r.id.number
  next : d.listeners.next ≤ d'.listeners.next
  view : d'.view id = d.view id

theorem Attaches.attached {points : List (NodeId × Event × Handler)} {new : List Registration}
    (h : Attaches points new d d') : Attached new d' := by
  intro r hr
  rw [h.live]
  exact List.mem_append_right _ (List.mem_map_of_mem (f := Registration.listener) hr)

/-- Listeners are attached wherever there is a node. -/
theorem listenAll_spec {points : List (NodeId × Event × Handler)}
    (h : ∀ point ∈ points, point.1.index < d.tree.size) :
    ∃ new d', points.foldlM (fun (c, d) point => listen c d point) (c, d) =
        .ok ({ c with registrations := c.registrations ++ new }, d') ∧ Attaches points new d d' := by
  induction points generalizing c d with
  | nil =>
    refine ⟨[], d, by rw [List.append_nil]; rfl, rfl, ?_, fun _ hr => (nomatch hr), Nat.le_refl _, rfl⟩
    rw [List.map_nil, List.append_nil]
  | cons point rest ih =>
    obtain ⟨hpoint, hrest⟩ := List.forall_mem_cons.mp h
    obtain ⟨node, event, handler⟩ := point
    let r : Registration := ⟨⟨d.listeners.next⟩, node, event, handler⟩
    let after : Document := { d with listeners := d.listeners.attach node event }
    have hadd : d.addListener node event = .ok (after, ⟨d.listeners.next⟩) := if_pos hpoint
    have hlisten : listen c d (node, event, handler) =
        .ok ({ c with registrations := c.registrations ++ [r] }, after) :=
      bind_eq_ok_iff.mpr ⟨_, hadd, rfl⟩
    have hnext : d.listeners.next ≤ after.listeners.next := Nat.le_succ _
    obtain ⟨new, d', hrun, hnew⟩ :=
      @ih { c with registrations := c.registrations ++ [r] } after hrest
    refine ⟨r :: new, d', ?_, congrArg (_ :: ·) hnew.points, ?_, ?_, Nat.le_trans hnext hnew.next, hnew.view⟩
    · rw [List.foldlM_cons]
      refine bind_eq_ok_iff.mpr ⟨_, hlisten, hrun.trans ?_⟩
      rw [List.append_assoc]
      rfl
    · rw [hnew.live]
      exact List.append_assoc d.listeners.live [r.listener] _
    · exact List.forall_mem_cons.mpr ⟨Nat.le_refl _, fun r' hr' => Nat.le_trans hnext (hnew.fresh r' hr')⟩

theorem lt_size_of_listeningPoint {point : NodeId × Event × Handler}
    (h : point ∈ c.listeningPoints d) : point.1.index < d.tree.size := by
  rw [listeningPoints_eq] at h
  rcases List.mem_append.mp h with h | h
  · obtain ⟨⟨name, hname, -⟩, -⟩ := mem_inputPoints.mp h
    exact Document.lt_size_of_attribute? hname
  · unfold togglePoints at h
    split at h
    · obtain ⟨node, hnode, rfl⟩ := List.mem_map.mp h
      have hmem := (List.mem_filter.mp (List.mem_mergeSort.mp hnode)).2
      obtain ⟨value, hvalue⟩ := Option.isSome_iff_exists.mp hmem
      exact Document.lt_size_of_attribute? hvalue
    · cases h

/-- The controller and the document from which a connection starts: a controller that is connected is
disconnected first. -/
def fresh (c : Controller) (d : Document) : Controller × Document :=
  if c.connected then c.disconnect d else (c, d)

theorem config_fresh (c : Controller) (d : Document) : (c.fresh d).1.config = c.config := by
  unfold fresh disconnect ofConfig
  split <;> rfl

theorem view_removeAll (registrations : List Registration) (d : Document) :
    (registrations.foldl (fun d registration => (d.removeListener registration.id).1) d).view id =
      d.view id := by
  induction registrations generalizing d with
  | nil => rfl
  | cons r rest ih => exact ih _

theorem view_fresh (c : Controller) (d : Document) : (c.fresh d).2.view id = d.view id := by
  unfold fresh
  split
  · exact view_removeAll c.registrations d
  · rfl

theorem registrations_fresh (h : c.connected = false → c.registrations = []) (d : Document) :
    (c.fresh d).1.registrations = [] := by
  unfold fresh
  split
  · rfl
  · next hc => exact h (eq_false_of_ne_true hc)

/-- Registrations at the input points and at points for toggles are what listening takes. -/
theorem listening_of_points {toggles : List (NodeId × Event × Handler)}
    (hattached : Attached c.registrations d)
    (hpoints : c.registrations.map Registration.point = c.inputPoints d ++ toggles)
    (htoggles : ∀ point ∈ toggles, point.2 = (.click, .toggle)) : c.Listening d := by
  have hinputs : ∀ point ∈ c.inputPoints d, point.2.2 = .change := by
    intro point hp
    rcases (mem_inputPoints.mp hp).2 with ⟨-, he⟩ | ⟨-, he⟩ <;> rw [he]
  refine ⟨hattached, ?_, fun r hr htoggle => ?_⟩
  · have hmap : (c.registrations.filter (·.handler == .change)).map Registration.point =
        (c.registrations.map Registration.point).filter (·.2.2 == .change) := by
      rw [List.filter_map]
      rfl
    have hfront : (c.inputPoints d).filter (·.2.2 == .change) = c.inputPoints d :=
      List.filter_eq_self.mpr fun point hp => beq_iff_eq.mpr (hinputs point hp)
    have hback : toggles.filter (·.2.2 == .change) = [] := by
      refine List.filter_eq_nil_iff.mpr fun point hp => ?_
      rw [htoggles point hp]
      exact Bool.false_ne_true
    rw [hmap, hpoints, List.filter_append, hfront, hback, List.append_nil]
  · have hpoint : r.point ∈ c.inputPoints d ++ toggles := by
      rw [← hpoints]
      exact List.mem_map_of_mem hr
    rcases List.mem_append.mp hpoint with hp | hp
    · rw [show r.handler = .change from hinputs r.point hp] at htoggle
      cases htoggle
    · exact congrArg Prod.fst (htoggles r.point hp)

/-- **Connecting never fails:** it initializes the document and attaches listeners. -/
theorem connect_eq (c : Controller) (d : Document) :
    ∃ new d', c.connect d =
        .ok ⟨{ ((c.fresh d).1.init (c.fresh d).2).controller with
                connected := true
                registrations := (c.fresh d).1.registrations ++ new }, d',
              ((c.fresh d).1.init (c.fresh d).2).report⟩ ∧
      Attaches (listeningPoints ((c.fresh d).1.init (c.fresh d).2).controller
        ((c.fresh d).1.init (c.fresh d).2).document) new
        ((c.fresh d).1.init (c.fresh d).2).document d' := by
  obtain ⟨update, hupdate⟩ : ∃ update, update = (c.fresh d).1.init (c.fresh d).2 := ⟨_, rfl⟩
  have hregs : update.controller.registrations = (c.fresh d).1.registrations := by rw [hupdate]; rfl
  obtain ⟨new, d', hrun, hnew⟩ :=
    @listenAll_spec { update.controller with connected := true } update.document
      (update.controller.listeningPoints update.document) fun _ hp => lt_size_of_listeningPoint hp
  rw [← hupdate, ← hregs]
  rw [hupdate] at hrun
  refine ⟨new, d', ?_, hnew⟩
  rw [hupdate]
  exact bind_eq_ok_iff.mpr ⟨_, hrun, rfl⟩

/-- Connecting leaves the document as initializing leaves it, but for listeners, and has the controller
listen wherever it has to. -/
theorem connect_spec (h : c.connected = false → c.registrations = []) (d : Document) :
    ∃ u, c.connect d = .ok u ∧ u.report = ((c.fresh d).1.init (c.fresh d).2).report ∧
      u.document.view id = ((c.fresh d).1.init (c.fresh d).2).document.view id ∧
      u.controller.config = c.config ∧ u.controller.connected = true ∧
      u.controller.index = ((c.fresh d).1.init (c.fresh d).2).controller.index ∧
      u.controller.states = ((c.fresh d).1.init (c.fresh d).2).controller.states ∧
      u.controller.Listening u.document := by
  obtain ⟨new, d', hconnect, hnew⟩ := c.connect_eq d
  rw [registrations_fresh h d, List.nil_append] at hconnect
  obtain ⟨update, hupdate⟩ : ∃ update, update = (c.fresh d).1.init (c.fresh d).2 := ⟨_, rfl⟩
  have hconfig : update.controller.config = c.config := by
    rw [hupdate]
    exact config_fresh c d
  rw [← hupdate] at hconnect hnew ⊢
  refine ⟨_, hconnect, rfl, hnew.view, hconfig, rfl, rfl, rfl, ?_⟩
  -- the points for changes come first, and the view that they are read from has not changed
  have hchange : update.controller.inputPoints update.document =
      inputPoints { update.controller with connected := true, registrations := new } d' :=
    inputPoints_congr rfl (Document.view_of_view hnew.view.symm fun _ _ he => congrArg _ he)
  have hpoints := hnew.points
  rw [listeningPoints_eq, hchange] at hpoints
  exact listening_of_points hnew.attached hpoints fun _ hp => mem_togglePoints hp

/-! ## Firing -/

namespace Listening

variable {node : NodeId} {event : Event}

/-- A registration that is not called by clicks is one for changes, at its input point. -/
theorem called_eq (h : c.Listening d) (hevent : event ≠ .click) :
    (c.called node event).map Registration.point =
      (c.inputPoints d).filter fun point => point == (node, event, .change) := by
  -- toggles answer to clicks, so that whatever is called here is there for changes
  have hchange : c.called node event = (c.registrations.filter (·.handler == .change)).filter
      fun r => r.point == (node, event, .change) := by
    unfold called
    rw [List.filter_filter]
    refine List.filter_congr fun r hr => ?_
    have htoggle := h.toggles r hr
    obtain ⟨id, n, e, handler⟩ := r
    rw [Bool.eq_iff_iff]
    cases handler with
    | change => simp [Registration.point]
    | toggle =>
      have he : e = .click := htoggle rfl
      have hne : ¬ Event.click = event := fun heq => hevent heq.symm
      simp [he, hne, Registration.point]
  rw [hchange, ← h.changes, List.filter_map]
  rfl

/-- One registration is called where changes are listened for. -/
theorem called_of_mem (h : c.Listening d) (hevent : event ≠ .click)
    (hmem : (node, event, Handler.change) ∈ c.inputPoints d) :
    ∃ r, c.called node event = [r] ∧ r.point = (node, event, .change) := by
  have hone : (c.inputPoints d).filter (fun point => point == (node, event, Handler.change)) =
      [(node, event, .change)] := by
    rw [List.filter_beq, List.count_eq_one_of_mem (nodup_inputPoints c d) hmem]
    rfl
  have hcalled : (c.called node event).map Registration.point = _ := h.called_eq hevent
  rw [hone] at hcalled
  exact List.map_eq_singleton_iff.mp hcalled

/-- **An event other than a click has the change handled once,** where changes are listened for. -/
theorem handleEvent_of_mem (h : c.Listening d) (hevent : event ≠ .click)
    (hmem : (node, event, Handler.change) ∈ c.inputPoints d) :
    c.handleEvent d node event = c.handleChange d node := by
  obtain ⟨r, hr, hpoint⟩ := h.called_of_mem hevent hmem
  have hhandler : r.handler = .change := congrArg (·.2.2) hpoint
  rw [handleEvent_eq h.attached, hr, List.foldl_cons, List.foldl_nil, call_unchanged, hhandler]
  rfl

/-- Elsewhere no registration is called. -/
theorem called_of_not_mem (h : c.Listening d) (hevent : event ≠ .click)
    (hmem : (node, event, Handler.change) ∉ c.inputPoints d) : c.called node event = [] := by
  have hnone : (c.inputPoints d).filter (fun point => point == (node, event, Handler.change)) = [] := by
    refine List.filter_eq_nil_iff.mpr fun point hp he => hmem ?_
    rw [← beq_iff_eq.mp he]
    exact hp
  have hcalled : (c.called node event).map Registration.point = _ := h.called_eq hevent
  rw [hnone] at hcalled
  exact List.map_eq_nil_iff.mp hcalled

/-- **There the event is not handled at all.** -/
theorem handleEvent_of_not_mem (h : c.Listening d) (hevent : event ≠ .click)
    (hmem : (node, event, Handler.change) ∉ c.inputPoints d) :
    c.handleEvent d node event = c.unchanged d := by
  rw [handleEvent_eq h.attached, h.called_of_not_mem hevent hmem]
  rfl

end Listening

end Controller

end ReactiveForm
