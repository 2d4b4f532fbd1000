import Mathlib.Logic.Function.Basic
import ReactiveForm.Proofs.Binding.Synchrony

/-!
# `ReactiveForm.Proofs.Binding.Ownership` — whose listeners are whose

Several controllers and others can share one document, and each attaches listeners to it in its own time.
Who has attached which listener is no part of the document; it is known from the history of the document
alone. What ties the two together is that a controller registers what it attaches, gives nothing away and
forgets a listener only when it detaches it, whatever the others do meanwhile.

## Contents
- `Document.Edit`, edits that are no concern of listeners.
- `Shared`, a document with the controllers that share it and the history of its listeners; `Shared.Action`,
  `Shared.after` and `Shared.run`.
- `Document.Relisted`, listeners that go and come, and `Controller.Keeps`, operations that leave them alone.
- `Controller.Owns`, a controller and the listeners that it has attached.
- `Shared.Accounted`, **the invariant of a shared document**, with `Accounted.record`, `Accounted.after` and
  `Accounted.run`.
- `Shared.Ownership`, what a controller may rely on, and `run_ownership`, **it may do so after any run**.
-/

namespace ReactiveForm

/-! ## Edits -/

namespace Document

/-- An edit of a document. -/
inductive Edit where
  | append (parent : NodeId) (e : Element)
  | setAttribute (node : NodeId) (name value : String)
  | addClass (node : NodeId) (c : String)
  | removeClass (node : NodeId) (c : String)
  | toggleClass (node : NodeId) (c : String)
  | setText (node : NodeId) (text : String)
  | setValue (node : NodeId) (value : String)
  | setChecked (node : NodeId) (checked : Bool)

/-- The document after an edit. -/
def Edit.apply (d : Document) : Edit → Except DocumentError Document
  | .append parent e => d.append parent e
  | .setAttribute node name value => d.setAttribute node name value
  | .addClass node c => d.addClass node c
  | .removeClass node c => d.removeClass node c
  | .toggleClass node c => (d.toggleClass node c).map Prod.fst
  | .setText node text => d.setText node text
  | .setValue node value => d.setValue node value
  | .setChecked node checked => d.setChecked node checked

variable {d d' : Document} {node : NodeId}

theorem exists_rewritten_edit {f : Element → Element} (h : d.edit node f = .ok d') :
    ∃ g, Rewritten g d d' := by
  obtain ⟨-, rfl⟩ := edit_eq_ok_iff.mp h
  exact ⟨_, rewritten_modify d node f⟩

theorem exists_rewritten_editClass {c : String} {f : Element → Element}
    (h : d.editClass node c f = .ok d') : ∃ g, Rewritten g d d' := by
  unfold editClass at h
  split at h
  · exact exists_rewritten_edit h
  · cases h

theorem exists_rewritten_setClass {c : String} {present : Bool} (h : d.setClass node c present = .ok d') :
    ∃ g, Rewritten g d d' := by
  unfold setClass at h
  split at h <;> exact exists_rewritten_editClass h

theorem exists_rewritten_setChecked {checked : Bool} (h : d.setChecked node checked = .ok d') :
    ∃ g, Rewritten g d d' := by
  unfold setChecked at h
  split at h
  · exact exists_rewritten_edit h
  · obtain ⟨g, hg⟩ := exists_rewritten_edit h
    exact ⟨_, (rewritten_unmark _ d).trans hg⟩
  · cases h

theorem exists_rewritten_setAttribute {name value : String} (h : d.setAttribute node name value = .ok d') :
    ∃ g, Rewritten g d d' := by
  by_cases hn : node.index < d.tree.size
  · obtain ⟨d₁, hset, hd₁⟩ := setAttribute_rewritten hn name value
    rw [hset] at h
    rw [← Except.ok.inj h]
    exact ⟨_, hd₁⟩
  · rw [setAttribute_of_missing hn] at h
    cases h

/-- **An edit appends a node, or it rewrites elements.** -/
theorem Edit.cases_apply (edit : Edit) (h : edit.apply d = .ok d') :
    (∃ parent e, d.append parent e = .ok d') ∨ ∃ g, Rewritten g d d' := by
  cases edit with
  | append parent e => exact .inl ⟨parent, e, h⟩
  | setAttribute node name value => exact .inr (exists_rewritten_setAttribute h)
  | addClass node c | removeClass node c => exact .inr (exists_rewritten_editClass h)
  | setText node text | setValue node value => exact .inr (exists_rewritten_edit h)
  | setChecked node checked => exact .inr (exists_rewritten_setChecked h)
  | toggleClass node c =>
    have h : (d.toggleClass node c).map Prod.fst = .ok d' := h
    cases htoggle : d.toggleClass node c with
    | error e =>
      rw [htoggle] at h
      cases h
    | ok result =>
      rw [htoggle] at h
      obtain ⟨d₁, hset, hpair⟩ := bind_eq_ok_iff.mp htoggle
      obtain rfl : result.1 = d' := Except.ok.inj h
      rw [← Except.ok.inj hpair]
      exact .inr (exists_rewritten_setClass hset)

/-- **No edit attaches or detaches a listener.** -/
theorem Edit.listeners_apply (edit : Edit) (h : edit.apply d = .ok d') :
    d'.listeners = d.listeners := by
  rcases edit.cases_apply h with ⟨parent, e, happend⟩ | ⟨g, hg⟩
  · unfold Document.append at happend
    split at happend
    · rw [← Except.ok.inj happend]
    · cases happend
  · exact hg.listeners

end Document

/-! ## A shared document -/

/-- **A document that controllers share** with each other and with others, and every listener that was
ever attached to it, with the controller that attached it. -/
structure Shared (ι : Type) where
  document : Document
  controllers : ι → Controller
  /-- In the order of attaching; without a controller where somebody else has attached the listener. -/
  attached : List (Option ι × Listener)

/-- The listeners that are attached in one document and were not in another. -/
def Document.newListeners (d d' : Document) : List Listener :=
  d'.listeners.live.filter fun l => !d.listeners.live.contains l

namespace Shared

variable {ι : Type}

/-- What can happen to a shared document. -/
inductive Action (ι : Type) where
  | connect (i : ι)
  | disconnect (i : ι)
  | init (i : ι)
  | handleEvent (i : ι) (node : NodeId) (event : Event)
  | handleChange (i : ι) (node : NodeId)
  | handleToggle (i : ι) (node : NodeId)
  | edit (edit : Document.Edit)
  | addListener (node : NodeId) (event : Event)
  | removeListener (id : ListenerId)

/-- The controller that acts. -/
def Action.actor : Action ι → Option ι
  | connect i => some i
  | disconnect i => some i
  | init i => some i
  | handleEvent i _ _ => some i
  | handleChange i _ => some i
  | handleToggle i _ => some i
  | edit _ => none
  | addListener _ _ => none
  | removeListener _ => none

/-- A document with controllers that have done nothing yet; its listeners belong to others. -/
def began (d : Document) (configs : ι → Config) : Shared ι :=
  ⟨d, fun i => .ofConfig (configs i), d.listeners.live.map (none, ·)⟩

/-- The shared document after somebody has acted on it. -/
def record (s : Shared ι) (who : Option ι) (d : Document) (controllers : ι → Controller) : Shared ι :=
  ⟨d, controllers, s.attached ++ (s.document.newListeners d).map (who, ·)⟩

variable [DecidableEq ι]

/-- The document and the controllers after an action, which changes nothing when it fails. -/
def result (s : Shared ι) : Action ι → Document × (ι → Controller)
  | .connect i =>
    match (s.controllers i).connect s.document with
    | .ok u => (u.document, Function.update s.controllers i u.controller)
    | .error _ => (s.document, s.controllers)
  | .disconnect i =>
    let (c, d) := (s.controllers i).disconnect s.document
    (d, Function.update s.controllers i c)
  | .init i => ofUpdate i ((s.controllers i).init s.document)
  | .handleEvent i node event => ofUpdate i ((s.controllers i).handleEvent s.document node event)
  | .handleChange i node => ofUpdate i ((s.controllers i).handleChange s.document node)
  | .handleToggle i node => ofUpdate i ((s.controllers i).handleToggle s.document node)
  | .edit edit => ((edit.apply s.document).toOption.getD s.document, s.controllers)
  | .addListener node event =>
    (((s.document.addListener node event).toOption.map Prod.fst).getD s.document, s.controllers)
  | .removeListener id => ((s.document.removeListener id).1, s.controllers)
where
  ofUpdate (i : ι) (u : Update) : Document × (ι → Controller) :=
    (u.document, Function.update s.controllers i u.controller)

/-- The shared document after an action. -/
def after (s : Shared ι) (action : Action ι) : Shared ι :=
  s.record action.actor (s.result action).1 (s.result action).2

/-- The shared document after some actions. -/
def run (s : Shared ι) (actions : List (Action ι)) : Shared ι := actions.foldl after s

/-- The listeners of a controller that are attached. -/
def liveOf (s : Shared ι) (i : ι) : List Listener :=
  s.document.listeners.live.filter fun l => (some i, l) ∈ s.attached

end Shared

/-! ## Listeners that go and come -/

/-- **Some listeners have gone and others have come:** the new ones have numbers that have not been given
before. -/
structure Document.Relisted (new : List Listener) (d d' : Document) : Prop where
  live : ∃ kept, d'.listeners.live = kept ++ new ∧ ∀ l ∈ kept, l ∈ d.listeners.live
  fresh : ∀ l ∈ new, d.listeners.next ≤ l.id.number
  next : d.listeners.next ≤ d'.listeners.next

namespace Document

variable {d d' : Document} {new : List Listener}

/-- Listeners in the order of their numbers have different numbers. -/
theorem nodup_ids {ls : List Listener} (h : ls.Pairwise fun a b => a.id.number < b.id.number) :
    (ls.map Listener.id).Nodup := by
  refine List.pairwise_map.mpr (h.imp fun {a b} hlt he => ?_)
  rw [he] at hlt
  exact Nat.lt_irrefl _ hlt

theorem Relisted.of_listeners (h : d'.listeners = d.listeners) : Relisted [] d d' where
  live := ⟨d.listeners.live, by rw [h, List.append_nil], fun _ hl => hl⟩
  fresh _ hl := nomatch hl
  next := Nat.le_of_eq (by rw [h])

theorem Relisted.newListeners (h : Relisted new d d') : d.newListeners d' = new := by
  obtain ⟨kept, hlive, hkept⟩ := h.live
  unfold Document.newListeners
  rw [hlive, List.filter_append]
  have hold : kept.filter (fun l => !d.listeners.live.contains l) = [] := by
    refine List.filter_eq_nil_iff.mpr fun l hl => ?_
    simp [hkept l hl]
  have hnew : new.filter (fun l => !d.listeners.live.contains l) = new := by
    refine List.filter_eq_self.mpr fun l hl => ?_
    have hnot : l ∉ d.listeners.live := fun hmem =>
      Nat.lt_irrefl _ (Nat.lt_of_lt_of_le (d.listeners.below l hmem) (h.fresh l hl))
    simp [hnot]
  rw [hold, hnew, List.nil_append]

theorem Relisted.mem_live (h : Relisted new d d') {l : Listener} (hl : l ∈ d'.listeners.live) :
    l ∈ d.listeners.live ∨ l ∈ new := by
  obtain ⟨kept, hlive, hkept⟩ := h.live
  rw [hlive] at hl
  exact (List.mem_append.mp hl).imp_left (hkept l)

theorem Relisted.mem_of_new (h : Relisted new d d') {l : Listener} (hl : l ∈ new) :
    l ∈ d'.listeners.live := by
  obtain ⟨kept, hlive, -⟩ := h.live
  rw [hlive]
  exact List.mem_append_right _ hl

theorem relisted_removeListener (d : Document) (id : ListenerId) :
    Relisted [] d (d.removeListener id).1 where
  live := ⟨_, (List.append_nil _).symm, fun _ hl => (List.mem_filter.mp hl).1⟩
  fresh _ hl := nomatch hl
  next := Nat.le_refl _

theorem relisted_addListener {node : NodeId} {event : Event} {id : ListenerId}
    (h : d.addListener node event = .ok (d', id)) : Relisted [⟨id, node, event⟩] d d' := by
  unfold addListener at h
  split at h
  · obtain ⟨rfl, rfl⟩ := Prod.ext_iff.mp (Except.ok.inj h)
    refine ⟨⟨d.listeners.live, rfl, fun _ hl => hl⟩, fun l hl => ?_, Nat.le_succ _⟩
    obtain rfl := List.mem_singleton.mp hl
    exact Nat.le_refl _
  · cases h

end Document

/-! ## What controllers do to listeners -/

namespace Controller

variable {c : Controller} {d : Document} {u v : Update}

/-- **An operation that leaves listeners alone.** -/
structure Keeps (c : Controller) (d : Document) (u : Update) : Prop where
  listeners : u.document.listeners = d.listeners
  registrations : u.controller.registrations = c.registrations
  connected : u.controller.connected = c.connected

theorem keeps_applyAll (c : Controller) (d : Document) (change : Option Change) (report : Report)
    (entries : List IndexedDirective) : Keeps c d (c.applyAll d change report entries) :=
  ⟨Pass.listeners_applyAll entries _, rfl, rfl⟩

theorem keeps_init (c : Controller) (d : Document) : Keeps c d (c.init d) :=
  ⟨Pass.listeners_applyAll _ _, rfl, rfl⟩

theorem keeps_handleChange (c : Controller) (d : Document) (node : NodeId) :
    Keeps c d (c.handleChange d node) := by
  unfold handleChange
  split
  · exact ⟨rfl, rfl, rfl⟩
  · split
    · exact ⟨rfl, rfl, rfl⟩
    · exact keeps_applyAll _ _ _ _ _

theorem keeps_handleToggle (c : Controller) (d : Document) (node : NodeId) :
    Keeps c d (c.handleToggle d node) := by
  obtain ⟨hc, hd⟩ := c.handleToggle_spec d node
  exact ⟨hd.listeners, by rw [hc], by rw [hc]⟩

theorem keeps_handle (c : Controller) (d : Document) (node : NodeId) (handler : Handler) :
    Keeps c d (c.handle d node handler) := by
  cases handler with
  | change => exact keeps_handleChange c d node
  | toggle => exact keeps_handleToggle c d node

theorem keeps_handleEvent (c : Controller) (d : Document) (node : NodeId) (event : Event) :
    Keeps c d (c.handleEvent d node event) := by
  obtain ⟨hlisteners, hregistrations, hconnected⟩ := handleEvent_induction
    (R := fun c' d' => d'.listeners = d.listeners ∧ c'.registrations = c.registrations ∧
      c'.connected = c.connected) c d node event ⟨rfl, rfl, rfl⟩ fun c' d' handler h => by
    have hstep := keeps_handle c' d' node handler
    exact ⟨hstep.listeners.trans h.1, hstep.registrations.trans h.2.1, hstep.connected.trans h.2.2⟩
  exact ⟨hlisteners, hregistrations, hconnected⟩

/-- Detaching the listeners of some registrations. -/
theorem listeners_removeAll (registrations : List Registration) (d : Document) :
    let d' := registrations.foldl (fun d registration => (d.removeListener registration.id).1) d
    d'.listeners.live = d.listeners.live.filter (fun l => !registrations.any (·.id == l.id)) ∧
      d'.listeners.next = d.listeners.next := by
  induction registrations generalizing d with
  | nil => exact ⟨(List.filter_eq_self.mpr fun _ _ => rfl).symm, rfl⟩
  | cons r rest ih =>
    obtain ⟨hlive, hnext⟩ := ih (d.removeListener r.id).1
    refine ⟨hlive.trans ?_, hnext⟩
    show (d.listeners.live.filter (·.id != r.id)).filter _ = _
    rw [List.filter_filter]
    refine List.filter_congr fun l _ => ?_
    rw [List.any_cons, Bool.not_or, Bool.and_comm]
    congr 1
    rw [bne, Bool.beq_comm]

theorem relisted_disconnect (c : Controller) (d : Document) :
    Document.Relisted [] d (c.disconnect d).2 := by
  obtain ⟨hlive, hnext⟩ := listeners_removeAll c.registrations d
  exact ⟨⟨_, hlive.trans (List.append_nil _).symm, fun l hl => (List.mem_filter.mp hl).1⟩,
    fun _ hl => (nomatch hl), Nat.le_of_eq hnext.symm⟩

/-- A controller that is not connected has no listeners to detach, so that it starts without any. -/
theorem listeners_fresh (hidle : c.connected = false → c.registrations = []) (d : Document) :
    (c.fresh d).2.listeners.live =
        d.listeners.live.filter (fun l => !c.registrations.any (·.id == l.id)) ∧
      (c.fresh d).2.listeners.next = d.listeners.next := by
  unfold fresh
  split
  · exact listeners_removeAll c.registrations d
  · next hc =>
    rw [hidle (eq_false_of_ne_true hc)]
    exact ⟨(List.filter_eq_self.mpr fun _ _ => rfl).symm, rfl⟩

/-- Where a controller listens is a question of its index and of the elements. -/
theorem listeningPoints_congr {c' : Controller} {d' : Document} (hindex : c.index = c'.index)
    (hconfig : c.config = c'.config) (h : d.view id = d'.view id) :
    c.listeningPoints d = c'.listeningPoints d' := by
  have hattribute : ∀ node key, d.attribute? node key = d'.attribute? node key := fun node key =>
    Document.bind_element?_congr (Document.map_element?_of_view h node) fun e e' he =>
      congrArg (fun e : Element => e.attribute? key) he
  have htriggers : c.index.triggers d = c'.index.triggers d' := by
    unfold Index.triggers
    simp only [hindex, hattribute]
  rw [listeningPoints_eq, listeningPoints_eq, inputPoints_congr hindex
    (Document.view_of_view h fun e e' he => congrArg Element.controlPart he)]
  unfold togglePoints
  rw [hconfig, htriggers]

/-- **What connecting does to listeners:** those of the controller go, and new ones come where it
listens. -/
theorem connect_listeners (hidle : c.connected = false → c.registrations = []) (d : Document) :
    ∃ u, c.connect d = .ok u ∧ u.controller.connected = true ∧
      u.document.listeners.live =
        d.listeners.live.filter (fun l => !c.registrations.any (·.id == l.id)) ++
          u.controller.registrations.map Registration.listener ∧
      (∀ r ∈ u.controller.registrations, d.listeners.next ≤ r.id.number) ∧
      d.listeners.next ≤ u.document.listeners.next ∧
      u.controller.registrations.map Registration.point = u.controller.listeningPoints u.document ∧
      (u.controller.registrations.map fun r => (r.node, r.event)).Nodup := by
  obtain ⟨new, d', hconnect, hnew⟩ := c.connect_eq d
  rw [registrations_fresh hidle d, List.nil_append] at hconnect
  -- between the detaching and the listening there is an initialization, which leaves listeners alone
  have hinit := keeps_init (c.fresh d).1 (c.fresh d).2
  obtain ⟨hlive, hnext⟩ := listeners_fresh hidle d
  have hlisten := hnew.live
  have hfresh := hnew.fresh
  have hlater := hnew.next
  rw [hinit.listeners, hlive] at hlisten
  rw [hinit.listeners, hnext] at hfresh hlater
  refine ⟨_, hconnect, rfl, hlisten, hfresh, hlater, ?_, ?_⟩
  · exact hnew.points.trans (listeningPoints_congr rfl rfl hnew.view.symm)
  · have hpoints : new.map (fun r => (r.node, r.event)) =
        (new.map Registration.point).map fun point => (point.1, point.2.1) := by
      rw [List.map_map]
      rfl
    rw [hpoints, hnew.points]
    exact nodup_listeningPoints rfl _

/-- **A controller and the listeners that it has attached:** it has registered those that are live and no
others, each point once, and it has registered nothing unless it is connected. -/
structure Owns (c : Controller) (attached : Listener → Prop) (d : Document) : Prop where
  registered : ∀ l, attached l → l ∈ d.listeners.live → ∃ r ∈ c.registrations, r.listener = l
  owned : ∀ r ∈ c.registrations, attached r.listener
  points : (c.registrations.map fun r => (r.node, r.event)).Nodup
  idle : c.connected = false → c.registrations = []

section Owns

variable {attached attached' : Listener → Prop} {d' : Document}

theorem owns_ofConfig (config : Config) (h : ∀ l, ¬ attached l) (d : Document) :
    (ofConfig config).Owns attached d :=
  ⟨fun l hl => absurd hl (h l), fun _ hr => (nomatch hr), List.nodup_nil, fun _ => rfl⟩

/-- Others may detach a listener of the controller, but they cannot make it live again. -/
theorem Owns.mono (h : c.Owns attached d) (hattached : ∀ l, attached' l ↔ attached l)
    (hlive : ∀ l, attached l → l ∈ d'.listeners.live → l ∈ d.listeners.live) : c.Owns attached' d' where
  registered l hl hl' := by
    have hl := (hattached l).mp hl
    exact h.registered l hl (hlive l hl hl')
  owned r hr := (hattached _).mpr (h.owned r hr)
  points := h.points
  idle := h.idle

theorem Owns.keeps (h : c.Owns attached d) (hu : Keeps c d u) : u.controller.Owns attached u.document where
  registered := by
    rw [hu.listeners, hu.registrations]
    exact h.registered
  owned := by
    rw [hu.registrations]
    exact h.owned
  points := by
    rw [hu.registrations]
    exact h.points
  idle := by
    rw [hu.registrations, hu.connected]
    exact h.idle

end Owns

end Controller

/-! ## Accounts -/

namespace Shared

variable {ι : Type} {s : Shared ι} {i : ι}

/-- **The invariant of a shared document:** every number was given once, every listener that is attached has
a history, and controllers own what they have attached. -/
structure Accounted (s : Shared ι) : Prop where
  once : (s.attached.map (·.2.id)).Nodup
  below : ∀ entry ∈ s.attached, entry.2.id.number < s.document.listeners.next
  live : ∀ l ∈ s.document.listeners.live, ∃ who, (who, l) ∈ s.attached
  owns : ∀ i, (s.controllers i).Owns (fun l => (some i, l) ∈ s.attached) s.document

/-- Two listeners of one number are one listener, attached once. -/
theorem Accounted.eq_of_id (h : s.Accounted) {who who' : Option ι} {l l' : Listener}
    (hl : (who, l) ∈ s.attached) (hl' : (who', l') ∈ s.attached) (hid : l.id = l'.id) :
    who = who' ∧ l = l' :=
  Prod.mk.inj (List.inj_on_of_nodup_map h.once hl hl' hid)

/-- A document that somebody shares is accounted for from the beginning. -/
theorem accounted_began (d : Document) (configs : ι → Config) : (began d configs).Accounted where
  once := by
    show ((d.listeners.live.map fun l => ((none : Option ι), l)).map (·.2.id)).Nodup
    rw [List.map_map]
    exact Document.nodup_ids d.listeners.ascending
  below entry hentry := by
    obtain ⟨l, hl, rfl⟩ := List.mem_map.mp hentry
    exact d.listeners.below l hl
  live l hl := ⟨none, List.mem_map_of_mem hl⟩
  owns i := by
    refine Controller.owns_ofConfig _ (fun l hl => ?_) d
    obtain ⟨l', -, he⟩ := List.mem_map.mp hl
    cases congrArg Prod.fst he

section Record

variable {who : Option ι} {d : Document} {new : List Listener} {controllers : ι → Controller}

theorem attached_record (hd : Document.Relisted new s.document d) :
    (s.record who d controllers).attached = s.attached ++ new.map (who, ·) := by
  unfold record
  rw [hd.newListeners]

theorem mem_attached_record (hd : Document.Relisted new s.document d) {j : Option ι} {l : Listener} :
    (j, l) ∈ (s.record who d controllers).attached ↔ (j, l) ∈ s.attached ∨ j = who ∧ l ∈ new := by
  rw [attached_record hd, List.mem_append, List.mem_map]
  refine or_congr_right ⟨?_, fun ⟨hj, hl⟩ => ⟨l, hl, by rw [hj]⟩⟩
  rintro ⟨l', hl', he⟩
  obtain ⟨rfl, rfl⟩ := Prod.mk.inj he
  exact ⟨rfl, hl'⟩

/-- The new numbers differ from each other and are above all old ones. -/
theorem Accounted.once_record (h : s.Accounted) (hd : Document.Relisted new s.document d) :
    ((s.record who d controllers).attached.map (·.2.id)).Nodup := by
  rw [attached_record hd, List.map_append, List.map_map]
  refine List.nodup_append.mpr ⟨h.once, ?_, ?_⟩
  · obtain ⟨kept, hlive, -⟩ := hd.live
    have hascending := d.listeners.ascending
    rw [hlive] at hascending
    exact Document.nodup_ids (List.pairwise_append.mp hascending).2.1
  · intro a ha b hb hab
    obtain ⟨entry, hentry, rfl⟩ := List.mem_map.mp ha
    obtain ⟨l, hl, rfl⟩ := List.mem_map.mp hb
    have hlt := Nat.lt_of_lt_of_le (h.below entry hentry) (hd.fresh l hl)
    rw [hab] at hlt
    exact Nat.lt_irrefl _ hlt

/-- A listener that was attached before and is live now has been live all along: its number is old. -/
theorem Accounted.live_of_attached (h : s.Accounted) (hd : Document.Relisted new s.document d)
    {j : Option ι} {l : Listener} (hl : (j, l) ∈ s.attached) (hlive : l ∈ d.listeners.live) :
    l ∈ s.document.listeners.live := by
  refine (hd.mem_live hlive).resolve_right fun hnew => ?_
  exact Nat.lt_irrefl _ (Nat.lt_of_lt_of_le (h.below _ hl) (hd.fresh l hnew))

/-- **Whoever acts, the account stays right,** if the actor then owns what it had attached before and what
it has attached just now. -/
theorem Accounted.record (h : s.Accounted) (hd : Document.Relisted new s.document d)
    (hothers : ∀ j, who ≠ some j → controllers j = s.controllers j)
    (hactor : ∀ i, who = some i →
      (controllers i).Owns (fun l => (some i, l) ∈ s.attached ∨ l ∈ new) d) :
    (s.record who d controllers).Accounted where
  once := h.once_record hd
  below entry hentry := by
    obtain ⟨j, l⟩ := entry
    rcases (mem_attached_record hd).mp hentry with hold | ⟨-, hnew⟩
    · exact Nat.lt_of_lt_of_le (h.below _ hold) hd.next
    · exact d.listeners.below l (hd.mem_of_new hnew)
  live l hl := by
    rcases hd.mem_live hl with hold | hnew
    · obtain ⟨j, hj⟩ := h.live l hold
      exact ⟨j, (mem_attached_record hd).mpr (.inl hj)⟩
    · exact ⟨who, (mem_attached_record hd).mpr (.inr ⟨rfl, hnew⟩)⟩
  owns j := by
    show (controllers j).Owns _ d
    by_cases hwho : who = some j
    · refine (hactor j hwho).mono (fun l => ?_) fun _ _ hlive => hlive
      rw [mem_attached_record hd, and_iff_right hwho.symm]
    · -- the others have attached nothing
      rw [hothers j hwho]
      refine (h.owns j).mono (fun l => ?_) fun l hl hlive => h.live_of_attached hd hl hlive
      rw [mem_attached_record hd, or_iff_left fun hnew => hwho hnew.1.symm]

/-- What others do to listeners is no concern of the controllers. -/
theorem Accounted.record_others (h : s.Accounted) (hd : Document.Relisted new s.document d) :
    (s.record none d s.controllers).Accounted :=
  h.record hd (fun _ _ => rfl) fun _ hi => nomatch hi

variable [DecidableEq ι]

/-- Where a controller has acted, the account is a question of this controller. -/
theorem Accounted.record_actor (h : s.Accounted) (hd : Document.Relisted new s.document d) {c : Controller}
    (hc : c.Owns (fun l => (some i, l) ∈ s.attached ∨ l ∈ new) d) :
    (s.record (some i) d (Function.update s.controllers i c)).Accounted := by
  refine h.record hd (fun j hj => ?_) fun j hj => ?_
  · exact Function.update_of_ne (fun he => hj (congrArg some he.symm)) _ _
  · obtain rfl : i = j := Option.some.inj hj
    rw [Function.update_self]
    exact hc

/-- An operation that leaves listeners alone leaves the account as it is. -/
theorem Accounted.record_keeps (h : s.Accounted) {u : Update}
    (hu : Controller.Keeps (s.controllers i) s.document u) :
    (s.record (some i) u.document (Function.update s.controllers i u.controller)).Accounted := by
  refine h.record_actor (.of_listeners hu.listeners) ?_
  refine ((h.owns i).keeps hu).mono (fun l => ?_) fun _ _ hlive => hlive
  exact or_iff_left List.not_mem_nil

end Record

/-- A listener that is attached belongs to a controller when that has a registration of its number. -/
theorem Accounted.any_registrations (h : s.Accounted) {l : Listener}
    (hl : l ∈ s.document.listeners.live) :
    (s.controllers i).registrations.any (·.id == l.id) = true ↔ (some i, l) ∈ s.attached := by
  rw [List.any_eq_true]
  constructor
  · rintro ⟨r, hr, hid⟩
    obtain ⟨who, hwho⟩ := h.live l hl
    obtain ⟨rfl, rfl⟩ := h.eq_of_id ((h.owns i).owned r hr) hwho (beq_iff_eq.mp hid)
    exact hwho
  · intro hmem
    obtain ⟨r, hr, rfl⟩ := (h.owns i).registered l hmem hl
    exact ⟨r, hr, beq_self_eq_true _⟩

/-- What is left when a controller has detached its listeners. -/
theorem Accounted.mem_detached (h : s.Accounted) {l : Listener} :
    l ∈ s.document.listeners.live.filter
        (fun l => !(s.controllers i).registrations.any (·.id == l.id)) ↔
      l ∈ s.document.listeners.live ∧ (some i, l) ∉ s.attached := by
  rw [List.mem_filter]
  refine and_congr_right fun hl => ?_
  rw [Bool.not_eq_true', ← Bool.not_eq_true, h.any_registrations hl]

/-- A registration that is called is one of the node and the event, and there is one at most. -/
theorem Accounted.called (h : s.Accounted) (i : ι) (node : NodeId) (event : Event) :
    let called := (s.controllers i).registrations.filter fun r =>
      (s.document.listeners.idsFor node event).contains r.id
    (∀ r ∈ called, r.listener ∈ s.document.listeners.live ∧ r.node = node ∧ r.event = event) ∧
      called.length ≤ 1 := by
  intro called
  have hat : ∀ r ∈ called, r.listener ∈ s.document.listeners.live ∧ r.node = node ∧ r.event = event := by
    intro r hr
    obtain ⟨hmem, hid⟩ := List.mem_filter.mp hr
    have hlive := Listeners.mem_idsFor.mp (List.contains_iff_mem.mp hid)
    -- the number tells the listener, so that the live one is the one that was registered
    obtain ⟨who, hwho⟩ := h.live _ hlive
    have heq := (h.eq_of_id ((h.owns i).owned r hmem) hwho rfl).2
    exact ⟨heq ▸ hlive, congrArg Listener.node heq, congrArg Listener.event heq⟩
  refine ⟨hat, ?_⟩
  -- two that are called would be registered for one point twice
  have hnodup : (called.map fun r => (r.node, r.event)).Nodup :=
    (h.owns i).points.sublist (List.filter_sublist.map _)
  have hconst : called.map (fun r => (r.node, r.event)) = List.replicate called.length (node, event) := by
    refine List.eq_replicate_iff.mpr ⟨List.length_map _, fun point hpoint => ?_⟩
    obtain ⟨r, hr, rfl⟩ := List.mem_map.mp hpoint
    rw [(hat r hr).2.1, (hat r hr).2.2]
  rw [hconst] at hnodup
  exact List.nodup_replicate.mp hnodup

variable [DecidableEq ι]

theorem after_disconnect (s : Shared ι) (i : ι) :
    s.after (.disconnect i) = s.record (some i) ((s.controllers i).disconnect s.document).2
      (Function.update s.controllers i (.ofConfig (s.controllers i).config)) := rfl

theorem after_connect_of_ok {u : Update} (h : (s.controllers i).connect s.document = .ok u) :
    s.after (.connect i) =
      s.record (some i) u.document (Function.update s.controllers i u.controller) := by
  have hresult : s.result (.connect i) =
      (u.document, Function.update s.controllers i u.controller) := by
    show (match (s.controllers i).connect s.document with
      | .ok u => (u.document, Function.update s.controllers i u.controller)
      | .error _ => (s.document, s.controllers)) = _
    rw [h]
  unfold after
  rw [hresult]
  rfl

/-- Nothing is attached by disconnecting. -/
theorem attached_disconnect (s : Shared ι) (i : ι) :
    (s.after (.disconnect i)).attached = s.attached := by
  have hnew := (Controller.relisted_disconnect (s.controllers i) s.document).newListeners
  rw [after_disconnect]
  unfold record
  rw [hnew, List.map_nil, List.append_nil]

/-- **Disconnecting takes away what the controller has attached,** and nothing else. -/
theorem Accounted.live_disconnect (h : s.Accounted) (i : ι) {l : Listener} :
    l ∈ (s.after (.disconnect i)).document.listeners.live ↔
      l ∈ s.document.listeners.live ∧ (some i, l) ∉ s.attached := by
  rw [← h.mem_detached]
  obtain ⟨hlive, -⟩ := Controller.listeners_removeAll (s.controllers i).registrations s.document
  exact Iff.of_eq (congrArg (l ∈ ·) hlive)

theorem Accounted.disconnect (h : s.Accounted) (i : ι) : (s.after (.disconnect i)).Accounted := by
  rw [after_disconnect]
  refine h.record_actor (Controller.relisted_disconnect _ _)
    ⟨fun l hl hlive => ?_, fun r hr => (nomatch hr), List.nodup_nil, fun _ => rfl⟩
  exact absurd (hl.resolve_right List.not_mem_nil) ((h.live_disconnect i).mp hlive).2

/-- **Connecting attaches new listeners,** in the place of those that the controller had before. -/
structure Reconnected (s : Shared ι) (i : ι) (u : Update) : Prop where
  connects : (s.controllers i).connect s.document = .ok u
  after : s.after (.connect i) =
    s.record (some i) u.document (Function.update s.controllers i u.controller)
  relisted :
    Document.Relisted (u.controller.registrations.map Registration.listener) s.document u.document
  live : ∀ l, l ∈ u.document.listeners.live ↔
    (l ∈ s.document.listeners.live ∧ (some i, l) ∉ s.attached) ∨
      l ∈ u.controller.registrations.map Registration.listener
  points : u.controller.registrations.map Registration.point = u.controller.listeningPoints u.document
  owns : u.controller.Owns
    (fun l => (some i, l) ∈ s.attached ∨ l ∈ u.controller.registrations.map Registration.listener)
    u.document

theorem Accounted.reconnected (h : s.Accounted) (i : ι) : ∃ u, s.Reconnected i u := by
  obtain ⟨u, hconnect, hconnected, hlive, hfresh, hnext, hpoints, hnodup⟩ :=
    Controller.connect_listeners (h.owns i).idle s.document
  have hmem : ∀ l, l ∈ u.document.listeners.live ↔
      (l ∈ s.document.listeners.live ∧ (some i, l) ∉ s.attached) ∨
        l ∈ u.controller.registrations.map Registration.listener := by
    intro l
    rw [hlive, List.mem_append, h.mem_detached]
  refine ⟨u, hconnect, after_connect_of_ok hconnect,
    ⟨⟨_, hlive, fun l hl => (List.mem_filter.mp hl).1⟩, fun l hl => ?_, hnext⟩, hmem, hpoints,
    fun l hl hlive => ?_, fun r hr => .inr (List.mem_map_of_mem hr), hnodup, fun hc => ?_⟩
  · obtain ⟨r, hr, rfl⟩ := List.mem_map.mp hl
    exact hfresh r hr
  · -- what the controller had attached before is gone
    have hnew : l ∈ u.controller.registrations.map Registration.listener := by
      rcases (hmem l).mp hlive with ⟨-, hnot⟩ | hnew
      · exact hl.resolve_left hnot
      · exact hnew
    exact List.mem_map.mp hnew
  · rw [hconnected] at hc
    cases hc

theorem Accounted.connect (h : s.Accounted) (i : ι) : (s.after (.connect i)).Accounted := by
  obtain ⟨u, hu⟩ := h.reconnected i
  rw [hu.after]
  exact h.record_actor hu.relisted hu.owns

/-- **Every action keeps the account right.** -/
theorem Accounted.after (h : s.Accounted) (action : Action ι) : (s.after action).Accounted := by
  cases action with
  | connect i => exact h.connect i
  | disconnect i => exact h.disconnect i
  | init i => exact h.record_keeps (Controller.keeps_init _ _)
  | handleEvent i node event => exact h.record_keeps (Controller.keeps_handleEvent _ _ node event)
  | handleChange i node => exact h.record_keeps (Controller.keeps_handleChange _ _ node)
  | handleToggle i node => exact h.record_keeps (Controller.keeps_handleToggle _ _ node)
  | edit edit =>
    refine h.record_others (.of_listeners ?_)
    show ((edit.apply s.document).toOption.getD s.document).listeners = s.document.listeners
    cases hedit : edit.apply s.document with
    | error e => rfl
    | ok d => exact edit.listeners_apply hedit
  | addListener node event =>
    cases hadd : s.document.addListener node event with
    | error e =>
      refine h.record_others (.of_listeners ?_)
      show (((s.document.addListener node event).toOption.map Prod.fst).getD s.document).listeners = _
      rw [hadd]
      rfl
    | ok added =>
      refine h.record_others (?_ : Document.Relisted [⟨added.2, node, event⟩] _ _)
      show Document.Relisted _ _ (((s.document.addListener node event).toOption.map Prod.fst).getD _)
      rw [hadd]
      exact Document.relisted_addListener hadd
  | removeListener id => exact h.record_others (Document.relisted_removeListener _ id)

/-- **And so does every run.** -/
theorem Accounted.run (h : s.Accounted) (actions : List (Action ι)) : (s.run actions).Accounted := by
  induction actions generalizing s with
  | nil => exact h
  | cons action rest ih => exact ih (h.after action)

/-! ## Ownership -/

theorem mem_liveOf {l : Listener} :
    l ∈ s.liveOf i ↔ l ∈ s.document.listeners.live ∧ (some i, l) ∈ s.attached := by
  unfold liveOf
  rw [List.mem_filter, decide_eq_true_iff]

/-- A controller has one live listener at most for each event of a node. -/
theorem Accounted.nodup_liveOf (h : s.Accounted) (i : ι) :
    ((s.liveOf i).map fun l => (l.node, l.event)).Nodup := by
  have hnodup : (s.liveOf i).Nodup :=
    (Document.nodup_ids s.document.listeners.ascending).of_map.filter _
  refine hnodup.map_on fun a ha b hb hab => ?_
  obtain ⟨halive, hattached⟩ := mem_liveOf.mp ha
  obtain ⟨hblive, hbttached⟩ := mem_liveOf.mp hb
  obtain ⟨r, hr, rfl⟩ := (h.owns i).registered a hattached halive
  obtain ⟨r', hr', rfl⟩ := (h.owns i).registered b hbttached hblive
  rw [List.inj_on_of_nodup_map (h.owns i).points hr hr' hab]

/-- What a controller has live after it has connected. -/
theorem Reconnected.mem_liveOf {u : Update} (hu : s.Reconnected i u) {l : Listener} :
    l ∈ (s.after (.connect i)).liveOf i ↔ l ∈ u.controller.registrations.map Registration.listener := by
  rw [Shared.mem_liveOf, hu.after, mem_attached_record hu.relisted, and_iff_right rfl]
  show l ∈ u.document.listeners.live ∧ _ ↔ _
  rw [hu.live]
  constructor
  · rintro ⟨⟨-, hnot⟩ | hnew, hattached⟩
    · exact hattached.resolve_left hnot
    · exact hnew
  · exact fun hnew => ⟨.inr hnew, .inr hnew⟩

/-- **An event is handled by the controller's own listener,** once, or not at all. -/
theorem Accounted.handleEvent (h : s.Accounted) (i : ι) (node : NodeId) (event : Event) :
    (s.controllers i).handleEvent s.document node event = (s.controllers i).unchanged s.document ∨
      (∃ l ∈ s.liveOf i, l.node = node ∧ l.event = event) ∧
        ∃ handler, (s.controllers i).handleEvent s.document node event =
          (s.controllers i).handle s.document node handler := by
  obtain ⟨hat, hlength⟩ := h.called i node event
  obtain ⟨called, hcalled⟩ : ∃ called, called = (s.controllers i).registrations.filter (fun r =>
    (s.document.listeners.idsFor node event).contains r.id) := ⟨_, rfl⟩
  have hevent : (s.controllers i).handleEvent s.document node event =
      called.foldl (Controller.call node) ((s.controllers i).unchanged s.document) := by
    rw [hcalled]
    rfl
  rw [← hcalled] at hat hlength
  rw [hevent]
  match called, hlength with
  | [], _ => exact .inl rfl
  | [r], _ =>
    obtain ⟨hlive, hnode, hevent⟩ := hat r List.mem_cons_self
    have hr : r ∈ (s.controllers i).registrations :=
      List.mem_of_mem_filter (hcalled ▸ List.mem_cons_self)
    refine .inr ⟨⟨r.listener, mem_liveOf.mpr ⟨hlive, (h.owns i).owned r hr⟩, hnode, hevent⟩, r.handler, ?_⟩
    exact Controller.call_unchanged _ _ _ _

/-- **Whose listeners are whose:** what a controller may rely on in a shared document. -/
structure Ownership (s : Shared ι) (i : ι) : Prop where
  connects : ∃ u, (s.controllers i).connect s.document = .ok u
  /-- No number is ever given twice. -/
  once : (s.attached.map (·.2.id)).Nodup
  /-- There is one live listener at most for each event of a node. -/
  single : ((s.liveOf i).map fun l => (l.node, l.event)).Nodup
  /-- Once it has connected, it has the listeners that it has attached in connecting. -/
  renewed : ∀ l, l ∈ (s.after (.connect i)).liveOf i ↔
    l ∈ s.document.newListeners (s.after (.connect i)).document
  /-- These are where it listens. -/
  listens : ∀ node event, (∃ l ∈ (s.after (.connect i)).liveOf i, l.node = node ∧ l.event = event) ↔
    ∃ handler, (node, event, handler) ∈
      ((s.after (.connect i)).controllers i).listeningPoints (s.after (.connect i)).document
  /-- Once it has disconnected, none of the listeners that it ever attached is live. -/
  released : ∀ l, (some i, l) ∈ (s.after (.disconnect i)).attached →
    l ∉ (s.after (.disconnect i)).document.listeners.live
  /-- Neither takes a listener away from anybody else. -/
  spared : ∀ l ∈ s.document.listeners.live, (some i, l) ∉ s.attached →
    l ∈ (s.after (.connect i)).document.listeners.live ∧
      l ∈ (s.after (.disconnect i)).document.listeners.live
  /-- An event changes something only through a live listener of its own there, which has it handled
  once. -/
  handles : ∀ node event, (s.controllers i).handleEvent s.document node event =
      (s.controllers i).unchanged s.document ∨
    (∃ l ∈ s.liveOf i, l.node = node ∧ l.event = event) ∧
      ∃ handler, (s.controllers i).handleEvent s.document node event =
        (s.controllers i).handle s.document node handler

theorem Accounted.ownership (h : s.Accounted) (i : ι) : s.Ownership i := by
  obtain ⟨u, hu⟩ := h.reconnected i
  have hcontroller : (s.after (.connect i)).controllers i = u.controller := by
    rw [hu.after]
    exact Function.update_self _ _ _
  have hdocument : (s.after (.connect i)).document = u.document := by
    rw [hu.after]
    rfl
  refine ⟨⟨u, hu.connects⟩, h.once, h.nodup_liveOf i, fun l => ?_, fun node event => ?_,
    fun l hl hlive => ?_, fun l hl hnot => ⟨?_, (h.live_disconnect i).mpr ⟨hl, hnot⟩⟩, h.handleEvent i⟩
  · rw [hu.mem_liveOf, hdocument, hu.relisted.newListeners]
  · rw [hcontroller, hdocument, ← hu.points]
    constructor
    · rintro ⟨l, hl, rfl, rfl⟩
      obtain ⟨r, hr, rfl⟩ := List.mem_map.mp (hu.mem_liveOf.mp hl)
      exact ⟨r.handler, List.mem_map_of_mem hr⟩
    · rintro ⟨handler, hpoint⟩
      obtain ⟨r, hr, he⟩ := List.mem_map.mp hpoint
      obtain ⟨hnode, hevent⟩ := Prod.mk.inj he
      exact ⟨r.listener, hu.mem_liveOf.mpr (List.mem_map_of_mem hr), hnode, congrArg Prod.fst hevent⟩
  · rw [attached_disconnect] at hl
    exact ((h.live_disconnect i).mp hlive).2 hl
  · rw [hdocument]
    exact (hu.live l).mpr (.inl ⟨hl, hnot⟩)

/-- However controllers and others act on a document in turns, every controller has what is its own. -/
theorem run_ownership (d : Document) (configs : ι → Config) (actions : List (Action ι)) (i : ι) :
    ((began d configs).run actions).Ownership i :=
  ((accounted_began d configs).run actions).ownership i

end Shared

end ReactiveForm
