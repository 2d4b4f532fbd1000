import ReactiveForm.Proofs.Binding.Atomicity
import ReactiveForm.Proofs.Binding.Listing
import ReactiveForm.Proofs.Binding.Synchrony
import ReactiveForm.Proofs.Document.Election

/-!
# `ReactiveForm.Proofs.Binding.Exclusivity` — radio groups stay exclusive

Marks are given by users, and by directives that assign `checked`. Either way a radio button takes the mark
from the rest of its group, as long as the group is what it has been: a directive that assigns `name` or
`type` moves a checked button into another group without asking. A directive can also assign the text of
another one, which is read when the page is mounted again, so that the assignments to look at are all those
that the directives of a page lead to.

## Contents
- `Directive.Leads` and `Directive.KeepsRoles`, what a directive leads to, with `Index.keepsRoles_build_iff`.
- `Outcome.marks` and `Outcome.keepsRoles`, one outcome gives the mark as it should, and leads to nothing new.
- `Document.Orderly` and `Pass.orderly_applyAll`, what a pass keeps.
- `Controller.Orderly` and `Page.Orderly`, **the invariant of a page**, kept by each handler and operation.
- `Page.run_exclusive`: **radio groups stay exclusive**, and their values are those of the checked buttons.
-/

namespace ReactiveForm

/-! ## What directives lead to -/

namespace Directive

/-- **An assignment that a directive leads to:** one of its own, or one that a directive leads to whose text
it assigns. -/
inductive Leads (options : DirectiveOptions) : Directive → Assignment → Prop where
  | own {directive : Directive} {a : Assignment} (h : a ∈ directive.assignments) : Leads options directive a
  | later {directive next : Directive} {a b : Assignment} (ha : a ∈ directive.assignments)
      (hname : a.name = DirectiveKind.attributeIf.attributeName)
      (hnext : parse options .attributeIf a.value = .ok next) (hb : Leads options next b) :
      Leads options directive b

/-- **A directive that leaves controls in their roles:** nothing that it leads to assigns `name` or `type`. -/
def KeepsRoles (options : DirectiveOptions) (directive : Directive) : Prop :=
  ∀ a, Leads options directive a → a.name ≠ "name" ∧ a.name ≠ "type"

variable {options : DirectiveOptions} {directive : Directive}

/-- A directive leaves controls in their roles when its own assignments do, and the directives that it
assigns. -/
theorem keepsRoles_iff :
    directive.KeepsRoles options ↔
      ∀ a ∈ directive.assignments, (a.name ≠ "name" ∧ a.name ≠ "type") ∧
        (a.name = DirectiveKind.attributeIf.attributeName →
          ∀ next, parse options .attributeIf a.value = .ok next → next.KeepsRoles options) := by
  constructor
  · intro h a ha
    exact ⟨h a (.own ha), fun hname next hnext b hb => h b (.later ha hname hnext hb)⟩
  · intro h b hb
    cases hb with
    | own hb => exact (h b hb).1
    | later ha hname hnext hb => exact (h _ ha).2 hname _ hnext b hb

theorem keepsRoles_of_kind (h : directive.kind ≠ .attributeIf) : directive.KeepsRoles options := by
  rw [keepsRoles_iff, assignments_of_kind h]
  exact fun a ha => nomatch ha

/-- A directive that assigns no directive leads to its own assignments only. -/
theorem keepsRoles_of_plain
    (h : ∀ a ∈ directive.assignments, (a.name ≠ "name" ∧ a.name ≠ "type") ∧
      a.name ≠ DirectiveKind.attributeIf.attributeName) : directive.KeepsRoles options :=
  keepsRoles_iff.mpr fun a ha => ⟨(h a ha).1, fun hname => absurd hname (h a ha).2⟩

end Directive

namespace Index

variable {d : Document} {options : DirectiveOptions} {switches : Bool}

/-- **Directives that leave controls in their roles.** -/
def KeepsRoles (options : DirectiveOptions) (i : Index) : Prop :=
  ∀ entry ∈ i.entries, entry.directive.KeepsRoles options

/-- A choice of attributes is what its own attribute spells, since only switches look at another one. -/
theorem directive?_attributeIf (d : Document) (options : DirectiveOptions) (node : NodeId) :
    d.directive? options node .attributeIf =
      (d.attribute? node DirectiveKind.attributeIf.attributeName).map
        (Directive.parse options .attributeIf) := by
  unfold Document.directive?
  refine Option.map_congr fun raw _ => ?_
  cases hparse : Directive.parse options .attributeIf raw with
  | error e => rfl
  | ok directive =>
    have hkind := Directive.kind_of_parse hparse
    cases directive with
    | switch _ _ => cases hkind
    | _ => rfl

/-- What spells a choice of attributes makes an entry, and nothing else makes one. -/
theorem mem_entries_attributeIf {node : NodeId} {directive : Directive}
    (hkind : directive.kind = .attributeIf) :
    ⟨node, directive⟩ ∈ (build d options switches).entries ↔
      ∃ raw, d.attribute? node DirectiveKind.attributeIf.attributeName = some raw ∧
        Directive.parse options .attributeIf raw = .ok directive := by
  rw [mem_entries]
  show ¬(directive.kind = .switch ∧ _) ∧
    d.directive? options node directive.kind = some (.ok directive) ↔ _
  rw [hkind, directive?_attributeIf, Option.map_eq_some_iff]
  exact and_iff_right fun h => nomatch h.1

/-- Whether the directives of a document leave controls in their roles is read from one attribute. -/
theorem keepsRoles_build_iff :
    (build d options switches).KeepsRoles options ↔
      ∀ node raw directive, d.attribute? node DirectiveKind.attributeIf.attributeName = some raw →
        Directive.parse options .attributeIf raw = .ok directive → directive.KeepsRoles options := by
  constructor
  · intro h node raw directive hraw hparse
    have hkind := Directive.kind_of_parse hparse
    exact h ⟨node, directive⟩ ((mem_entries_attributeIf hkind).mpr ⟨raw, hraw, hparse⟩)
  · intro h entry hentry
    by_cases hkind : entry.directive.kind = .attributeIf
    · obtain ⟨raw, hraw, hparse⟩ := (mem_entries_attributeIf hkind).mp hentry
      exact h entry.node raw entry.directive hraw hparse
    · exact Directive.keepsRoles_of_kind hkind

end Index

/-! ## One outcome -/

namespace Outcome

variable {o : Outcome} {d d' : Document} {node : NodeId}

/-- An attribute that a node has after an outcome has been committed, it has had before, or it has been
assigned. -/
theorem attribute?_of_rewritten {key raw : String} (hkey : key ≠ "class")
    (h : Document.Rewritten (o.rewriting d node) d d') {n : NodeId} (hraw : d'.attribute? n key = some raw) :
    d.attribute? n key = some raw ∨ ∃ a ∈ o.assignment, a.name = key ∧ a.value = raw := by
  unfold Document.attribute? at hraw ⊢
  rw [h.element?, Option.bind_map] at hraw
  obtain ⟨e, he, hraw⟩ := Option.bind_eq_some_iff.mp hraw
  have hraw : (o.rewriting d node n e).attribute? key = some raw := hraw
  rw [he, Option.bind_some]
  unfold rewriting at hraw
  split at hraw
  · rw [attribute?_rewrite hkey, Option.or_eq_some_iff] at hraw
    rcases hraw with hassigned | ⟨-, hbefore⟩
    · exact .inr (assigned_eq_some_iff.mp hassigned)
    · exact .inl hbefore
  · have hspared : e.attribute? key = some raw := by
      split at hraw <;> exact hraw
    exact .inl hspared

/-- An outcome that assigns neither `name` nor `type` leaves every control in its role. -/
theorem role?_rewriting (ha : ∀ a ∈ o.assignment, a.name ≠ "name" ∧ a.name ≠ "type") (d : Document)
    (node n : NodeId) (e : Element) : (o.rewriting d node n e).role? = e.role? := by
  unfold rewriting
  split
  · refine Element.role?_congr ?_
    unfold Element.controlPart
    rw [tag_rewrite, attribute?_rewrite (by decide), attribute?_rewrite (by decide),
      assigned_eq_none fun a h => (ha a h).1, assigned_eq_none fun a h => (ha a h).2,
      Option.none_or, Option.none_or]
  · split <;> rfl

/-- **An outcome gives the mark to its own node at most,** and then it takes it from the rest of the
group. -/
theorem marks (ha : ∀ a ∈ o.assignment, a.name ≠ "name" ∧ a.name ≠ "type")
    (h : Document.Rewritten (o.rewriting d node) d d') (hn : node.index < d.tree.size) :
    Document.Marks node d d' where
  roles := h.view (role?_rewriting ha d node)
  others n hne hn' := by
    rw [isChecked_rewriting h, if_neg hne.symm, Bool.and_eq_true] at hn'
    exact hn'.2
  rivals hchecked := by
    rw [isChecked_self h hn] at hchecked
    cases hmark : o.markWish with
    | none =>
      rw [hmark] at hchecked
      exact .inl hchecked
    | some mark =>
      rw [hmark] at hchecked
      obtain rfl : mark = true := hchecked
      refine .inr fun n name hne hrole hrole' => isChecked_of_unmarked h (mem_unmarked.mpr ?_)
      exact ⟨hmark, hne, Tree.mem_descendants (Document.lt_size_of_role? hrole'), name, hrole, hrole'⟩

/-- **What an outcome leads to is what its directive leads to.** -/
theorem keepsRoles {options : DirectiveOptions} {switches : Bool} {directive : Directive}
    (hd : (Index.build d options switches).KeepsRoles options) (hdirective : directive.KeepsRoles options)
    (ha : ∀ a ∈ o.assignment, a ∈ directive.assignments)
    (h : Document.Rewritten (o.rewriting d node) d d') :
    (Index.build d' options switches).KeepsRoles options := by
  rw [Index.keepsRoles_build_iff] at hd ⊢
  intro n raw next hraw hparse
  have hkey := DirectiveKind.attributeName_ne_class .attributeIf
  rcases attribute?_of_rewritten hkey h hraw with hbefore | ⟨a, hassign, hname, rfl⟩
  · exact hd n raw next hbefore hparse
  · exact (Directive.keepsRoles_iff.mp hdirective a (ha a hassign)).2 hname next hparse

end Outcome

/-! ## A pass -/

/-- **A document in order:** its radio groups are exclusive, and its directives leave them what they are. -/
structure Document.Orderly (config : Config) (d : Document) : Prop where
  exclusive : d.Exclusive
  keepsRoles : (d.index config).KeepsRoles config.directiveOptions

/-- What changes neither the inputs nor the directives keeps a document in order. -/
theorem Document.Orderly.congr {config : Config} {d d' : Document} (h : d.Orderly config)
    (hinput : d'.view Element.inputPart = d.view Element.inputPart)
    (hdirective : d'.view Element.directivePart = d.view Element.directivePart) : d'.Orderly config where
  exclusive := h.exclusive.congr hinput
  keepsRoles := by
    rw [index_congr hdirective]
    exact h.keepsRoles

/-- What changes listeners only keeps a document in order. -/
theorem Document.Orderly.congr_id {config : Config} {d d' : Document} (h : d.Orderly config)
    (hview : d'.view id = d.view id) : d'.Orderly config :=
  h.congr (view_of_view hview fun _ _ he => congrArg _ he) (view_of_view hview fun _ _ he => congrArg _ he)

namespace Pass

variable {config : Config} {change : Option Change} {p : Pass} {entry : IndexedDirective}
  {entries : List IndexedDirective}

/-- **One entry keeps a document in order.** -/
theorem orderly_apply (hn : entry.node.index < p.document.tree.size)
    (hkeeps : entry.directive.KeepsRoles config.directiveOptions) (h : p.document.Orderly config) :
    (apply config change p entry).document.Orderly config := by
  rcases apply_cases hn with hskipped | ⟨o, ho, hwritten⟩
  · rw [hskipped]
    exact h
  · have hassign := Directive.assignment_mem (Directive.finding_eq_ok_iff.mp ho).1
    have hroles : ∀ a ∈ o.assignment, a.name ≠ "name" ∧ a.name ≠ "type" :=
      fun a ha => hkeeps a (.own (hassign a ha))
    exact ⟨h.exclusive.marks (Outcome.marks hroles hwritten hn),
      Outcome.keepsRoles h.keepsRoles hkeeps hassign hwritten⟩

/-- **And so does a pass.** -/
theorem orderly_applyAll (hn : ∀ entry ∈ entries, entry.node.index < p.document.tree.size)
    (hkeeps : ∀ entry ∈ entries, entry.directive.KeepsRoles config.directiveOptions)
    (h : p.document.Orderly config) : (applyAll config change p entries).document.Orderly config :=
  applyAll_induction (R := fun d d' => d.Orderly config → d'.Orderly config) (fun _ hd => hd)
    (fun _ _ _ h h' hd => h' (h hd)) (fun entry hentry _ hn => orderly_apply hn (hkeeps entry hentry)) hn h

end Pass

/-! ## Controllers -/

namespace Controller

variable {c : Controller} {d d' : Document} {node : NodeId}

/-- **A controller in order:** the document is, and the directives that the controller has read, perhaps from
an older state of the document, leave the controls of that document in their roles. -/
structure Orderly (c : Controller) (d : Document) : Prop where
  document : d.Orderly c.config
  inTree : ∀ entry ∈ c.index.entries, entry.node.index < d.tree.size
  keepsRoles : c.index.KeepsRoles c.config.directiveOptions

/-- A controller that has read nothing is in order when its document is. -/
theorem orderly_ofConfig {config : Config} (h : d.Orderly config) : (ofConfig config).Orderly d where
  document := h
  inTree _ hentry := nomatch hentry
  keepsRoles _ hentry := nomatch hentry

namespace Orderly

/-- **Applying directives that have been read keeps a controller in order.** -/
theorem applyAll (h : c.Orderly d) {entries : List IndexedDirective}
    (hsub : ∀ entry ∈ entries, entry ∈ c.index.entries) (change : Option Change) (report : Report) :
    (c.applyAll d change report entries).controller.Orderly (c.applyAll d change report entries).document := by
  have hn : ∀ entry ∈ entries, entry.node.index < d.tree.size :=
    fun entry hentry => h.inTree entry (hsub entry hentry)
  refine ⟨Pass.orderly_applyAll hn (fun entry hentry => h.keepsRoles entry (hsub entry hentry)) h.document,
    fun entry hentry => ?_, h.keepsRoles⟩
  have htree : (c.applyAll d change report entries).document.tree = d.tree :=
    Pass.tree_applyAll (p := ⟨d, c.states, report⟩) hn
  rw [htree]
  exact h.inTree entry hentry

/-- What changes neither the inputs nor the directives keeps a controller in order. -/
theorem congr (h : c.Orderly d) (hinput : d'.view Element.inputPart = d.view Element.inputPart)
    (hdirective : d'.view Element.directivePart = d.view Element.directivePart) : c.Orderly d' where
  document := h.document.congr hinput hdirective
  inTree entry hentry := by
    rw [Document.tree_eq_of_view hinput]
    exact h.inTree entry hentry
  keepsRoles := h.keepsRoles

theorem handle (h : c.Orderly d) (node : NodeId) (handler : Handler) :
    (c.handle d node handler).controller.Orderly (c.handle d node handler).document := by
  cases handler with
  | change =>
    show (c.handleChange d node).controller.Orderly (c.handleChange d node).document
    unfold handleChange
    split
    · exact h
    · split
      · exact h
      · refine h.applyAll (fun entry hentry => ?_) _ _
        obtain ⟨place, -, hplace⟩ := List.mem_filterMap.mp hentry
        exact List.mem_of_getElem? hplace
  | toggle =>
    obtain ⟨hc, hd⟩ := handleToggle_spec c d node
    show (c.handleToggle d node).controller.Orderly (c.handleToggle d node).document
    rw [hc]
    exact h.congr hd.inputView hd.directiveView

/-- **Whatever event is fired at whatever node, a controller stays in order.** -/
theorem handleEvent (h : c.Orderly d) (node : NodeId) (event : Event) :
    (c.handleEvent d node event).controller.Orderly (c.handleEvent d node event).document :=
  handleEvent_induction (R := fun c d => c.Orderly d) c d node event h
    fun _ _ handler h => h.handle node handler

/-- **Connecting reads the directives of the document as it is,** and keeps the controller in order. -/
theorem connect (h : d.Orderly c.config) :
    ∃ u, c.connect d = .ok u ∧ u.controller.config = c.config ∧ u.controller.Orderly u.document := by
  obtain ⟨new, d', hconnect, hnew⟩ := c.connect_eq d
  have hconfig := c.config_fresh d
  have hfresh : (c.fresh d).2.Orderly (c.fresh d).1.config := by
    rw [hconfig]
    exact h.congr_id (c.view_fresh d)
  -- the directives are read first, and then all of them are applied but the switches
  let built := (c.fresh d).2.index (c.fresh d).1.config
  have hread : Orderly { (c.fresh d).1 with index := built } (c.fresh d).2 :=
    ⟨hfresh, fun _ hentry => Index.lt_size_of_mem hentry, hfresh.keepsRoles⟩
  have hsub : ∀ entry ∈ initial built, entry ∈ built.entries :=
    fun entry hentry => (List.mem_filter.mp hentry).1
  have hinit := hread.applyAll hsub none { failures := built.failures }
  have hlistening : Orderly _ d' := hinit.congr (Document.view_of_view hnew.view fun _ _ he => congrArg _ he)
    (Document.view_of_view hnew.view fun _ _ he => congrArg _ he)
  exact ⟨_, hconnect, hconfig, hlistening.document, hlistening.inTree, hlistening.keepsRoles⟩

end Orderly

end Controller

/-! ## Edits by users -/

namespace Document

variable {d d' : Document} {edit : Edit} {node : NodeId}

/-- An edit as users make it: it gives its element a value or a state. -/
structure Edit.Enters (edit : Edit) : Prop where
  stateless : ∀ e, (edit.onElement e).stateless = e.stateless
  marks : ∀ e, (edit.onElement e).checked = true → e.checked = true ∨ edit.marks = true

theorem Edit.enters_setValue (node : NodeId) (value : String) : (setValue node value).Enters :=
  ⟨fun _ => rfl, fun _ => .inl⟩

theorem Edit.enters_setChecked (node : NodeId) (checked : Bool) : (setChecked node checked).Enters :=
  ⟨fun _ => rfl, fun _ => .inr⟩

/-- What neither an edit nor the loss of a mark changes of an element is as before. -/
theorem Edit.Confined.view {α : Type} {π : Element → α} (h : edit.Confined d d')
    (hπ : ∀ e, π (edit.onElement e) = π e) (hmark : ∀ e : Element, π (e.withChecked false) = π e) :
    d'.view π = d.view π := by
  refine view_eq_iff.mpr ⟨h.tree, fun n => ?_⟩
  by_cases hn : n = edit.target
  · rw [hn, h.named, Option.map_map]
    exact Option.map_congr fun e _ => hπ e
  by_cases hunmarked : edit.Unmarks d n
  · rw [h.unmarked n hunmarked, Option.map_map]
    exact Option.map_congr fun e _ => hmark e
  · rw [h.spared n hn hunmarked]

/-- **An edit by a user gives the mark to its own node at most,** and then it takes it from the rest of the
group. -/
theorem Edit.Confined.marks (h : edit.Confined d d') (henters : edit.Enters) :
    Marks edit.target d d' := by
  have hunchecked : ∀ n, edit.Unmarks d n → d'.isChecked n = false := by
    intro n hn
    unfold isChecked
    rw [h.unmarked n hn, Option.any_map]
    cases d.element? n <;> rfl
  refine ⟨h.view (fun e => ?_) fun _ => rfl, fun n hne hn => ?_, fun hchecked => ?_⟩
  · obtain ⟨htag, hattributes, -, -⟩ := Element.stateless_congr (henters.stateless e)
    unfold Element.role? Element.control? Element.attribute?
    rw [htag, hattributes]
  · by_cases hunmarked : edit.Unmarks d n
    · rw [hunchecked n hunmarked] at hn
      cases hn
    · unfold isChecked at hn ⊢
      rwa [h.spared n hne hunmarked] at hn
  · unfold isChecked at hchecked ⊢
    rw [h.named, Option.any_map] at hchecked
    cases he : d.element? edit.target with
    | none =>
      rw [he] at hchecked
      cases hchecked
    | some e =>
      rw [he] at hchecked
      rcases henters.marks e hchecked with hbefore | hmarks
      · exact .inl hbefore
      · exact .inr fun n name hne hrole hrole' => hunchecked n ⟨hmarks, hne, name, hrole, hrole'⟩

/-- **An edit by a user keeps a document in order.** -/
theorem Orderly.confined {config : Config} (h : d.Orderly config) (hd : edit.Confined d d')
    (henters : edit.Enters) : d'.Orderly config where
  exclusive := h.exclusive.marks (hd.marks henters)
  keepsRoles := by
    have hdirective : d'.view Element.directivePart = d.view Element.directivePart := by
      refine hd.view (fun e => ?_) fun _ => rfl
      unfold Element.directivePart Element.attribute?
      rw [(Element.stateless_congr (henters.stateless e)).2.1]
    rw [index_congr hdirective]
    exact h.keepsRoles

end Document

/-! ## Pages -/

namespace Page

open Document (Edit)

variable {config : Config} {p : Page} {name : String}

/-- An input is set by an edit as users make it. -/
theorem Sets.confined {node : NodeId} {d : Document} (h : p.Sets name node d) :
    ∃ edit : Edit, edit.Enters ∧ edit.Confined p.document d := by
  rcases h.2 with ⟨value, hd⟩ | ⟨checked, hd⟩
  · exact ⟨_, Edit.enters_setValue node value, Edit.effect_of_apply (.setValue node value) hd⟩
  · exact ⟨_, Edit.enters_setChecked node checked, Edit.confined_setChecked hd⟩

/-- **The invariant of a page:** its controller is in order. -/
structure Orderly (config : Config) (p : Page) : Prop where
  config : p.controller.config = config
  controller : p.controller.Orderly p.document

namespace Orderly

theorem mount (h : p.Orderly config) : (p.after .mount).Orderly config := by
  obtain ⟨u, hconnect, hconfig, hu⟩ := Controller.Orderly.connect h.controller.document
  have hmount : p.attempt .mount = .ok (⟨u.document, u.controller⟩, u.report) := by
    show (p.controller.connect p.document).map ofUpdate = _
    rw [hconnect]
    rfl
  rw [after_of_ok hmount]
  exact ⟨hconfig.trans h.config, hu⟩

theorem unmount (h : p.Orderly config) : (p.after .unmount).Orderly config where
  config := h.config
  controller := by
    have hview : (p.after .unmount).document.view id = p.document.view id :=
      Controller.view_removeAll p.controller.registrations p.document
    exact Controller.orderly_ofConfig (h.controller.document.congr_id hview)

theorem fire (h : p.Orderly config) (node : NodeId) (event : Event) : (p.fire node event).1.Orderly config where
  config := (Controller.config_handleEvent _ _ _ _).trans h.config
  controller := h.controller.handleEvent node event

/-- **Setting an input keeps a page in order,** with the event that a control fires. -/
theorem sets (h : p.Orderly config) {node : NodeId} {d : Document} (hsets : p.Sets name node d) :
    (p.fireControl d node).1.Orderly config := by
  obtain ⟨edit, henters, hd⟩ := hsets.confined
  have hcontroller : p.controller.Orderly d := by
    refine ⟨h.controller.document.confined hd henters, fun entry hentry => ?_, h.controller.keepsRoles⟩
    rw [hd.tree]
    exact h.controller.inTree entry hentry
  have hpage : Orderly config { p with document := d } := ⟨h.config, hcontroller⟩
  exact hpage.fire node _

/-- **Every operation keeps a page in order,** whether it succeeds or fails. -/
theorem after (h : p.Orderly config) (action : Action) : (p.after action).Orderly config :=
  after_induction h h.mount h.unmount h.fire (fun _ _ _ hsets => h.sets hsets) action

end Orderly

/-- **Radio groups stay exclusive.** Begun with a document in which no two radio buttons of a name are checked,
and whose directives lead to no assignment of `name` or `type`, a page has at most one checked button of each
name after whatever has been done to it, and the value of a radio group is that of its checked button. -/
theorem run_exclusive {config : Config} {d : Document} (hexclusive : d.Exclusive)
    (hkeeps : (d.index config).KeepsRoles config.directiveOptions) (actions : List Action) :
    let p := (ofDocument d config).run actions
    p.document.Exclusive ∧
      ∀ name first, (p.document.controlsNamed name).head? = some first →
        p.document.control? first = some .radio → p.document.ReadsElected name := by
  intro p
  have hstart : Orderly config (ofDocument d config) :=
    ⟨rfl, Controller.orderly_ofConfig ⟨hexclusive, hkeeps⟩⟩
  have hp : p.Orderly config := run_induction (fun p action hp => hp.after action) hstart actions
  have hexclusive := hp.controller.document.exclusive
  exact ⟨hexclusive, fun name first hfirst hradio => hexclusive.readsElected hfirst hradio⟩

/-- A form with two plans, of which one is taken and released by the number of seats; with three seats the
choice itself is replaced. -/
def plans : Document :=
  .form [.ofAttributes "input" [("type", "radio"), ("name", "plan"), ("value", "free"), ("checked", "")],
    .ofAttributes "input" [("type", "radio"), ("name", "plan"), ("value", "pro"),
      ("data-if", "seats==2 ? checked='true' : data-if='seats==3?value=team'")],
    .ofAttributes "input" [("name", "seats")]]

/-- With two seats the other plan is taken, and the plan that was taken before is released. -/
theorem run_exclusive_plans :
    plans.Exclusive ∧ (plans.index {}).KeepsRoles {} ∧
      ((ofDocument plans {}).run [.mount, .set "seats" "2"]).document.Exclusive ∧
      ((ofDocument plans {}).run [.mount, .set "seats" "2"]).document.ReadsElected "plan" ∧
      ((ofDocument plans {}).run [.mount, .set "seats" "2"]).document.elected? ⟨2⟩ = some "plan" := by
  have hexclusive : plans.Exclusive := by decide +kernel
  have hkeeps : (plans.index {}).KeepsRoles {} := by
    intro entry hentry
    have hentries : (plans.index {}).entries = [⟨⟨2⟩, .attributeIf ⟨.compare ⟨"seats", .equal, "2"⟩,
        ⟨"checked", "true"⟩, some ⟨"data-if", "seats==3?value=team"⟩⟩⟩] := by decide +kernel
    rw [hentries, List.mem_singleton] at hentry
    subst hentry
    -- the first branch assigns no directive, and the second one a directive that assigns none
    refine Directive.keepsRoles_iff.mpr fun a ha => ?_
    rcases List.mem_cons.mp ha with rfl | ha
    · exact ⟨by decide, fun hname => absurd hname (by decide)⟩
    · obtain rfl := List.mem_singleton.mp ha
      refine ⟨by decide, fun _ next hnext => ?_⟩
      have hparse : Directive.parse {} .attributeIf "seats==3?value=team" =
          .ok (.attributeIf ⟨.compare ⟨"seats", .equal, "3"⟩, ⟨"value", "team"⟩, none⟩) := by
        decide +kernel
      obtain rfl := Except.ok.inj (hnext.symm.trans hparse)
      exact Directive.keepsRoles_of_plain (by decide)
  obtain ⟨hend, hvalues⟩ := run_exclusive hexclusive hkeeps [.mount, .set "seats" "2"]
  exact ⟨hexclusive, hkeeps, hend, hvalues "plan" ⟨1⟩ (by decide +kernel) (by decide +kernel),
    by decide +kernel⟩

/-- A form with two radio buttons that are no rivals, of which one has a directive that writes another one. -/
def crossing : Document :=
  .form [.ofAttributes "input" [("type", "radio"), ("name", "a"), ("value", "1"), ("checked", "")],
    .ofAttributes "input" [("type", "radio"), ("name", "b"), ("value", "2"), ("checked", ""),
      ("data-if", "x!=1 ? data-if='x!=1?name=a'")],
    .ofAttributes "input" [("name", "x")]]

/-- No directive of this form assigns `name` or `type`, but when the form is mounted again, both buttons are
checked for the same name. -/
theorem run_not_exclusive_crossing :
    crossing.Exclusive ∧
      (∀ entry ∈ (crossing.index {}).entries, ∀ a ∈ entry.directive.assignments,
        a.name ≠ "name" ∧ a.name ≠ "type") ∧
      ¬ ((ofDocument crossing {}).run [.mount, .mount]).document.Exclusive := by
  decide +kernel

end Page

end ReactiveForm
