import ReactiveForm.Binding.Step
import ReactiveForm.Proofs.Binding.InPlace
import ReactiveForm.Proofs.Binding.Ownership
import ReactiveForm.Proofs.Fixture.Building

/-!
# `ReactiveForm.Proofs.Binding.Atomicity` — an operation that fails leaves everything as it was

Here documents and pages are edited in place, so that an operation that is stopped on its way leaves what it
has done so far. None is ever stopped after it has changed something: whatever can be refused is refused
before the first change. An operation that succeeds changes the element that it names; only a radio button
that takes the mark reaches others, and those are the other buttons of its group.

## Contents
- `Document.Edit.perform`, an edit in place, and `Edit.perform_eq`.
- `Document.Edit.Confined` and `Document.Extended`, what an edit changes, with `Edit.effect_of_apply`.
- `Page.setInPlace` and its companions, interactions in place, and `Page.Atomic`.
- `Page.operations_atomic`: **operations are made as a whole or not at all**.
-/

namespace ReactiveForm

namespace Document

/-! ## Edits in place -/

/-- Sets the state of a checkbox or a radio button in place. Anything else is refused. -/
def checkInPlace (node : NodeId) (checked : Bool) : InPlace := fun d =>
  match d.control? node with
  | some .checkbox => markInPlace node checked d
  | some .radio => markInPlace node checked d
  | _ => (d, some (.notCheckable ((d.attribute? node "name").getD node.text)))

/-- What an edit comes to in place. -/
def Edit.perform : Edit → InPlace
  | .append parent e => allOrNothing (·.append parent e)
  | .setAttribute node name value => assignInPlace node name value
  | .addClass node c => allOrNothing (·.addClass node c)
  | .removeClass node c => allOrNothing (·.removeClass node c)
  | .toggleClass node c => fun d =>
    if d.hasClass node c then allOrNothing (·.removeClass node c) d else allOrNothing (·.addClass node c) d
  | .setText node text => allOrNothing (·.setText node text)
  | .setValue node value => allOrNothing (·.setValue node value)
  | .setChecked node checked => checkInPlace node checked

/-- Attaches a listener in place. -/
def listenInPlace (node : NodeId) (event : Event) : InPlace :=
  allOrNothing fun d => (d.addListener node event).map Prod.fst

variable {d d' : Document} {node n : NodeId} {edit : Edit}

/-- What is made as a whole or not at all. -/
theorem allOrNothing_spec (f : Document → Except DocumentError Document) (d : Document) :
    (∀ e, (allOrNothing f d).2 = some e → (allOrNothing f d).1 = d ∧ f d = .error e) ∧
      ((allOrNothing f d).2 = none → f d = .ok (allOrNothing f d).1) := by
  cases hf : f d with
  | error e =>
    rw [allOrNothing_of_error hf]
    refine ⟨fun e' he => ⟨rfl, ?_⟩, nofun⟩
    rw [Option.some.inj he]
  | ok d' =>
    rw [allOrNothing_of_ok hf]
    exact ⟨nofun, fun _ => rfl⟩

theorem allOrNothing_congr {first second : Document → Except DocumentError Document}
    (h : first d = second d) : allOrNothing first d = allOrNothing second d := by
  unfold allOrNothing
  rw [h]

/-- What can be checked is checked like an attribute that is set. -/
theorem setChecked_eq_setState {checked : Bool}
    (h : d.control? node = some .checkbox ∨ d.control? node = some .radio) :
    d.setChecked node checked = d.setState node checked := by
  unfold setState
  rcases h with h | h <;> rw [h]

theorem checkInPlace_eq (node : NodeId) (checked : Bool) :
    checkInPlace node checked = allOrNothing (·.setChecked node checked) := by
  funext d
  have hcheckable : d.control? node = some .checkbox ∨ d.control? node = some .radio →
      markInPlace node checked d = allOrNothing (·.setChecked node checked) d := by
    intro h
    rw [markInPlace_eq]
    exact allOrNothing_congr (setChecked_eq_setState h).symm
  unfold checkInPlace
  cases hkind : d.control? node with
  | none =>
    have hrefused : d.setChecked node checked =
        .error (.notCheckable ((d.attribute? node "name").getD node.text)) := by
      unfold setChecked
      rw [hkind]
    exact (allOrNothing_of_error hrefused).symm
  | some kind =>
    cases kind with
    | checkbox => exact hcheckable (.inl hkind)
    | radio => exact hcheckable (.inr hkind)
    | text | select =>
      have hrefused : d.setChecked node checked =
          .error (.notCheckable ((d.attribute? node "name").getD node.text)) := by
        unfold setChecked
        rw [hkind]
      exact (allOrNothing_of_error hrefused).symm

/-- Flipping a class removes it or adds it. -/
theorem fst_toggleClass (d : Document) (node : NodeId) (c : String) :
    (d.toggleClass node c).map Prod.fst =
      if d.hasClass node c then d.removeClass node c else d.addClass node c := by
  unfold toggleClass setClass
  cases d.hasClass node c with
  | true => cases d.removeClass node c <;> rfl
  | false => cases d.addClass node c <;> rfl

/-- **An edit in place is made as a whole or not at all.** -/
theorem Edit.perform_eq (edit : Edit) : edit.perform = allOrNothing edit.apply := by
  cases edit with
  | append | addClass | removeClass | setText | setValue => rfl
  | setAttribute node name value => exact assignInPlace_eq node name value
  | setChecked node checked => exact checkInPlace_eq node checked
  | toggleClass node c =>
    funext d
    show (if d.hasClass node c then allOrNothing _ d else allOrNothing _ d) = allOrNothing _ d
    split
    · next hclass => exact allOrNothing_congr (((fst_toggleClass d node c).trans (if_pos hclass)).symm)
    · next hclass => exact allOrNothing_congr (((fst_toggleClass d node c).trans (if_neg hclass)).symm)

/-! ## What an edit changes -/

/-- The node that an edit names. -/
def Edit.target : Edit → NodeId
  | .append parent _ => parent
  | .setAttribute node _ _ => node
  | .addClass node _ => node
  | .removeClass node _ => node
  | .toggleClass node _ => node
  | .setText node _ => node
  | .setValue node _ => node
  | .setChecked node _ => node

/-- What an edit makes of the element at the node that it names. -/
def Edit.onElement : Edit → Element → Element
  | .append _ _, e => e
  | .setAttribute _ name value, e => e.assign name value
  | .addClass _ c, e => e.withClass c
  | .removeClass _ c, e => e.withoutClass c
  | .toggleClass _ c, e => if e.hasClass c then e.withoutClass c else e.withClass c
  | .setText _ text, e => e.withText text
  | .setValue _ value, e => { e with value }
  | .setChecked _ checked, e => e.withChecked checked

/-- Whether an edit gives the mark to its element. -/
def Edit.marks : Edit → Bool
  | .setAttribute _ name value => name == "checked" && value != "false"
  | .setChecked _ checked => checked
  | _ => false

/-- An edit takes the mark from another radio button: it gives the mark to a radio button of the same
name. -/
def Edit.Unmarks (edit : Edit) (d : Document) (n : NodeId) : Prop :=
  edit.marks = true ∧ n ≠ edit.target ∧
    ∃ group, d.role? edit.target = some (.radio, some group) ∧ d.role? n = some (.radio, some group)

/-- **What an edit of an element changes:** the element, and the state of the radio buttons that it takes
the mark from. -/
structure Edit.Confined (edit : Edit) (d d' : Document) : Prop where
  tree : d'.tree = d.tree
  listeners : d'.listeners = d.listeners
  named : d'.element? edit.target = (d.element? edit.target).map edit.onElement
  unmarked : ∀ n, edit.Unmarks d n → d'.element? n = (d.element? n).map (·.withChecked false)
  spared : ∀ n, n ≠ edit.target → ¬edit.Unmarks d n → d'.element? n = d.element? n

/-- **What appending changes:** there is one more node, the last child of its parent. -/
structure Extended (parent : NodeId) (e : Element) (d d' : Document) : Prop where
  size : d'.tree.size = d.tree.size + 1
  listeners : d'.listeners = d.listeners
  added : d'.element? ⟨d.tree.size⟩ = some e
  spared : ∀ n : NodeId, n.index < d.tree.size → d'.element? n = d.element? n
  children : ∀ n, d'.tree.children n =
    d.tree.children n ++ if parent = n then [⟨d.tree.size⟩] else []

/-- What an edit changes when it succeeds. -/
def Edit.Effect : Edit → Document → Document → Prop
  | .append parent e => Extended parent e
  | edit => edit.Confined

/-- **What attaching a listener changes:** the list of listeners, which gets one more. -/
structure Overheard (node : NodeId) (event : Event) (d d' : Document) : Prop where
  tree : d'.tree = d.tree
  elements : d'.elements = d.elements
  listeners : d'.listeners = d.listeners.attach node event

theorem overheard_of_addListener {event : Event} {id : ListenerId}
    (h : d.addListener node event = .ok (d', id)) :
    id = ⟨d.listeners.next⟩ ∧ Overheard node event d d' := by
  unfold addListener at h
  split at h
  · obtain ⟨rfl, rfl⟩ := Prod.mk.inj (Except.ok.inj h)
    exact ⟨rfl, rfl, rfl, rfl⟩
  · cases h

theorem extended_of_append {parent : NodeId} {e : Element} (h : d.append parent e = .ok d') :
    Extended parent e d d' where
  size := size_of_append h
  listeners := by
    obtain ⟨_, _, rfl⟩ := append_eq_ok_iff.mp h
    rfl
  added := element?_of_append h
  spared := (grows_of_append h).element?
  children := children_of_append h

namespace Edit

/-- An edit that takes no mark and changes an element. -/
theorem confined_modify {f : Element → Element} (hmarks : edit.marks = false)
    (hf : ∀ e, d.element? edit.target = some e → f e = edit.onElement e) :
    edit.Confined d (d.modify edit.target f) where
  tree := rfl
  listeners := rfl
  named := by
    rw [element?_modify, if_pos rfl]
    exact Option.map_congr hf
  unmarked n h := by
    have hmarked := h.1
    rw [hmarks] at hmarked
    cases hmarked
  spared n hne _ := by rw [element?_modify, if_neg hne.symm]

theorem confined_of_edit {f : Element → Element} (h : d.edit edit.target f = .ok d')
    (hmarks : edit.marks = false) (hf : ∀ e, d.element? edit.target = some e → f e = edit.onElement e) :
    edit.Confined d d' := by
  obtain ⟨-, rfl⟩ := edit_eq_ok_iff.mp h
  exact confined_modify hmarks hf

theorem confined_of_editClass {c : String} {f : Element → Element}
    (h : d.editClass edit.target c f = .ok d') (hmarks : edit.marks = false)
    (hf : ∀ e, d.element? edit.target = some e → f e = edit.onElement e) : edit.Confined d d' := by
  unfold editClass at h
  split at h
  · exact confined_of_edit h hmarks hf
  · cases h

/-- The mark is taken from the other radio buttons of a name, in whichever way it is given. -/
theorem mem_unmarked_iff {name value : String}
    (hmarks : edit.marks = true ↔ name = "checked" ∧ value ≠ "false") :
    n ∈ d.unmarked edit.target name value ↔ edit.Unmarks d n := by
  rw [mem_unmarked, ← hmarks]
  refine and_congr_right fun _ => and_congr_right fun _ => ⟨fun h => h.2, fun h => ⟨?_, h⟩⟩
  obtain ⟨group, -, hn⟩ := h
  exact Tree.mem_descendants (lt_size_of_role? hn)

/-- An edit that rewrites its element and takes the mark from some others. -/
theorem confined_of_rewritten {others : List NodeId} (hothers : ∀ n, n ∈ others ↔ edit.Unmarks d n)
    (h : Rewritten (fun n e => if edit.target = n then edit.onElement e
      else if n ∈ others then e.withChecked false else e) d d') : edit.Confined d d' where
  tree := h.tree
  listeners := h.listeners
  named := by simp [h.element?]
  unmarked n hn := by
    have hne : ¬edit.target = n := fun he => hn.2.1 he.symm
    simp [h.element?, hne, (hothers n).mpr hn]
  spared n hne hn := by
    have hnot : n ∉ others := fun hmem => hn ((hothers n).mp hmem)
    simp [h.element?, hne.symm, hnot]

theorem confined_setAttribute {name value : String} (h : d.setAttribute node name value = .ok d') :
    (setAttribute node name value).Confined d d' := by
  have hn : node.index < d.tree.size := by
    by_contra hmissing
    rw [setAttribute_of_missing hmissing] at h
    cases h
  obtain ⟨d₁, hset, hd₁⟩ := setAttribute_rewritten hn name value
  rw [h] at hset
  rw [← Except.ok.inj hset] at hd₁
  exact confined_of_rewritten (fun n => mem_unmarked_iff (by simp [marks])) hd₁

theorem confined_setChecked {checked : Bool} (h : d.setChecked node checked = .ok d') :
    (setChecked node checked).Confined d d' := by
  have hkind : d.control? node = some .checkbox ∨ d.control? node = some .radio := by
    unfold Document.setChecked at h
    split at h
    · next hkind => exact .inl hkind
    · next hkind => exact .inr hkind
    · cases h
  have hn : node.index < d.tree.size := by
    have hsome : (d.control? node).isSome = true := by rcases hkind with hkind | hkind <;> rw [hkind] <;> rfl
    obtain ⟨kind, hsome⟩ := Option.isSome_iff_exists.mp hsome
    obtain ⟨e, he, -⟩ := Option.bind_eq_some_iff.mp hsome
    exact lt_size_of_element? he
  -- the state that is given is that of an attribute with one of two values
  obtain ⟨value, hvalue⟩ : ∃ value : String, (value != "false") = checked := by
    cases checked with
    | true => exact ⟨"true", rfl⟩
    | false => exact ⟨"false", rfl⟩
  subst hvalue
  obtain ⟨d₁, hstate, hd₁⟩ := setState_rewritten hn value
  have hset : (d.setChecked node (value != "false") >>= Except.ok) = .ok d₁ := by
    rw [← hstate Except.ok]
    rcases hkind with hkind | hkind <;> rw [hkind]
  rw [h] at hset
  obtain rfl : d' = d₁ := Except.ok.inj hset
  exact confined_of_rewritten (fun n => mem_unmarked_iff (by simp [marks])) hd₁

/-- **An edit that succeeds changes the element that it names,** and the radio buttons that it takes the mark
from. -/
theorem effect_of_apply (edit : Edit) (h : edit.apply d = .ok d') : edit.Effect d d' := by
  cases edit with
  | append parent e => exact extended_of_append h
  | setAttribute node name value => exact confined_setAttribute h
  | addClass node c | removeClass node c => exact confined_of_editClass h rfl fun _ _ => rfl
  | setText node text | setValue node value => exact confined_of_edit h rfl fun _ _ => rfl
  | setChecked node checked => exact confined_setChecked h
  | toggleClass node c =>
    have h : (d.toggleClass node c).map Prod.fst = .ok d' := h
    have hhas : ∀ e, d.element? node = some e → d.hasClass node c = e.hasClass c := by
      intro e he
      unfold Document.hasClass
      rw [he]
      rfl
    rw [fst_toggleClass] at h
    split at h
    · next hclass =>
      refine confined_of_editClass h rfl fun e he => ?_
      exact (if_pos ((hhas e he).symm.trans hclass)).symm
    · next hclass =>
      refine confined_of_editClass h rfl fun e he => ?_
      exact (if_neg fun hc => hclass ((hhas e he).trans hc)).symm

end Edit

end Document

/-! ## Interactions in place -/

namespace Page

open Document (Edit)

/-- Finds a node of the document, edits it in place and fires its event. What stops the edit stops the
interaction, with the document as it is by then. -/
def editInPlace (find : Document → Except DocumentError NodeId) (edit : NodeId → Edit) (p : Page) :
    Page × Except DocumentError Report :=
  match find p.document with
  | .error e => (p, .error e)
  | .ok node =>
    match (edit node).perform p.document with
    | (d, some e) => ({ p with document := d }, .error e)
    | (d, none) => ((p.fireControl d node).1, .ok (p.fireControl d node).2)

/-- The first radio button with a name and a value, or an error. -/
def findRadio (name value : String) (d : Document) : Except DocumentError NodeId :=
  match radioWith? d name value with
  | some node => .ok node
  | none => .error (.noSuchRadio name value)

/-- Replaces the value of the first control with a name in place. -/
def typeTextInPlace (p : Page) (name value : String) : Page × Except DocumentError Report :=
  p.editInPlace (·.controlNamed name) (.setValue · value)

/-- Checks or unchecks the first control with a name in place. -/
def setCheckedInPlace (p : Page) (name : String) (checked : Bool) : Page × Except DocumentError Report :=
  p.editInPlace (·.controlNamed name) (.setChecked · checked)

/-- Checks the radio button with a name and a value in place. -/
def checkRadioInPlace (p : Page) (name value : String) : Page × Except DocumentError Report :=
  p.editInPlace (findRadio name value) (.setChecked · true)

/-- Sets the first control with a name in place, as its kind asks for. -/
def setInPlace (p : Page) (name value : String) : Page × Except DocumentError Report :=
  match p.document.controlNamed name with
  | .error e => (p, .error e)
  | .ok node =>
    match p.document.control? node with
    | some .radio => p.checkRadioInPlace name value
    | some .checkbox => p.setCheckedInPlace name (value == "true")
    | _ => p.typeTextInPlace name value

/-- Clicks the element with an `id`. -/
def clickIdInPlace (p : Page) (id : String) : Page × Except DocumentError Report :=
  match p.document.byId? id with
  | some node => ((p.click node).1, .ok (p.click node).2)
  | none => (p, .error (.noElementWithId id))

/-- What is left of a page, and the answer, when an interaction that fails leaves the page as it was. -/
def settle (p : Page) : Interaction → Page × Except DocumentError Report
  | .ok (q, report) => (q, .ok report)
  | .error e => (p, .error e)

/-- **An interaction in place is atomic:** what it leaves and answers with is what the interaction answers
with, and an error leaves the document and the controller as they were. -/
structure Atomic (p : Page) (left : Page × Except DocumentError Report) (answer : Interaction) : Prop where
  agrees : left = p.settle answer
  unchanged : ∀ e, left.2 = .error e → left.1 = p

variable {p : Page} {answer : Interaction}

theorem atomic_of_eq {left : Page × Except DocumentError Report} (h : left = p.settle answer) :
    p.Atomic left answer := by
  refine ⟨h, fun e he => ?_⟩
  rw [h] at he ⊢
  cases answer with
  | ok result => cases he
  | error e' => rfl

/-- Whatever is looked for and whatever edit is made, it is all done or nothing. -/
theorem editInPlace_eq (p : Page) (find : Document → Except DocumentError NodeId) (edit : NodeId → Edit) :
    p.editInPlace find edit = p.settle (do
      let node ← find p.document
      let d ← (edit node).apply p.document
      return p.fireControl d node) := by
  unfold editInPlace
  cases hfind : find p.document with
  | error e => rfl
  | ok node =>
    dsimp only
    rw [Edit.perform_eq]
    show _ = p.settle ((edit node).apply p.document >>= fun d => return p.fireControl d node)
    cases hedit : (edit node).apply p.document with
    | error e => rw [Document.allOrNothing_of_error hedit]; rfl
    | ok d => rw [Document.allOrNothing_of_ok hedit]; rfl

theorem typeTextInPlace_eq (p : Page) (name value : String) :
    p.typeTextInPlace name value = p.settle (p.typeText name value) := editInPlace_eq p _ _

theorem setCheckedInPlace_eq (p : Page) (name : String) (checked : Bool) :
    p.setCheckedInPlace name checked = p.settle (p.setChecked name checked) := editInPlace_eq p _ _

theorem checkRadioInPlace_eq (p : Page) (name value : String) :
    p.checkRadioInPlace name value = p.settle (p.checkRadio name value) := by
  refine (editInPlace_eq p _ _).trans (congrArg p.settle ?_)
  unfold checkRadio findRadio
  cases radioWith? p.document name value <;> rfl

theorem setInPlace_eq (p : Page) (name value : String) :
    p.setInPlace name value = p.settle (p.set name value) := by
  unfold setInPlace set
  cases p.document.controlNamed name with
  | error e => rfl
  | ok node =>
    show (match p.document.control? node with
        | some .radio => p.checkRadioInPlace name value
        | some .checkbox => p.setCheckedInPlace name (value == "true")
        | _ => p.typeTextInPlace name value) =
      p.settle (match p.document.control? node with
        | some .radio => p.checkRadio name value
        | some .checkbox => p.setChecked name (value == "true")
        | _ => p.typeText name value)
    cases p.document.control? node with
    | none => exact typeTextInPlace_eq p name value
    | some kind =>
      cases kind with
      | radio => exact checkRadioInPlace_eq p name value
      | checkbox => exact setCheckedInPlace_eq p name (value == "true")
      | text | select => exact typeTextInPlace_eq p name value

theorem clickIdInPlace_eq (p : Page) (id : String) :
    p.clickIdInPlace id = p.settle (p.clickId id) := by
  unfold clickIdInPlace clickId
  cases p.document.byId? id <;> rfl

end Page

/-- What a step does to a page in place. -/
def Step.perform (p : Page) : Step → Page × Except DocumentError Report
  | set name value => p.setInPlace name value
  | check name => p.setCheckedInPlace name true
  | uncheck name => p.setCheckedInPlace name false
  | click id => p.clickIdInPlace id

theorem Step.perform_eq (p : Page) (step : Step) : step.perform p = p.settle (step.apply p) := by
  cases step with
  | set name value => exact p.setInPlace_eq name value
  | check name => exact p.setCheckedInPlace_eq name true
  | uncheck name => exact p.setCheckedInPlace_eq name false
  | click id => exact p.clickIdInPlace_eq id

/-! ## Everything -/

/-- **Operations in place are made as a whole or not at all.** An edit that is refused leaves the document as
it was; one that succeeds changes the element that it names and nothing else, but for the other radio buttons
of a name when one of them takes the mark; a listener that is attached changes the listeners alone; and an
interaction with a page that fails, whether it is mounted or not, leaves its document and its controller as
they were. -/
theorem Page.operations_atomic (d : Document) (p : Page) :
    (∀ edit : Document.Edit,
      (∀ e, (edit.perform d).2 = some e → (edit.perform d).1 = d ∧ edit.apply d = .error e) ∧
        ((edit.perform d).2 = none →
          edit.apply d = .ok (edit.perform d).1 ∧ edit.Effect d (edit.perform d).1)) ∧
      (∀ node event,
        (∀ e, (Document.listenInPlace node event d).2 = some e →
          (Document.listenInPlace node event d).1 = d ∧ d.addListener node event = .error e) ∧
          ((Document.listenInPlace node event d).2 = none →
            d.addListener node event =
                .ok ((Document.listenInPlace node event d).1, ⟨d.listeners.next⟩) ∧
              Document.Overheard node event d (Document.listenInPlace node event d).1)) ∧
      (∀ name value, p.Atomic (p.setInPlace name value) (p.set name value)) ∧
      (∀ name value, p.Atomic (p.typeTextInPlace name value) (p.typeText name value)) ∧
      (∀ name checked, p.Atomic (p.setCheckedInPlace name checked) (p.setChecked name checked)) ∧
      (∀ name value, p.Atomic (p.checkRadioInPlace name value) (p.checkRadio name value)) ∧
      (∀ id, p.Atomic (p.clickIdInPlace id) (p.clickId id)) ∧
      ∀ step : Step, p.Atomic (step.perform p) (step.apply p) := by
  refine ⟨fun edit => ?_, fun node event => ?_, fun _ _ => atomic_of_eq (p.setInPlace_eq _ _),
    fun _ _ => atomic_of_eq (p.typeTextInPlace_eq _ _), fun _ _ => atomic_of_eq (p.setCheckedInPlace_eq _ _),
    fun _ _ => atomic_of_eq (p.checkRadioInPlace_eq _ _), fun _ => atomic_of_eq (p.clickIdInPlace_eq _),
    fun step => atomic_of_eq (step.perform_eq p)⟩
  · rw [Document.Edit.perform_eq]
    obtain ⟨hfails, hsucceeds⟩ := Document.allOrNothing_spec edit.apply d
    exact ⟨hfails, fun h => ⟨hsucceeds h, edit.effect_of_apply (hsucceeds h)⟩⟩
  · obtain ⟨hfails, hsucceeds⟩ :=
      Document.allOrNothing_spec (fun d => (d.addListener node event).map Prod.fst) d
    refine ⟨fun e he => ⟨(hfails e he).1, map_eq_error_iff.mp (hfails e he).2⟩, fun h => ?_⟩
    obtain ⟨⟨d', id⟩, hadd, hleft⟩ := map_eq_ok_iff.mp (hsucceeds h)
    obtain ⟨rfl, hoverheard⟩ := Document.overheard_of_addListener hadd
    obtain rfl : d' = (Document.listenInPlace node event d).1 := hleft
    exact ⟨hadd, hoverheard⟩

end ReactiveForm
