import ReactiveForm.Proofs.Binding.Accounting
import ReactiveForm.Proofs.Binding.Interaction
import ReactiveForm.Proofs.Document.Election

/-!
# `ReactiveForm.Proofs.Binding.ReadingBack` — an input that has been set has its new value

An input is set through its first control, which may hand the value on to another button of its group, and it
is read from its first control, which may look at all buttons of its group. In between the event of the control
is fired, and directives are applied. All the same the value that is read is the value that was set, on any
page, as long as no directive assigns what the values of inputs are read from.

## Contents
- `inputAttributes` and `Element.readFrom_inputPart`, with `inputView_handleEvent`: **no event changes an input**.
- `Document.inputSnapshot_of_setValue`, `inputSnapshot_of_mark` and `inputSnapshot_of_choice`, the value after
  each way to set it.
- `Page.set_answers`, what `set` answers with, by the first control of the name.
- `Page.inputSnapshot_set`, when it fails and what is read afterwards.
-/

namespace ReactiveForm

/-! ## Directives that leave inputs alone -/

/-- The attributes that the values of inputs are read from. -/
def inputAttributes : List String := ["value", "checked", "name", "type"]

theorem ne_of_not_mem_inputAttributes {name : String} (h : name ∉ inputAttributes) :
    name ≠ "value" ∧ name ≠ "checked" ∧ name ≠ "name" ∧ name ≠ "type" := by
  simpa [inputAttributes] using h

/-- **The values of inputs are read from these attributes,** which also stand for values and marks. -/
theorem Element.readFrom_inputPart : ReadFrom inputAttributes inputPart := by
  intro o h d node n e
  have hne : ∀ a ∈ o.assignment, a.name ≠ "value" ∧ a.name ≠ "checked" ∧ a.name ≠ "name" ∧ a.name ≠ "type" :=
    fun a ha => ne_of_not_mem_inputAttributes (h a ha)
  have hvalue : o.valueWish = none := by
    unfold Outcome.valueWish
    cases ha : o.assignment with
    | none => rfl
    | some a => exact if_neg (hne a ha).1
  have hmark : o.markWish = none := by
    unfold Outcome.markWish
    cases ha : o.assignment with
    | none => rfl
    | some a => exact if_neg (hne a ha).2.1
  have hcontrol : (o.rewriting d node n e).controlPart = e.controlPart := by
    have htag : (o.rewriting d node n e).tag = e.tag := by
      unfold Outcome.rewriting
      split
      · exact Outcome.tag_rewrite o e
      · split <;> rfl
    unfold controlPart
    rw [htag, Outcome.attribute?_rewriting (by decide) fun a ha => (hne a ha).2.2.1,
      Outcome.attribute?_rewriting (by decide) fun a ha => (hne a ha).2.2.2]
  -- nobody loses a mark that nobody takes
  have hkept : n ∉ o.unmarked d node := by
    intro hmem
    cases hmark.symm.trans (Outcome.mem_unmarked.mp hmem).1
  unfold inputPart
  rw [hcontrol]
  unfold Outcome.rewriting
  rw [if_neg hkept]
  split
  · rw [Outcome.value_rewrite, Outcome.checked_rewrite, hvalue, hmark]
    rfl
  · rfl

/-- **No event changes an input** where directives leave these attributes alone, whoever listens to it. -/
theorem Controller.inputView_handleEvent {c : Controller} (h : c.index.Spares inputAttributes) (d : Document)
    (node : NodeId) (event : Event) :
    (c.handleEvent d node event).document.view Element.inputPart = d.view Element.inputPart :=
  view_handleEvent_of_spares Element.readFrom_inputPart (fun _ _ he => (Element.classless_congr he).1) h d node
    event

/-! ## The value that is read -/

/-- The value that an input has after it has been set through a control of some kind: a checkbox only tells
whether the value was `true`. -/
def ControlKind.reads (kind : ControlKind) (value : String) : String :=
  match kind with
  | .checkbox => if value == "true" then "true" else "false"
  | .text | .radio | .select => value

namespace Document

variable {d d' : Document} {name value : String} {first node : NodeId} {kind : ControlKind}

/-- A control that is no radio button is read by itself. -/
theorem inputSnapshot_of_first (hfirst : (d.controlsNamed name).head? = some first)
    (hkind : d.control? first = some kind) (hradio : kind ≠ .radio) :
    d.inputSnapshot name = (d.element? first).map (·.snapshot kind) := by
  obtain ⟨e, he, hek⟩ := Option.bind_eq_some_iff.mp hkind
  have hne : d.control? first ≠ some .radio := by
    rw [hkind]
    exact fun h => hradio (Option.some.inj h)
  show ((d.controlsNamed name).head?.bind fun first =>
    if d.control? first = some .radio then some (d.checkedRadioValue (d.controlsNamed name))
    else d.controlSnapshot first) = _
  rw [hfirst, Option.bind_some, if_neg hne]
  simp [controlSnapshot, he, hek]

theorem controlNamed_of_head? (hfirst : (d.controlsNamed name).head? = some first) :
    d.controlNamed name = .ok first := by
  rw [controlNamed_eq, hfirst]

theorem nameOf_head? (hfirst : (d.controlsNamed name).head? = some first) :
    d.attribute? first "name" = some name :=
  (mem_controlsNamed.mp (List.mem_of_mem_head? (Option.mem_def.mpr hfirst))).2.1

/-- A value that is put into the first control is read from it. -/
theorem inputSnapshot_of_setValue (hfirst : (d.controlsNamed name).head? = some first)
    (hkind : d.control? first = some kind) (hvalued : kind = .text ∨ kind = .select)
    (h : d.setValue first value = .ok d') : d'.inputSnapshot name = some value := by
  have hview := (entered_setValue (nameOf_head? hfirst) h).controlView
  have hradio : kind ≠ .radio := by rcases hvalued with rfl | rfl <;> decide
  obtain ⟨e, he, -⟩ := Option.bind_eq_some_iff.mp hkind
  rw [inputSnapshot_of_first (by rw [controlsNamed_congr hview, hfirst]) ((control?_congr hview first).trans hkind)
    hradio]
  obtain ⟨-, rfl⟩ := edit_eq_ok_iff.mp h
  rw [element?_modify, if_pos rfl, he]
  rcases hvalued with rfl | rfl <;> rfl

/-- Setting the state of a control that has one rewrites it, and takes the mark from the rest of its group. -/
theorem setChecked_rewritten (hkind : d.control? node = some .checkbox ∨ d.control? node = some .radio)
    (hn : node.index < d.tree.size) (checked : Bool) :
    ∃ d', d.setChecked node checked = .ok d' ∧
      Rewritten (fun n e => if node = n then e.withChecked checked
        else if n ∈ d.unmarked node "checked" (if checked then "true" else "false") then e.withChecked false
        else e) d d' := by
  obtain ⟨d', hset, hd'⟩ := setState_rewritten hn (if checked then "true" else "false")
  have hmark : ((if checked then "true" else "false") != "false") = checked := by cases checked <;> rfl
  rw [hmark] at hset hd'
  refine ⟨d', ?_, hd'⟩
  have hok := hset .ok
  have hpure : ∀ x : Except DocumentError Document, x >>= .ok = x := fun x => by cases x <;> rfl
  rcases hkind with hkind | hkind <;> rw [hkind] at hok <;> exact (hpure _).symm.trans hok

/-- A state that is given to a checkbox is read from it. -/
theorem inputSnapshot_of_mark (hfirst : (d.controlsNamed name).head? = some first)
    (hkind : d.control? first = some .checkbox) (checked : Bool) :
    ∃ d', d.setChecked first checked = .ok d' ∧
      d'.inputSnapshot name = some (if checked then "true" else "false") := by
  obtain ⟨e, he, -⟩ := Option.bind_eq_some_iff.mp hkind
  obtain ⟨d', h, hd'⟩ := setChecked_rewritten (.inl hkind) (lt_size_of_element? he) checked
  have hview := (entered_setChecked (nameOf_head? hfirst) h).controlView
  refine ⟨d', h, ?_⟩
  rw [inputSnapshot_of_first (by rw [controlsNamed_congr hview, hfirst]) ((control?_congr hview first).trans hkind)
    (by decide), hd'.element?, he]
  simp only [Option.map_some, if_true]
  rfl

/-- **A button that is chosen is read from its group,** whatever was chosen before and whichever button is
first: the chosen one is the only one left with the mark. -/
theorem inputSnapshot_of_choice (hfirst : (d.controlsNamed name).head? = some first)
    (hradio : d.control? first = some .radio) (hnode : node ∈ d.controlsNamed name)
    (hkind : d.control? node = some .radio) (hvalue : (d.element? node).map Element.value = some value) :
    ∃ d', d.setChecked node true = .ok d' ∧ d'.inputSnapshot name = some value := by
  obtain ⟨-, hname, -⟩ := mem_controlsNamed.mp hnode
  obtain ⟨e, he, rfl⟩ := Option.map_eq_some_iff.mp hvalue
  obtain ⟨d', h, hd'⟩ := setChecked_rewritten (.inr hkind) (lt_size_of_element? he) true
  have hview := (entered_setChecked hname h).controlView
  have hcontrols := controlsNamed_congr hview name
  refine ⟨d', h, ?_⟩
  rw [inputSnapshot_of_radio (by rw [hcontrols, hfirst]) ((control?_congr hview first).trans hradio)]
  have hchosen : d'.element? node = some (e.withChecked true) := by
    rw [hd'.element?, he]
    simp only [Option.map_some, if_true]
  -- the other buttons of the name have lost the mark
  have hothers : ∀ n ∈ d.controlsNamed name, d.control? n = some .radio → d'.isChecked n = true → n = node := by
    intro n hn hnradio hchecked
    obtain ⟨hdescendant, hnname, -⟩ := mem_controlsNamed.mp hn
    by_contra hne
    have hunmarked : n ∈ d.unmarked node "checked" "true" :=
      mem_unmarked.mpr ⟨⟨rfl, by decide⟩, hne, hdescendant, name, role?_eq_some_iff.mpr ⟨hkind, hname⟩,
        role?_eq_some_iff.mpr ⟨hnradio, hnname⟩⟩
    rw [hd'.isChecked, Option.any_eq_true] at hchecked
    obtain ⟨f, -, hf⟩ := hchecked
    rw [if_neg (Ne.symm hne), if_pos rfl, if_pos hunmarked] at hf
    cases hf
  unfold checkedRadioValue
  split
  · next n hfind =>
    have hfound := List.find?_some hfind
    rw [Bool.and_eq_true, beq_iff_eq, control?_congr hview] at hfound
    have hmem := List.mem_of_find?_eq_some hfind
    rw [hcontrols] at hmem
    obtain rfl := hothers n hmem hfound.1 hfound.2
    rw [hchosen]
    rfl
  · next hfind =>
    have hnone := List.find?_eq_none.mp hfind node (by rwa [hcontrols])
    rw [control?_congr hview, hkind, isChecked, hchosen] at hnone
    exact absurd rfl hnone

end Document

/-! ## Setting and reading -/

namespace Page

variable {p : Page} {name value : String} {first : NodeId} {kind : ControlKind}

theorem radioWith?_eq_none_iff {d : Document} :
    radioWith? d name value = none ↔
      ∀ node ∈ d.controlsNamed name, d.control? node = some .radio →
        (d.element? node).map Element.value ≠ some value := by
  unfold radioWith?
  rw [List.find?_eq_none]
  constructor
  · intro h node hnode hradio hvalue
    refine h node (List.mem_filter.mp hnode).1 ?_
    rw [hradio, hvalue, Bool.and_eq_true]
    exact ⟨rfl, beq_iff_eq.mpr rfl⟩
  · intro h node hnode hboth
    rw [Bool.and_eq_true, beq_iff_eq, beq_iff_eq] at hboth
    refine h node (List.mem_filter.mpr ⟨hnode, ?_⟩) hboth.1 hboth.2
    rw [hboth.1]
    rfl

theorem value_of_radioWith? {d : Document} {node : NodeId} (h : radioWith? d name value = some node) :
    (d.element? node).map Element.value = some value := by
  have hfound := List.find?_some h
  rw [Bool.and_eq_true, beq_iff_eq, beq_iff_eq] at hfound
  exact hfound.2

/-- **The document after a value has been set,** before the event of its control is fired. -/
def Reads (p : Page) (name : String) (shown : String) (answer : Interaction) : Prop :=
  ∃ node d, answer = .ok (p.fireControl d node) ∧ Document.Entered name p.document d ∧
    d.inputSnapshot name = some shown

theorem set_of_text (hfirst : (p.document.controlsNamed name).head? = some first)
    (hkind : p.document.control? first = some kind) (hvalued : kind = .text ∨ kind = .select) :
    p.Reads name value (p.set name value) := by
  have hnamed := Document.controlNamed_of_head? hfirst
  have hname := Document.nameOf_head? hfirst
  obtain ⟨e, he, -⟩ := Option.bind_eq_some_iff.mp hkind
  have hset : p.document.setValue first value = .ok _ := Document.edit_of_lt (Document.lt_size_of_element? he) _
  refine ⟨first, _, ?_, Document.entered_setValue hname hset,
    Document.inputSnapshot_of_setValue hfirst hkind hvalued hset⟩
  have htyped : p.typeText name value = .ok (p.fireControl _ first) :=
    bind_eq_ok_iff.mpr ⟨first, hnamed, bind_eq_ok_iff.mpr ⟨_, hset, rfl⟩⟩
  refine bind_eq_ok_iff.mpr ⟨first, hnamed, ?_⟩
  rw [hkind]
  rcases hvalued with rfl | rfl <;> exact htyped

theorem set_of_checkbox (hfirst : (p.document.controlsNamed name).head? = some first)
    (hkind : p.document.control? first = some .checkbox) :
    p.Reads name (if value == "true" then "true" else "false") (p.set name value) := by
  have hnamed := Document.controlNamed_of_head? hfirst
  have hname := Document.nameOf_head? hfirst
  obtain ⟨d, hset, hshown⟩ := Document.inputSnapshot_of_mark hfirst hkind (value == "true")
  refine ⟨first, d, ?_, Document.entered_setChecked hname hset, hshown⟩
  refine bind_eq_ok_iff.mpr ⟨first, hnamed, ?_⟩
  rw [hkind]
  exact bind_eq_ok_iff.mpr ⟨first, hnamed, bind_eq_ok_iff.mpr ⟨d, hset, rfl⟩⟩

theorem set_of_radio {node : NodeId} (hfirst : (p.document.controlsNamed name).head? = some first)
    (hkind : p.document.control? first = some .radio) (hnode : radioWith? p.document name value = some node) :
    p.Reads name value (p.set name value) := by
  have hnamed := Document.controlNamed_of_head? hfirst
  obtain ⟨hmem, hradio⟩ := mem_of_radioWith? hnode
  have hname := (Document.mem_controlsNamed.mp hmem).2.1
  obtain ⟨d, hset, hshown⟩ :=
    Document.inputSnapshot_of_choice hfirst hkind hmem hradio (value_of_radioWith? hnode)
  refine ⟨node, d, ?_, Document.entered_setChecked hname hset, hshown⟩
  refine bind_eq_ok_iff.mpr ⟨first, hnamed, ?_⟩
  rw [hkind]
  show p.checkRadio name value = _
  unfold checkRadio
  rw [hnode]
  exact bind_eq_ok_iff.mpr ⟨d, hset, rfl⟩

/-- **What setting an input answers with,** by the first control of its name: there may be none, it may be a
radio button of a group that does not have the value, and in all other cases the value is there. -/
theorem set_answers (p : Page) (name value : String) :
    p.document.controlsNamed name = [] ∧ p.set name value = .error (.noControl name) ∨
    ∃ first kind, (p.document.controlsNamed name).head? = some first ∧ p.document.control? first = some kind ∧
      if kind = .radio ∧ radioWith? p.document name value = none then
        p.set name value = .error (.noSuchRadio name value)
      else p.Reads name (kind.reads value) (p.set name value) := by
  cases hcontrols : p.document.controlsNamed name with
  | nil =>
    refine .inl ⟨rfl, ?_⟩
    have hnamed : p.document.controlNamed name = .error (.noControl name) := by
      rw [Document.controlNamed_eq, hcontrols]
      rfl
    unfold set
    rw [hnamed]
    rfl
  | cons first rest =>
    have hfirst : (p.document.controlsNamed name).head? = some first := by rw [hcontrols]; rfl
    have hmem : first ∈ p.document.controlsNamed name := by rw [hcontrols]; exact List.mem_cons_self
    obtain ⟨kind, hkind⟩ := Option.isSome_iff_exists.mp (Document.mem_controlsNamed.mp hmem).2.2
    refine .inr ⟨first, kind, rfl, hkind, ?_⟩
    cases kind with
    | text => exact set_of_text hfirst hkind (.inl rfl)
    | select => exact set_of_text hfirst hkind (.inr rfl)
    | checkbox => exact set_of_checkbox hfirst hkind
    | radio =>
      have hset : p.set name value = p.checkRadio name value := by
        simp only [set, Document.controlNamed_of_head? hfirst, bind, Except.bind, hkind]
      cases hnode : radioWith? p.document name value with
      | some node => exact set_of_radio hfirst hkind hnode
      | none =>
        rw [if_pos ⟨rfl, rfl⟩, hset]
        unfold checkRadio
        rw [hnode]
        rfl

/-- **An input that has been set has its new value, and every other input has its old one.** On any page,
mounted or not, whose directives assign nothing that the values of inputs are read from, setting a name to a
value fails exactly when no control has the name, or when the first one is a radio button and no button of the
name has the value. Otherwise the event of the control has been handled, and the input has the value; only a
checkbox tells no more than whether the value was `true`. -/
theorem inputSnapshot_set (p : Page) (h : p.controller.index.Spares inputAttributes) (name value : String) :
    (∀ e, p.set name value = .error e ↔
      p.document.controlsNamed name = [] ∧ e = .noControl name ∨
      (∃ first, (p.document.controlsNamed name).head? = some first ∧ p.document.control? first = some .radio) ∧
        (∀ node ∈ p.document.controlsNamed name, p.document.control? node = some .radio →
          (p.document.element? node).map Element.value ≠ some value) ∧
        e = .noSuchRadio name value) ∧
    ∀ q report, p.set name value = .ok (q, report) →
      (∃ first kind, (p.document.controlsNamed name).head? = some first ∧
        p.document.control? first = some kind ∧
        q.document.inputSnapshot name =
          some (if kind = .checkbox then (if value == "true" then "true" else "false") else value)) ∧
      ∀ other, other ≠ name → q.document.inputSnapshot other = p.document.inputSnapshot other := by
  rcases p.set_answers name value with ⟨hnone, hset⟩ | ⟨first, kind, hfirst, hkind, hset⟩
  · -- no control: that is what is answered, and there is no first control for any other error
    refine ⟨fun e => ?_, fun q report hok => nomatch hset.symm.trans hok⟩
    rw [hset, hnone]
    simp [eq_comm]
  · have hsome : p.document.controlsNamed name ≠ [] := fun hnil => by
      rw [hnil] at hfirst
      cases hfirst
    simp only [hsome, false_and, false_or, hfirst, Option.some.injEq, exists_eq_left', hkind,
      ← radioWith?_eq_none_iff]
    by_cases hmissing : kind = .radio ∧ radioWith? p.document name value = none
    · rw [if_pos hmissing] at hset
      refine ⟨fun e => ?_, fun q report hok => nomatch hset.symm.trans hok⟩
      rw [hset]
      simp [hmissing, eq_comm]
    · rw [if_neg hmissing] at hset
      obtain ⟨node, d, hanswer, hentered, hshown⟩ := hset
      refine ⟨fun e => ⟨fun herror => (nomatch hanswer.symm.trans herror),
        fun hrefused => absurd ⟨hrefused.1, hrefused.2.1⟩ hmissing⟩, fun q report hok => ?_⟩
      -- what has been entered is not touched by the event that follows
      obtain rfl : (p.fireControl d node).1 = q := congrArg Prod.fst (Except.ok.inj (hanswer.symm.trans hok))
      have hvalues : (p.fireControl d node).1.document.inputSnapshot = d.inputSnapshot :=
        congrArg ValueSource.valueOf (Document.values_congr (Controller.inputView_handleEvent h d node _))
      refine ⟨⟨first, kind, rfl, hkind, ?_⟩, fun other hne => ?_⟩
      · rw [hvalues, hshown]
        cases kind <;> rfl
      · rw [hvalues]
        exact hentered.inputSnapshot hne

/-- A form with a group of radio buttons that has a checkbox among them and a value twice, and a paragraph that
follows the group. -/
def motley : Document :=
  .form [.ofAttributes "input" [("type", "radio"), ("name", "plan"), ("value", "free"), ("checked", "")],
    .ofAttributes "input" [("type", "checkbox"), ("name", "plan"), ("value", "pro"), ("checked", "")],
    .ofAttributes "input" [("type", "radio"), ("name", "plan"), ("value", "pro")],
    .ofAttributes "input" [("type", "radio"), ("name", "plan"), ("value", "pro"), ("checked", "")],
    .ofAttributes "p" [("data-if", "plan==pro ? class='bold' : class=''"), ("data-show", "plan!=free")]]

/-- The mounted form takes the value that two of the buttons have and refuses the one that only the checkbox
could have. -/
theorem inputSnapshot_set_motley :
    (mounted motley {}).controller.index.Spares inputAttributes ∧
      (∃ q report, (mounted motley {}).set "plan" "pro" = .ok (q, report) ∧
        q.document.inputSnapshot "plan" = some "pro" ∧
        q.document.inputSnapshot "seats" = (mounted motley {}).document.inputSnapshot "seats") ∧
      (mounted motley {}).set "plan" "true" = .error (.noSuchRadio "plan" "true") := by
  have hspares : (mounted motley {}).controller.index.Spares inputAttributes := by decide +kernel
  obtain ⟨-, hread⟩ := inputSnapshot_set (mounted motley {}) hspares "plan" "pro"
  obtain ⟨hfails, -⟩ := inputSnapshot_set (mounted motley {}) hspares "plan" "true"
  obtain ⟨⟨q, report⟩, hok, -⟩ := exists_ok_of_any (x := (mounted motley {}).set "plan" "pro")
    (P := fun _ => True) (by decide +kernel)
  obtain ⟨⟨first, kind, hfirst, hkind, hvalue⟩, hothers⟩ := hread q report hok
  have hradio : (mounted motley {}).document.control? ⟨1⟩ = some .radio := by decide +kernel
  have hhead : ((mounted motley {}).document.controlsNamed "plan").head? = some ⟨1⟩ := by decide +kernel
  obtain rfl := Option.some.inj (hhead.symm.trans hfirst)
  obtain rfl := Option.some.inj (hradio.symm.trans hkind)
  exact ⟨hspares, ⟨q, report, hok, hvalue, hothers "seats" (by decide)⟩,
    (hfails _).mpr (.inr ⟨⟨_, hhead, hradio⟩, by decide +kernel, rfl⟩)⟩

end Page

end ReactiveForm
