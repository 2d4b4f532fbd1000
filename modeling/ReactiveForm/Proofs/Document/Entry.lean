import ReactiveForm.Proofs.Document.View

/-!
# `ReactiveForm.Proofs.Document.Entry` — what entering an input changes

A user enters a value by way of a control: a text is typed, a box is checked, a radio button takes the
mark from the rest of its group. All of this stays within the elements of one name, and changes nothing
of them but their values and states.

## Contents
- `Document.mem_controlsNamed` and `controlNamed_eq`, the controls of a name.
- `Document.Entered`, a change of one input, with `entered_setValue` and `entered_setChecked`.
- `Entered.inputSnapshot` and `Differs`, no other input is concerned.
-/

namespace ReactiveForm

namespace Document

variable {d d' : Document} {name : String}

/-! ## Controls of a name -/

theorem mem_named {node : NodeId} :
    node ∈ d.named name ↔ node ∈ d.descendants ∧ d.attribute? node "name" = some name := by
  unfold named attribute?
  rw [mem_select, Option.bind_eq_some_iff]
  simp only [beq_iff_eq]

theorem mem_controlsNamed {node : NodeId} :
    node ∈ d.controlsNamed name ↔
      node ∈ d.descendants ∧ d.attribute? node "name" = some name ∧
        (d.control? node).isSome = true := by
  unfold controlsNamed
  rw [List.mem_filter, mem_named, and_assoc]

/-- The name of a control is listed. -/
theorem mem_inputNames {node : NodeId} (h : node ∈ d.controlsNamed name) : name ∈ d.inputNames := by
  obtain ⟨hnode, hname, hcontrol⟩ := mem_controlsNamed.mp h
  unfold inputNames
  refine List.mem_eraseDups.mpr (List.mem_filterMap.mpr ⟨node, ?_, ?_⟩)
  · obtain ⟨e, he, hvalue⟩ := Option.bind_eq_some_iff.mp hname
    unfold withAttribute
    rw [if_neg (by decide)]
    refine mem_select.mpr ⟨hnode, e, he, ?_⟩
    show (e.attribute? "name").isSome = true
    rw [hvalue]
    rfl
  · rw [if_pos hcontrol]
    exact hname

/-- The control of a name is the first that has it. -/
theorem controlNamed_eq (d : Document) (name : String) :
    d.controlNamed name =
      match (d.controlsNamed name).head? with
      | some node => .ok node
      | none => .error (.noControl name) := by
  have hhead : (d.controlsNamed name).head? =
      (d.named name).find? fun node => (d.control? node).isSome := List.head?_filter
  cases hfind : (d.controlsNamed name).head? with
  | none =>
    unfold controlNamed
    rw [← hhead, hfind]
  | some node =>
    unfold controlNamed
    rw [← hhead, hfind]

theorem mem_of_controlNamed {node : NodeId} (h : d.controlNamed name = .ok node) :
    node ∈ d.controlsNamed name := by
  rw [controlNamed_eq] at h
  split at h
  · next heq =>
    rw [← Except.ok.inj h]
    exact List.mem_of_mem_head? (Option.mem_def.mpr heq)
  · cases h

end Document

/-! ## Entering -/

/-- An element without the value and the state that a user gives it. -/
def Element.stateless (e : Element) : Element := { e with value := "", checked := false }

theorem Element.stateless_congr {e e' : Element} (h : e.stateless = e'.stateless) :
    e.tag = e'.tag ∧ e.attributes = e'.attributes ∧ e.classes = e'.classes ∧ e.text = e'.text := by
  have ht := congrArg Element.tag h
  have ha := congrArg Element.attributes h
  have hc := congrArg Element.classes h
  have hx := congrArg Element.text h
  exact ⟨ht, ha, hc, hx⟩

namespace Document

/-- **An input has been entered:** nothing but values and states of elements of its name is new. -/
structure Entered (name : String) (d d' : Document) : Prop where
  stateless : d'.view Element.stateless = d.view Element.stateless
  others : ∀ node, d.attribute? node "name" ≠ some name → d'.element? node = d.element? node
  listeners : d'.listeners = d.listeners

variable {d d' d'' : Document} {name : String}

namespace Entered

theorem refl (name : String) (d : Document) : Entered name d d := ⟨rfl, fun _ _ => rfl, rfl⟩

/-- Whatever is read from the tag, the attributes, the classes and the text is as before. -/
theorem view {α : Type} (h : Entered name d d') {π : Element → α}
    (hπ : ∀ e e', e.stateless = e'.stateless → π e = π e') : d'.view π = d.view π :=
  view_of_view h.stateless hπ

theorem controlView (h : Entered name d d') :
    d'.view Element.controlPart = d.view Element.controlPart := by
  refine h.view fun e e' he => ?_
  obtain ⟨ht, ha, -, -⟩ := Element.stateless_congr he
  unfold Element.controlPart Element.attribute?
  rw [ht, ha]

theorem attribute? (h : Entered name d d') (node : NodeId) (key : String) :
    d'.attribute? node key = d.attribute? node key := by
  refine bind_element?_congr (map_element?_of_view h.stateless node) fun e e' he => ?_
  unfold Element.attribute?
  rw [(Element.stateless_congr he).2.1]

theorem hasClass (h : Entered name d d') (node : NodeId) (c : String) :
    d'.hasClass node c = d.hasClass node c := by
  refine any_element?_congr (map_element?_of_view h.stateless node) fun e e' he => ?_
  unfold Element.hasClass
  rw [(Element.stateless_congr he).2.2.1]

theorem trans (h : Entered name d d') (h' : Entered name d' d'') : Entered name d d'' where
  stateless := h'.stateless.trans h.stateless
  others node hn := by
    rw [h'.others node (by rwa [h.attribute?]), h.others node hn]
  listeners := h'.listeners.trans h.listeners

/-- **No other input is concerned.** -/
theorem inputSnapshot (h : Entered name d d') {other : String} (hne : other ≠ name) :
    d'.inputSnapshot other = d.inputSnapshot other := by
  refine inputSnapshot_congr h.controlView fun node hnode => ?_
  obtain ⟨-, hname, -⟩ := mem_controlsNamed.mp hnode
  rw [h.attribute?] at hname
  rw [h.others node fun hn => hne (Option.some.inj (hname.symm.trans hn))]

end Entered

/-- **Documents that differ in one input:** they have the same controls, and all other inputs have the
same values. -/
structure Differs (name : String) (d d' : Document) : Prop where
  controls : d.view Element.controlPart = d'.view Element.controlPart
  others : ∀ other, other ≠ name → d.inputSnapshot other = d'.inputSnapshot other

theorem Entered.differs (h : Entered name d d') : Differs name d d' :=
  ⟨h.controlView.symm, fun _ hne => (h.inputSnapshot hne).symm⟩

theorem entered_modify {node : NodeId} {f : Element → Element}
    (hn : d.attribute? node "name" = some name) (hf : ∀ e, (f e).stateless = e.stateless) :
    Entered name d (d.modify node f) where
  stateless := view_modify hf d node
  others other hother := by
    rw [element?_modify, if_neg]
    rintro rfl
    exact hother hn
  listeners := rfl

theorem entered_setValue {node : NodeId} {value : String}
    (hn : d.attribute? node "name" = some name) (h : d.setValue node value = .ok d') :
    Entered name d d' := by
  obtain ⟨-, rfl⟩ := edit_eq_ok_iff.mp h
  exact entered_modify hn fun _ => rfl

/-- The rest of a radio group is unmarked one button after the other. -/
theorem entered_uncheck {others : List NodeId}
    (hn : ∀ node ∈ others, d.attribute? node "name" = some name) :
    Entered name d (others.foldl (fun d other => d.modify other (·.withChecked false)) d) := by
  induction others generalizing d with
  | nil => exact .refl name d
  | cons node rest ih =>
    have hfirst : Entered name d (d.modify node (·.withChecked false)) :=
      entered_modify (hn node List.mem_cons_self) fun _ => rfl
    refine hfirst.trans (ih fun other hother => ?_)
    rw [hfirst.attribute?]
    exact hn other (List.mem_cons_of_mem _ hother)

theorem entered_setChecked {node : NodeId} {checked : Bool}
    (hn : d.attribute? node "name" = some name) (h : d.setChecked node checked = .ok d') :
    Entered name d d' := by
  unfold setChecked at h
  split at h
  · obtain ⟨-, rfl⟩ := edit_eq_ok_iff.mp h
    exact entered_modify hn fun _ => rfl
  · obtain ⟨-, rfl⟩ := edit_eq_ok_iff.mp h
    -- the rest of the group is unmarked first, and it has the same name
    have hgroup : ∀ other ∈ if checked then d.otherRadios node else [],
        d.attribute? other "name" = some name := by
      intro other hother
      cases checked with
      | false => cases hother
      | true =>
        unfold otherRadios at hother
        rw [if_pos rfl, hn] at hother
        exact (mem_named.mp (List.mem_filter.mp hother).1).2
    have hrest := entered_uncheck hgroup
    exact hrest.trans (entered_modify (by rwa [hrest.attribute?]) fun _ => rfl)
  · cases h

end Document

end ReactiveForm
