import ReactiveForm.Proofs.Binding.Interaction

/-!
# `ReactiveForm.Proofs.Binding.Setting` — setting an input that has one control

An input with one control is set by giving that control a value and a state. Which ones is known from
the control alone, before anything is done: a text field and a selection take the value, a checkbox takes
the mark when the value is `true`, and a radio button takes it when the value is its own.

## Contents
- `Element.withState` and `Document.setting?`, what setting an input comes to.
- `Page.set_of_setting?`, `Page.set_of_no_setting?`: `Page.set` does just that, or fails.
- `Document.setting?_congr`, setting an input is a question of its own control.
-/

namespace ReactiveForm

theorem eq_singleton_of_head? {α : Type} {l : List α} {a : α} (hlen : l.length ≤ 1)
    (h : l.head? = some a) : l = [a] := by
  obtain ⟨rest, rfl⟩ := List.head?_eq_some_iff.mp h
  rw [List.length_cons] at hlen
  rw [List.length_eq_zero_iff.mp (Nat.le_zero.mp (Nat.le_of_succ_le_succ hlen))]

/-- The element with another value and another state. -/
def Element.withState (e : Element) (state : String × Bool) : Element :=
  { e with value := state.1, checked := state.2 }

/-- The value and the state that a control gets when it is set to a value. -/
def Element.settled (e : Element) (value : String) : ControlKind → Option (String × Bool)
  | .radio => if e.value = value then some (e.value, true) else none
  | .checkbox => some (e.value, value == "true")
  | .text => some (value, e.checked)
  | .select => some (value, e.checked)

namespace Document

variable {d d' : Document} {name value : String} {node : NodeId} {state : String × Bool}

/-- What setting an input comes to, by its first control. -/
def setting? (d : Document) (name value : String) : Option (NodeId × String × Bool) := do
  let node ← (d.controlsNamed name).head?
  let e ← d.element? node
  let kind ← e.control?
  let state ← e.settled value kind
  return (node, state)

theorem setting?_eq_some_iff :
    d.setting? name value = some (node, state) ↔
      (d.controlsNamed name).head? = some node ∧ ∃ e, d.element? node = some e ∧
        ∃ kind, e.control? = some kind ∧ e.settled value kind = some state := by
  unfold setting?
  simp only [Option.bind_eq_bind, Option.bind_eq_some_iff, Option.pure_def, Option.some.injEq,
    Prod.mk.injEq]
  constructor
  · rintro ⟨n, hn, e, he, kind, hkind, s, hs, rfl, rfl⟩
    exact ⟨hn, e, he, kind, hkind, hs⟩
  · rintro ⟨hn, e, he, kind, hkind, hs⟩
    exact ⟨node, hn, e, he, kind, hkind, state, hs, rfl, rfl⟩

theorem mem_of_setting? (h : d.setting? name value = some (node, state)) :
    node ∈ d.controlsNamed name :=
  List.mem_of_mem_head? (Option.mem_def.mpr (setting?_eq_some_iff.mp h).1)

/-- **Setting an input is a question of its own control.** -/
theorem setting?_congr (h : d.view Element.controlPart = d'.view Element.controlPart)
    (hin : ∀ node ∈ d.controlsNamed name,
      (d.element? node).map Element.inputPart = (d'.element? node).map Element.inputPart)
    (value : String) : d.setting? name value = d'.setting? name value := by
  unfold setting?
  rw [← controlsNamed_congr h]
  cases hhead : (d.controlsNamed name).head? with
  | none => rfl
  | some node =>
    have hn := hin node (List.mem_of_mem_head? (Option.mem_def.mpr hhead))
    refine bind_element?_congr hn fun e e' he => ?_
    have hsettled : e.settled value = e'.settled value := by
      have hv : e.value = e'.value := congrArg Element.InputPart.value he
      have hc : e.checked = e'.checked := congrArg Element.InputPart.checked he
      funext kind
      cases kind <;> simp only [Element.settled, hv, hc]
    rw [Element.control?_congr (Element.controlPart_of_inputPart he), hsettled]

theorem setting?_of_inputView (h : d.view Element.inputPart = d'.view Element.inputPart)
    (name value : String) : d.setting? name value = d'.setting? name value :=
  setting?_congr (controlView_of_inputView h) (fun node _ => map_element?_of_view h node) value

/-- Entering one input does not change what setting another one comes to. -/
theorem Entered.setting? {other : String} (h : Entered other d d') (hne : name ≠ other)
    (value : String) : d'.setting? name value = d.setting? name value := by
  refine setting?_congr h.controlView (fun node hnode => ?_) value
  obtain ⟨-, hname, -⟩ := mem_controlsNamed.mp hnode
  rw [h.attribute?] at hname
  rw [h.others node fun ho => hne (Option.some.inj (hname.symm.trans ho))]

theorem modify_congr {f g : Element → Element} (h : ∀ e, d.element? node = some e → f e = g e) :
    d.modify node f = d.modify node g := by
  unfold modify
  congr 1
  refine List.ext_getElem? fun k => ?_
  rw [List.getElem?_modify, List.getElem?_modify]
  by_cases hk : node.index = k
  · subst hk
    cases he : d.elements[node.index]? with
    | none => rfl
    | some e => simp [h e he]
  · simp [hk]

/-- Edits of different nodes can be made in either order. -/
theorem modify_comm {m n : NodeId} (h : m ≠ n) {f g : Element → Element} :
    (d.modify m f).modify n g = (d.modify n g).modify m f := by
  have hk : m.index ≠ n.index := by
    intro hk
    cases m
    cases n
    exact h (congrArg NodeId.mk hk)
  unfold modify
  congr 1
  exact List.modify_modify_ne f g d.elements hk

/-- Giving a node a value and a state looks the same wherever the inputs look the same. -/
theorem inputView_withState_congr (h : d.view Element.inputPart = d'.view Element.inputPart)
    (node : NodeId) (state : String × Bool) :
    (d.modify node (·.withState state)).view Element.inputPart =
      (d'.modify node (·.withState state)).view Element.inputPart := by
  have htree : d.tree = d'.tree := tree_eq_of_view h
  refine view_eq_iff.mpr ⟨htree, fun other => ?_⟩
  have hother := map_element?_of_view h other
  rw [element?_modify, element?_modify]
  by_cases hn : node = other
  · rw [if_pos hn, if_pos hn, Option.map_map, Option.map_map]
    have hmap := congrArg
      (Option.map fun part : Element.InputPart => { part with value := state.1, checked := state.2 }) hother
    rw [Option.map_map, Option.map_map] at hmap
    exact hmap
  · rw [if_neg hn, if_neg hn]
    exact hother

/-- The only control of a name has no other radio buttons to unmark. -/
theorem otherRadios_of_single (hone : d.controlsNamed name = [node])
    (hname : d.attribute? node "name" = some name) : d.otherRadios node = [] := by
  unfold otherRadios
  rw [hname]
  refine List.filter_eq_nil_iff.mpr fun other hother h => ?_
  obtain ⟨hne, hradio⟩ := Bool.and_eq_true_iff.mp h
  have hmem : other ∈ d.controlsNamed name := by
    refine List.mem_filter.mpr ⟨hother, ?_⟩
    rw [beq_iff_eq.mp hradio]
    rfl
  rw [hone] at hmem
  exact bne_iff_ne.mp hne (List.mem_singleton.mp hmem)

theorem entered_withState (hn : d.attribute? node "name" = some name) (state : String × Bool) :
    Entered name d (d.modify node (·.withState state)) :=
  entered_modify hn fun _ => rfl

end Document

namespace Page

variable {p : Page} {name value : String} {node : NodeId} {state : String × Bool}

/-- The only control of a name is the radio button of a value, if it is one and has the value. -/
theorem radioWith?_of_single {d : Document} {e : Element} (hone : d.controlsNamed name = [node])
    (hradio : d.control? node = some .radio) (he : d.element? node = some e) :
    radioWith? d name value = if e.value = value then some node else none := by
  have hmem : node ∈ d.named name := by
    have hn : node ∈ d.controlsNamed name := by
      rw [hone]
      exact List.mem_cons_self
    exact (List.mem_filter.mp hn).1
  cases hfound : radioWith? d name value with
  | none =>
    have hnot := List.find?_eq_none.mp hfound node hmem
    rw [hradio, he] at hnot
    rw [if_neg]
    intro hv
    exact hnot (by simp [hv])
  | some other =>
    have hother := (mem_of_radioWith? hfound).1
    rw [hone] at hother
    obtain rfl : other = node := List.mem_singleton.mp hother
    have hsat := List.find?_some hfound
    rw [hradio, he] at hsat
    rw [if_pos (by simpa using hsat)]

/-- **Setting an input with one control** gives it the value and the state that are due, and fires its
event. -/
theorem set_of_setting? (hsingle : (p.document.controlsNamed name).length ≤ 1)
    (h : p.document.setting? name value = some (node, state)) :
    p.set name value = .ok (p.fireControl (p.document.modify node (·.withState state)) node) := by
  obtain ⟨hhead, e, he, kind, hkind, hstate⟩ := Document.setting?_eq_some_iff.mp h
  have hn := Document.mem_of_setting? h
  have hone := eq_singleton_of_head? hsingle hhead
  have hname := (Document.mem_controlsNamed.mp hn).2.1
  have hlt := Document.lt_size_of_element? he
  have hcontrol : p.document.control? node = some kind := by
    unfold Document.control?
    rw [he]
    exact hkind
  have hnamed : p.document.controlNamed name = .ok node := by
    rw [Document.controlNamed_eq, hhead]
  -- whatever the kind of the control, setting it comes to one edit of its element
  have hedit : ∀ f : Element → Element, f e = e.withState state →
      p.document.edit node f = .ok (p.document.modify node (·.withState state)) := by
    intro f hf
    rw [Document.edit_of_lt hlt, Document.modify_congr]
    intro e' he'
    rw [he] at he'
    rw [← Option.some.inj he', hf]
  unfold set
  refine bind_eq_ok_iff.mpr ⟨node, hnamed, ?_⟩
  rw [hcontrol]
  cases kind with
  | text | select =>
    rw [← Option.some.inj hstate] at hedit ⊢
    exact bind_eq_ok_iff.mpr ⟨node, hnamed, bind_eq_ok_iff.mpr ⟨_, hedit _ rfl, rfl⟩⟩
  | checkbox =>
    rw [← Option.some.inj hstate] at hedit ⊢
    refine bind_eq_ok_iff.mpr ⟨node, hnamed, bind_eq_ok_iff.mpr ⟨_, ?_, rfl⟩⟩
    unfold Document.setChecked
    rw [hcontrol]
    exact hedit _ rfl
  | radio =>
    obtain ⟨hvalue, hs⟩ := Option.ite_none_right_eq_some.mp hstate
    rw [← Option.some.inj hs] at hedit ⊢
    show p.checkRadio name value = _
    unfold checkRadio
    rw [radioWith?_of_single hone hcontrol he, if_pos hvalue]
    refine bind_eq_ok_iff.mpr ⟨_, ?_, rfl⟩
    unfold Document.setChecked
    rw [hcontrol]
    simp only [if_true, Document.otherRadios_of_single hone hname, List.foldl_nil]
    exact hedit _ rfl

/-- **Otherwise it fails.** -/
theorem set_of_no_setting? (hsingle : (p.document.controlsNamed name).length ≤ 1)
    (h : p.document.setting? name value = none) : ∃ e, p.set name value = .error e := by
  cases hhead : (p.document.controlsNamed name).head? with
  | none =>
    have hnamed : p.document.controlNamed name = .error (.noControl name) := by
      rw [Document.controlNamed_eq, hhead]
    refine ⟨.noControl name, ?_⟩
    unfold set
    rw [hnamed]
    rfl
  | some node =>
    have hn := List.mem_of_mem_head? (Option.mem_def.mpr hhead)
    have hone := eq_singleton_of_head? hsingle hhead
    obtain ⟨kind, hcontrol⟩ := Option.isSome_iff_exists.mp (Document.mem_controlsNamed.mp hn).2.2
    obtain ⟨e, he, hkind⟩ := Option.bind_eq_some_iff.mp hcontrol
    have hnamed : p.document.controlNamed name = .ok node := by
      rw [Document.controlNamed_eq, hhead]
    have hsettled : e.settled value kind = none := by
      refine Option.eq_none_iff_forall_ne_some.mpr fun state hstate => ?_
      rw [Document.setting?_eq_some_iff.mpr ⟨hhead, e, he, kind, hkind, hstate⟩] at h
      cases h
    cases kind with
    | text | select | checkbox => cases hsettled
    | radio =>
      have hvalue : ¬ e.value = value := fun hv => by
        rw [Element.settled, if_pos hv] at hsettled
        cases hsettled
      refine ⟨.noSuchRadio name value, ?_⟩
      unfold set
      simp only [hnamed, hcontrol, bind, Except.bind]
      unfold checkRadio
      rw [radioWith?_of_single hone hcontrol he, if_neg hvalue]
      rfl

end Page

end ReactiveForm
