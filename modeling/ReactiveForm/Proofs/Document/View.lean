import ReactiveForm.Document.Snapshot

/-!
# `ReactiveForm.Proofs.Document.View` — documents seen through a part of their elements

Most questions to a document look at little of it. The controls of a name are found by tags, types and
names; the value of an input also needs the values and the states of controls; nothing of this looks at
a class or a text. The part that a question looks at is a function `π` on elements, and `d.view π` is
all that can be known of `d` through it. Two documents with the same view then give the same answer,
and an edit that `π` does not see leaves the view as it is.

## Contents
- `Document.view`, with `view_eq_iff` and `view_modify`.
- `Element.role?`, `Element.controlPart` and `Element.inputPart`, what controls and their values are read
  from.
- `controlsNamed_of_roles`, `inputNames_of_roles`, `inputSnapshot_of_roles`: answers that need the roles.
- `control?_congr`, `controlsNamed_congr`, `inputNames_congr`: answers that need the control part.
- `inputSnapshot_congr` and `values_congr`: answers that need the input part.
-/

namespace ReactiveForm

namespace Document

/-! ## Existing nodes -/

theorem isSome_element?_iff {d : Document} {node : NodeId} :
    (d.element? node).isSome = true ↔ node.index < d.tree.size := by
  unfold element?
  rw [← d.complete]
  simp

theorem lt_size_of_element? {d : Document} {node : NodeId} {e : Element}
    (h : d.element? node = some e) : node.index < d.tree.size :=
  isSome_element?_iff.mp (by rw [h]; rfl)

theorem lt_size_of_attribute? {d : Document} {node : NodeId} {name value : String}
    (h : d.attribute? node name = some value) : node.index < d.tree.size := by
  obtain ⟨e, he, -⟩ := Option.bind_eq_some_iff.mp h
  exact lt_size_of_element? he

theorem mem_select {d : Document} {p : Element → Bool} {node : NodeId} :
    node ∈ d.select p ↔ node ∈ d.descendants ∧ ∃ e, d.element? node = some e ∧ p e = true := by
  unfold select
  rw [List.mem_filter, Option.any_eq_true]

/-! ## Views -/

variable {α β : Type}

/-- All that can be known of a document through a part of its elements. -/
def view (d : Document) (π : Element → α) : Tree × List α := (d.tree, d.elements.map π)

variable {π : Element → α} {d d' : Document}

theorem tree_eq_of_view (h : d.view π = d'.view π) : d.tree = d'.tree := (Prod.ext_iff.mp h).1

theorem map_element?_of_view (h : d.view π = d'.view π) (node : NodeId) :
    (d.element? node).map π = (d'.element? node).map π := by
  have hmap : d.elements.map π = d'.elements.map π := (Prod.ext_iff.mp h).2
  unfold element?
  rw [← List.getElem?_map, ← List.getElem?_map, hmap]

/-- **Views are compared node by node.** -/
theorem view_eq_iff :
    d.view π = d'.view π ↔
      d.tree = d'.tree ∧ ∀ node, (d.element? node).map π = (d'.element? node).map π := by
  refine ⟨fun h => ⟨tree_eq_of_view h, map_element?_of_view h⟩, fun ⟨ht, he⟩ => ?_⟩
  refine Prod.ext ht (List.ext_getElem? fun k => ?_)
  show (d.elements.map π)[k]? = (d'.elements.map π)[k]?
  rw [List.getElem?_map, List.getElem?_map]
  exact he ⟨k⟩

/-- Whatever sees less does not tell the documents apart either. -/
theorem view_of_view (h : d.view π = d'.view π) {ρ : Element → β}
    (hρ : ∀ e e', π e = π e' → ρ e = ρ e') : d.view ρ = d'.view ρ := by
  refine view_eq_iff.mpr ⟨tree_eq_of_view h, fun node => ?_⟩
  have hn := map_element?_of_view h node
  cases he : d.element? node with
  | none =>
    rw [he, Option.map_none, eq_comm, Option.map_eq_none_iff] at hn
    rw [hn]
  | some e =>
    rw [he, Option.map_some, eq_comm, Option.map_eq_some_iff] at hn
    obtain ⟨e', he', hee⟩ := hn
    rw [he', Option.map_some, Option.map_some, hρ e e' hee.symm]

/-- A question to the element of a node has one answer for all elements that look the same. -/
theorem bind_element?_congr {node : NodeId}
    (h : (d.element? node).map π = (d'.element? node).map π) {q : Element → Option β}
    (hq : ∀ e e', π e = π e' → q e = q e') : (d.element? node).bind q = (d'.element? node).bind q := by
  cases he : d.element? node with
  | none =>
    rw [he, Option.map_none, eq_comm, Option.map_eq_none_iff] at h
    rw [h]
  | some e =>
    rw [he, Option.map_some, eq_comm, Option.map_eq_some_iff] at h
    obtain ⟨e', he', hee⟩ := h
    rw [he', Option.bind_some, Option.bind_some, hq e e' hee.symm]

theorem any_element?_congr {node : NodeId}
    (h : (d.element? node).map π = (d'.element? node).map π) {p : Element → Bool}
    (hp : ∀ e e', π e = π e' → p e = p e') : (d.element? node).any p = (d'.element? node).any p := by
  have hb := bind_element?_congr h (q := fun e => some (p e)) fun e e' he => congrArg some (hp e e' he)
  have key : ∀ o : Option Element, o.any p = (o.bind fun e => some (p e)).getD false := by
    intro o
    cases o <;> rfl
  rw [key, key, hb]

theorem select_congr (h : d.view π = d'.view π) {p : Element → Bool}
    (hp : ∀ e e', π e = π e' → p e = p e') : d.select p = d'.select p := by
  unfold select descendants
  rw [tree_eq_of_view h]
  refine List.filter_congr fun node _ => ?_
  exact any_element?_congr (map_element?_of_view h node) hp

/-- **An edit that is not seen changes no view.** -/
theorem view_modify {f : Element → Element} (h : ∀ e, π (f e) = π e) (d : Document)
    (node : NodeId) : (d.modify node f).view π = d.view π := by
  refine view_eq_iff.mpr ⟨rfl, fun other => ?_⟩
  rw [element?_modify]
  split
  · rw [Option.map_map]
    exact congrArg (Option.map · _) (funext h)
  · rfl

/-! ## Edits -/

theorem edit_eq_ok_iff {node : NodeId} {f : Element → Element} :
    d.edit node f = .ok d' ↔ node.index < d.tree.size ∧ d' = d.modify node f := by
  unfold edit
  split
  · next h => simp [h, eq_comm]
  · next h => simp [h]

theorem edit_of_lt {node : NodeId} (h : node.index < d.tree.size) (f : Element → Element) :
    d.edit node f = .ok (d.modify node f) := if_pos h

theorem modify_modify (node : NodeId) (f g : Element → Element) :
    (d.modify node f).modify node g = d.modify node (g ∘ f) := by
  unfold modify
  congr 1
  exact List.modify_modify_eq f g node.index d.elements

theorem modify_id (node : NodeId) : d.modify node id = d := by
  unfold modify
  congr 1
  exact List.modify_id node.index d.elements

end Document

/-! ## What controls are read from -/

/-- The part of an element that tells whether it is a control, of which kind and of which input. -/
structure Element.ControlPart where
  tag : String
  name : Option String
  type : Option String

/-- The control part of an element. -/
def Element.controlPart (e : Element) : ControlPart :=
  ⟨e.tag, e.attribute? "name", e.attribute? "type"⟩

/-- The role of a control: its kind, and the input that it is a control of. -/
def Element.role? (e : Element) : Option (ControlKind × Option String) :=
  e.control?.map fun kind => (kind, e.attribute? "name")

/-- The part of an element that the values of inputs are read from. -/
structure Element.InputPart where
  control : ControlPart
  value : String
  checked : Bool

/-- The input part of an element. -/
def Element.inputPart (e : Element) : InputPart := ⟨e.controlPart, e.value, e.checked⟩

namespace Element

variable {e e' : Element}

theorem controlPart_of_inputPart (h : e.inputPart = e'.inputPart) :
    e.controlPart = e'.controlPart := congrArg InputPart.control h

theorem control?_congr (h : e.controlPart = e'.controlPart) : e.control? = e'.control? := by
  have ht : e.tag = e'.tag := congrArg ControlPart.tag h
  have hy : e.attribute? "type" = e'.attribute? "type" := congrArg ControlPart.type h
  unfold control?
  rw [ht, hy]

theorem role?_congr (h : e.controlPart = e'.controlPart) : e.role? = e'.role? := by
  have hn : e.attribute? "name" = e'.attribute? "name" := congrArg ControlPart.name h
  unfold role?
  rw [control?_congr h, hn]

theorem control?_of_role? (e : Element) : e.control? = e.role?.map Prod.fst := by
  unfold role?
  rw [Option.map_map]
  exact Option.map_id'.symm

theorem snapshot_congr (h : e.inputPart = e'.inputPart) (kind : ControlKind) :
    e.snapshot kind = e'.snapshot kind := by
  have hv : e.value = e'.value := congrArg InputPart.value h
  have hc : e.checked = e'.checked := congrArg InputPart.checked h
  cases kind <;> simp only [snapshot, hv, hc]

end Element

namespace Document

variable {d d' : Document}

theorem controlView_of_inputView (h : d.view Element.inputPart = d'.view Element.inputPart) :
    d.view Element.controlPart = d'.view Element.controlPart :=
  view_of_view h fun _ _ => Element.controlPart_of_inputPart

theorem roleView_of_controlView (h : d.view Element.controlPart = d'.view Element.controlPart) :
    d.view Element.role? = d'.view Element.role? :=
  view_of_view h fun _ _ => Element.role?_congr

/-! ### Answers that need the roles of controls -/

/-- The role of the control at a node. -/
def role? (d : Document) (node : NodeId) : Option (ControlKind × Option String) :=
  (d.element? node).bind Element.role?

theorem control?_eq_role? (d : Document) (node : NodeId) :
    d.control? node = (d.role? node).map Prod.fst := by
  unfold control? role?
  cases d.element? node with
  | none => rfl
  | some e => exact e.control?_of_role?

theorem role?_eq_some_iff {d : Document} {node : NodeId} {kind : ControlKind} {name : Option String} :
    d.role? node = some (kind, name) ↔
      d.control? node = some kind ∧ d.attribute? node "name" = name := by
  unfold role? control? attribute? Element.role?
  cases d.element? node with
  | none => simp
  | some e =>
    show (e.control?.map fun kind => (kind, e.attribute? "name")) = some (kind, name) ↔
      e.control? = some kind ∧ e.attribute? "name" = name
    cases e.control? <;> simp

/-- A control is one of the document. -/
theorem lt_size_of_role? {d : Document} {node : NodeId} {role : ControlKind × Option String}
    (h : d.role? node = some role) : node.index < d.tree.size := by
  obtain ⟨e, he, -⟩ := Option.bind_eq_some_iff.mp h
  exact lt_size_of_element? he

/-- Documents of one shape with the same controls look the same in the roles. -/
theorem roleView_of_role? {d d' : Document} (htree : d.tree = d'.tree)
    (h : ∀ node, d.role? node = d'.role? node) : d.view Element.role? = d'.view Element.role? := by
  refine view_eq_iff.mpr ⟨htree, fun node => ?_⟩
  have hnode := h node
  unfold role? at hnode
  have hsome : (d.element? node).isSome = true ↔ (d'.element? node).isSome = true := by
    rw [isSome_element?_iff, isSome_element?_iff, htree]
  cases he : d.element? node with
  | none =>
    rw [he] at hsome
    have hnone : d'.element? node = none := by simpa using hsome
    rw [hnone]
  | some e =>
    rw [he] at hsome hnode
    obtain ⟨e', he'⟩ := Option.isSome_iff_exists.mp (hsome.mp rfl)
    rw [he'] at hnode ⊢
    exact congrArg some hnode

theorem controlsNamed_eq_filter (d : Document) (name : String) :
    d.controlsNamed name = d.descendants.filter fun node => (d.role? node).any (·.2 == some name) := by
  unfold controlsNamed named select
  rw [List.filter_filter]
  refine List.filter_congr fun node _ => ?_
  unfold role? control?
  cases d.element? node with
  | none => rfl
  | some e =>
    rw [Option.bind_some, Option.bind_some, Element.role?]
    cases e.control? <;> simp

theorem inputNames_eq_filterMap (d : Document) :
    d.inputNames = (d.descendants.filterMap fun node => (d.role? node).bind Prod.snd).eraseDups := by
  unfold inputNames withAttribute
  rw [if_neg (by decide), select, List.filterMap_filter]
  congr 2
  funext node
  unfold role? control? attribute?
  cases d.element? node with
  | none => rfl
  | some e =>
    show (if (e.attribute? "name").isSome = true then
        if e.control?.isSome = true then e.attribute? "name" else none
      else none) = (e.control?.map fun kind => (kind, e.attribute? "name")).bind Prod.snd
    cases e.control? with
    | none => simp
    | some kind => cases e.attribute? "name" <;> rfl

section Roles

variable (h : d.view Element.role? = d'.view Element.role?)

include h

theorem role?_congr (node : NodeId) : d.role? node = d'.role? node :=
  bind_element?_congr (map_element?_of_view h node) fun _ _ he => he

theorem descendants_congr : d.descendants = d'.descendants :=
  congrArg Tree.descendants (tree_eq_of_view h)

theorem controlsNamed_of_roles (name : String) : d.controlsNamed name = d'.controlsNamed name := by
  rw [controlsNamed_eq_filter, controlsNamed_eq_filter, descendants_congr h]
  exact List.filter_congr fun node _ => by rw [role?_congr h]

theorem inputNames_of_roles : d.inputNames = d'.inputNames := by
  have hrole : d.role? = d'.role? := funext (role?_congr h)
  rw [inputNames_eq_filterMap, inputNames_eq_filterMap, descendants_congr h, hrole]

theorem control?_of_roles (node : NodeId) : d.control? node = d'.control? node := by
  rw [control?_eq_role?, control?_eq_role?, role?_congr h]

/-- The value of a group of radio buttons is known from the marks of its buttons, and from the value of
a button that has the mark. -/
theorem checkedRadioValue_of_roles {nodes : List NodeId}
    (hmarks : ∀ node ∈ nodes, d.control? node = some .radio → d.isChecked node = d'.isChecked node)
    (hvalues : ∀ node ∈ nodes, d.control? node = some .radio → d.isChecked node = true →
      (d.element? node).map Element.value = (d'.element? node).map Element.value) :
    d.checkedRadioValue nodes = d'.checkedRadioValue nodes := by
  unfold checkedRadioValue
  induction nodes with
  | nil => rfl
  | cons n tail ih =>
    obtain ⟨hmark, hmarks⟩ := List.forall_mem_cons.mp hmarks
    obtain ⟨hvalue, hvalues⟩ := List.forall_mem_cons.mp hvalues
    rw [List.find?_cons, List.find?_cons, ← control?_of_roles h]
    by_cases hradio : d.control? n = some .radio
    · rw [← hmark hradio]
      cases hchecked : d.isChecked n with
      | true => simp [hradio, hvalue hradio hchecked]
      | false =>
        rw [Bool.and_false]
        exact ih hmarks hvalues
    · rw [beq_eq_false_iff_ne.mpr hradio]
      exact ih hmarks hvalues

/-- The value of a control is known from its role, its value and its mark. -/
theorem controlSnapshot_of_roles {node : NodeId}
    (hvalue : (d.element? node).map Element.value = (d'.element? node).map Element.value)
    (hmark : d.isChecked node = d'.isChecked node) :
    d.controlSnapshot node = d'.controlSnapshot node := by
  have hkind := control?_of_roles h node
  unfold control? at hkind
  unfold isChecked at hmark
  cases he : d.element? node with
  | none =>
    rw [he, Option.map_none, eq_comm, Option.map_eq_none_iff] at hvalue
    unfold controlSnapshot
    rw [he, hvalue]
  | some e =>
    rw [he, Option.map_some, eq_comm, Option.map_eq_some_iff] at hvalue
    obtain ⟨e', he', hv⟩ := hvalue
    rw [he, he'] at hkind hmark
    have hkind : e.control? = e'.control? := hkind
    have hmark : e.checked = e'.checked := hmark
    have hsnap : e.snapshot = e'.snapshot := by
      funext kind
      cases kind <;> simp only [Element.snapshot, hv, hmark]
    show (d.element? node).bind (fun e => e.control? >>= fun kind => pure (e.snapshot kind)) =
      (d'.element? node).bind fun e => e.control? >>= fun kind => pure (e.snapshot kind)
    rw [he, he', Option.bind_some, Option.bind_some, hkind, hsnap]

/-- **The value of an input is read from its first control,** or, if that is a radio button, from all of
its radio buttons. -/
theorem inputSnapshot_of_roles {name : String}
    (hread : ∀ first, (d.controlsNamed name).head? = some first →
      (d.control? first = some .radio →
        d.checkedRadioValue (d.controlsNamed name) = d'.checkedRadioValue (d.controlsNamed name)) ∧
      (d.control? first ≠ some .radio → d.controlSnapshot first = d'.controlSnapshot first)) :
    d.inputSnapshot name = d'.inputSnapshot name := by
  unfold inputSnapshot
  rw [← controlsNamed_of_roles h name]
  cases hc : d.controlsNamed name with
  | nil => rfl
  | cons first rest =>
    rw [hc] at hread
    obtain ⟨hradio, hother⟩ := hread first rfl
    show (if d.control? first = some .radio then some (d.checkedRadioValue (first :: rest))
        else d.controlSnapshot first) =
      if d'.control? first = some .radio then some (d'.checkedRadioValue (first :: rest))
        else d'.controlSnapshot first
    rw [← control?_of_roles h first]
    split
    · next hk => rw [hradio hk]
    · next hk => exact hother hk

end Roles

/-! ### Answers that need the control part -/

section ControlPart

variable (h : d.view Element.controlPart = d'.view Element.controlPart)

include h

theorem control?_congr (node : NodeId) : d.control? node = d'.control? node :=
  control?_of_roles (roleView_of_controlView h) node

theorem nameOf_congr (node : NodeId) : d.attribute? node "name" = d'.attribute? node "name" :=
  bind_element?_congr (map_element?_of_view h node) fun _ _ => congrArg Element.ControlPart.name

theorem withTag_congr (tag : String) : d.withTag tag = d'.withTag tag :=
  select_congr h fun _ _ he => congrArg (· == tag.map Char.toLower) (congrArg Element.ControlPart.tag he)

theorem controlsNamed_congr (name : String) : d.controlsNamed name = d'.controlsNamed name :=
  controlsNamed_of_roles (roleView_of_controlView h) name

theorem inputNames_congr : d.inputNames = d'.inputNames :=
  inputNames_of_roles (roleView_of_controlView h)

/-- **The value of an input depends on its own controls.** Elsewhere the documents may differ in
values and states. -/
theorem inputSnapshot_congr {name : String}
    (hin : ∀ node ∈ d.controlsNamed name,
      (d.element? node).map Element.inputPart = (d'.element? node).map Element.inputPart) :
    d.inputSnapshot name = d'.inputSnapshot name := by
  have hroles := roleView_of_controlView h
  refine inputSnapshot_of_roles hroles fun first hfirst => ⟨fun _ => ?_, fun _ => ?_⟩
  · refine checkedRadioValue_of_roles hroles (fun node hn _ => ?_) fun node hn _ _ => ?_
    · exact any_element?_congr (hin node hn) fun _ _ => congrArg Element.InputPart.checked
    · have hv := congrArg (Option.map Element.InputPart.value) (hin node hn)
      rwa [Option.map_map, Option.map_map] at hv
  · have hfirst := hin first (List.mem_of_mem_head? (Option.mem_def.mpr hfirst))
    refine bind_element?_congr hfirst fun e e' he => ?_
    have hs : e.snapshot = e'.snapshot := funext (Element.snapshot_congr he)
    rw [Element.control?_congr (Element.controlPart_of_inputPart he), hs]

end ControlPart

/-- **The inputs of a document are known from the input parts of its elements.** -/
theorem values_congr (h : d.view Element.inputPart = d'.view Element.inputPart) :
    d.values = d'.values := by
  have hc := controlView_of_inputView h
  have hv : d.inputSnapshot = d'.inputSnapshot :=
    funext fun name => inputSnapshot_congr hc fun node _ => map_element?_of_view h node
  unfold values
  rw [hv, inputNames_congr hc]

/-- A control has a value. -/
theorem isSome_controlSnapshot {node : NodeId} (h : (d.control? node).isSome = true) :
    (d.controlSnapshot node).isSome = true := by
  obtain ⟨kind, hkind⟩ := Option.isSome_iff_exists.mp h
  obtain ⟨e, he, hek⟩ := Option.bind_eq_some_iff.mp hkind
  simp [controlSnapshot, he, hek]

/-- Whether an input exists is a question of its controls alone, whatever their values. -/
theorem isSome_inputSnapshot_iff {name : String} :
    (d.inputSnapshot name).isSome = true ↔ d.controlsNamed name ≠ [] := by
  unfold inputSnapshot
  cases hc : d.controlsNamed name with
  | nil => simp
  | cons first rest =>
    have hmem : first ∈ d.controlsNamed name := by
      rw [hc]
      exact List.mem_cons_self
    simp only [List.head?_cons, Option.bind_eq_bind, Option.bind_some, ne_eq, reduceCtorEq,
      not_false_eq_true, iff_true]
    split
    · rfl
    · exact isSome_controlSnapshot (List.mem_filter.mp hmem).2

end Document

end ReactiveForm
