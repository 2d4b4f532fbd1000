import Mathlib.Data.List.Nodup
import Mathlib.Data.List.Pairwise
import ReactiveForm.Proofs.Document.Entry
import ReactiveForm.Proofs.Document.Tree

/-!
# `ReactiveForm.Proofs.Document.Election` — radio groups and the button that is checked

Radio buttons of one name are one input, and its value is that of the button that is checked. Nothing in the
shape of a document keeps two buttons of a name from being checked; the first of them would be read then, and
the other one ignored. That there is one at most is an invariant: whoever gives the mark to a button takes it
from its rivals.

## Contents
- `Document.elected?`, the name that a button is checked for.
- `Document.Exclusive`, **at most one radio button of each name is checked**, and how to find out.
- `Document.ReadsElected` and `Exclusive.readsElected`, the value of a radio group.
- `Document.Marks` and `Exclusive.marks`, a change of marks that keeps groups exclusive.
-/

namespace ReactiveForm

namespace Document

variable {d d' : Document} {node other : NodeId} {name : String}

/-! ## Groups with one button checked -/

/-- The name that a node is elected for: that of a radio button, if it is checked. -/
def elected? (d : Document) (node : NodeId) : Option String :=
  match d.role? node with
  | some (.radio, name?) => if d.isChecked node then name? else none
  | _ => none

theorem elected?_eq_some_iff :
    d.elected? node = some name ↔
      d.role? node = some (.radio, some name) ∧ d.isChecked node = true := by
  unfold elected?
  split
  · next name? hrole =>
    rw [hrole, Option.ite_none_right_eq_some, and_comm]
    simp
  · next hrole =>
    refine ⟨nofun, fun h => ?_⟩
    exact absurd h.1 (hrole (some name))

/-- A node that is elected is one of the document. -/
theorem lt_size_of_elected? (h : d.elected? node = some name) : node.index < d.tree.size :=
  lt_size_of_role? (elected?_eq_some_iff.mp h).1

theorem mem_descendants_of_elected? (h : d.elected? node = some name) : node ∈ d.descendants :=
  Tree.mem_descendants (lt_size_of_elected? h)

/-- **Radio groups are exclusive:** no two nodes are elected for the same name. -/
def Exclusive (d : Document) : Prop :=
  ∀ name node other, d.elected? node = some name → d.elected? other = some name → node = other

/-- Whether they are can be found out from a list of those that are elected. -/
theorem exclusive_iff_nodup : d.Exclusive ↔ (d.descendants.filterMap d.elected?).Nodup := by
  constructor
  · intro h
    exact d.tree.nodup_descendants.filterMap fun node other name hnode hother =>
      h name node other hnode hother
  · intro h name node other hnode hother
    have hsymm : Std.Symm fun n m => ∀ a, d.elected? n = some a → ∀ b, d.elected? m = some b → a ≠ b :=
      ⟨fun _ _ hdiffer a ha b hb he => hdiffer b hb a ha he.symm⟩
    by_contra hne
    exact (List.pairwise_filterMap.mp h).forall (mem_descendants_of_elected? hnode)
      (mem_descendants_of_elected? hother) hne name hnode name hother rfl

instance (d : Document) : Decidable d.Exclusive := decidable_of_iff _ exclusive_iff_nodup.symm

/-! ## The value of a group -/

/-- **The value of a name is that of the button that is elected for it,** and if there is none, it is
`false`. -/
def ReadsElected (d : Document) (name : String) : Prop :=
  (∃ node e, d.element? node = some e ∧ (∀ n, d.elected? n = some name ↔ n = node) ∧
      d.inputSnapshot name = some e.value) ∨
    (∀ n, d.elected? n ≠ some name) ∧ d.inputSnapshot name = some "false"

theorem inputSnapshot_of_radio (hfirst : (d.controlsNamed name).head? = some node)
    (hradio : d.control? node = some .radio) :
    d.inputSnapshot name = some (d.checkedRadioValue (d.controlsNamed name)) := by
  show ((d.controlsNamed name).head?.bind fun first =>
    if d.control? first = some .radio then some (d.checkedRadioValue (d.controlsNamed name))
    else d.controlSnapshot first) = _
  rw [hfirst, Option.bind_some, if_pos hradio]

/-- Who is elected for a name is a control of it. -/
theorem elected?_iff_of_mem (h : node ∈ d.controlsNamed name) :
    d.elected? node = some name ↔ (d.control? node == some .radio && d.isChecked node) = true := by
  rw [elected?_eq_some_iff, role?_eq_some_iff, Bool.and_eq_true, beq_iff_eq]
  exact and_congr_left fun _ => and_iff_left (mem_controlsNamed.mp h).2.1

theorem mem_controlsNamed_of_elected? (h : d.elected? node = some name) :
    node ∈ d.controlsNamed name := by
  obtain ⟨hradio, hname⟩ := role?_eq_some_iff.mp (elected?_eq_some_iff.mp h).1
  exact mem_controlsNamed.mpr ⟨mem_descendants_of_elected? h, hname, by rw [hradio]; rfl⟩

/-- **In a document with exclusive groups the value of a group is that of its checked button.** -/
theorem Exclusive.readsElected (h : d.Exclusive) (hfirst : (d.controlsNamed name).head? = some node)
    (hradio : d.control? node = some .radio) : d.ReadsElected name := by
  have hvalue := inputSnapshot_of_radio hfirst hradio
  unfold checkedRadioValue at hvalue
  split at hvalue
  · next n hfind =>
    have hchecked := List.find?_some hfind
    have helected : d.elected? n = some name :=
      (elected?_iff_of_mem (List.mem_of_find?_eq_some hfind)).mpr hchecked
    obtain ⟨e, he⟩ := Option.isSome_iff_exists.mp (isSome_element?_iff.mpr (lt_size_of_elected? helected))
    refine .inl ⟨n, e, he, fun other => ⟨fun hother => h name other n hother helected, ?_⟩, ?_⟩
    · rintro rfl
      exact helected
    · rw [hvalue, he]
      rfl
  · next hfind =>
    refine .inr ⟨fun n helected => ?_, hvalue⟩
    have hmem := mem_controlsNamed_of_elected? helected
    exact List.find?_eq_none.mp hfind n hmem ((elected?_iff_of_mem hmem).mp helected)

/-! ## Changes of marks -/

/-- **A change that gives the mark to one node at most:** the roles of controls are as before, no other node
gets the mark, and if the node gets it, its rivals do not have it. -/
structure Marks (node : NodeId) (d d' : Document) : Prop where
  roles : d'.view Element.role? = d.view Element.role?
  others : ∀ n, n ≠ node → d'.isChecked n = true → d.isChecked n = true
  rivals : d'.isChecked node = true → d.isChecked node = true ∨
    ∀ n name, n ≠ node → d.role? node = some (.radio, some name) →
      d.role? n = some (.radio, some name) → d'.isChecked n = false

/-- The node that gets the mark has no rival that is elected. -/
theorem Marks.eq_node (h : Marks node d d') (hd : d.Exclusive) (hnode : d'.elected? node = some name)
    (hother : d'.elected? other = some name) : other = node := by
  obtain ⟨hrole, hchecked⟩ := elected?_eq_some_iff.mp hnode
  obtain ⟨hrole', hchecked'⟩ := elected?_eq_some_iff.mp hother
  rw [role?_congr h.roles] at hrole hrole'
  by_contra hne
  rcases h.rivals hchecked with hbefore | hrivals
  · exact hne (hd name other node (elected?_eq_some_iff.mpr ⟨hrole', h.others other hne hchecked'⟩)
      (elected?_eq_some_iff.mpr ⟨hrole, hbefore⟩))
  · rw [hrivals other name hne hrole hrole'] at hchecked'
    cases hchecked'

/-- **Such a change keeps radio groups exclusive.** -/
theorem Exclusive.marks (h : d.Exclusive) (hmarks : Marks node d d') : d'.Exclusive := by
  intro name n m hn hm
  by_cases hnode : n = node
  · subst hnode
    exact (hmarks.eq_node h hn hm).symm
  by_cases hnode' : m = node
  · subst hnode'
    exact hmarks.eq_node h hm hn
  -- neither of the two has just got the mark
  have hbefore : ∀ k, k ≠ node → d'.elected? k = some name → d.elected? k = some name := by
    intro k hk helected
    obtain ⟨hrole, hchecked⟩ := elected?_eq_some_iff.mp helected
    rw [role?_congr hmarks.roles] at hrole
    exact elected?_eq_some_iff.mpr ⟨hrole, hmarks.others k hk hchecked⟩
  exact h name n m (hbefore n hnode hn) (hbefore m hnode' hm)

/-- What does not change the inputs does not change who is elected. -/
theorem Exclusive.congr (h : d.Exclusive) (hview : d'.view Element.inputPart = d.view Element.inputPart) :
    d'.Exclusive := by
  have hroles := roleView_of_controlView (controlView_of_inputView hview)
  have hchecked : ∀ n, d'.isChecked n = d.isChecked n := fun n =>
    any_element?_congr (map_element?_of_view hview n) fun _ _ he => congrArg Element.InputPart.checked he
  have hmarks : Marks Tree.root d d' := by
    refine ⟨hroles, fun n _ hn => ?_, fun hn => .inl ?_⟩
    · rwa [hchecked n] at hn
    · rwa [hchecked] at hn
  exact h.marks hmarks

end Document

end ReactiveForm
