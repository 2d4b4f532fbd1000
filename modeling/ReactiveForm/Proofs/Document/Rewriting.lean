import ReactiveForm.Proofs.Document.Entry
import ReactiveForm.Proofs.Except

/-!
# `ReactiveForm.Proofs.Document.Rewriting` — what an edit makes of each element

An edit is made to one element, but it can reach others: a radio button that takes the mark takes it
from the rest of its group. Seen element by element it is a function on elements for every node, and
edits that are made one after the other compose node by node.

## Contents
- `Document.Rewritten`, a document that another one has become by rewriting its elements.
- `Element.assign` and `Document.unmarked`, what setting an attribute does to its element and to others.
- `Document.setAttribute_rewritten`: **setting an attribute of a node succeeds, and does just that**.
-/

namespace ReactiveForm

namespace Document

/-! ## Rewriting -/

/-- **A document rewritten element by element.** -/
structure Rewritten (f : NodeId → Element → Element) (d d' : Document) : Prop where
  tree : d'.tree = d.tree
  listeners : d'.listeners = d.listeners
  element? : ∀ node, d'.element? node = (d.element? node).map (f node)

variable {d d' d'' : Document} {node : NodeId} {f g : NodeId → Element → Element}

namespace Rewritten

theorem refl (d : Document) : Rewritten (fun _ e => e) d d := ⟨rfl, rfl, fun _ => Option.map_id'.symm⟩

theorem trans (h : Rewritten f d d') (h' : Rewritten g d' d'') :
    Rewritten (fun n e => g n (f n e)) d d'' where
  tree := h'.tree.trans h.tree
  listeners := h'.listeners.trans h.listeners
  element? n := by
    rw [h'.element?, h.element?, Option.map_map]
    rfl

theorem congr (h : Rewritten f d d') (hf : ∀ n e, f n e = g n e) : Rewritten g d d' := by
  obtain rfl : f = g := funext fun n => funext (hf n)
  exact h

theorem map {α : Type} {π : Element → α} (h : Rewritten f d d') (n : NodeId) :
    (d'.element? n).map π = (d.element? n).map fun e => π (f n e) := by
  rw [h.element?, Option.map_map]
  rfl

theorem isChecked (h : Rewritten f d d') (n : NodeId) :
    d'.isChecked n = (d.element? n).any fun e => (f n e).checked := by
  unfold Document.isChecked
  rw [h.element?, Option.any_map]

/-- Whatever the rewriting keeps of an element is kept of the document. -/
theorem view {α : Type} {π : Element → α} (h : Rewritten f d d') (hπ : ∀ n e, π (f n e) = π e) :
    d'.view π = d.view π := by
  refine view_eq_iff.mpr ⟨h.tree, fun n => ?_⟩
  rw [h.element?, Option.map_map]
  exact congrArg (Option.map · _) (funext (hπ n))

end Rewritten

theorem rewritten_modify (d : Document) (node : NodeId) (f : Element → Element) :
    Rewritten (fun n e => if node = n then f e else e) d (d.modify node f) := by
  refine ⟨rfl, rfl, fun n => ?_⟩
  rw [element?_modify]
  split
  · rfl
  · exact Option.map_id'.symm

/-! ## Taking the mark -/

/-- Some radio buttons lose the mark, one after the other. -/
theorem rewritten_unmark (others : List NodeId) (d : Document) :
    Rewritten (fun n e => if n ∈ others then e.withChecked false else e) d
      (others.foldl (fun d other => d.modify other (·.withChecked false)) d) := by
  induction others generalizing d with
  | nil => exact (Rewritten.refl d).congr fun n e => (if_neg List.not_mem_nil).symm
  | cons other rest ih =>
    refine ((rewritten_modify d other (·.withChecked false)).trans (ih _)).congr fun n e => ?_
    by_cases hother : other = n
    · have hmem : n ∈ other :: rest := List.mem_cons.mpr (.inl hother.symm)
      rw [if_pos hother, if_pos hmem]
      split <;> rfl
    · have hiff : n ∈ other :: rest ↔ n ∈ rest := by
        rw [List.mem_cons, or_iff_right fun he => hother he.symm]
      rw [if_neg hother]
      simp only [hiff]

end Document

/-! ## Setting an attribute -/

/-- The element with an attribute set: the classes follow `class`, the value follows `value` and the
state follows `checked`. -/
def Element.assign (e : Element) (name value : String) : Element :=
  if name = "class" then { e with classes := Text.wordsOf value }
  else
    { e with
      attributes := e.attributes.insert name value
      value := if name = "value" then value else e.value
      checked := if name = "checked" then value != "false" else e.checked }

namespace Document

variable {d d' : Document} {node : NodeId}

/-- The radio buttons that lose the mark when an attribute of a node is set. -/
def unmarked (d : Document) (node : NodeId) (name value : String) : List NodeId :=
  if name = "checked" ∧ value ≠ "false" ∧ d.control? node = some .radio then d.otherRadios node else []

/-- What setting an attribute of a node makes of the element at another one. -/
def assigning (d : Document) (node : NodeId) (name value : String) (n : NodeId) (e : Element) :
    Element :=
  if node = n then e.assign name value
  else if n ∈ d.unmarked node name value then e.withChecked false else e

theorem unmarked_of_name_ne {name : String} (h : name ≠ "checked") (value : String) :
    d.unmarked node name value = [] := if_neg fun hc => h hc.1

/-- **The mark is taken from the rest of a group:** from the other radio buttons of the same name. -/
theorem mem_unmarked {n : NodeId} {name value : String} :
    n ∈ d.unmarked node name value ↔
      (name = "checked" ∧ value ≠ "false") ∧ n ≠ node ∧ n ∈ d.descendants ∧
        ∃ group, d.role? node = some (.radio, some group) ∧ d.role? n = some (.radio, some group) := by
  unfold unmarked
  by_cases hradio : d.control? node = some .radio
  · have hmem : n ∈ d.otherRadios node ↔ n ≠ node ∧ n ∈ d.descendants ∧
        ∃ group, d.role? node = some (.radio, some group) ∧ d.role? n = some (.radio, some group) := by
      unfold otherRadios
      cases hname : d.attribute? node "name" with
      | none => simp [role?_eq_some_iff, hname]
      | some group =>
        simp only [List.mem_filter, mem_named, Bool.and_eq_true, bne_iff_ne, beq_iff_eq,
          role?_eq_some_iff, hradio, hname, true_and, Option.some.injEq, exists_eq_left']
        exact ⟨fun ⟨⟨hd, hn⟩, hne, hr⟩ => ⟨hne, hd, hr, hn⟩, fun ⟨hne, hd, hr, hn⟩ => ⟨⟨hd, hn⟩, hne, hr⟩⟩
    by_cases hset : name = "checked" ∧ value ≠ "false"
    · rw [if_pos ⟨hset.1, hset.2, hradio⟩, hmem]
      exact (and_iff_right hset).symm
    · rw [if_neg fun h => hset ⟨h.1, h.2.1⟩]
      exact ⟨fun h => (nomatch h), fun h => absurd h.1 hset⟩
  · rw [if_neg fun h => hradio h.2.2]
    refine ⟨fun h => (nomatch h), ?_⟩
    rintro ⟨-, -, -, group, hnode, -⟩
    exact absurd (role?_eq_some_iff.mp hnode).1 hradio

/-- A radio button does not take the mark from itself. -/
theorem not_mem_unmarked_self (d : Document) (node : NodeId) (name value : String) :
    node ∉ d.unmarked node name value := fun h => (mem_unmarked.mp h).2.1 rfl

/-- Which buttons lose the mark is a question of the roles of controls. -/
theorem mem_unmarked_congr (h : d.view Element.role? = d'.view Element.role?) {n : NodeId}
    {name value : String} : n ∈ d.unmarked node name value ↔ n ∈ d'.unmarked node name value := by
  rw [mem_unmarked, mem_unmarked, descendants_congr h, role?_congr h, role?_congr h]

/-- The state of a control follows an attribute `checked`, and then other steps follow. -/
theorem setState_rewritten (hn : node.index < d.tree.size) (value : String) :
    ∃ d', (∀ next : Document → Except DocumentError Document,
        (match d.control? node with
          | some .checkbox => d.setChecked node (value != "false") >>= next
          | some .radio => d.setChecked node (value != "false") >>= next
          | _ => d.edit node (·.withChecked (value != "false")) >>= next) = next d') ∧
      Rewritten (fun n e => if node = n then e.withChecked (value != "false")
        else if n ∈ d.unmarked node "checked" value then e.withChecked false else e) d d' := by
  by_cases hradio : d.control? node = some .radio
  · -- the rest of the group loses the mark first, and the button itself is not among them
    have hothers : d.unmarked node "checked" value =
        if value != "false" then d.otherRadios node else [] := by
      unfold unmarked
      by_cases hv : value = "false" <;> simp [hv, hradio]
    have hrest := rewritten_unmark (d.unmarked node "checked" value) d
    have hmark := hrest.trans (rewritten_modify _ node (·.withChecked (value != "false")))
    have hset : d.setChecked node (value != "false") =
        .ok (((d.unmarked node "checked" value).foldl
          (fun d other => d.modify other (·.withChecked false)) d).modify node
            (·.withChecked (value != "false"))) := by
      unfold setChecked
      rw [hradio, hothers]
      refine edit_of_lt ?_ _
      rw [← hothers, hrest.tree]
      exact hn
    refine ⟨_, fun next => ?_, hmark.congr fun n e => ?_⟩
    · rw [hradio, hset]
      rfl
    · by_cases he : node = n
      · subst he
        rw [if_pos rfl, if_pos rfl, if_neg (not_mem_unmarked_self d node _ _)]
      · rw [if_neg he, if_neg he]
  · have hnone : d.unmarked node "checked" value = [] := if_neg fun h => hradio h.2.2
    have hedit : d.edit node (·.withChecked (value != "false")) = .ok _ := edit_of_lt hn _
    refine ⟨_, fun next => ?_, (rewritten_modify d node (·.withChecked (value != "false"))).congr
      fun n e => ?_⟩
    · cases hkind : d.control? node with
      | none => simp only [hedit]; rfl
      | some kind =>
        cases kind with
        | radio => exact absurd hkind hradio
        | checkbox => simp only [setChecked, hkind, hedit]; rfl
        | text | select => simp only [hedit]; rfl
    · rw [hnone, if_neg List.not_mem_nil]

/-- **Setting an attribute of a node succeeds:** the element follows the attribute, a radio button takes
the mark from its group, and nothing else happens. -/
theorem setAttribute_rewritten (hn : node.index < d.tree.size) (name value : String) :
    ∃ d', d.setAttribute node name value = .ok d' ∧ Rewritten (d.assigning node name value) d d' := by
  unfold setAttribute
  by_cases hclass : name = "class"
  · subst hclass
    refine ⟨_, edit_of_lt hn _, (rewritten_modify d node _).congr fun n e => ?_⟩
    unfold assigning Element.assign
    rw [unmarked_of_name_ne (by decide), if_neg List.not_mem_nil, if_pos rfl]
  · simp only [if_neg hclass]
    by_cases hvalue : name = "value"
    · subst hvalue
      have hset : d.setValue node value = .ok _ := edit_of_lt hn _
      have hn' : node.index < (d.modify node ({ · with value })).tree.size := hn
      refine ⟨_, bind_eq_ok_iff.mpr ⟨_, hset, edit_of_lt hn' _⟩, ?_⟩
      refine ((rewritten_modify d node _).trans (rewritten_modify _ node _)).congr fun n e => ?_
      unfold assigning Element.assign
      rw [unmarked_of_name_ne (by decide), if_neg List.not_mem_nil]
      split <;> rfl
    · simp only [if_neg hvalue]
      by_cases hchecked : name = "checked"
      · subst hchecked
        obtain ⟨d', hstate, hd'⟩ := setState_rewritten hn value
        have hn' : node.index < d'.tree.size := by
          rw [hd'.tree]
          exact hn
        refine ⟨_, (hstate _).trans (edit_of_lt hn' _), ?_⟩
        refine (hd'.trans (rewritten_modify d' node _)).congr fun n e => ?_
        unfold assigning Element.assign
        by_cases he : node = n
        · simp only [if_pos he]
          rfl
        · simp only [if_neg he]
      · simp only [if_neg hchecked]
        refine ⟨_, edit_of_lt hn _, (rewritten_modify d node _).congr fun n e => ?_⟩
        unfold assigning Element.assign
        rw [unmarked_of_name_ne hchecked, if_neg List.not_mem_nil, if_neg hclass, if_neg hvalue,
          if_neg hchecked]

/-- There is nothing to set an attribute of where there is no node. -/
theorem setAttribute_of_missing (h : ¬ node.index < d.tree.size) (name value : String) :
    d.setAttribute node name value = .error (.unknownNode node) := by
  have hedit : ∀ f, d.edit node f = .error (.unknownNode node) := fun f => if_neg h
  have hcontrol : d.control? node = none := by
    unfold control?
    rw [Option.not_isSome_iff_eq_none.mp fun hs => h (isSome_element?_iff.mp hs)]
    rfl
  unfold setAttribute
  by_cases hclass : name = "class"
  · rw [if_pos hclass]
    exact hedit _
  · simp only [if_neg hclass, setValue, hedit, hcontrol]
    by_cases hvalue : name = "value"
    · rw [if_pos hvalue]
      rfl
    · rw [if_neg hvalue]
      split <;> first | rfl | exact hedit _

end Document

end ReactiveForm
