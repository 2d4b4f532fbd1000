import Mathlib.Data.List.Flatten
import ReactiveForm.Document.Basic

/-!
# `ReactiveForm.Proofs.Document.Tree` — every node is listed once

Every listing of nodes is a selection from the nodes in document order, so that a listing names no node
twice if the document order does not. It does not because a node has one parent: of two nodes with a
common descendant one lies within the other, and siblings do not lie within each other.

## Contents
- `Tree.Within`, the nodes at and below a node, with `Within.total`.
- `Tree.ancestors_first_subtreeTo` and `Tree.nodup_descendants`, and `Document.nodup_select` for the
  listings made from them.
- `Tree.mem_descendants`, the document order leaves no node out.
- `Tree.descendants_append_sublist`, it stays when a node is appended.
-/

namespace ReactiveForm

namespace Tree

variable {t : Tree}

/-! ## Children -/

/-- A node has one parent. -/
theorem parent_unique {child p q : NodeId} (hp : child ∈ t.children p) (hq : child ∈ t.children q) :
    p = q := by
  obtain ⟨k, hk, hpk⟩ := mem_children.mp hp
  obtain ⟨l, hl, hql⟩ := mem_children.mp hq
  have hkl : k = l := Nat.succ.inj (congrArg NodeId.index (hk.symm.trans hl))
  subst hkl
  exact Option.some.inj (hpk.symm.trans hql)

/-- Children are listed eldest first. -/
theorem children_ascending (t : Tree) (node : NodeId) :
    (t.children node).Pairwise fun c c' => c.index < c'.index := by
  have hidx : t.parents.zipIdx.Pairwise fun x y => x.2 < y.2 := by
    rw [← List.pairwise_map (f := Prod.snd) (R := (· < ·)), List.zipIdx_map_snd]
    exact List.pairwise_lt_range'
  refine hidx.filterMap _ fun x y hxy c hc c' hc' => ?_
  obtain ⟨-, hcx⟩ := Option.ite_none_right_eq_some.mp hc
  obtain ⟨-, hcy⟩ := Option.ite_none_right_eq_some.mp hc'
  rw [← Option.some.inj hcx, ← Option.some.inj hcy]
  exact Nat.succ_lt_succ hxy

/-! ## Subtrees -/

/-- The nodes at and below a node. -/
inductive Within (t : Tree) (top : NodeId) : NodeId → Prop where
  | here : Within t top top
  | step {p x : NodeId} : Within t top p → x ∈ t.children p → Within t top x

namespace Within

variable {a b c x : NodeId}

theorem trans (hab : t.Within a b) (hbx : t.Within b x) : t.Within a x := by
  induction hbx with
  | here => exact hab
  | step _ hx ih => exact .step ih hx

theorem le (h : t.Within a x) : a.index ≤ x.index := by
  induction h with
  | here => exact Nat.le_refl _
  | step _ hx ih => exact Nat.le_of_lt (Nat.lt_of_le_of_lt ih (lt_of_mem_children hx))

/-- **Of two nodes with a common descendant one lies within the other.** The induction climbs from the
descendant, whose parent is the same on both ways. -/
theorem total (ha : t.Within a x) (hb : t.Within b x) : t.Within a b ∨ t.Within b a := by
  induction ha with
  | here => exact .inr hb
  | step hp hx ih =>
    cases hb with
    | here => exact .inl (.step hp hx)
    | step hq hx' => exact ih (parent_unique hx hx' ▸ hq)

theorem eq_of_sibling (hb : b ∈ t.children a) (hc : c ∈ t.children a) (h : t.Within b c) : b = c := by
  cases h with
  | here => rfl
  | step hp hc' =>
    have hle := hp.le
    have hlt := lt_of_mem_children hb
    rw [parent_unique hc' hc] at hle
    omega

end Within

theorem within_of_mem_subtreeTo {depth : Nat} {node x : NodeId} (h : x ∈ t.subtreeTo depth node) :
    t.Within node x := by
  induction depth generalizing node with
  | zero =>
    rw [List.mem_singleton.mp h]
    exact .here
  | succ depth ih =>
    rcases List.mem_cons.mp h with rfl | h
    · exact .here
    · obtain ⟨child, hc, hx⟩ := List.mem_flatMap.mp h
      exact (Within.step .here hc).trans (ih hx)

/-- **No node comes after a node that lies below it.** -/
theorem ancestors_first_subtreeTo (depth : Nat) (node : NodeId) :
    (t.subtreeTo depth node).Pairwise fun x y => ¬ t.Within y x := by
  induction depth generalizing node with
  | zero => exact List.pairwise_singleton _ _
  | succ depth ih =>
    refine List.pairwise_cons.mpr ⟨fun x hx hxn => ?_, List.pairwise_flatMap.mpr ⟨fun child _ => ih child, ?_⟩⟩
    · obtain ⟨child, hc, hx⟩ := List.mem_flatMap.mp hx
      have hle := (within_of_mem_subtreeTo hx).le
      have hle' := hxn.le
      have hlt := lt_of_mem_children hc
      omega
    · refine (t.children_ascending node).imp_of_mem fun {c c'} hc hc' hlt x hx y hy hyx => ?_
      -- a node below two siblings would put one of them below the other
      have hcx := within_of_mem_subtreeTo hx
      have hc'x := (within_of_mem_subtreeTo hy).trans hyx
      rcases hcx.total hc'x with h | h
      · rw [h.eq_of_sibling hc hc'] at hlt
        exact Nat.lt_irrefl _ hlt
      · rw [h.eq_of_sibling hc' hc] at hlt
        exact Nat.lt_irrefl _ hlt

theorem nodup_subtreeTo (depth : Nat) (node : NodeId) : (t.subtreeTo depth node).Nodup := by
  refine (ancestors_first_subtreeTo depth node).imp fun {x y} h => ?_
  rintro rfl
  exact h .here

/-- **The document order names every node once.** -/
theorem nodup_descendants (t : Tree) : t.descendants.Nodup := nodup_subtreeTo _ _

/-! ## No node is left out -/

theorem self_mem_subtreeTo (t : Tree) (depth : Nat) (node : NodeId) : node ∈ t.subtreeTo depth node := by
  cases depth <;> exact List.mem_cons_self

/-- A greater depth reaches further. -/
theorem mem_subtreeTo_succ {depth : Nat} {node x : NodeId} (h : x ∈ t.subtreeTo depth node) :
    x ∈ t.subtreeTo (depth + 1) node := by
  induction depth generalizing node with
  | zero =>
    rw [List.mem_singleton.mp h]
    exact t.self_mem_subtreeTo _ _
  | succ depth ih =>
    rcases List.mem_cons.mp h with rfl | h
    · exact t.self_mem_subtreeTo _ _
    · obtain ⟨child, hc, hx⟩ := List.mem_flatMap.mp h
      exact List.mem_cons_of_mem _ (List.mem_flatMap.mpr ⟨child, hc, ih hx⟩)

theorem mem_subtreeTo_of_le {depth depth' : Nat} (hle : depth ≤ depth') {node x : NodeId}
    (h : x ∈ t.subtreeTo depth node) : x ∈ t.subtreeTo depth' node := by
  induction hle with
  | refl => exact h
  | step _ ih => exact mem_subtreeTo_succ ih

/-- A child lies one level below its parent. -/
theorem mem_subtreeTo_of_child {depth : Nat} {node x y : NodeId} (h : x ∈ t.subtreeTo depth node)
    (hy : y ∈ t.children x) : y ∈ t.subtreeTo (depth + 1) node := by
  induction depth generalizing node with
  | zero =>
    rw [List.mem_singleton.mp h] at hy
    exact List.mem_cons_of_mem _ (List.mem_flatMap.mpr ⟨y, hy, t.self_mem_subtreeTo _ _⟩)
  | succ depth ih =>
    rcases List.mem_cons.mp h with rfl | h
    · exact List.mem_cons_of_mem _ (List.mem_flatMap.mpr ⟨y, hy, t.self_mem_subtreeTo _ _⟩)
    · obtain ⟨child, hc, hx⟩ := List.mem_flatMap.mp h
      exact List.mem_cons_of_mem _ (List.mem_flatMap.mpr ⟨child, hc, ih hx⟩)

/-- **The document order leaves no node out.** A node is no deeper than its number, since its parent is
older. -/
theorem mem_descendants {node : NodeId} (h : node.index < t.size) : node ∈ t.descendants := by
  have key : ∀ k : Nat, k < t.size → ⟨k⟩ ∈ t.subtreeTo k root := by
    intro k
    induction k using Nat.strongRecOn with
    | ind k ih =>
      intro hk
      cases k with
      | zero => exact t.self_mem_subtreeTo _ _
      | succ j =>
        have hj : j < t.parents.length := Nat.lt_of_succ_lt_succ hk
        have hparent : t.parents[j]? = some t.parents[j] := List.getElem?_eq_getElem hj
        have hle := t.older j t.parents[j] hparent
        have hmem := ih t.parents[j].index (Nat.lt_succ_of_le hle) (Nat.lt_of_le_of_lt hle (by omega))
        have hchild := mem_subtreeTo_of_child hmem (mem_children.mpr ⟨j, rfl, hparent⟩)
        exact mem_subtreeTo_of_le (Nat.succ_le_succ hle) hchild
  exact mem_subtreeTo_of_le (Nat.le_of_lt h) (key node.index h)

/-! ## Growing -/

/-- A new child comes after all others of its parent. -/
theorem children_append (t : Tree) {parent : NodeId} (h : parent.index < t.size) (node : NodeId) :
    (t.append parent h).children node = t.children node ++ if parent = node then [⟨t.size⟩] else [] := by
  unfold children append
  rw [List.zipIdx_append, List.filterMap_append]
  by_cases he : parent = node <;> simp [he, size]

theorem subtreeTo_append_sublist (t : Tree) {parent : NodeId} (h : parent.index < t.size) (depth : Nat)
    (node : NodeId) : (t.subtreeTo depth node).Sublist ((t.append parent h).subtreeTo depth node) := by
  induction depth generalizing node with
  | zero => exact .refl _
  | succ depth ih =>
    refine .cons_cons _ ((List.Sublist.flatMap_right _ fun child _ => ih child).trans ?_)
    rw [children_append]
    exact (List.sublist_append_left _ _).flatMap _

theorem subtreeTo_succ_sublist (t : Tree) (depth : Nat) (node : NodeId) :
    (t.subtreeTo depth node).Sublist (t.subtreeTo (depth + 1) node) := by
  induction depth generalizing node with
  | zero => exact .cons_cons _ (List.nil_sublist _)
  | succ depth ih => exact .cons_cons _ (List.Sublist.flatMap_right _ fun child _ => ih child)

/-- **The order of the nodes that are there stays** when a node is appended. -/
theorem descendants_append_sublist (t : Tree) {parent : NodeId} (h : parent.index < t.size) :
    t.descendants.Sublist (t.append parent h).descendants := by
  refine (t.subtreeTo_append_sublist h t.size root).trans ?_
  unfold descendants subtree
  rw [size_append]
  exact subtreeTo_succ_sublist _ _ _

end Tree

namespace Document

theorem nodup_select (d : Document) (p : Element → Bool) : (d.select p).Nodup :=
  d.tree.nodup_descendants.filter _

end Document

end ReactiveForm
