/-!
# `ReactiveForm.Document.Tree` — the shape of a document

The nodes of a tree are numbered in the order of their creation, the root being `0`, so that a tree is
known from the parents of the later nodes: each is older than its child. Nodes are only ever appended,
as the last child of some node.

## Contents
- `NodeId` and `Tree`, with `root`, `size`, `children` and `append`.
- `Tree.subtree` and `Tree.descendants`, nodes in document order: a node, then the subtrees of its
  children.
-/

namespace ReactiveForm

/-- A node, known by its number. -/
structure NodeId where
  index : Nat
  deriving DecidableEq, Repr

/-- How a node is named in a message. -/
def NodeId.text (node : NodeId) : String := "#" ++ toString node.index

/-- A tree of nodes: `parents[k]` is the parent of node `k + 1`. -/
structure Tree where
  parents : List NodeId
  older : ∀ (k : Nat) (parent : NodeId), parents[k]? = some parent → parent.index ≤ k

namespace Tree

/-- The tree of a root alone. -/
def singleton : Tree := ⟨[], by simp⟩

/-- The root. -/
def root : NodeId := ⟨0⟩

/-- The number of nodes. -/
def size (t : Tree) : Nat := t.parents.length + 1

/-- The children of a node, eldest first. -/
def children (t : Tree) (node : NodeId) : List NodeId :=
  t.parents.zipIdx.filterMap fun (parent, k) => if parent = node then some ⟨k + 1⟩ else none

/-- The tree with a new last child of a node. -/
def append (t : Tree) (parent : NodeId) (h : parent.index < t.size) : Tree where
  parents := t.parents ++ [parent]
  older k p hp := by
    rcases Nat.lt_or_ge k t.parents.length with hk | hk
    · exact t.older k p (by rwa [List.getElem?_append_left hk] at hp)
    · rw [List.getElem?_append_right hk] at hp
      cases hd : k - t.parents.length with
      | zero =>
        rw [hd] at hp
        rw [← Option.some.inj hp]
        exact Nat.le_trans (Nat.lt_succ_iff.mp h) hk
      | succ n => simp [hd] at hp

@[simp] theorem size_append (t : Tree) (parent : NodeId) (h : parent.index < t.size) :
    (t.append parent h).size = t.size + 1 := by
  simp [append, size]

theorem root_lt_size (t : Tree) : root.index < t.size := Nat.succ_pos _

/-- A node is a child of another exactly when that is its parent. -/
theorem mem_children {t : Tree} {node child : NodeId} :
    child ∈ t.children node ↔ ∃ k, child = ⟨k + 1⟩ ∧ t.parents[k]? = some node := by
  simp only [children, List.mem_filterMap, Prod.exists]
  constructor
  · rintro ⟨parent, k, hmem, hk⟩
    split at hk
    · next heq =>
      subst heq
      refine ⟨k, (Option.some.inj hk).symm, ?_⟩
      simpa using List.mem_zipIdx_iff_getElem?.mp hmem
    · simp at hk
  · rintro ⟨k, hc, hk⟩
    exact ⟨node, k, List.mem_zipIdx_iff_getElem?.mpr (by simpa using hk), by simp [hc]⟩

/-- A child is younger than its parent. -/
theorem lt_of_mem_children {t : Tree} {node child : NodeId} (h : child ∈ t.children node) :
    node.index < child.index := by
  obtain ⟨k, hc, hk⟩ := mem_children.mp h
  have hle := t.older k node hk
  rw [hc]
  exact Nat.lt_succ_of_le hle

/-- A node and what lies below it, down to a depth. -/
def subtreeTo (t : Tree) : Nat → NodeId → List NodeId
  | 0, node => [node]
  | depth + 1, node => node :: (t.children node).flatMap (t.subtreeTo depth)

/-- A node and its descendants in document order. No branch is deeper than there are nodes. -/
def subtree (t : Tree) (node : NodeId) : List NodeId := t.subtreeTo t.size node

/-- All nodes in document order. -/
def descendants (t : Tree) : List NodeId := t.subtree root

end Tree

end ReactiveForm
