import Mathlib.Data.List.Nodup
import ReactiveForm.Document.Html
import ReactiveForm.Proofs.Document.View
import ReactiveForm.Proofs.Fixture.Building

/-!
# `ReactiveForm.Proofs.Document.Traversal` — going through a document

Two ways of going through a document have no bound to how far they go: a walk with a stack of nodes that
wait, and the recursion that writes the document. Both end, because a child is younger than its parent, and
both come to the nodes in document order, whatever the order was in which they were appended.

## Contents
- `Tree.subtree_eq` and `Tree.mem_subtree_iff`, that the bound on the depth is no restriction.
- `Tree.Preorder`, what makes a list of nodes the document order, and `Tree.preorder_descendants`.
- `Tree.Walks`, the walk with a stack, and `Tree.walks_iff`.
- `Document.Writes`, the recursion that writes, and `Document.writes_iff`.
- `Document.grow`, a document after any additions, and `Document.Arena`, what it is made of.
- `Document.grow_in_document_order`.
-/

namespace ReactiveForm

namespace Tree

variable {t : Tree}

/-! ## Depth -/

theorem lt_size_of_mem_children {node child : NodeId} (h : child ∈ t.children node) :
    child.index < t.size := by
  obtain ⟨k, rfl, hk⟩ := mem_children.mp h
  exact Nat.succ_lt_succ (List.getElem?_eq_some_iff.mp hk).1

/-- **A bound on the depth is no restriction** if as many levels are allowed as there are nodes from a node
on: every level takes a younger node. -/
theorem subtreeTo_eq_of_le {depth depth' : Nat} {node : NodeId} (h : t.size ≤ depth + node.index)
    (hle : depth ≤ depth') : t.subtreeTo depth' node = t.subtreeTo depth node := by
  induction depth generalizing node depth' with
  | zero =>
    have hleaf : t.children node = [] := children_eq_nil (by omega)
    cases depth' with
    | zero => rfl
    | succ depth' => rw [subtreeTo, subtreeTo, hleaf, List.flatMap_nil]
  | succ depth ih =>
    obtain ⟨depth', rfl⟩ := Nat.exists_eq_succ_of_ne_zero (Nat.ne_zero_of_lt hle)
    rw [subtreeTo, subtreeTo]
    refine congrArg (node :: ·) (List.flatMap_congr fun child hc => ih ?_ (Nat.le_of_succ_le_succ hle))
    have hlt := lt_of_mem_children hc
    omega

/-- **A subtree is its top, followed by the subtrees of the children.** -/
theorem subtree_eq (t : Tree) (node : NodeId) :
    t.subtree node = node :: (t.children node).flatMap t.subtree := by
  show t.subtreeTo (t.parents.length + 1) node = _
  rw [subtreeTo]
  refine congrArg (node :: ·) (List.flatMap_congr fun child hc => Eq.symm ?_)
  refine subtreeTo_eq_of_le ?_ (Nat.le_succ _)
  have hlt := lt_of_mem_children hc
  show t.parents.length + 1 ≤ _
  omega

theorem mem_subtree_iff {node x : NodeId} : x ∈ t.subtree node ↔ t.Within node x := by
  refine ⟨within_of_mem_subtreeTo, fun h => ?_⟩
  induction h with
  | here => exact t.self_mem_subtreeTo _ _
  | step _ hx ih =>
    have hmem := mem_subtreeTo_of_child ih hx
    rwa [subtreeTo_eq_of_le (Nat.le_add_right _ _) (Nat.le_succ _)] at hmem

/-- **What lies below a node is listed in one piece.** -/
theorem subtree_infix {top node : NodeId} (h : t.Within top node) : t.subtree node <:+: t.subtree top := by
  induction h with
  | here => exact List.infix_rfl
  | @step p x _ hx ih =>
    refine List.IsInfix.trans ?_ ih
    obtain ⟨before, after, hsplit⟩ := List.append_of_mem hx
    rw [t.subtree_eq p, hsplit, List.flatMap_append, List.flatMap_cons]
    exact ⟨p :: before.flatMap t.subtree, after.flatMap t.subtree, by simp⟩

theorem lt_size_of_within {node : NodeId} (h : t.Within root node) : node.index < t.size := by
  cases h with
  | here => exact t.root_lt_size
  | step _ hx => exact lt_size_of_mem_children hx

theorem within_root {node : NodeId} (h : node.index < t.size) : t.Within root node :=
  within_of_mem_subtreeTo (t.mem_descendants h)

/-! ## The order -/

/-- **A list of nodes is the document order of a tree.** -/
structure Preorder (t : Tree) (order : List NodeId) : Prop where
  /-- Every node is listed once, -/
  complete : order.Perm ((List.range t.size).map NodeId.mk)
  /-- the root first, -/
  root_first : order.head? = some root
  /-- and none before one that it lies below. -/
  ancestors_first : order.Pairwise fun x y => ¬ t.Within y x
  /-- What lies below a node is listed in one piece: -/
  contiguous : ∀ node, node.index < t.size → t.subtree node <:+: order
  /-- the node, and then piece by piece what lies below its children, -/
  subtree : ∀ node, t.subtree node = node :: (t.children node).flatMap t.subtree
  /-- and nothing else. -/
  below : ∀ node x, x ∈ t.subtree node ↔ t.Within node x

theorem preorder_descendants (t : Tree) : t.Preorder t.descendants where
  complete := by
    refine (List.perm_ext_iff_of_nodup t.nodup_descendants ?_).mpr fun x => ⟨fun hx => ?_, fun hx => ?_⟩
    · exact List.Nodup.map (fun _ _ => congrArg NodeId.index) List.nodup_range
    · exact List.mem_map.mpr ⟨x.index, List.mem_range.mpr (lt_size_of_within (mem_subtree_iff.mp hx)), rfl⟩
    · obtain ⟨k, hk, rfl⟩ := List.mem_map.mp hx
      exact t.mem_descendants (List.mem_range.mp hk)
  root_first := by
    show (t.subtree root).head? = some root
    rw [subtree_eq]
    rfl
  ancestors_first := ancestors_first_subtreeTo _ _
  contiguous _ h := subtree_infix (within_root h)
  subtree := t.subtree_eq
  below _ _ := mem_subtree_iff

/-! ## A stack of nodes -/

/-- **A walk with a stack of nodes that wait to be visited:** it takes the next one and puts its children in
its place, until no node waits. It has been through with `waiting` when it has visited the nodes of
`order`. -/
inductive Walks (t : Tree) : List NodeId → List NodeId → Prop
  | done : Walks t [] []
  | visit {node : NodeId} {rest order : List NodeId} (next : Walks t (t.children node ++ rest) order) :
      Walks t (node :: rest) (node :: order)

namespace Walks

variable {waiting rest order order' : List NodeId}

/-- A walk goes in one way only. -/
theorem unique (h : t.Walks waiting order) (h' : t.Walks waiting order') : order = order' := by
  induction h generalizing order' with
  | done =>
    cases h' with
    | done => rfl
  | visit _ ih =>
    cases h' with
    | visit next => rw [ih next]

/-- **A walk is through with a node** when it has visited what lies below it. -/
theorem subtree {node : NodeId} (hrest : t.Walks rest order) :
    t.Walks (node :: rest) (t.subtree node ++ order) := by
  -- the younger the node, the less lies below it
  induction hk : t.size - node.index using Nat.strongRecOn generalizing node rest order with
  | ind k ih =>
    subst hk
    rw [subtree_eq, List.cons_append]
    refine .visit ?_
    have hchildren : ∀ nodes : List NodeId, (∀ child ∈ nodes, child ∈ t.children node) →
        t.Walks (nodes ++ rest) (nodes.flatMap t.subtree ++ order) := by
      intro nodes hnodes
      induction nodes with
      | nil => exact hrest
      | cons child nodes ihnodes =>
        obtain ⟨hchild, hnodes⟩ := List.forall_mem_cons.mp hnodes
        rw [List.flatMap_cons, List.append_assoc]
        have hlt := lt_of_mem_children hchild
        have hsize := lt_size_of_mem_children hchild
        exact ih _ (by omega) (ihnodes hnodes) rfl
    exact hchildren _ fun _ h => h

end Walks

/-- **A walk from the root ends, and visits the nodes in document order.** -/
theorem walks_iff {order : List NodeId} : t.Walks [root] order ↔ order = t.descendants := by
  have hall : t.Walks [root] t.descendants := by
    have h : t.Walks [root] (t.subtree root ++ []) := Walks.subtree .done
    rwa [List.append_nil] at h
  exact ⟨fun h => h.unique hall, fun h => h ▸ hall⟩

end Tree

namespace Document

variable {d : Document}

/-! ## Writing -/

/-- What is written when a node is entered: its start tag and its text, which stands on a line of its own if
children follow. -/
def entering (d : Document) (depth : Nat) (node : NodeId) (e : Element) : String :=
  indent depth ++ e.startTag ++
    if (d.tree.children node).isEmpty then (e.text.map escapeHtml).getD ""
    else "\n" ++ (e.text.map fun text => indent (depth + 1) ++ escapeHtml text ++ "\n").getD ""

/-- What is written when a node is left: its end tag. -/
def leaving (d : Document) (depth : Nat) (node : NodeId) (e : Element) : String :=
  (if (d.tree.children node).isEmpty then "" else indent depth) ++ e.endTag ++ "\n"

/-- The lines of a node are what is written on entering it, the lines of its children, and what is written on
leaving it. -/
theorem htmlFrom_succ {levels depth : Nat} {node : NodeId} {e : Element} (he : d.element? node = some e) :
    d.htmlFrom (levels + 1) depth node = d.entering depth node e ++
      (String.join ((d.tree.children node).map (d.htmlFrom levels (depth + 1))) ++ d.leaving depth node e) := by
  unfold entering leaving
  rw [htmlFrom, he]
  cases hc : d.tree.children node with
  | nil => simp [String.append_assoc]
  | cons child rest => cases ht : e.text <;> simp [ht, String.append_assoc]

/-- What a recursion through the nodes has still to do: to enter a node or to leave it, at a depth. -/
inductive Pending where
  | enter (depth : Nat) (node : NodeId)
  | leave (depth : Nat) (node : NodeId)

/-- **A recursion through the nodes that writes them,** with no bound to its depth: it enters a node, goes through
the children, and leaves the node. It is through with what is pending when it has entered the nodes of
`order` and written `text`. -/
inductive Writes (d : Document) : List Pending → List NodeId → String → Prop
  | done : Writes d [] [] ""
  | enter {depth : Nat} {node : NodeId} {e : Element} {rest : List Pending} {order : List NodeId}
      {text : String} (element : d.element? node = some e)
      (next : Writes d ((d.tree.children node).map (.enter (depth + 1)) ++ .leave depth node :: rest) order text) :
      Writes d (.enter depth node :: rest) (node :: order) (d.entering depth node e ++ text)
  | leave {depth : Nat} {node : NodeId} {e : Element} {rest : List Pending} {order : List NodeId}
      {text : String} (element : d.element? node = some e) (next : Writes d rest order text) :
      Writes d (.leave depth node :: rest) order (d.leaving depth node e ++ text)

namespace Writes

variable {pending rest : List Pending} {order order' : List NodeId} {text text' : String}

/-- A recursion goes in one way only. -/
theorem unique (h : d.Writes pending order text) (h' : d.Writes pending order' text') :
    order = order' ∧ text = text' := by
  induction h generalizing order' text' with
  | done =>
    cases h' with
    | done => exact ⟨rfl, rfl⟩
  | enter he _ ih =>
    cases h' with
    | enter he' next =>
      obtain ⟨rfl, rfl⟩ := ih next
      obtain rfl := Option.some.inj (he.symm.trans he')
      exact ⟨rfl, rfl⟩
  | leave he _ ih =>
    cases h' with
    | leave he' next =>
      obtain ⟨rfl, rfl⟩ := ih next
      obtain rfl := Option.some.inj (he.symm.trans he')
      exact ⟨rfl, rfl⟩

/-- **A recursion is through with a node** when it has entered what lies below it, and has written its
lines. -/
theorem node {levels depth : Nat} {node : NodeId} (hn : node.index < d.tree.size)
    (hlevels : d.tree.size ≤ levels + node.index) (hrest : d.Writes rest order text) :
    d.Writes (.enter depth node :: rest) (d.tree.subtree node ++ order)
      (d.htmlFrom levels depth node ++ text) := by
  induction levels generalizing node depth rest order text with
  | zero => omega
  | succ levels ih =>
    obtain ⟨e, he⟩ := Option.isSome_iff_exists.mp (isSome_element?_iff.mpr hn)
    rw [Tree.subtree_eq, List.cons_append, htmlFrom_succ he, String.append_assoc, String.append_assoc]
    refine .enter he ?_
    have hchildren : ∀ nodes : List NodeId, (∀ child ∈ nodes, child ∈ d.tree.children node) →
        d.Writes (nodes.map (.enter (depth + 1)) ++ .leave depth node :: rest)
          (nodes.flatMap d.tree.subtree ++ order)
          (String.join (nodes.map (d.htmlFrom levels (depth + 1))) ++ (d.leaving depth node e ++ text)) := by
      intro nodes hnodes
      induction nodes with
      | nil => simpa using Writes.leave he hrest
      | cons child nodes ihnodes =>
        obtain ⟨hchild, hnodes⟩ := List.forall_mem_cons.mp hnodes
        have hlt := Tree.lt_of_mem_children hchild
        have hnext : d.Writes (.enter (depth + 1) child ::
            (nodes.map (.enter (depth + 1)) ++ .leave depth node :: rest)) _ _ :=
          ih (Tree.lt_size_of_mem_children hchild) (by omega) (ihnodes hnodes)
        simpa [String.append_assoc] using hnext
    exact hchildren _ fun _ h => h

end Writes

/-- **The recursion ends:** it enters the nodes in document order, and what it writes is the document as
HTML. -/
theorem writes_iff {order : List NodeId} {text : String} :
    d.Writes [.enter 0 Tree.root] order text ↔ order = d.descendants ∧ text = d.html := by
  have hall : d.Writes [.enter 0 Tree.root] d.descendants d.html := by
    have h : d.Writes [.enter 0 Tree.root] (d.tree.subtree Tree.root ++ [])
        (d.htmlFrom d.tree.size 0 Tree.root ++ "") :=
      Writes.node d.tree.root_lt_size (Nat.le_add_right _ _) .done
    rwa [List.append_nil, String.append_empty] at h
  refine ⟨fun h => h.unique hall, ?_⟩
  rintro ⟨rfl, rfl⟩
  exact hall

/-! ## Growing -/

/-- The document after some elements have been appended, each as the last child of a node. A node that
does not exist by then gets no child. -/
def grow (d : Document) (additions : List (NodeId × Element)) : Document :=
  additions.foldl (fun d (parent, e) => (d.append parent e).toOption.getD d) d

/-- A node that has been appended. -/
structure Arrival where
  node : NodeId
  parent : NodeId
  element : Element

/-- The nodes that some additions bring to a document with `size` nodes: those to nodes that exist by then,
numbered from `size` on. -/
def arrivals (size : Nat) : List (NodeId × Element) → List Arrival
  | [] => []
  | (parent, e) :: rest =>
    if parent.index < size then ⟨⟨size⟩, parent, e⟩ :: arrivals (size + 1) rest else arrivals size rest

/-- **A document is made of a root and of arrivals:** they are its nodes, and the children of a node are those
that were appended to it, in their order. -/
structure Arena (d : Document) (top : Element) (made : List Arrival) : Prop where
  size : d.tree.size = made.length + 1
  numbers : made.map Arrival.node = (List.range made.length).map fun k => ⟨k + 1⟩
  older : ∀ a ∈ made, a.parent.index < a.node.index
  top : d.element? Tree.root = some top
  elements : ∀ a ∈ made, d.element? a.node = some a.element
  children : ∀ node, d.tree.children node = (made.filter (·.parent = node)).map Arrival.node

namespace Arena

variable {d' : Document} {top e : Element} {made : List Arrival} {parent : NodeId}

theorem ofRoot (top : Element) : (Document.ofRoot top).Arena top [] where
  size := rfl
  numbers := rfl
  older := nofun
  top := rfl
  elements := nofun
  children _ := rfl

/-- **An addition to a node that exists is an arrival more.** -/
theorem append (h : d.Arena top made) (happend : d.append parent e = .ok d') :
    d'.Arena top (made ++ [⟨⟨d.tree.size⟩, parent, e⟩]) where
  size := by rw [size_of_append happend, h.size, List.length_append, List.length_singleton]
  numbers := by
    rw [List.map_append, h.numbers, List.length_append, List.length_singleton, List.range_succ,
      List.map_append, h.size]
    rfl
  older a ha := by
    rcases List.mem_append.mp ha with ha | ha
    · exact h.older a ha
    · obtain ⟨hlt, -⟩ := append_eq_ok_iff.mp happend
      rw [List.mem_singleton.mp ha]
      exact hlt
  top := by rw [(grows_of_append happend).element? _ d.tree.root_lt_size, h.top]
  elements a ha := by
    rcases List.mem_append.mp ha with ha | ha
    · have helement := h.elements a ha
      rw [(grows_of_append happend).element? _ (lt_size_of_element? helement), helement]
    · rw [List.mem_singleton.mp ha]
      exact element?_of_append happend
  children node := by
    rw [children_of_append happend, h.children, List.filter_append, List.map_append]
    by_cases hp : parent = node <;> simp [hp]

/-- **What has grown is made of all arrivals.** -/
theorem grow (h : d.Arena top made) (additions : List (NodeId × Element)) :
    (d.grow additions).Arena top (made ++ arrivals d.tree.size additions) := by
  induction additions generalizing d made with
  | nil =>
    rw [arrivals, List.append_nil]
    exact h
  | cons addition rest ih =>
    obtain ⟨parent, e⟩ := addition
    have hgrow : d.grow ((parent, e) :: rest) = ((d.append parent e).toOption.getD d).grow rest := rfl
    rw [hgrow, arrivals]
    cases happend : d.append parent e with
    | ok d' =>
      obtain ⟨hlt, -⟩ := append_eq_ok_iff.mp happend
      have hrest := ih (h.append happend)
      rw [size_of_append happend, List.append_assoc] at hrest
      rwa [if_pos hlt]
    | error cause =>
      have hmissing : ¬ parent.index < d.tree.size := by
        intro hlt
        obtain ⟨d', hd'⟩ := d.exists_append e hlt
        cases hd'.symm.trans happend
      rw [if_neg hmissing]
      exact ih h

end Arena

/-- **However a document has grown, it is gone through in document order.** Whatever is appended to whatever
nodes in whatever order, the children of a node are those that were appended to it, in their order. A walk
with a stack ends, and visits every node once, a node before those below it, in one piece with them; the
listings by attribute, by tag and by name are what matches of this order; and the recursion that writes the
document ends, and enters the nodes in the same order. -/
theorem grow_in_document_order (top : Element) (additions : List (NodeId × Element)) :
    let d := (ofRoot top).grow additions
    d.Arena top (arrivals 1 additions) ∧
    d.tree.Preorder d.descendants ∧
    (∀ order, d.tree.Walks [Tree.root] order ↔ order = d.descendants) ∧
    (∀ name, d.withAttribute name = d.descendants.filter fun node =>
      if name = "class" then (d.element? node).any (!·.classes.isEmpty)
      else (d.attribute? node name).isSome) ∧
    (∀ tag, d.withTag tag = d.descendants.filter fun node =>
      (d.element? node).map Element.tag == some (tag.map Char.toLower)) ∧
    (∀ name, d.named name = d.descendants.filter fun node => d.attribute? node "name" == some name) ∧
    ∀ order text, d.Writes [.enter 0 Tree.root] order text ↔ order = d.descendants ∧ text = d.html := by
  intro d
  have harena : d.Arena top (arrivals 1 additions) := (Arena.ofRoot top).grow additions
  have hattribute : ∀ node name, (d.element? node).any (·.attributes.contains name) =
      (d.attribute? node name).isSome := by
    intro node name
    unfold attribute?
    cases d.element? node <;> rfl
  have htag : ∀ node tag, (d.element? node).any (·.tag == tag) =
      ((d.element? node).map Element.tag == some tag) := by
    intro node tag
    cases d.element? node <;> rfl
  have hname : ∀ node name, (d.element? node).any (·.attribute? "name" == some name) =
      (d.attribute? node "name" == some name) := by
    intro node name
    unfold attribute?
    cases d.element? node <;> rfl
  refine ⟨harena, d.tree.preorder_descendants, fun _ => Tree.walks_iff, fun name => ?_, fun tag => ?_,
    fun name => ?_, fun _ _ => writes_iff⟩
  · unfold withAttribute select
    split
    · rfl
    · exact List.filter_congr fun node _ => hattribute node name
  · exact List.filter_congr fun node _ => htag node _
  · exact List.filter_congr fun node _ => hname node name

/-- A node that is appended late may stand early. -/
example : ((ofRoot (.ofTag "form")).grow [(⟨0⟩, .ofTag "section"), (⟨0⟩, .ofTag "p"), (⟨7⟩, .ofTag "p"),
    (⟨1⟩, .ofTag "p")]).descendants = [⟨0⟩, ⟨1⟩, ⟨3⟩, ⟨2⟩] := by decide

end Document

end ReactiveForm
