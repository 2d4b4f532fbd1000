import Mathlib.Data.List.Forall2
import ReactiveForm.Fixture.Basic
import ReactiveForm.Proofs.Document.Tree
import ReactiveForm.Proofs.Document.View
import ReactiveForm.Proofs.Except

/-!
# `ReactiveForm.Proofs.Fixture.Building` — a built document is what was described

A document is built by appending one element after the other, each below the node that it was written
under. Appending changes nothing but the list of children of one node, so that what has been built below
a node stays as it is while its parent gets more children.

## Contents
- `NodeSpec.induct`, induction over what lies below a description.
- `Document.Describes`, a node is the top of what a description says.
- `Document.Grows`, all that appending below a node can change, with `grows_of_append_below` and
  `Describes.grows`.
- `NodeSpec.Appended`, what has become of a parent, with `appended_appendTo`.
- `NodeSpec.Match`, two descriptions of one shape whose nodes are related one by one.
- `Fixture.describes_document`, and `Fixture.tree_eq_of_match`, that the shape alone makes the tree.
- `Document.Describes.match_within`, the nodes of two documents are related as the descriptions are.
-/

namespace ReactiveForm

/-- A node that does not exist has no children. -/
theorem Tree.children_eq_nil {t : Tree} {n : NodeId} (h : t.size ≤ n.index) :
    t.children n = [] := by
  refine List.eq_nil_iff_forall_not_mem.mpr fun child hmem => ?_
  obtain ⟨k, rfl, hk⟩ := mem_children.mp hmem
  have hlt := (List.getElem?_eq_some_iff.mp hk).1
  have hle := t.older k n hk
  unfold size at h
  omega

/-! ## Descriptions -/

/-- What holds of a description if it holds of those of its children holds of all descriptions. -/
@[elab_as_elim]
theorem NodeSpec.induct {motive : NodeSpec → Prop}
    (node : ∀ spec, (∀ child ∈ spec.children, motive child) → motive spec) : ∀ spec, motive spec
  | .mk _ _ _ specs => node _ (all specs)
where
  all : ∀ (specs : List NodeSpec), ∀ child ∈ specs, motive child
    | spec :: rest, child, h =>
      (List.mem_cons.mp h).elim (fun he => he ▸ NodeSpec.induct node spec) (all rest child)

/-- Two lists that are related in one way are related in another if their members are. -/
theorem forall₂_imp_of_mem {α β : Type} {R S : α → β → Prop} {xs : List α} {ys : List β}
    (h : List.Forall₂ R xs ys) (himp : ∀ x ∈ xs, ∀ y ∈ ys, R x y → S x y) : List.Forall₂ S xs ys := by
  induction h with
  | nil => exact .nil
  | cons hxy _ ih =>
    exact .cons (himp _ List.mem_cons_self _ List.mem_cons_self hxy)
      (ih fun x hx y hy => himp x (List.mem_cons_of_mem _ hx) y (List.mem_cons_of_mem _ hy))

namespace Document

/-- A node has the element that is described, and its children are described in their order. -/
inductive Describes (d : Document) : NodeId → NodeSpec → Prop
  | node {n : NodeId} {spec : NodeSpec} (element : d.element? n = some spec.element)
      (children : List.Forall₂ (Describes d) (d.tree.children n) spec.children) : Describes d n spec

namespace Describes

variable {d : Document} {n : NodeId} {spec : NodeSpec}

theorem element (h : d.Describes n spec) : d.element? n = some spec.element := by
  cases h with
  | node element _ => exact element

theorem children (h : d.Describes n spec) :
    List.Forall₂ d.Describes (d.tree.children n) spec.children := by
  cases h with
  | node _ children => exact children

end Describes

/-! ## Growing -/

/-- A document has grown below a node: the nodes that were there keep their elements, and all but this
one keep their children. -/
structure Grows (parent : NodeId) (d d' : Document) : Prop where
  size_le : d.tree.size ≤ d'.tree.size
  element? : ∀ n : NodeId, n.index < d.tree.size → d'.element? n = d.element? n
  children : ∀ n : NodeId, n.index < d.tree.size → n ≠ parent → d'.tree.children n = d.tree.children n

variable {parent n : NodeId} {d d' d'' : Document} {e : Element}

namespace Grows

theorem refl (parent : NodeId) (d : Document) : Grows parent d d :=
  ⟨Nat.le_refl _, fun _ _ => rfl, fun _ _ _ => rfl⟩

theorem trans (h : Grows parent d d') (h' : Grows parent d' d'') : Grows parent d d'' where
  size_le := Nat.le_trans h.size_le h'.size_le
  element? n hn := (h'.element? n (Nat.lt_of_lt_of_le hn h.size_le)).trans (h.element? n hn)
  children n hn hne :=
    (h'.children n (Nat.lt_of_lt_of_le hn h.size_le) hne).trans (h.children n hn hne)

/-- What grows below a node that was not there yet grows below its parent. -/
theorem trans_new (h : Grows parent d d') (h' : Grows n d' d'') (hn : d.tree.size ≤ n.index) :
    Grows parent d d'' where
  size_le := Nat.le_trans h.size_le h'.size_le
  element? m hm := (h'.element? m (Nat.lt_of_lt_of_le hm h.size_le)).trans (h.element? m hm)
  children m hm hne := by
    have hmn : m ≠ n := by
      rintro rfl
      exact Nat.not_le_of_lt hm hn
    exact (h'.children m (Nat.lt_of_lt_of_le hm h.size_le) hmn).trans (h.children m hm hne)

end Grows

/-- What an append answers. -/
theorem append_eq_ok_iff :
    d.append parent e = .ok d' ↔
      ∃ (h : parent.index < d.tree.size)
        (complete : (d.elements ++ [e]).length = (d.tree.append parent h).size),
        d' = ⟨d.tree.append parent h, d.elements ++ [e], d.listeners, complete⟩ := by
  unfold append
  split
  · next h => exact ⟨fun hok => ⟨h, _, (Except.ok.inj hok).symm⟩, fun ⟨_, _, hd⟩ => hd ▸ rfl⟩
  · next h => exact ⟨nofun, fun ⟨hlt, _, _⟩ => absurd hlt h⟩

/-- A node that exists can be appended to. -/
theorem exists_append (e : Element) (h : parent.index < d.tree.size) : ∃ d', d.append parent e = .ok d' :=
  ⟨_, append_eq_ok_iff.mpr ⟨h, by simp [d.complete], rfl⟩⟩

theorem size_of_append (h : d.append parent e = .ok d') : d'.tree.size = d.tree.size + 1 := by
  obtain ⟨hlt, _, rfl⟩ := append_eq_ok_iff.mp h
  exact Tree.size_append _ _ hlt

theorem element?_of_append (h : d.append parent e = .ok d') : d'.element? ⟨d.tree.size⟩ = some e := by
  obtain ⟨hlt, _, rfl⟩ := append_eq_ok_iff.mp h
  simp [Document.element?, ← d.complete]

theorem children_of_append (h : d.append parent e = .ok d') (n : NodeId) :
    d'.tree.children n = d.tree.children n ++ if parent = n then [⟨d.tree.size⟩] else [] := by
  obtain ⟨hlt, _, rfl⟩ := append_eq_ok_iff.mp h
  exact d.tree.children_append hlt n

theorem grows_of_append (h : d.append parent e = .ok d') : Grows parent d d' where
  size_le := by
    rw [size_of_append h]
    exact Nat.le_succ _
  element? n hn := by
    obtain ⟨hlt, _, rfl⟩ := append_eq_ok_iff.mp h
    exact List.getElem?_append_left (d.complete.symm ▸ hn)
  children n hn hne := by
    rw [children_of_append h, if_neg (Ne.symm hne), List.append_nil]

/-- A new node has no children. -/
theorem children_new_of_append (h : d.append parent e = .ok d') :
    d'.tree.children ⟨d.tree.size⟩ = [] := by
  obtain ⟨hlt, -⟩ := append_eq_ok_iff.mp h
  have hne : parent ≠ ⟨d.tree.size⟩ := by
    rintro rfl
    exact Nat.lt_irrefl _ hlt
  rw [children_of_append h, if_neg hne, List.append_nil]
  exact Tree.children_eq_nil (Nat.le_refl _)

/-- **A new node, with what comes below it, is the last child of its parent,** and nothing else has changed. -/
theorem grows_of_append_below (h : d.append parent e = .ok d') (hbelow : Grows ⟨d.tree.size⟩ d' d'') :
    Grows parent d d'' ∧ d''.tree.children parent = d.tree.children parent ++ [⟨d.tree.size⟩] := by
  obtain ⟨hlt, -⟩ := append_eq_ok_iff.mp h
  have hsize := size_of_append h
  have hne : parent ≠ ⟨d.tree.size⟩ := by
    rintro rfl
    exact Nat.lt_irrefl _ hlt
  refine ⟨(grows_of_append h).trans_new hbelow (Nat.le_refl _), ?_⟩
  rw [hbelow.children parent (by omega) hne, children_of_append h, if_pos rfl]

/-- **What has been built stays** when its parent gets more children: every node of it is younger than
the parent. -/
theorem Describes.grows {spec : NodeSpec} (hg : Grows parent d d') (hlt : parent.index < n.index)
    (h : d.Describes n spec) : d'.Describes n spec := by
  induction spec using NodeSpec.induct generalizing n with
  | node spec ih =>
    have hn := lt_size_of_element? h.element
    have hne : n ≠ parent := by
      rintro rfl
      exact Nat.lt_irrefl _ hlt
    refine .node ((hg.element? n hn).trans h.element) ?_
    rw [hg.children n hn hne]
    -- the children are younger still, so that none of them is the parent that grows
    refine forall₂_imp_of_mem h.children fun c hc s hs hdescribes => ?_
    exact ih s hs (Nat.lt_trans hlt (Tree.lt_of_mem_children hc)) hdescribes

end Document

/-! ## Building -/

namespace NodeSpec

open Document

variable {d d' : Document} {parent : NodeId} {path : String}

theorem elementAt_eq_ok_iff {spec : NodeSpec} {e : Element} :
    spec.elementAt path = .ok e ↔ Text.isBlankText spec.tag = false ∧ e = spec.element := by
  unfold elementAt
  split
  · next hblank => simp [hblank]
  · next hblank =>
    rw [Except.ok.injEq, eq_comm]
    exact ⟨fun he => ⟨eq_false_of_ne_true hblank, he⟩, And.right⟩

/-- Appending a description appends its element, and below that the descriptions of the children. -/
theorem appendTo_eq_ok_iff {spec : NodeSpec} :
    spec.appendTo d parent path = .ok d' ↔
      Text.isBlankText spec.tag = false ∧ ∃ d₁, d.append parent spec.element = .ok d₁ ∧
        appendAllTo d₁ ⟨d.tree.size⟩ path 0 spec.children = .ok d' := by
  cases spec with
  | mk tag attributes text specs =>
    rw [appendTo, bind_eq_ok_iff]
    constructor
    · rintro ⟨e, he, h⟩
      obtain ⟨hblank, rfl⟩ := elementAt_eq_ok_iff.mp he
      obtain ⟨d₁, hd₁, h⟩ := bind_eq_ok_iff.mp h
      exact ⟨hblank, d₁, mapError_eq_ok_iff.mp hd₁, h⟩
    · rintro ⟨hblank, d₁, hd₁, h⟩
      exact ⟨_, elementAt_eq_ok_iff.mpr ⟨hblank, rfl⟩,
        bind_eq_ok_iff.mpr ⟨d₁, mapError_eq_ok_iff.mpr hd₁, h⟩⟩

theorem appendAllTo_cons_eq_ok_iff {index : Nat} {spec : NodeSpec} {rest : List NodeSpec} :
    appendAllTo d parent path index (spec :: rest) = .ok d' ↔
      ∃ d₁, spec.appendTo d parent (childPath path index) = .ok d₁ ∧
        appendAllTo d₁ parent path (index + 1) rest = .ok d' := by
  rw [appendAllTo, bind_eq_ok_iff]

/-- What has become of a parent to which some descriptions have been appended: it has got a child for
each, and nothing else has changed. -/
def Appended (specs : List NodeSpec) (parent : NodeId) (d d' : Document) : Prop :=
  Grows parent d d' ∧ ∃ nodes, d'.tree.children parent = d.tree.children parent ++ nodes ∧
    List.Forall₂ d'.Describes nodes specs

theorem Appended.cons {spec : NodeSpec} {rest : List NodeSpec} {d₁ : Document}
    (h : Appended [spec] parent d d₁) (hrest : Appended rest parent d₁ d') :
    Appended (spec :: rest) parent d d' := by
  obtain ⟨hgrows, nodes, hchild, hdescribes⟩ := h
  obtain ⟨hgrows', nodes', hnodes, hall⟩ := hrest
  refine ⟨hgrows.trans hgrows', nodes ++ nodes', ?_, ?_⟩
  · rw [hnodes, hchild, List.append_assoc]
  · cases hdescribes with
    | cons hhere hnil =>
      cases hnil with
      | nil =>
        -- the siblings that come later leave the first one as it is
        have hlt : parent.index < _ :=
          Tree.lt_of_mem_children (hchild.symm ▸ List.mem_append_right _ List.mem_cons_self)
        exact .cons (hhere.grows hgrows' hlt) hall

theorem appended_appendAllTo {specs : List NodeSpec} {index : Nat}
    (hone : ∀ spec ∈ specs, ∀ {d d' : Document} {path : String},
      spec.appendTo d parent path = .ok d' → Appended [spec] parent d d')
    (h : appendAllTo d parent path index specs = .ok d') : Appended specs parent d d' := by
  induction specs generalizing d index with
  | nil =>
    rw [appendAllTo, Except.ok.injEq] at h
    subst h
    exact ⟨.refl _ _, [], (List.append_nil _).symm, .nil⟩
  | cons spec rest ih =>
    obtain ⟨d₁, hspec, hrest⟩ := appendAllTo_cons_eq_ok_iff.mp h
    exact (hone spec List.mem_cons_self hspec).cons
      (ih (fun s hs => hone s (List.mem_cons_of_mem _ hs)) hrest)

/-- **An appended description is the last child of its parent**, and nothing else has changed. -/
theorem appended_appendTo {spec : NodeSpec} (h : spec.appendTo d parent path = .ok d') :
    Appended [spec] parent d d' := by
  induction spec using NodeSpec.induct generalizing d d' parent path with
  | node spec ih =>
    obtain ⟨-, d₁, happ, hall⟩ := appendTo_eq_ok_iff.mp h
    obtain ⟨hgrows, nodes, hnodes, hdescribes⟩ :=
      appended_appendAllTo (fun s hs => fun {_ _ _} => ih s hs) hall
    have hsize := size_of_append happ
    obtain ⟨hparent, hchildren⟩ := grows_of_append_below happ hgrows
    refine ⟨hparent, [⟨d.tree.size⟩], hchildren, .cons (.node ?_ ?_) .nil⟩
    · exact (hgrows.element? _ (by simp only [hsize]; omega)).trans (element?_of_append happ)
    · rw [hnodes, children_new_of_append happ, List.nil_append]
      exact hdescribes

end NodeSpec

namespace Fixture

theorem document_eq_ok_iff {f : Fixture} {d : Document} :
    f.document = .ok d ↔
      Text.isBlankText f.root.tag = false ∧
        NodeSpec.appendAllTo (.ofRoot f.root.element) Tree.root rootPath 0 f.root.children = .ok d := by
  unfold document
  rw [bind_eq_ok_iff]
  constructor
  · rintro ⟨e, he, h⟩
    obtain ⟨hblank, rfl⟩ := NodeSpec.elementAt_eq_ok_iff.mp he
    exact ⟨hblank, h⟩
  · rintro ⟨hblank, h⟩
    exact ⟨_, NodeSpec.elementAt_eq_ok_iff.mpr ⟨hblank, rfl⟩, h⟩

/-- **A built document is what was described.** -/
theorem describes_document {f : Fixture} {d : Document} (h : f.document = .ok d) :
    d.Describes Tree.root f.root := by
  obtain ⟨-, hall⟩ := document_eq_ok_iff.mp h
  obtain ⟨hgrows, nodes, hnodes, hdescribes⟩ :=
    NodeSpec.appended_appendAllTo (fun _ _ => NodeSpec.appended_appendTo) hall
  refine .node (hgrows.element? _ (Nat.succ_pos _)) ?_
  rw [hnodes]
  exact hdescribes

end Fixture

/-! ## Two documents of one shape -/

namespace NodeSpec

/-- Two descriptions of one shape whose nodes are related one by one. -/
inductive Match (R : NodeSpec → NodeSpec → Prop) : NodeSpec → NodeSpec → Prop
  | node {s s' : NodeSpec} (here : R s s') (children : List.Forall₂ (Match R) s.children s'.children) :
      Match R s s'

variable {R : NodeSpec → NodeSpec → Prop}

theorem Match.here {s s' : NodeSpec} (h : Match R s s') : R s s' := by
  cases h with
  | node here _ => exact here

theorem Match.children {s s' : NodeSpec} (h : Match R s s') :
    List.Forall₂ (Match R) s.children s'.children := by
  cases h with
  | node _ children => exact children

open Document

theorem tree_eq_of_append {d d' d₁ d₁' : Document} {parent : NodeId} {e e' : Element}
    (ht : d.tree = d'.tree) (h : d.append parent e = .ok d₁) (h' : d'.append parent e' = .ok d₁') :
    d₁.tree = d₁'.tree := by
  obtain ⟨hlt, _, rfl⟩ := append_eq_ok_iff.mp h
  obtain ⟨hlt', _, rfl⟩ := append_eq_ok_iff.mp h'
  simp only [ht]

theorem tree_eq_appendAllTo {specs specs' : List NodeSpec} {d d' e e' : Document} {parent : NodeId}
    {path path' : String} {index index' : Nat}
    (hone : ∀ s ∈ specs, ∀ {s' : NodeSpec} {d d' e e' : Document} {path path' : String}, Match R s s' →
      d.tree = d'.tree → s.appendTo d parent path = .ok e → s'.appendTo d' parent path' = .ok e' →
        e.tree = e'.tree)
    (hm : List.Forall₂ (Match R) specs specs') (ht : d.tree = d'.tree)
    (h : appendAllTo d parent path index specs = .ok e)
    (h' : appendAllTo d' parent path' index' specs' = .ok e') : e.tree = e'.tree := by
  induction hm generalizing d d' index index' with
  | nil =>
    rw [appendAllTo, Except.ok.injEq] at h h'
    rw [← h, ← h', ht]
  | cons hhere _ ih =>
    obtain ⟨d₁, hspec, hall⟩ := appendAllTo_cons_eq_ok_iff.mp h
    obtain ⟨d₁', hspec', hall'⟩ := appendAllTo_cons_eq_ok_iff.mp h'
    exact ih (fun s hs => fun {_ _ _ _ _ _ _} => hone s (List.mem_cons_of_mem _ hs))
      (hone _ List.mem_cons_self hhere ht hspec hspec') hall hall'

theorem tree_eq_appendTo {s s' : NodeSpec} {d d' e e' : Document} {parent : NodeId}
    {path path' : String} (hm : Match R s s') (ht : d.tree = d'.tree)
    (h : s.appendTo d parent path = .ok e) (h' : s'.appendTo d' parent path' = .ok e') :
    e.tree = e'.tree := by
  induction s using NodeSpec.induct generalizing s' d d' e e' parent path path' with
  | node s ih =>
    obtain ⟨-, d₁, happ, hall⟩ := appendTo_eq_ok_iff.mp h
    obtain ⟨-, d₁', happ', hall'⟩ := appendTo_eq_ok_iff.mp h'
    rw [← ht] at hall'
    exact tree_eq_appendAllTo (fun s hs => fun {_ _ _ _ _ _ _} => ih s hs) hm.children
      (tree_eq_of_append ht happ happ') hall hall'

end NodeSpec

variable {R : NodeSpec → NodeSpec → Prop}

/-- **The shape alone makes the tree**, numbers of nodes included. -/
theorem Fixture.tree_eq_of_match {f g : Fixture} {d d' : Document} (hm : NodeSpec.Match R f.root g.root)
    (hd : f.document = .ok d) (hd' : g.document = .ok d') : d.tree = d'.tree :=
  have ht : (Document.ofRoot f.root.element).tree = (Document.ofRoot g.root.element).tree := rfl
  NodeSpec.tree_eq_appendAllTo (fun _ _ => NodeSpec.tree_eq_appendTo) hm.children ht (document_eq_ok_iff.mp hd).2
    (document_eq_ok_iff.mp hd').2

namespace Document

/-- Of two lists of nodes that are described by matching descriptions, one node in both at one place. -/
theorem exists_match_of_mem {d d' : Document} {nodes : List NodeId} {specs specs' : List NodeSpec}
    (h : List.Forall₂ d.Describes nodes specs) (h' : List.Forall₂ d'.Describes nodes specs')
    (hm : List.Forall₂ (NodeSpec.Match R) specs specs') {x : NodeId} (hx : x ∈ nodes) :
    ∃ s s', d.Describes x s ∧ d'.Describes x s' ∧ NodeSpec.Match R s s' := by
  induction h generalizing specs' with
  | nil => cases hx
  | cons hd hrest ih =>
    cases h' with
    | cons hd' hrest' =>
      cases hm with
      | cons hhere hms =>
        rcases List.mem_cons.mp hx with rfl | hx
        · exact ⟨_, _, hd, hd', hhere⟩
        · exact ih hrest' hms hx

/-- **The nodes of two documents with one tree are related as their descriptions are**, from the top
down. -/
theorem Describes.match_within {d d' : Document} {top x : NodeId} {s s' : NodeSpec}
    (ht : d.tree = d'.tree) (h : d.Describes top s) (h' : d'.Describes top s')
    (hm : NodeSpec.Match R s s') (hx : d.tree.Within top x) :
    ∃ t t', d.Describes x t ∧ d'.Describes x t' ∧ NodeSpec.Match R t t' := by
  induction hx with
  | here => exact ⟨s, s', h, h', hm⟩
  | step _ hchild ih =>
    obtain ⟨t, t', hp, hp', hmp⟩ := ih
    exact exists_match_of_mem hp.children (ht ▸ hp'.children) hmp.children hchild

end Document

end ReactiveForm
