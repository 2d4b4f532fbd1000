import ReactiveForm.Proofs.Document.Traversal
import ReactiveForm.Proofs.Fixture.Legibility

/-!
# `ReactiveForm.Proofs.Fixture.Numbering` — positions, paths and numbers

A description is known by its position: the indices of the children that lead down to it. Positions in the
order of a dictionary are the descriptions in document order, a position before those that it leads to.
The nodes of a document have positions, too, and building it keeps them: the `k`-th node has the `k`-th
position. A description that cannot be built is refused at the first position whose tag is blank, and what
is told is the path of this position.

## Contents
- `Element.Begins`, what a described element is made of, with `NodeSpec.begins_element`.
- `NodeSpec.at?` and `NodeSpec.places`, the descriptions by their positions, with `mem_places_iff` and
  `places_ascending`.
- `NodeSpec.elementBelow`, with `error?_appendTo`, where building fails, and `failsFirst_places_iff`.
- `Document.Continues`, with `NodeSpec.continues_appendTo`: what is appended takes the next numbers in document
  order.
- `Tree.at?`, with `Document.Describes.at?` and `Document.Describes.map_at?_places`.
- `Fixture.pathAt`, the text of a path, with `foldl_childPath`.
- `Fixture.Built` and `Fixture.document_exact`.
-/

namespace ReactiveForm

/-! ## Elements -/

namespace Element

/-- **What an element is made of** that begins with a tag, with the given attributes and with a text: the
classes are the words of `class`, which is no attribute any more, and the value and the state of a control
are as `value` and `checked` say. -/
structure Begins (e : Element) (tag : String) (given : StringMap String) (text : Option String) : Prop where
  tag : e.tag = tag.map Char.toLower
  attribute? : ∀ name, e.attribute? name = if name = "class" then none else given.get? name
  classes : e.classes = ((given.get? "class").map Text.wordsOf).getD []
  value : e.value = (given.get? "value").getD ""
  checked : e.checked = given.contains "checked"
  text : e.text = text

variable {e : Element} {tag : String} {given : StringMap String} {text : Option String}

theorem begins_ofTag (tag : String) : (ofTag tag).Begins tag .empty none :=
  ⟨rfl, fun _ => (ite_self none).symm, rfl, rfl, rfl, rfl⟩

theorem Begins.withText (h : e.Begins tag given none) (text : String) :
    (e.withText text).Begins tag given (some text) :=
  ⟨h.tag, h.attribute?, h.classes, h.value, h.checked, rfl⟩

/-- **An attribute more** is one more that is given. -/
theorem Begins.withAttribute (h : e.Begins tag given text) (name value : String) :
    (e.withAttribute name value).Begins tag (given.insert name value) text := by
  unfold Element.withAttribute
  split
  · next hclass =>
    subst hclass
    refine ⟨h.tag, fun other => ?_, ?_, ?_, ?_, h.text⟩
    · refine (h.attribute? other).trans ?_
      rw [StringMap.get?_insert]
      by_cases hother : other = "class" <;> simp [hother]
    · rw [StringMap.get?_insert_self]
      rfl
    · rw [StringMap.get?_insert, if_neg (by decide)]
      exact h.value
    · unfold StringMap.contains
      rw [StringMap.get?_insert, if_neg (by decide)]
      exact h.checked
  · next hclass =>
    refine ⟨h.tag, fun other => ?_, ?_, ?_, ?_, h.text⟩
    · show (e.attributes.insert name value).get? other = _
      rw [StringMap.get?_insert, StringMap.get?_insert]
      by_cases hother : other = name
      · rw [if_pos hother, if_pos hother, if_neg (hother ▸ hclass)]
      · rw [if_neg hother, if_neg hother]
        exact h.attribute? other
    · rw [StringMap.get?_insert, if_neg (Ne.symm hclass)]
      exact h.classes
    · rw [StringMap.get?_insert, h.value]
      by_cases hvalue : name = "value" <;> simp [hvalue, eq_comm]
    · unfold StringMap.contains
      rw [StringMap.get?_insert, h.checked]
      by_cases hchecked : name = "checked" <;> simp [hchecked, eq_comm, StringMap.contains]

/-- Attributes more, one after the other. -/
theorem Begins.foldl_withAttribute (entries : List (String × String)) (h : e.Begins tag given text) :
    (entries.foldl (fun e entry => e.withAttribute entry.1 entry.2) e).Begins tag
      (entries.foldl (fun m entry => m.insert entry.1 entry.2) given) text := by
  induction entries generalizing e given with
  | nil => exact h
  | cons entry entries ih => exact ih (h.withAttribute entry.1 entry.2)

end Element

namespace NodeSpec

/-- **A described element** is made of the tag without white space around it, of the attributes and of the
text. -/
theorem begins_element (spec : NodeSpec) :
    spec.element.Begins (Text.trim spec.tag) spec.attributes spec.text := by
  have hgiven : spec.attributes.entries.foldl (fun m entry => m.insert entry.1 entry.2) .empty = spec.attributes :=
    StringMap.ofList_entries spec.attributes
  have hattributes := (Element.begins_ofTag (Text.trim spec.tag)).foldl_withAttribute spec.attributes.entries
  rw [hgiven] at hattributes
  unfold element
  split
  · next text htext =>
    rw [htext]
    exact hattributes.withText text
  · next htext =>
    rw [htext]
    exact hattributes

/-! ## Positions -/

/-- The description at a position: the indices of the children that lead down to it. -/
def at? : NodeSpec → List Nat → Option NodeSpec
  | spec, [] => some spec
  | spec, index :: rest => spec.children[index]?.bind (·.at? rest)

mutual

/-- A description and those below it, in document order, each at its position. -/
def places : NodeSpec → List (List Nat × NodeSpec)
  | mk tag attributes text children => ([], mk tag attributes text children) :: placesFrom 0 children

/-- The descriptions of a list and those below them, in document order, each at its position; the first of
the list has the given index. -/
def placesFrom (index : Nat) : List NodeSpec → List (List Nat × NodeSpec)
  | [] => []
  | spec :: rest =>
    spec.places.map (fun (position, s) => (index :: position, s)) ++ placesFrom (index + 1) rest

end

variable {spec s : NodeSpec} {specs : List NodeSpec} {position : List Nat}

theorem places_eq (spec : NodeSpec) : spec.places = ([], spec) :: placesFrom 0 spec.children := by
  cases spec
  rw [places]
  rfl

theorem mem_placesFrom_iff {index : Nat} :
    (position, s) ∈ placesFrom index specs ↔
      ∃ k rest child, position = (index + k) :: rest ∧ specs[k]? = some child ∧ (rest, s) ∈ child.places := by
  induction specs generalizing index with
  | nil => simp [placesFrom]
  | cons spec specs ih =>
    rw [placesFrom, List.mem_append, ih, List.mem_map]
    constructor
    · rintro (⟨⟨rest, s'⟩, hmem, heq⟩ | ⟨k, rest, child, rfl, hchild, hmem⟩)
      · obtain ⟨rfl, rfl⟩ := Prod.mk.inj heq
        exact ⟨0, rest, spec, rfl, rfl, hmem⟩
      · exact ⟨k + 1, rest, child, by rw [Nat.add_right_comm, Nat.add_assoc], hchild, hmem⟩
    · rintro ⟨k, rest, child, rfl, hchild, hmem⟩
      cases k with
      | zero =>
        obtain rfl := Option.some.inj hchild
        exact .inl ⟨(rest, s), hmem, rfl⟩
      | succ k => exact .inr ⟨k, rest, child, by rw [Nat.add_right_comm, Nat.add_assoc], hchild, hmem⟩

/-- **Every description is listed at its position**, and nothing else is. -/
theorem mem_places_iff : (position, s) ∈ spec.places ↔ spec.at? position = some s := by
  induction position generalizing spec with
  | nil =>
    rw [places_eq, List.mem_cons, mem_placesFrom_iff]
    constructor
    · rintro (heq | ⟨_, _, _, hnil, -⟩)
      · rw [(Prod.mk.inj heq).2]
        rfl
      · cases hnil
    · intro h
      exact .inl (by rw [Option.some.inj h])
  | cons index rest ih =>
    rw [places_eq, List.mem_cons, mem_placesFrom_iff]
    constructor
    · rintro (heq | ⟨k, _, child, hposition, hchild, hmem⟩)
      · cases (Prod.mk.inj heq).1
      · obtain ⟨rfl, rfl⟩ := List.cons.inj hposition
        rw [Nat.zero_add, at?, hchild]
        exact ih.mp hmem
    · intro h
      obtain ⟨child, hchild, hs⟩ := Option.bind_eq_some_iff.mp h
      exact .inr ⟨index, rest, child, by rw [Nat.zero_add], hchild, ih.mpr hs⟩

theorem placesFrom_ascending {index : Nat}
    (hone : ∀ spec ∈ specs, spec.places.Pairwise fun a b => a.1 < b.1) :
    (placesFrom index specs).Pairwise fun a b => a.1 < b.1 := by
  induction specs generalizing index with
  | nil => exact .nil
  | cons spec specs ih =>
    obtain ⟨hspec, hspecs⟩ := List.forall_mem_cons.mp hone
    rw [placesFrom]
    refine List.pairwise_append.mpr ⟨?_, ih hspecs, ?_⟩
    · refine List.pairwise_map.mpr (hspec.imp fun {a b} hab => ?_)
      exact List.cons_lt_cons_iff.mpr (.inr ⟨rfl, hab⟩)
    · rintro a ha ⟨b, s⟩ hb
      obtain ⟨place, -, rfl⟩ := List.mem_map.mp ha
      obtain ⟨k, rest, -, rfl, -⟩ := mem_placesFrom_iff.mp hb
      exact List.cons_lt_cons_iff.mpr (.inl (by omega))

/-- **The positions come in the order of a dictionary.** -/
theorem places_ascending (spec : NodeSpec) : spec.places.Pairwise fun a b => a.1 < b.1 := by
  induction spec using NodeSpec.induct with
  | node spec ih =>
    rw [places_eq]
    refine List.pairwise_cons.mpr ⟨?_, placesFrom_ascending ih⟩
    rintro ⟨position, s⟩ hmem
    obtain ⟨k, rest, -, rfl, -⟩ := mem_placesFrom_iff.mp hmem
    exact List.nil_lt_cons _ _

/-- Of two places the one that is listed first has the position that comes first. -/
theorem lt_iff_lt_of_places {k k' : Nat} {place place' : List Nat × NodeSpec}
    (h : spec.places[k]? = some place) (h' : spec.places[k']? = some place') : k < k' ↔ place.1 < place'.1 := by
  have hsorted := List.pairwise_iff_getElem.mp spec.places_ascending
  obtain ⟨hk, rfl⟩ := List.getElem?_eq_some_iff.mp h
  obtain ⟨hk', rfl⟩ := List.getElem?_eq_some_iff.mp h'
  refine ⟨hsorted k k' hk hk', fun hlt => ?_⟩
  rcases Nat.lt_trichotomy k k' with hless | rfl | hgreater
  · exact hless
  · exact absurd hlt (List.lt_irrefl _)
  · exact absurd hlt (List.lt_asymm (hsorted k' k hk' hk hgreater))

theorem map_snd_placesFrom {index : Nat} (hone : ∀ s ∈ specs, s.places.map Prod.snd = s.nodes) :
    (placesFrom index specs).map Prod.snd = nodesAll specs := by
  induction specs generalizing index with
  | nil => rw [placesFrom, nodesAll, List.map_nil]
  | cons spec specs ih =>
    obtain ⟨hspec, hspecs⟩ := List.forall_mem_cons.mp hone
    rw [placesFrom, nodesAll, List.map_append, List.map_map, ih hspecs, ← hspec]
    rfl

/-- Without their positions, these are the descriptions in document order. -/
theorem map_snd_places (spec : NodeSpec) : spec.places.map Prod.snd = spec.nodes := by
  induction spec using NodeSpec.induct with
  | node spec ih => rw [places_eq, nodes_eq, List.map_cons, map_snd_placesFrom ih]

/-! ## Paths -/

variable {d d' : Document} {parent : NodeId} {path : String} {error : FixtureError}

/-- The element that is described at a position below a path. -/
def elementBelow (path : String) (place : List Nat × NodeSpec) : Except FixtureError Element :=
  place.2.elementAt (place.1.foldl childPath path)

theorem elementAt_eq_error_iff :
    spec.elementAt path = .error error ↔ Text.isBlankText spec.tag = true ∧ error = .emptyTag path := by
  unfold elementAt
  split
  · next hblank =>
    rw [Except.error.injEq, eq_comm]
    exact ⟨fun he => ⟨hblank, he⟩, And.right⟩
  · next hblank => simp [hblank]

/-- What comes after an element has been described fails where one of the descriptions below it does. -/
theorem error?_elementAt_bind {f : Element → Except FixtureError Document}
    (hf : error? (f spec.element) = error? ((placesFrom 0 spec.children).mapM (elementBelow path))) :
    error? (spec.elementAt path >>= f) = error? (spec.places.mapM (elementBelow path)) := by
  have hhere : error? (spec.elementAt path) = error? (elementBelow path ([], spec)) := rfl
  rw [places_eq, List.mapM_cons]
  refine error?_bind_congr hhere fun e e' he _ => ?_
  obtain ⟨-, rfl⟩ := elementAt_eq_ok_iff.mp he
  rw [hf]
  exact (error?_map _ _).symm

theorem error?_appendAllTo {index : Nat}
    (hone : ∀ spec ∈ specs, ∀ {d : Document} {path : String}, parent.index < d.tree.size →
      error? (spec.appendTo d parent path) = error? (spec.places.mapM (elementBelow path)))
    (hparent : parent.index < d.tree.size) :
    error? (appendAllTo d parent path index specs) =
      error? ((placesFrom index specs).mapM (elementBelow path)) := by
  induction specs generalizing d index with
  | nil =>
    rw [appendAllTo, placesFrom, List.mapM_nil]
    rfl
  | cons spec specs ih =>
    obtain ⟨hspec, hspecs⟩ := List.forall_mem_cons.mp hone
    -- a path that goes on at a child is the path of the child
    have hfirst : error? (spec.appendTo d parent (childPath path index)) =
        error? (spec.places.mapM (elementBelow path ∘ fun (position, s) => (index :: position, s))) :=
      hspec hparent
    rw [appendAllTo, placesFrom, List.mapM_append, List.mapM_map]
    refine error?_bind_congr hfirst fun d₁ _ hd₁ _ => ?_
    refine Eq.trans ?_ (error?_map _ _).symm
    exact ih hspecs (Nat.lt_of_lt_of_le hparent (appended_appendTo hd₁).1.size_le)

/-- **Appending to a node that exists fails where one of the descriptions does**, the first one in document
order. -/
theorem error?_appendTo (hparent : parent.index < d.tree.size) :
    error? (spec.appendTo d parent path) = error? (spec.places.mapM (elementBelow path)) := by
  induction spec using NodeSpec.induct generalizing d parent path with
  | node spec ih =>
    obtain ⟨d₁, happend⟩ := Document.exists_append spec.element hparent
    have hnew : d.tree.size < d₁.tree.size := by
      rw [Document.size_of_append happend]
      exact Nat.lt_succ_self _
    have hchildren : error? (appendAllTo d₁ ⟨d.tree.size⟩ path 0 spec.children) = _ :=
      error?_appendAllTo (fun s hs => fun {_ _} => ih s hs) hnew
    cases spec with
    | mk tag attributes text children =>
      rw [appendTo]
      refine error?_elementAt_bind ?_
      rw [happend]
      exact hchildren

/-- What comes before a place stands before it in the list. -/
theorem mem_before_of_lt {before after : List (List Nat × NodeSpec)} {place other : List Nat × NodeSpec}
    (hsorted : (before ++ place :: after).Pairwise fun a b => a.1 < b.1)
    (hmem : other ∈ before ++ place :: after) (hlt : other.1 < place.1) : other ∈ before := by
  rcases List.mem_append.mp hmem with hbefore | hrest
  · exact hbefore
  · have hafter := (List.pairwise_cons.mp (List.pairwise_append.mp hsorted).2.1).1
    rcases List.mem_cons.mp hrest with rfl | hrest
    · exact absurd hlt (List.lt_irrefl _)
    · exact absurd hlt (List.lt_asymm (hafter _ hrest))

/-- **The first description that fails** is the first one in document order whose tag is blank. -/
theorem failsFirst_places_iff :
    FailsFirst (elementBelow path) spec.places error ↔
      ∃ position s, spec.at? position = some s ∧ Text.isBlankText s.tag = true ∧
        (∀ earlier other, spec.at? earlier = some other → earlier < position →
          Text.isBlankText other.tag = false) ∧
        error = .emptyTag (position.foldl childPath path) := by
  have hsorted := spec.places_ascending
  constructor
  · rintro ⟨before, ⟨position, s⟩, after, hsplit, hbefore, hfails⟩
    obtain ⟨hblank, rfl⟩ := elementAt_eq_error_iff.mp hfails
    rw [hsplit] at hsorted
    have hmem : (position, s) ∈ spec.places := hsplit ▸ List.mem_append_right _ List.mem_cons_self
    refine ⟨position, s, mem_places_iff.mp hmem, hblank, fun earlier other hother hlt => ?_, rfl⟩
    -- what comes earlier has been described
    have hother := mem_places_iff.mpr hother
    rw [hsplit] at hother
    obtain ⟨_, hok⟩ := hbefore _ (mem_before_of_lt hsorted hother hlt)
    exact (elementAt_eq_ok_iff.mp hok).1
  · rintro ⟨position, s, hs, hblank, hearlier, rfl⟩
    obtain ⟨before, after, hsplit⟩ := List.append_of_mem (mem_places_iff.mpr hs)
    refine ⟨before, (position, s), after, hsplit, ?_, elementAt_eq_error_iff.mpr ⟨hblank, rfl⟩⟩
    rintro ⟨earlier, other⟩ hother
    have hmem : (earlier, other) ∈ spec.places := hsplit ▸ List.mem_append_left _ hother
    rw [hsplit] at hsorted
    have hlt := (List.pairwise_append.mp hsorted).2.2 _ hother _ List.mem_cons_self
    exact ⟨_, elementAt_eq_ok_iff.mpr ⟨hearlier _ _ (mem_places_iff.mp hmem) hlt, rfl⟩⟩

end NodeSpec

/-- **A description cannot be built** where one of its descriptions cannot. -/
theorem Fixture.error?_document (f : Fixture) :
    error? f.document = error? (f.root.places.mapM (NodeSpec.elementBelow rootPath)) := by
  refine NodeSpec.error?_elementAt_bind ?_
  exact NodeSpec.error?_appendAllTo (fun _ _ => fun {_ _} => NodeSpec.error?_appendTo) (Nat.succ_pos _)

/-! ## Numbers -/

namespace Document

variable {d d' d'' : Document} {parent n : NodeId}

/-- **What lies below a node stays** when an elder one gets more below it. -/
theorem Grows.subtree_eq (h : Grows parent d d') (hlt : parent.index < n.index) (hn : n.index < d.tree.size) :
    d'.tree.subtree n = d.tree.subtree n := by
  -- the younger the node, the less lies below it
  induction hk : d.tree.size - n.index using Nat.strongRecOn generalizing n with
  | ind k ih =>
    subst hk
    have hne : n ≠ parent := by
      rintro rfl
      exact Nat.lt_irrefl _ hlt
    rw [d'.tree.subtree_eq n, d.tree.subtree_eq n, h.children n hn hne]
    refine congrArg (n :: ·) (List.flatMap_congr fun child hc => ?_)
    have hyounger := Tree.lt_of_mem_children hc
    have hsize := Tree.lt_size_of_mem_children hc
    exact ih _ (by omega) (by omega) hsize rfl

/-- A node that gets more children keeps what lies below it, and what lies below them comes after that. -/
theorem Grows.subtree_parent (h : Grows parent d d') {nodes : List NodeId}
    (hchildren : d'.tree.children parent = d.tree.children parent ++ nodes) :
    d'.tree.subtree parent = d.tree.subtree parent ++ nodes.flatMap d'.tree.subtree := by
  have hold : (d.tree.children parent).flatMap d'.tree.subtree =
      (d.tree.children parent).flatMap d.tree.subtree :=
    List.flatMap_congr fun child hc =>
      h.subtree_eq (Tree.lt_of_mem_children hc) (Tree.lt_size_of_mem_children hc)
  rw [d'.tree.subtree_eq parent, d.tree.subtree_eq parent, hchildren, List.flatMap_append, hold, List.cons_append]

/-- **A document that goes on below a node:** what has come takes the next numbers, and comes in their order
after all that lies below the node. -/
structure Continues (parent : NodeId) (d d' : Document) : Prop where
  size_le : d.tree.size ≤ d'.tree.size
  subtree : d'.tree.subtree parent =
    d.tree.subtree parent ++ (List.range' d.tree.size (d'.tree.size - d.tree.size)).map NodeId.mk

theorem Continues.refl (parent : NodeId) (d : Document) : Continues parent d d where
  size_le := Nat.le_refl _
  subtree := by simp

theorem Continues.trans (h : Continues parent d d') (h' : Continues parent d' d'') : Continues parent d d'' where
  size_le := Nat.le_trans h.size_le h'.size_le
  subtree := by
    have hle := h.size_le
    have hle' := h'.size_le
    have hfirst : d.tree.size + (d'.tree.size - d.tree.size) = d'.tree.size := by omega
    have hboth : d'.tree.size - d.tree.size + (d''.tree.size - d'.tree.size) = d''.tree.size - d.tree.size := by
      omega
    rw [h'.subtree, h.subtree, List.append_assoc, ← List.map_append, ← hboth, ← List.range'_append_1, hfirst]

end Document

namespace NodeSpec

open Document

variable {d d' : Document} {parent : NodeId} {path : String}

theorem continues_appendAllTo {specs : List NodeSpec} {index : Nat}
    (hone : ∀ spec ∈ specs, ∀ {d d' : Document} {path : String},
      spec.appendTo d parent path = .ok d' → Continues parent d d')
    (h : appendAllTo d parent path index specs = .ok d') : Continues parent d d' := by
  induction specs generalizing d index with
  | nil =>
    rw [appendAllTo, Except.ok.injEq] at h
    exact h ▸ .refl _ _
  | cons spec rest ih =>
    obtain ⟨hspec, hspecs⟩ := List.forall_mem_cons.mp hone
    obtain ⟨d₁, hfirst, hrest⟩ := appendAllTo_cons_eq_ok_iff.mp h
    exact (hspec hfirst).trans (ih hspecs hrest)

/-- **What is appended takes the next numbers in document order.** -/
theorem continues_appendTo {spec : NodeSpec} (h : spec.appendTo d parent path = .ok d') :
    Continues parent d d' := by
  induction spec using NodeSpec.induct generalizing d d' parent path with
  | node spec ih =>
    obtain ⟨-, d₁, happend, hall⟩ := appendTo_eq_ok_iff.mp h
    have hsize := size_of_append happend
    have hbelow : Continues ⟨d.tree.size⟩ d₁ d' :=
      continues_appendAllTo (fun s hs => fun {_ _ _} => ih s hs) hall
    have hle := hbelow.size_le
    -- the new node comes last below its parent, and has taken the first of the numbers
    have hnew : d'.tree.subtree ⟨d.tree.size⟩ =
        (List.range' d.tree.size (d'.tree.size - d.tree.size)).map NodeId.mk := by
      have hcount : d'.tree.size - d.tree.size = d'.tree.size - (d.tree.size + 1) + 1 := by omega
      rw [hbelow.subtree, d₁.tree.subtree_eq, children_new_of_append happend, hsize, hcount, List.range'_succ]
      rfl
    obtain ⟨hgrows, hchildren⟩ :=
      grows_of_append_below happend (appended_appendAllTo (fun _ _ => appended_appendTo) hall).1
    refine ⟨by omega, ?_⟩
    rw [hgrows.subtree_parent hchildren, List.flatMap_singleton, hnew]

end NodeSpec

/-- **The nodes of a built document are numbered in document order.** -/
theorem Fixture.descendants_document {f : Fixture} {d : Document} (h : f.document = .ok d) :
    d.descendants = (List.range d.tree.size).map NodeId.mk := by
  obtain ⟨-, hall⟩ := document_eq_ok_iff.mp h
  have hcontinues := NodeSpec.continues_appendAllTo (fun _ _ => NodeSpec.continues_appendTo) hall
  have hle := hcontinues.size_le
  have htop : (Document.ofRoot f.root.element).tree.size = 1 := rfl
  have hcount : d.tree.size = d.tree.size - 1 + 1 := by omega
  show d.tree.subtree Tree.root = _
  rw [hcontinues.subtree, htop, List.range_eq_range', hcount, List.range'_succ]
  rfl

/-! ## Positions of nodes -/

/-- The node at a position below a node: the indices of the children that lead down to it. -/
def Tree.at? (t : Tree) : NodeId → List Nat → Option NodeId
  | node, [] => some node
  | node, index :: rest => (t.children node)[index]?.bind (t.at? · rest)

namespace Document

variable {d : Document} {n : NodeId} {spec : NodeSpec} {specs : List NodeSpec} {nodes : List NodeId}

/-- Of lists whose members are related one by one, what is found at an index is. -/
theorem rel_getElem? {α β : Type} {R : α → β → Prop} {xs : List α} {ys : List β}
    (h : List.Forall₂ R xs ys) (index : Nat) : Option.Rel R xs[index]? ys[index]? := by
  induction h generalizing index with
  | nil => exact .none
  | cons hxy _ ih =>
    cases index with
    | zero => exact .some hxy
    | succ index => exact ih index

/-- **At every position below a node there is what is described there,** and nothing where nothing is. -/
theorem Describes.at? (h : d.Describes n spec) (position : List Nat) :
    Option.Rel d.Describes (d.tree.at? n position) (spec.at? position) := by
  induction position generalizing n spec with
  | nil => exact .some h
  | cons index rest ih =>
    have hchild := rel_getElem? h.children index
    rw [Tree.at?, NodeSpec.at?]
    generalize (d.tree.children n)[index]? = node? at hchild
    generalize spec.children[index]? = spec? at hchild
    cases hchild with
    | some hchild => exact ih hchild
    | none => exact .none

theorem map_at?_placesFrom {index : Nat}
    (hone : ∀ s ∈ specs, ∀ {m : NodeId}, d.Describes m s →
      s.places.map (fun place => d.tree.at? m place.1) = (d.tree.subtree m).map some)
    (h : List.Forall₂ d.Describes nodes specs)
    (hnodes : ∀ k, nodes[k]? = (d.tree.children n)[index + k]?) :
    (NodeSpec.placesFrom index specs).map (fun place => d.tree.at? n place.1) =
      (nodes.flatMap d.tree.subtree).map some := by
  induction h generalizing index with
  | nil => rw [NodeSpec.placesFrom, List.flatMap_nil, List.map_nil, List.map_nil]
  | @cons m s nodes specs hhere _ ih =>
    obtain ⟨hs, hspecs⟩ := List.forall_mem_cons.mp hone
    have hfirst : (d.tree.children n)[index]? = some m := (hnodes 0).symm
    have hbelow : ∀ place : List Nat × NodeSpec, d.tree.at? n (index :: place.1) = d.tree.at? m place.1 := by
      intro place
      rw [Tree.at?, hfirst]
      rfl
    have hrest := ih hspecs fun k => (hnodes (k + 1)).trans (by rw [Nat.add_right_comm, Nat.add_assoc])
    rw [NodeSpec.placesFrom, List.flatMap_cons, List.map_append, List.map_append, hrest, ← hs hhere, List.map_map]
    exact congrArg (· ++ _) (List.map_congr_left fun place _ => hbelow place)

/-- **The nodes at the places of a description,** one after the other, are those at and below a node in document
order. -/
theorem Describes.map_at?_places (h : d.Describes n spec) :
    spec.places.map (fun place => d.tree.at? n place.1) = (d.tree.subtree n).map some := by
  induction spec using NodeSpec.induct generalizing n with
  | node spec ih =>
    have hnodes : ∀ k, (d.tree.children n)[k]? = (d.tree.children n)[0 + k]? := by
      intro k
      rw [Nat.zero_add]
    have hbelow := map_at?_placesFrom (fun s hs => fun {_} => ih s hs) h.children hnodes
    rw [NodeSpec.places_eq, d.tree.subtree_eq, List.map_cons, List.map_cons, hbelow]
    rfl

end Document

/-! ## Building -/

/-- A node has the element that is described. -/
def Document.Holds (d : Document) (node : NodeId) (spec : NodeSpec) : Prop :=
  ∃ e, d.element? node = some e ∧ e.Begins (Text.trim spec.tag) spec.attributes spec.text

namespace Fixture

variable {f : Fixture} {d : Document}

/-- **The path of a position,** as errors tell it: `root`, and then for each index of a child that leads down to it
the member `children` and the index in brackets. -/
def pathAt (position : List Nat) : String :=
  "root" ++ String.join (position.map fun index => ".children[" ++ toString index ++ "]")

/-- The path that building has come to at a position below another path. -/
theorem foldl_childPath (path : String) (position : List Nat) : position.foldl childPath path =
    path ++ String.join (position.map fun index => ".children[" ++ toString index ++ "]") := by
  induction position generalizing path with
  | nil => simp
  | cons index rest ih =>
    rw [List.foldl_cons, ih, List.map_cons, String.join_cons, ← String.append_assoc, childPath]
    simp only [String.append_assoc]

theorem pathAt_eq (position : List Nat) : pathAt position = position.foldl childPath rootPath :=
  (foldl_childPath rootPath position).symm

/-- **A document that is what was described.** -/
structure Built (f : Fixture) (d : Document) : Prop where
  /-- There are as many nodes as descriptions, -/
  size : d.tree.size = f.root.nodes.length
  /-- numbered in document order. -/
  numbered : d.descendants = (List.range d.tree.size).map NodeId.mk
  /-- At a position there is a node exactly if there is a description, and it has the element that is
  described. -/
  at? : ∀ position, Option.Rel d.Holds (d.tree.at? Tree.root position) (f.root.at? position)
  /-- Every node has one position, -/
  position : ∀ node, node.index < d.tree.size → ∃! position, d.tree.at? Tree.root position = some node
  /-- and of two nodes the one whose position comes first has the lower number. -/
  ascending : ∀ {position position' node node'}, d.tree.at? Tree.root position = some node →
    d.tree.at? Tree.root position' = some node' → (node.index < node'.index ↔ position < position')

theorem map_at?_places (h : f.document = .ok d) :
    f.root.places.map (fun place => d.tree.at? Tree.root place.1) =
      ((List.range d.tree.size).map NodeId.mk).map some := by
  rw [← descendants_document h]
  exact (describes_document h).map_at?_places

theorem length_places (h : f.document = .ok d) : f.root.places.length = d.tree.size := by
  have hlength := congrArg List.length (map_at?_places h)
  rwa [List.length_map, List.length_map, List.length_map, List.length_range] at hlength

/-- **The node at the `k`-th place has the number `k`.** -/
theorem at?_of_getElem?_places (h : f.document = .ok d) {k : Nat} {place : List Nat × NodeSpec}
    (hplace : f.root.places[k]? = some place) : d.tree.at? Tree.root place.1 = some ⟨k⟩ := by
  have hk : k < d.tree.size := by
    rw [← length_places h]
    exact (List.getElem?_eq_some_iff.mp hplace).1
  have hnode := congrArg (·[k]?) (map_at?_places h)
  simp only [List.getElem?_map, hplace, List.getElem?_range hk, Option.map_some] at hnode
  exact Option.some.inj hnode

theorem at?_eq_some_iff (h : f.document = .ok d) {position : List Nat} {node : NodeId} :
    d.tree.at? Tree.root position = some node ↔
      ∃ spec, f.root.places[node.index]? = some (position, spec) := by
  constructor
  · intro hnode
    have hrel := (describes_document h).at? position
    rw [hnode] at hrel
    cases hspec : f.root.at? position with
    | none =>
      rw [hspec] at hrel
      cases hrel
    | some spec =>
      obtain ⟨k, hk⟩ := List.mem_iff_getElem?.mp (NodeSpec.mem_places_iff.mpr hspec)
      have hplace := hnode.symm.trans (at?_of_getElem?_places h hk)
      obtain rfl := Option.some.inj hplace
      exact ⟨spec, hk⟩
  · rintro ⟨spec, hplace⟩
    exact at?_of_getElem?_places h hplace

theorem built_document (h : f.document = .ok d) : f.Built d where
  size := by rw [← NodeSpec.map_snd_places, List.length_map, length_places h]
  numbered := descendants_document h
  at? position := by
    have hrel := (describes_document h).at? position
    generalize d.tree.at? Tree.root position = node? at hrel ⊢
    generalize f.root.at? position = spec? at hrel ⊢
    cases hrel with
    | some hhere => exact .some ⟨_, hhere.element, NodeSpec.begins_element _⟩
    | none => exact .none
  position node hnode := by
    have hlt : node.index < f.root.places.length := by
      rw [length_places h]
      exact hnode
    have hplace := List.getElem?_eq_getElem hlt
    refine ⟨_, at?_of_getElem?_places h hplace, fun other hother => ?_⟩
    obtain ⟨spec, hplace'⟩ := (at?_eq_some_iff h).mp hother
    exact congrArg Prod.fst (Option.some.inj (hplace'.symm.trans hplace))
  ascending hnode hnode' := by
    obtain ⟨_, hplace⟩ := (at?_eq_some_iff h).mp hnode
    obtain ⟨_, hplace'⟩ := (at?_eq_some_iff h).mp hnode'
    exact NodeSpec.lt_iff_lt_of_places hplace hplace'

/-- **Building a document is exact.** A description is built exactly if none of its tags is blank. Otherwise it is
refused with the path of the first description in document order whose tag is, and with no other error. What is
built has a node for each description, at the same position below the root and with the element that is described,
and the nodes are numbered in document order. -/
theorem document_exact (f : Fixture) :
    ((∃ d, f.document = .ok d) ↔
      ∀ position spec, f.root.at? position = some spec → Text.isBlankText spec.tag = false) ∧
    (∀ error, f.document = .error error ↔
      ∃ position spec, f.root.at? position = some spec ∧ Text.isBlankText spec.tag = true ∧
        (∀ earlier other, f.root.at? earlier = some other → earlier < position →
          Text.isBlankText other.tag = false) ∧
        error = .emptyTag (pathAt position)) ∧
    ∀ d, f.document = .ok d → f.Built d := by
  have herror := f.error?_document
  refine ⟨?_, fun error => ?_, fun d h => built_document h⟩
  · rw [← isNone_error?_iff, herror, isNone_error?_iff, mapM_ok_iff]
    constructor
    · intro hok position spec hspec
      obtain ⟨_, helement⟩ := hok _ (NodeSpec.mem_places_iff.mpr hspec)
      exact (NodeSpec.elementAt_eq_ok_iff.mp helement).1
    · rintro hnonblank ⟨position, spec⟩ hmem
      have hspec := hnonblank _ _ (NodeSpec.mem_places_iff.mp hmem)
      exact ⟨_, NodeSpec.elementAt_eq_ok_iff.mpr ⟨hspec, rfl⟩⟩
  · simp only [pathAt_eq]
    rw [← error?_eq_some_iff, herror, error?_eq_some_iff, mapM_eq_error_iff]
    exact NodeSpec.failsFirst_places_iff

/-- Of two blank tags the one that comes first in document order is reported, although it lies deeper. -/
example : error? (document ⟨.mk "ul" .empty none [.mk "li" .empty none [],
    .mk "li" .empty none [.mk " " .empty none []], .mk "" .empty none []]⟩) =
      some (.emptyTag "root.children[1].children[0]") := by decide +kernel

end Fixture

end ReactiveForm
