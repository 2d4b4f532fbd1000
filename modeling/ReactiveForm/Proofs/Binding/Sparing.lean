import ReactiveForm.Proofs.Binding.Commit

/-!
# `ReactiveForm.Proofs.Binding.Sparing` — what a pass leaves alone

An index has one directive of each kind for each node, and only directives of one kind assign attributes.
So a node keeps its data through every part of a pass that does not hold its assignment, and it keeps its
text through every part that does not hold its echo; all that others can do to it is to take its mark.

## Contents
- `Outcome.isChecked_self`, `isChecked_other` and `hasClass_rewriting`, marks and classes after a
  commitment.
- `Document.Spared`, a node that nothing is assigned to, with `Pass.spared_applyAll`.
- `Pass.applyAll_induction`: **what every entry leaves as it is, the pass leaves as it is**.
- `Pass.view_applyAll_of_plain`, views that plain attributes do not show, and `Pass.Plain`, entries that
  change no input.
- `Index.Spares` and `Element.ReadFrom`, with `Pass.view_applyAll_of_spares`: **what is read from some attributes
  is kept where none of them is assigned**.
-/

namespace ReactiveForm

/-! ## What other directives leave alone -/

/-- The part of an element that directives of other nodes do not touch. -/
def Element.ownPart (e : Element) : String × StringMap String × Option String × String :=
  (e.tag, e.attributes, e.text, e.value)

/-- The part of an element that only an assignment touches. -/
def Element.dataPart (e : Element) : String × StringMap String × String :=
  (e.tag, e.attributes, e.value)

theorem Element.role?_of_dataPart {e e' : Element} (h : e.dataPart = e'.dataPart) :
    e.role? = e'.role? := by
  obtain ⟨htag, hrest⟩ := Prod.ext_iff.mp h
  have hattributes : e.attributes = e'.attributes := congrArg Prod.fst hrest
  have htag : e.tag = e'.tag := htag
  unfold role? control? attribute?
  rw [htag, hattributes]

theorem Element.dataPart_of_ownPart {e e' : Element} (h : e.ownPart = e'.ownPart) :
    e.dataPart = e'.dataPart :=
  congrArg (fun part : String × StringMap String × Option String × String =>
    (part.1, part.2.1, part.2.2.2)) h

namespace Outcome

variable {o : Outcome}

theorem dataPart_rewrite (e : Element) :
    (o.rewrite e).dataPart = (e.tag, o.reattribute e.attributes, o.valueWish.getD e.value) := by
  unfold Element.dataPart
  rw [tag_rewrite, attributes_rewrite, value_rewrite]

theorem dataPart_rewrite_of_unassigned (h : o.assignment = none) (e : Element) :
    (o.rewrite e).dataPart = e.dataPart := by
  rw [dataPart_rewrite]
  unfold reattribute valueWish
  rw [h]
  rfl

theorem ownPart_rewriting_of_ne {d : Document} {node n : NodeId} (h : node ≠ n) (e : Element) :
    (o.rewriting d node n e).ownPart = e.ownPart := by
  unfold rewriting
  rw [if_neg h]
  split <;> rfl

end Outcome

/-- An assignment is found out by one kind of directives. -/
theorem Directive.assignment_of_finding {directive : Directive} {config : Config}
    {change : Option Change} {d : Document} {o : Outcome} (hkind : directive.kind ≠ .attributeIf)
    (h : directive.finding config change d = .ok o) : o.assignment = none := by
  refine Option.eq_none_iff_forall_ne_some.mpr fun a ha => ?_
  have hmem := assignment_mem (finding_eq_ok_iff.mp h).1 a ha
  rw [assignments_of_kind hkind] at hmem
  cases hmem

/-- And a text by another. -/
theorem Directive.text_of_finding {directive : Directive} {config : Config}
    {change : Option Change} {d : Document} {o : Outcome} (hkind : directive.kind ≠ .echo)
    (h : directive.finding config change d = .ok o) : o.text = none := by
  obtain ⟨truths, -, text, -, rfl⟩ := outcome_eq_ok_iff.mp (finding_eq_ok_iff.mp h).1
  unfold settle
  split
  · rfl
  · rfl
  · rfl
  · rfl
  · rfl
  · exact absurd rfl hkind
  · rfl

/-! ## What the rest of a pass spares -/

/-- **A node that nothing is assigned to:** it keeps its data, and it can only lose the mark, and that
only as a radio button with a name. -/
structure Document.Spared (n : NodeId) (d d' : Document) : Prop where
  data : (d'.element? n).map Element.dataPart = (d.element? n).map Element.dataPart
  unmarked : d'.isChecked n = true → d.isChecked n = true
  mark : (∀ group, d.role? n ≠ some (.radio, some group)) → d'.isChecked n = d.isChecked n

namespace Document

variable {d d' d'' : Document} {n : NodeId}

theorem Spared.role? (h : Spared n d d') : d'.role? n = d.role? n :=
  bind_element?_congr h.data fun _ _ => Element.role?_of_dataPart

theorem Spared.refl (n : NodeId) (d : Document) : Spared n d d := ⟨rfl, id, fun _ => rfl⟩

theorem Spared.trans (h : Spared n d d') (h' : Spared n d' d'') : Spared n d d'' where
  data := h'.data.trans h.data
  unmarked hn := h.unmarked (h'.unmarked hn)
  mark hn := (h'.mark (by rwa [h.role?])).trans (h.mark hn)

end Document

namespace Outcome

variable {o : Outcome} {d d' : Document} {node n : NodeId}

/-- The state of a control after an outcome has been committed. -/
theorem isChecked_rewriting (h : Document.Rewritten (o.rewriting d node) d d') (n : NodeId) :
    d'.isChecked n =
      if node = n then (d.element? n).any fun e => o.markWish.getD e.checked
      else !decide (n ∈ o.unmarked d node) && d.isChecked n := by
  rw [h.isChecked]
  unfold rewriting
  split
  · simp only [checked_rewrite]
  · unfold Document.isChecked
    by_cases hmem : n ∈ o.unmarked d node
    · simp [hmem, Element.withChecked]
    · simp [hmem]

theorem isChecked_self (h : Document.Rewritten (o.rewriting d node) d d')
    (hn : node.index < d.tree.size) : d'.isChecked node = o.markWish.getD (d.isChecked node) := by
  obtain ⟨e, he⟩ := Option.isSome_iff_exists.mp (Document.isSome_element?_iff.mpr hn)
  rw [isChecked_rewriting h, if_pos rfl, Document.isChecked, he]
  rfl

theorem isChecked_other (h : Document.Rewritten (o.rewriting d node) d d') (hne : node ≠ n)
    (hmem : n ∉ o.unmarked d node) : d'.isChecked n = d.isChecked n := by
  rw [isChecked_rewriting h, if_neg hne, decide_eq_false hmem]
  rfl

theorem isChecked_of_unmarked (h : Document.Rewritten (o.rewriting d node) d d')
    (hmem : n ∈ o.unmarked d node) : d'.isChecked n = false := by
  have hne : node ≠ n := fun he => (mem_unmarked.mp hmem).2.1 he.symm
  rw [isChecked_rewriting h, if_neg hne, decide_eq_true hmem]
  rfl

/-- A class after an outcome has been committed. -/
theorem hasClass_rewriting (h : Document.Rewritten (o.rewriting d node) d d')
    (hn : node.index < d.tree.size) (n : NodeId) (c : String) :
    d'.hasClass n c =
      if node = n then (o.classWish c).getD (d.hasClass n c) else d.hasClass n c := by
  unfold Document.hasClass
  rw [h.element?, Option.any_map]
  unfold rewriting
  by_cases he : node = n
  · subst he
    obtain ⟨e, he⟩ := Option.isSome_iff_exists.mp (Document.isSome_element?_iff.mpr hn)
    simp only [he, Option.any_some, if_true, hasClass_rewrite]
  · simp only [if_neg he]
    refine congrArg (Option.any · _) (funext fun e => ?_)
    show Element.hasClass (if _ then _ else _) c = _
    split <;> rfl

theorem ownPart_rewrite_congr {e e' : Element} (h : e.ownPart = e'.ownPart) :
    (o.rewrite e).ownPart = (o.rewrite e').ownPart := by
  have htag : e.tag = e'.tag := congrArg (·.1) h
  have hattributes : e.attributes = e'.attributes := congrArg (·.2.1) h
  have htext : e.text = e'.text := congrArg (·.2.2.1) h
  have hvalue : e.value = e'.value := congrArg (·.2.2.2) h
  unfold Element.ownPart
  rw [tag_rewrite, tag_rewrite, attributes_rewrite, attributes_rewrite, text_rewrite, text_rewrite,
    value_rewrite, value_rewrite, htag, hattributes, htext, hvalue]

/-- An element that keeps what an outcome has written to it, is not changed by writing it again. -/
theorem ownPart_rewrite_of_written {e f : Element}
    (hdata : o.assignment ≠ none → e.dataPart = (o.rewrite f).dataPart)
    (htext : o.text ≠ none → e.text = (o.rewrite f).text) : (o.rewrite e).ownPart = e.ownPart := by
  have hattributes : (o.rewrite e).attributes = e.attributes := by
    rw [attributes_rewrite]
    by_cases h : o.assignment = none
    · rw [reattribute, h]
    · have he : e.attributes = (o.rewrite f).attributes := congrArg (·.2.1) (hdata h)
      rw [he, attributes_rewrite, reattribute_reattribute]
  have hvalue : (o.rewrite e).value = e.value := by
    rw [value_rewrite]
    by_cases h : o.assignment = none
    · rw [valueWish, h]
      rfl
    · have he : e.value = (o.rewrite f).value := congrArg (·.2.2) (hdata h)
      rw [he, value_rewrite]
      cases o.valueWish <;> rfl
  have htext : (o.rewrite e).text = e.text := by
    rw [text_rewrite]
    cases h : o.text with
    | none => rfl
    | some text =>
      rw [htext (by rw [h]; exact Option.some_ne_none text), text_rewrite, h]
      rfl
  unfold Element.ownPart
  rw [tag_rewrite, hattributes, htext, hvalue]

/-- **An outcome spares every node that it assigns nothing to.** -/
theorem spared (h : Document.Rewritten (o.rewriting d node) d d')
    (hn : node = n → o.assignment = none) : Document.Spared n d d' := by
  by_cases he : node = n
  · have hnone := hn he
    have hmark : o.markWish = none := by rw [markWish, hnone]; rfl
    have hchecked : d'.isChecked n = d.isChecked n := by
      rw [isChecked_rewriting h, if_pos he, hmark]
      rfl
    refine ⟨?_, fun hc => hchecked ▸ hc, fun _ => hchecked⟩
    rw [h.map]
    unfold rewriting
    simp only [if_pos he, dataPart_rewrite_of_unassigned hnone]
  · -- another node can only lose its mark, to a radio button of the same name
    have hchecked : d'.isChecked n = (!decide (n ∈ o.unmarked d node) && d.isChecked n) := by
      rw [isChecked_rewriting h, if_neg he]
    refine ⟨?_, fun hc => ?_, fun hrole => ?_⟩
    · rw [h.map]
      refine congrArg (Option.map · _) (funext fun e => ?_)
      exact Element.dataPart_of_ownPart (ownPart_rewriting_of_ne he e)
    · rw [hchecked, Bool.and_eq_true] at hc
      exact hc.2
    · have hmem : n ∉ o.unmarked d node := by
        intro hmem
        obtain ⟨-, -, -, group, -, hgroup⟩ := mem_unmarked.mp hmem
        exact hrole group hgroup
      rw [hchecked, decide_eq_false hmem]
      rfl

end Outcome

namespace Pass

variable {config : Config} {change : Option Change} {p q : Pass} {entry : IndexedDirective}
  {entries rest : List IndexedDirective} {n : NodeId}

/-- **One entry is skipped or rewrites the document.** -/
theorem apply_cases (hn : entry.node.index < p.document.tree.size) :
    (apply config change p entry).document = p.document ∨
      ∃ o, entry.directive.finding config change p.document = .ok o ∧
        Document.Rewritten (o.rewriting p.document entry.node) p.document
          (apply config change p entry).document := by
  cases h : entry.directive.finding config change p.document with
  | error e => exact .inl (by rw [apply_of_finding_error hn h])
  | ok o => exact .inr ⟨o, rfl, (apply_of_finding hn h).1⟩

theorem tree_apply_of_inTree (hn : entry.node.index < p.document.tree.size) :
    (apply config change p entry).document.tree = p.document.tree := by
  rcases apply_cases hn with h | ⟨o, -, h⟩
  · rw [h]
  · exact h.tree

theorem spared_apply (hn : entry.node.index < p.document.tree.size)
    (hkey : entry.key ≠ (n, .attributeIf)) :
    Document.Spared n p.document (apply config change p entry).document := by
  rcases apply_cases hn with h | ⟨o, ho, h⟩
  · rw [h]
    exact .refl n _
  · refine Outcome.spared h fun he => Directive.assignment_of_finding (fun hkind => hkey ?_) ho
    rw [IndexedDirective.key, he, hkind]

theorem text_apply (hn : entry.node.index < p.document.tree.size)
    (hkey : entry.key ≠ (n, .echo)) :
    ((apply config change p entry).document.element? n).map Element.text =
      (p.document.element? n).map Element.text := by
  rcases apply_cases hn with h | ⟨o, ho, h⟩
  · rw [h]
  · rw [h.map]
    refine congrArg (Option.map · _) (funext fun e => ?_)
    by_cases he : entry.node = n
    · have hnone : o.text = none := by
        refine Directive.text_of_finding (fun hkind => hkey ?_) ho
        rw [IndexedDirective.key, he, hkind]
      rw [Outcome.rewriting, if_pos he, Outcome.text_rewrite, hnone]
      rfl
    · exact congrArg (·.2.2.1) (Outcome.ownPart_rewriting_of_ne he e)

/-- What every entry leaves as it is, the pass leaves as it is. -/
theorem applyAll_induction {R : Document → Document → Prop} (hrefl : ∀ d, R d d)
    (htrans : ∀ d d' d'', R d d' → R d' d'' → R d d'')
    (hstep : ∀ entry ∈ entries, ∀ p : Pass, entry.node.index < p.document.tree.size →
      R p.document (apply config change p entry).document)
    (hn : ∀ entry ∈ entries, entry.node.index < p.document.tree.size) :
    R p.document (applyAll config change p entries).document := by
  induction entries generalizing p with
  | nil => exact hrefl _
  | cons entry rest ih =>
    obtain ⟨hentry, hrest⟩ := List.forall_mem_cons.mp hn
    obtain ⟨hfirst, hothers⟩ := List.forall_mem_cons.mp hstep
    refine htrans _ _ _ (hfirst p hentry) (ih hothers fun other ho => ?_)
    rw [tree_apply_of_inTree hentry]
    exact hrest other ho

theorem tree_applyAll (hn : ∀ entry ∈ entries, entry.node.index < p.document.tree.size) :
    (applyAll config change p entries).document.tree = p.document.tree :=
  applyAll_induction (R := fun d d' => d'.tree = d.tree) (fun _ => rfl)
    (fun _ _ _ h h' => h'.trans h) (fun _ _ _ => tree_apply_of_inTree) hn

theorem spared_applyAll (hn : ∀ entry ∈ entries, entry.node.index < p.document.tree.size)
    (hkey : ∀ entry ∈ entries, entry.key ≠ (n, .attributeIf)) :
    Document.Spared n p.document (applyAll config change p entries).document :=
  applyAll_induction (R := Document.Spared n) (Document.Spared.refl n)
    (fun _ _ _ h h' => h.trans h') (fun entry h _ hn => spared_apply hn (hkey entry h)) hn

theorem text_applyAll_of_key (hn : ∀ entry ∈ entries, entry.node.index < p.document.tree.size)
    (hkey : ∀ entry ∈ entries, entry.key ≠ (n, .echo)) :
    ((applyAll config change p entries).document.element? n).map Element.text =
      (p.document.element? n).map Element.text :=
  applyAll_induction
    (R := fun d d' => (d'.element? n).map Element.text = (d.element? n).map Element.text)
    (fun _ => rfl) (fun _ _ _ h h' => h'.trans h) (fun entry h _ hn => text_apply hn (hkey entry h)) hn

/-! ## Plain attributes -/

/-- What no outcome touches, one entry does not touch, as long as it assigns no attribute that stands for
more than itself. -/
theorem view_apply_of_plain {α : Type} {π : Element → α}
    (hn : entry.node.index < p.document.tree.size)
    (hplain : ∀ a ∈ entry.directive.assignments, a.name ∉ Document.mirroredAttributes)
    (hπ : ∀ o : Outcome, (∀ a ∈ o.assignment, a ∈ entry.directive.assignments) →
      ∀ e, π (o.write e) = π e) :
    (apply config change p entry).document.view π = p.document.view π := by
  rcases apply_cases hn with h | ⟨o, ho, h⟩
  · rw [h]
  · have hassign := Directive.assignment_mem (Directive.finding_eq_ok_iff.mp ho).1
    refine h.view fun n e => ?_
    rw [Outcome.rewriting_of_plain fun a ha => hplain a (hassign a ha)]
    split
    · exact hπ o hassign e
    · rfl

/-- **What no outcome touches, the pass does not touch.** -/
theorem view_applyAll_of_plain {α : Type} {π : Element → α}
    (hn : ∀ entry ∈ entries, entry.node.index < p.document.tree.size)
    (hplain : ∀ entry ∈ entries, ∀ a ∈ entry.directive.assignments,
      a.name ∉ Document.mirroredAttributes)
    (hπ : ∀ entry ∈ entries, ∀ o : Outcome, (∀ a ∈ o.assignment, a ∈ entry.directive.assignments) →
      ∀ e, π (o.write e) = π e) :
    (applyAll config change p entries).document.view π = p.document.view π :=
  applyAll_induction (R := fun d d' => d'.view π = d.view π) (fun _ => rfl)
    (fun _ _ _ h h' => h'.trans h)
    (fun entry h _ hn => view_apply_of_plain hn (hplain entry h) (hπ entry h)) hn

/-- **Entries that change no input:** their nodes exist, and what they assign stands for itself only and is
not read with inputs. -/
structure Plain (d : Document) (entries : List IndexedDirective) : Prop where
  inTree : ∀ entry ∈ entries, entry.node.index < d.tree.size
  assignments : ∀ entry ∈ entries, ∀ a ∈ entry.directive.assignments,
    a.name ∉ Document.mirroredAttributes ∧ a.name ≠ "name" ∧ a.name ≠ "type"

namespace Plain

theorem inputView_apply (h : Plain p.document (entry :: rest)) :
    (apply config change p entry).document.view Element.inputPart =
      p.document.view Element.inputPart :=
  view_apply_of_plain (h.inTree entry List.mem_cons_self)
    (fun a ha => (h.assignments entry List.mem_cons_self a ha).1)
    fun _ ho => Outcome.inputPart_write fun a ha => (h.assignments entry List.mem_cons_self a (ho a ha)).2

theorem tail (h : Plain p.document (entry :: rest)) :
    Plain (apply config change p entry).document rest where
  inTree other ho := by
    rw [tree_apply_of_inTree (h.inTree entry List.mem_cons_self)]
    exact h.inTree other (List.mem_cons_of_mem _ ho)
  assignments other ho := h.assignments other (List.mem_cons_of_mem _ ho)

theorem inputView_applyAll (h : Plain p.document entries) :
    (applyAll config change p entries).document.view Element.inputPart =
      p.document.view Element.inputPart :=
  view_applyAll_of_plain h.inTree (fun entry hentry a ha => (h.assignments entry hentry a ha).1)
    fun entry hentry _ ho => Outcome.inputPart_write fun a ha => (h.assignments entry hentry a (ho a ha)).2

end Plain

end Pass

/-! ## Parts that are read from some attributes -/

/-- **Directives that leave some attributes alone:** they assign none of them. -/
def Index.Spares (i : Index) (names : List String) : Prop :=
  ∀ entry ∈ i.entries, ∀ a ∈ entry.directive.assignments, a.name ∉ names

instance (i : Index) (names : List String) : Decidable (i.Spares names) :=
  inferInstanceAs (Decidable (∀ entry ∈ i.entries, _))

/-- **A part of elements that is read from some attributes:** an outcome that assigns none of them is not seen
in it, at whatever node it is committed. -/
def Element.ReadFrom {α : Type} (names : List String) (π : Element → α) : Prop :=
  ∀ o : Outcome, (∀ a ∈ o.assignment, a.name ∉ names) →
    ∀ (d : Document) (node n : NodeId) (e : Element), π (o.rewriting d node n e) = π e

/-- An attribute that is not assigned is as before. Losing a mark is not seen in the attributes. -/
theorem Outcome.attribute?_rewriting {o : Outcome} {key : String} (hkey : key ≠ "class")
    (h : ∀ a ∈ o.assignment, a.name ≠ key) (d : Document) (node n : NodeId) (e : Element) :
    (o.rewriting d node n e).attribute? key = e.attribute? key := by
  unfold rewriting
  split
  · rw [attribute?_rewrite hkey, assigned_eq_none h, Option.none_or]
  · split <;> rfl

/-- **A pass that leaves some attributes alone is not seen in what is read from them,** even if it writes to
nodes that do not exist. -/
theorem Pass.view_applyAll_of_spares {α : Type} {π : Element → α} {names : List String}
    (hπ : Element.ReadFrom names π) {config : Config} {change : Option Change}
    {entries : List IndexedDirective}
    (hspares : ∀ entry ∈ entries, ∀ a ∈ entry.directive.assignments, a.name ∉ names) (p : Pass) :
    (applyAll config change p entries).document.view π = p.document.view π := by
  induction entries generalizing p with
  | nil => rfl
  | cons entry rest ih =>
    obtain ⟨hentry, hrest⟩ := List.forall_mem_cons.mp hspares
    refine (ih hrest _).trans ?_
    unfold apply
    split
    · next d state? heffect =>
      obtain ⟨o, ho, hcommit⟩ := Directive.commit_of_effect heffect
      exact Outcome.view_commit
        (hπ o (fun a ha => hentry a (Directive.assignment_mem ho a ha)) p.document entry.node) hcommit
    · rfl

end ReactiveForm
