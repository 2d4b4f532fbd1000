import ReactiveForm.Proofs.Binding.Commit

/-!
# `ReactiveForm.Proofs.Binding.InPlace` — a document that is edited in place

An effect that fails answers with no document, so that nothing can be wrong with it. A program that has
one document only edits it in place: it makes one edit after the other, and when one of them is refused,
those before it have been made. Here is what a directive does edit by edit, and why nothing is ever left
half done: a list of classes has been checked when it was read, a marker is a single class, and where there
is no node the first edit is refused.

## Contents
- `Document.InPlace` and `Document.inTurn`, edits in place, made in turn until one of them is refused.
- `Document.assignInPlace` and `Outcome.perform`, what setting an attribute and committing an outcome come
  to edit by edit.
- `Outcome.perform_eq`: **an outcome is committed as a whole or not at all**.
- `Pass.enact`, an entry applied in place, and `Pass.enact_eq_apply`.
-/

namespace ReactiveForm

/-! ## Edits in place -/

namespace Document

/-- An operation that edits a document in place. It leaves a document, and the error that has stopped it,
if one has. -/
abbrev InPlace := Document → Document × Option DocumentError

/-- An operation that leaves the document as it is when it fails. -/
def allOrNothing (edit : Document → Except DocumentError Document) : InPlace := fun d =>
  match edit d with
  | .ok d' => (d', none)
  | .error e => (d, some e)

/-- Operations one after the other. The first that fails stops them, and what has been done stays done. -/
def inTurn : List InPlace → InPlace
  | [], d => (d, none)
  | step :: rest, d =>
    match step d with
    | (d', none) => inTurn rest d'
    | (d', some e) => (d', some e)

/-- Sets the state of a control in place. A radio button takes the mark from one button after the other. -/
def markInPlace (node : NodeId) (checked : Bool) : InPlace := fun d =>
  let mark : InPlace := allOrNothing (·.edit node (·.withChecked checked))
  if d.control? node = some .radio then
    let others := if checked then d.otherRadios node else []
    inTurn (others.map (fun other => allOrNothing (·.edit other (·.withChecked false))) ++ [mark]) d
  else mark d

/-- Sets an attribute in place: the value or the state of the control first, and then the attribute. -/
def assignInPlace (node : NodeId) (name value : String) : InPlace :=
  if name = "class" then allOrNothing (·.edit node ({ · with classes := Text.wordsOf value }))
  else
    inTurn
      [if name = "value" then allOrNothing (·.setValue node value)
        else if name = "checked" then markInPlace node (value != "false")
        else allOrNothing .ok,
       allOrNothing (·.edit node fun e => { e with attributes := e.attributes.insert name value })]

variable {d d' : Document} {node : NodeId} {e : DocumentError} {step : InPlace} {first rest : List InPlace}
  {edit : Document → Except DocumentError Document}

theorem allOrNothing_of_ok (h : edit d = .ok d') : allOrNothing edit d = (d', none) := by
  unfold allOrNothing
  rw [h]

theorem allOrNothing_of_error (h : edit d = .error e) : allOrNothing edit d = (d, some e) := by
  unfold allOrNothing
  rw [h]

theorem inTurn_cons_of_ok (h : step d = (d', none)) : inTurn (step :: rest) d = inTurn rest d' := by
  rw [inTurn, h]

theorem inTurn_cons_of_error (h : step d = (d', some e)) : inTurn (step :: rest) d = (d', some e) := by
  rw [inTurn, h]

theorem inTurn_append_of_ok (h : inTurn first d = (d', none)) :
    inTurn (first ++ rest) d = inTurn rest d' := by
  induction first generalizing d with
  | nil =>
    obtain rfl : d = d' := congrArg Prod.fst h
    rfl
  | cons step others ih =>
    obtain ⟨d₁, e₁, hstep⟩ : ∃ d₁ e₁, step d = (d₁, e₁) := ⟨_, _, rfl⟩
    cases e₁ with
    | none =>
      rw [inTurn_cons_of_ok hstep] at h
      rw [List.cons_append, inTurn_cons_of_ok hstep, ih h]
    | some e =>
      rw [inTurn_cons_of_error hstep] at h
      cases congrArg Prod.snd h

/-- Edits of elements that exist are made. -/
theorem inTurn_edits {nodes : List NodeId} {f : Element → Element}
    (h : ∀ n ∈ nodes, n.index < d.tree.size) :
    inTurn (nodes.map fun n => allOrNothing (·.edit n f)) d =
      (nodes.foldl (fun d n => d.modify n f) d, none) := by
  induction nodes generalizing d with
  | nil => rfl
  | cons n rest ih =>
    obtain ⟨hn, hrest⟩ := List.forall_mem_cons.mp h
    rw [List.map_cons, inTurn_cons_of_ok (allOrNothing_of_ok (edit_of_lt hn f)), List.foldl_cons]
    exact ih hrest

/-- Of two edits nothing is left half done, if the second is refused only where the first does nothing. -/
theorem inTurn_pair {next : Document → Except DocumentError Document}
    (h : ∀ d' e, edit d = .ok d' → next d' = .error e → d' = d) :
    inTurn [allOrNothing edit, allOrNothing next] d = allOrNothing (fun d => edit d >>= next) d := by
  cases hedit : edit d with
  | error e =>
    have hboth : (edit d >>= next) = .error e := by rw [hedit]; rfl
    rw [inTurn_cons_of_error (allOrNothing_of_error hedit), allOrNothing_of_error hboth]
  | ok d₁ =>
    have hboth : (edit d >>= next) = next d₁ := by rw [hedit]; rfl
    rw [inTurn_cons_of_ok (allOrNothing_of_ok hedit)]
    cases hnext : next d₁ with
    | error e =>
      rw [inTurn_cons_of_error (allOrNothing_of_error hnext), allOrNothing_of_error (hboth.trans hnext),
        h d₁ e hedit hnext]
    | ok d₂ =>
      rw [inTurn_cons_of_ok (allOrNothing_of_ok hnext), allOrNothing_of_ok (hboth.trans hnext)]
      rfl

/-- The state that follows an attribute `checked`. -/
def setState (d : Document) (node : NodeId) (checked : Bool) : Except DocumentError Document :=
  match d.control? node with
  | some .checkbox => d.setChecked node checked
  | some .radio => d.setChecked node checked
  | _ => d.edit node (·.withChecked checked)

theorem setState_of_radio {checked : Bool} (h : d.control? node = some .radio) :
    d.setState node checked = d.setChecked node checked := by
  unfold setState
  rw [h]

theorem setState_of_other {checked : Bool} (h : d.control? node ≠ some .radio) :
    d.setState node checked = d.edit node (·.withChecked checked) := by
  unfold setState
  split
  · next hkind => simp only [setChecked, hkind]
  · next hkind => exact absurd hkind h
  · rfl

/-- **The mark is taken and given as a whole:** the buttons that lose it exist, and so does the one that
gets it. -/
theorem markInPlace_eq (node : NodeId) (checked : Bool) :
    markInPlace node checked = allOrNothing (·.setState node checked) := by
  funext d
  unfold markInPlace
  by_cases hradio : d.control? node = some .radio
  · have hn : node.index < d.tree.size := by
      obtain ⟨e, he, -⟩ := Option.bind_eq_some_iff.mp hradio
      exact lt_size_of_element? he
    have hothers : ∀ n ∈ if checked then d.otherRadios node else [], n.index < d.tree.size := by
      intro n hmem
      cases checked with
      | false => cases hmem
      | true =>
        rw [if_pos rfl] at hmem
        unfold otherRadios at hmem
        split at hmem
        · cases hmem
        · exact lt_size_of_attribute? (mem_named.mp (List.mem_filter.mp hmem).1).2
    have hset : d.setState node checked =
        ((if checked then d.otherRadios node else []).foldl
          (fun d other => d.modify other (·.withChecked false)) d).edit node (·.withChecked checked) := by
      rw [setState_of_radio hradio]
      unfold setChecked
      rw [hradio]
    have hmark := @edit_of_lt ((if checked then d.otherRadios node else []).foldl
      (fun d other => d.modify other (·.withChecked false)) d) node
      (by rw [(rewritten_unmark _ d).tree]; exact hn) (·.withChecked checked)
    rw [if_pos hradio, inTurn_append_of_ok (inTurn_edits hothers),
      inTurn_cons_of_ok (allOrNothing_of_ok hmark), allOrNothing_of_ok (hset.trans hmark)]
    rfl
  · rw [if_neg hradio]
    unfold allOrNothing
    simp only [setState_of_other hradio]

theorem setState_eq_ok {checked : Bool} (h : d.setState node checked = .ok d') :
    node.index < d'.tree.size := by
  by_cases hradio : d.control? node = some .radio
  · rw [setState_of_radio hradio] at h
    unfold setChecked at h
    rw [hradio] at h
    obtain ⟨hn, rfl⟩ := edit_eq_ok_iff.mp h
    exact hn
  · rw [setState_of_other hradio] at h
    obtain ⟨hn, rfl⟩ := edit_eq_ok_iff.mp h
    exact hn

/-- **An attribute is set as a whole:** what precedes it is refused where the attribute would be. -/
theorem assignInPlace_eq (node : NodeId) (name value : String) :
    assignInPlace node name value = allOrNothing (·.setAttribute node name value) := by
  funext d
  unfold assignInPlace
  by_cases hclass : name = "class"
  · rw [if_pos hclass]
    unfold allOrNothing setAttribute
    simp only [if_pos hclass]
  · obtain ⟨first, hfirst⟩ : ∃ first, first = fun d : Document =>
        if name = "value" then d.setValue node value
        else if name = "checked" then d.setState node (value != "false") else .ok d := ⟨_, rfl⟩
    have hstep : (if name = "value" then allOrNothing (·.setValue node value)
        else if name = "checked" then markInPlace node (value != "false")
        else allOrNothing .ok) = allOrNothing first := by
      rw [hfirst, markInPlace_eq]
      by_cases hvalue : name = "value"
      · simp only [if_pos hvalue]
      · by_cases hchecked : name = "checked"
        · simp only [if_neg hvalue, if_pos hchecked]
        · simp only [if_neg hvalue, if_neg hchecked]
    have hset : ∀ d, d.setAttribute node name value = first d >>= fun d =>
        d.edit node fun e => { e with attributes := e.attributes.insert name value } := by
      intro d
      rw [hfirst]
      unfold setAttribute setState
      simp only [if_neg hclass]
      split
      · rfl
      · split
        · cases d.control? node with
          | none => rfl
          | some kind => cases kind <;> rfl
        · rfl
    rw [if_neg hclass, hstep, inTurn_pair]
    · unfold allOrNothing
      simp only [hset]
    · intro d' e hd' he
      have hmissing : ¬ node.index < d'.tree.size := fun hn => by
        rw [edit_of_lt hn] at he
        cases he
      rw [hfirst] at hd'
      dsimp only at hd'
      split at hd'
      · obtain ⟨hn, rfl⟩ := edit_eq_ok_iff.mp hd'
        exact absurd hn hmissing
      · split at hd'
        · exact absurd (setState_eq_ok hd') hmissing
        · exact (Except.ok.inj hd').symm

/-- Settings that can all be made are made in turn. -/
theorem inTurn_setClasses {settings : List (String × Bool)} (h : d.setClasses node settings = .ok d') :
    inTurn (settings.map fun s => allOrNothing (·.setClass node s.1 s.2)) d = (d', none) := by
  induction settings generalizing d with
  | nil => rw [← Except.ok.inj h]; rfl
  | cons s rest ih =>
    obtain ⟨d₁, hfirst, hrest⟩ := bind_eq_ok_iff.mp h
    rw [List.map_cons, inTurn_cons_of_ok (allOrNothing_of_ok hfirst)]
    exact ih hrest

/-- A setting that is made has a class and an element. -/
theorem setClass_eq_ok {c : String} {present : Bool} (h : d.setClass node c present = .ok d') :
    isClassName c = true ∧ node.index < d.tree.size := by
  unfold setClass addClass removeClass editClass at h
  cases hname : isClassName c with
  | false =>
    rw [hname] at h
    cases present <;> cases h
  | true =>
    rw [hname] at h
    cases present <;> exact ⟨rfl, (edit_eq_ok_iff.mp h).1⟩

end Document

/-! ## Committing in place -/

namespace Outcome

open Document

/-- What committing an outcome comes to edit by edit. -/
def perform (o : Outcome) (node : NodeId) : InPlace :=
  inTurn
    (o.classes.map (fun s => allOrNothing (·.setClass node s.1 s.2)) ++
      (o.text.toList.map (fun text => allOrNothing (·.setText node text)) ++
        o.assignment.toList.map fun a => assignInPlace node a.name a.value))

variable {o : Outcome} {d d' : Document} {node : NodeId}

theorem perform_of_ok (h : o.commit d node = .ok d') : o.perform node d = (d', none) := by
  obtain ⟨classes, text, assignment, state⟩ := o
  obtain ⟨d₁, hclasses, hrest⟩ := bind_eq_ok_iff.mp h
  unfold perform
  rw [inTurn_append_of_ok (inTurn_setClasses hclasses)]
  -- the text, and then the attribute
  have hassign : ∀ {d₂}, Outcome.commit ⟨[], none, assignment, none⟩ d₂ node = .ok d' →
      inTurn (assignment.toList.map fun a => assignInPlace node a.name a.value) d₂ = (d', none) := by
    intro d₂ h
    cases assignment with
    | none => rw [← Except.ok.inj h]; rfl
    | some a =>
      show inTurn [assignInPlace node a.name a.value] d₂ = (d', none)
      rw [assignInPlace_eq, inTurn_cons_of_ok (allOrNothing_of_ok h)]
      rfl
  cases text with
  | none => exact hassign hrest
  | some text =>
    obtain ⟨d₂, htext, hrest⟩ := bind_eq_ok_iff.mp hrest
    exact (inTurn_cons_of_ok (allOrNothing_of_ok htext)).trans (hassign hrest)

/-- **An outcome is committed as a whole or not at all,** if its classes have been checked, or if there is
one at most. -/
theorem perform_eq (h : o.refused? = none ∨ o.classes.length ≤ 1) :
    o.perform node d = allOrNothing (o.commit · node) d := by
  cases hcommit : o.commit d node with
  | ok d' => rw [perform_of_ok hcommit, allOrNothing_of_ok hcommit]
  | error e =>
    rw [allOrNothing_of_error hcommit]
    -- an element that exists refuses nothing but a class
    have hrefusal : node.index < d.tree.size → o.refused? ≠ none := by
      intro hn hrefused
      obtain ⟨d', hok, -⟩ := commit_rewritten hn hrefused
      rw [hok] at hcommit
      cases hcommit
    obtain ⟨classes, text, assignment, state⟩ := o
    cases classes with
    | cons s rest =>
      cases hs : d.setClass node s.1 s.2 with
      | error e' =>
        have herror : Outcome.commit ⟨s :: rest, text, assignment, state⟩ d node = .error e' := by
          unfold commit setClasses
          rw [List.foldlM_cons]
          simp only [hs]
          rfl
        rw [hcommit] at herror
        rw [Except.error.inj herror]
        exact inTurn_cons_of_error (allOrNothing_of_error hs)
      | ok d₁ =>
        obtain ⟨hname, hn⟩ := setClass_eq_ok hs
        refine absurd (h.elim id fun hlength => ?_) (hrefusal hn)
        obtain rfl : rest = [] := List.length_eq_zero_iff.mp (Nat.le_zero.mp (Nat.le_of_succ_le_succ hlength))
        unfold refused?
        simp [hname]
    | nil =>
      have hn : ¬ node.index < d.tree.size := fun hn => hrefusal hn rfl
      cases text with
      | some text =>
        have hfirst : d.setText node text = .error (.unknownNode node) := edit_of_missing hn _
        have herror : Outcome.commit ⟨[], some text, assignment, state⟩ d node = .error (.unknownNode node) := by
          show (d.setText node text >>= fun d => Outcome.commit ⟨[], none, assignment, state⟩ d node) = _
          rw [hfirst]
          rfl
        rw [hcommit] at herror
        rw [Except.error.inj herror]
        exact inTurn_cons_of_error (allOrNothing_of_error hfirst)
      | none =>
        cases assignment with
        | some a =>
          have hcommit : d.setAttribute node a.name a.value = .error e := hcommit
          show inTurn [assignInPlace node a.name a.value] d = (d, some e)
          rw [assignInPlace_eq, inTurn_cons_of_error (allOrNothing_of_error hcommit)]
        | none => cases hcommit

end Outcome

/-! ## Entries in place -/

/-- **The classes of a directive are checked or single:** a list of them has been checked when it was read,
and a marker of the configuration is one class. -/
theorem Directive.whole_of_mem {built : Document} {options : DirectiveOptions} {switches : Bool}
    {entry : IndexedDirective} (hmem : entry ∈ (Index.build built options switches).entries)
    {config : Config} {change : Option Change} {d : Document} {o : Outcome}
    (ho : entry.directive.outcome config change d = .ok o) :
    o.refused? = none ∨ o.classes.length ≤ 1 := by
  have hnames := map_fst_classes ho
  obtain ⟨node, directive⟩ := entry
  cases directive with
  | classIf rules =>
    left
    unfold Outcome.refused?
    rw [hnames]
    refine List.find?_eq_none.mpr fun c hc => ?_
    obtain ⟨rule, hrule, hc⟩ := List.mem_flatMap.mp hc
    simp [Index.isClassName_of_mem hmem rule hrule c hc]
  | showIf _ | hideIf _ | disableIf _ | attributeIf _ | echo _ | switch _ _ =>
    right
    rw [← List.length_map (f := Prod.fst), hnames]
    simp [classNames]

namespace Pass

/-- The run after one more directive, with a document that is edited in place: what the directive is to
write is found out first, and then it is written edit by edit. -/
def enact (config : Config) (change : Option Change) (p : Pass) (entry : IndexedDirective) : Pass :=
  match entry.directive.outcome config change p.document with
  | .error e => { p with report := p.report.fail ⟨entry.node, entry.directive.kind, .unknownInput e⟩ }
  | .ok o =>
    match o.perform entry.node p.document with
    | (d, some e) => { p with document := d, report := p.report.fail ⟨entry.node, entry.directive.kind, .document e⟩ }
    | (d, none) =>
      { document := d
        states :=
          match o.state with
          | some state => p.states.set entry.node entry.directive.kind state
          | none => p.states
        report := p.report.succeed }

/-- The run after some more directives, edited in place. -/
def enactAll (config : Config) (change : Option Change) (p : Pass) (entries : List IndexedDirective) : Pass :=
  entries.foldl (enact config change) p

variable {built : Document} {options : DirectiveOptions} {switches : Bool} {entry : IndexedDirective}
  {entries : List IndexedDirective}

/-- **An entry of an index can be applied in place:** nothing is ever left half done. -/
theorem enact_eq_apply (hmem : entry ∈ (Index.build built options switches).entries) (config : Config)
    (change : Option Change) (p : Pass) : enact config change p entry = apply config change p entry := by
  unfold enact apply
  cases ho : entry.directive.outcome config change p.document with
  | error e => rw [Directive.effect_of_outcome_error ho]
  | ok o =>
    have hperform : o.perform entry.node p.document = Document.allOrNothing (o.commit · entry.node) p.document :=
      Outcome.perform_eq (Directive.whole_of_mem hmem ho)
    cases hcommit : o.commit p.document entry.node with
    | ok d =>
      rw [Document.allOrNothing_of_ok hcommit] at hperform
      cases hstate : o.state <;> simp only [hperform, Directive.effect_of_commit ho hcommit, hstate]
    | error e =>
      rw [Document.allOrNothing_of_error hcommit] at hperform
      simp only [hperform, Directive.effect_of_commit_error ho hcommit]

theorem enactAll_eq_applyAll (hmem : ∀ entry ∈ entries, entry ∈ (Index.build built options switches).entries)
    (config : Config) (change : Option Change) (p : Pass) :
    enactAll config change p entries = applyAll config change p entries := by
  unfold enactAll applyAll
  induction entries generalizing p with
  | nil => rfl
  | cons entry rest ih =>
    obtain ⟨hentry, hrest⟩ := List.forall_mem_cons.mp hmem
    rw [List.foldl_cons, List.foldl_cons, enact_eq_apply hentry]
    exact ih hrest _

end Pass

end ReactiveForm
