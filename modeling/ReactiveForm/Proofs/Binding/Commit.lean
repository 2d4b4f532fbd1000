import ReactiveForm.Proofs.Binding.Outcome
import ReactiveForm.Proofs.Document.Rewriting

/-!
# `ReactiveForm.Proofs.Binding.Commit` — what a directive does, whatever it says

An outcome is refused as a whole when one of its classes is no class name; otherwise it rewrites the
document element by element. So a directive comes to one of two things, and which one is known before
anything is written: it is skipped for a reason, or an outcome of it is committed. Nothing is assumed here
of the configuration or of the attributes that are assigned.

## Contents
- `Outcome.refused?`, `Outcome.rewrite` and `Outcome.rewriting`, with what they do to each part of an
  element.
- `Outcome.commit_rewritten` and `commit_refused`.
- `Pass.exists_rewritten_applyAll` and `listeners_applyAll`, a pass touches neither the tree nor a listener.
- `Directive.finding`, with `effect_of_finding` and `Pass.apply_of_finding`: **an entry rewrites the document
  or is skipped**.
-/

namespace ReactiveForm

/-! ## Refusal -/

namespace Document

variable {d : Document} {node : NodeId}

theorem edit_of_missing (h : ¬ node.index < d.tree.size) (f : Element → Element) :
    d.edit node f = .error (.unknownNode node) := if_neg h

/-- Where there is no node, only no settings at all can be made. -/
theorem setClasses_of_missing {d' : Document} (h : ¬ node.index < d.tree.size)
    {settings : List (String × Bool)} (hset : d.setClasses node settings = .ok d') : d' = d := by
  cases settings with
  | nil => exact (Except.ok.inj hset).symm
  | cons s rest =>
    obtain ⟨d₀, hfirst, -⟩ := bind_eq_ok_iff.mp hset
    obtain ⟨name, present⟩ := s
    simp only [setClass, addClass, removeClass, editClass, edit_of_missing h] at hfirst
    cases present <;> cases hname : isClassName name <;> rw [hname] at hfirst <;> cases hfirst

/-- Settings are made one after the other until one of them is no class name. -/
theorem setClasses_of_invalid (hn : node.index < d.tree.size) {settings : List (String × Bool)}
    {c : String} (h : (settings.map Prod.fst).find? (!isClassName ·) = some c) :
    d.setClasses node settings = .error (.invalidClass c) := by
  unfold setClasses
  -- the settings before it are made on a document that is lost with the error
  induction settings generalizing d with
  | nil => cases h
  | cons s rest ih =>
    obtain ⟨name, present⟩ := s
    rw [List.map_cons, List.find?_cons] at h
    rw [List.foldlM_cons]
    cases hname : isClassName name with
    | false =>
      obtain rfl : name = c := by simpa [hname] using h
      have hset : d.setClass node name present = .error (.invalidClass name) := by
        unfold setClass addClass removeClass editClass
        rw [hname]
        cases present <;> rfl
      simp only [hset]
      rfl
    | true =>
      have hset := setClass_of_isClassName (d := d) hn (s := (name, present)) hname
      have hrest : (rest.map Prod.fst).find? (!isClassName ·) = some c := by simpa [hname] using h
      simp only [hset]
      exact @ih (d.modify node (·.withSetting (name, present))) hn hrest

end Document

namespace Outcome

/-- The first class of an outcome that is no class name: for it the outcome is refused. -/
def refused? (o : Outcome) : Option String :=
  (o.classes.map Prod.fst).find? (!Document.isClassName ·)

theorem isClassName_of_not_refused {o : Outcome} (h : o.refused? = none) :
    ∀ s ∈ o.classes, Document.isClassName s.1 = true := by
  intro s hs
  have hname := List.find?_eq_none.mp h s.1 (List.mem_map_of_mem hs)
  simpa using hname

/-! ## Rewriting -/

/-- The element that an outcome is committed to. -/
def rewrite (o : Outcome) (e : Element) : Element :=
  match o.assignment with
  | some a => (o.unassigned.write e).assign a.name a.value
  | none => o.unassigned.write e

/-- The radio buttons that lose the mark when an outcome is committed to a node. -/
def unmarked (o : Outcome) (d : Document) (node : NodeId) : List NodeId :=
  match o.assignment with
  | some a => d.unmarked node a.name a.value
  | none => []

/-- What committing an outcome to a node makes of the element at another one. -/
def rewriting (o : Outcome) (d : Document) (node n : NodeId) (e : Element) : Element :=
  if node = n then o.rewrite e else if n ∈ o.unmarked d node then e.withChecked false else e

/-- What an outcome says on a class: an assignment of `class` speaks of all of them. -/
def classWish (o : Outcome) (c : String) : Option Bool :=
  match o.assignment with
  | some a => if a.name = "class" then some ((Text.wordsOf a.value).contains c) else lastSetting o.classes c
  | none => lastSetting o.classes c

/-- What an outcome makes of the attributes of its element. -/
def reattribute (o : Outcome) (attributes : StringMap String) : StringMap String :=
  match o.assignment with
  | some a => if a.name = "class" then attributes else attributes.insert a.name a.value
  | none => attributes

/-- The value that an outcome gives to a control. -/
def valueWish (o : Outcome) : Option String :=
  o.assignment.bind fun a => if a.name = "value" then some a.value else none

/-- The state that an outcome gives to a control. -/
def markWish (o : Outcome) : Option Bool :=
  o.assignment.bind fun a => if a.name = "checked" then some (a.value != "false") else none

section Rewrite

variable (o : Outcome) (e : Element)

theorem tag_rewrite : (o.rewrite e).tag = e.tag := by
  unfold rewrite Element.assign
  split
  · split <;> rfl
  · rfl

theorem attributes_rewrite : (o.rewrite e).attributes = o.reattribute e.attributes := by
  unfold rewrite reattribute Element.assign
  cases o.assignment with
  | none => rfl
  | some a =>
    dsimp only
    split <;> rfl

theorem text_rewrite : (o.rewrite e).text = o.text.or e.text := by
  unfold rewrite Element.assign
  split
  · split <;> rfl
  · rfl

theorem value_rewrite : (o.rewrite e).value = o.valueWish.getD e.value := by
  unfold rewrite valueWish Element.assign
  cases o.assignment with
  | none => rfl
  | some a =>
    by_cases hclass : a.name = "class"
    · simp [hclass, write]
    · by_cases hvalue : a.name = "value" <;> simp [hclass, hvalue, write, unassigned]

theorem checked_rewrite : (o.rewrite e).checked = o.markWish.getD e.checked := by
  unfold rewrite markWish Element.assign
  cases o.assignment with
  | none => rfl
  | some a =>
    by_cases hclass : a.name = "class"
    · simp [hclass, write]
    · by_cases hchecked : a.name = "checked" <;> simp [hclass, hchecked, write, unassigned]

theorem hasClass_rewrite (c : String) :
    (o.rewrite e).hasClass c = (o.classWish c).getD (e.hasClass c) := by
  unfold rewrite classWish Element.assign
  cases o.assignment with
  | none => exact o.unassigned.hasClass_write e c
  | some a =>
    by_cases hclass : a.name = "class"
    · simp [hclass, Element.hasClass]
    · simp only [hclass, if_false]
      exact o.unassigned.hasClass_write e c

end Rewrite

variable {o : Outcome} {d d' : Document} {node n : NodeId}

/-- An attribute is what an outcome assigns to it, and otherwise what it has been. -/
theorem attribute?_rewrite {key : String} (hkey : key ≠ "class") (o : Outcome) (e : Element) :
    (o.rewrite e).attribute? key = (o.assigned key).or (e.attribute? key) := by
  unfold Element.attribute? assigned
  rw [attributes_rewrite, reattribute]
  cases o.assignment with
  | none => rfl
  | some a =>
    dsimp only [Option.bind_some]
    by_cases hclass : a.name = "class"
    · have hne : key ≠ a.name := fun he => hkey (he.trans hclass)
      rw [if_pos hclass, if_neg hne, Option.none_or]
    · rw [if_neg hclass, StringMap.get?_insert]
      split <;> rfl

/-- To assign an attribute twice is to assign it once. -/
theorem reattribute_reattribute (attributes : StringMap String) :
    o.reattribute (o.reattribute attributes) = o.reattribute attributes := by
  unfold reattribute
  cases o.assignment with
  | none => rfl
  | some a =>
    by_cases hclass : a.name = "class"
    · simp only [hclass, if_true]
    · simp only [hclass, if_false, StringMap.insert_insert]

/-- A mark is given or taken by an assignment. -/
theorem assignment_of_markWish {checked : Bool} (h : o.markWish = some checked) : o.assignment ≠ none := by
  intro hnone
  rw [markWish, hnone] at h
  cases h

/-- **The mark is taken from other radio buttons** only by giving it to a button of their group. -/
theorem mem_unmarked :
    n ∈ o.unmarked d node ↔ o.markWish = some true ∧ n ≠ node ∧ n ∈ d.descendants ∧
      ∃ group, d.role? node = some (.radio, some group) ∧ d.role? n = some (.radio, some group) := by
  unfold unmarked markWish
  cases o.assignment with
  | none => simp
  | some a =>
    rw [Document.mem_unmarked, Option.bind_some]
    refine and_congr_left fun _ => ?_
    by_cases hchecked : a.name = "checked" <;> simp [hchecked]

/-- A plain attribute is written, and nothing else happens. -/
theorem rewriting_of_plain (h : ∀ a ∈ o.assignment, a.name ∉ Document.mirroredAttributes)
    (d : Document) (node n : NodeId) (e : Element) :
    o.rewriting d node n e = if node = n then o.write e else e := by
  obtain ⟨classes, text, assignment, state⟩ := o
  cases assignment with
  | none => rfl
  | some a =>
    have hplain : a.name ≠ "class" ∧ a.name ≠ "value" ∧ a.name ≠ "checked" := by
      simpa [Document.mirroredAttributes] using h a rfl
    have hrewrite : rewrite ⟨classes, text, some a, state⟩ e = write ⟨classes, text, some a, state⟩ e := by
      unfold rewrite Element.assign
      simp only [hplain, if_false]
      rfl
    have hunmarked : unmarked ⟨classes, text, some a, state⟩ d node = [] :=
      Document.unmarked_of_name_ne hplain.2.2 a.value
    unfold rewriting
    rw [hrewrite, hunmarked, if_neg List.not_mem_nil]

/-! ## Committing -/

/-- **An outcome that is not refused rewrites the document.** -/
theorem commit_rewritten (hn : node.index < d.tree.size) (h : o.refused? = none) :
    ∃ d', o.commit d node = .ok d' ∧ Document.Rewritten (o.rewriting d node) d d' := by
  rw [commit_of_isClassName hn (isClassName_of_not_refused h)]
  have hfirst := Document.rewritten_modify d node o.unassigned.write
  unfold rewriting unmarked rewrite
  cases o.assignment with
  | none =>
    refine ⟨_, rfl, hfirst.congr fun n e => ?_⟩
    rw [if_neg List.not_mem_nil]
  | some a =>
    obtain ⟨d', hset, hd'⟩ := Document.setAttribute_rewritten (d := d.modify node o.unassigned.write) hn
      a.name a.value
    refine ⟨d', hset, (hfirst.trans hd').congr fun n e => ?_⟩
    -- what is written first changes no control, so that the same buttons lose the mark
    have hrole : ∀ e : Element, (o.unassigned.write e).role? = e.role? := fun e => rfl
    have hroles := Document.view_modify hrole d node
    unfold Document.assigning
    by_cases he : node = n
    · simp only [if_pos he]
    · simp only [if_neg he, Document.mem_unmarked_congr hroles]

/-- **An outcome that is refused changes nothing.** -/
theorem commit_refused (hn : node.index < d.tree.size) {c : String} (h : o.refused? = some c) :
    o.commit d node = .error (.invalidClass c) := by
  unfold commit
  rw [Document.setClasses_of_invalid hn h]
  rfl

/-- Where there is no node, an outcome without anything to write is committed at most. -/
theorem commit_of_missing (h : ¬ node.index < d.tree.size) (hcommit : o.commit d node = .ok d') :
    d' = d := by
  obtain ⟨d₁, hclasses, hrest⟩ := bind_eq_ok_iff.mp hcommit
  -- every kind of writing would fail, so that there is nothing of any kind to write
  have hedit : ∀ f, d.edit node f = .error (.unknownNode node) := Document.edit_of_missing h
  obtain rfl := Document.setClasses_of_missing h hclasses
  have hassign : (match o.assignment with
      | some a => d₁.setAttribute node a.name a.value
      | none => .ok d₁) = .ok d' := by
    obtain ⟨classes, text, assignment, state⟩ := o
    cases text with
    | none => exact hrest
    | some text =>
      obtain ⟨d₂, htext, -⟩ := bind_eq_ok_iff.mp hrest
      have htext : d₁.edit node (·.withText text) = .ok d₂ := htext
      rw [hedit] at htext
      cases htext
  cases ha : o.assignment with
  | none =>
    rw [ha] at hassign
    exact (Except.ok.inj hassign).symm
  | some a =>
    rw [ha] at hassign
    have hassign : d₁.setAttribute node a.name a.value = .ok d' := hassign
    rw [Document.setAttribute_of_missing h] at hassign
    cases hassign

/-- **What is committed rewrites the document,** or there was nothing to write. -/
theorem cases_of_commit (h : o.commit d node = .ok d') :
    d' = d ∨ Document.Rewritten (o.rewriting d node) d d' := by
  by_cases hn : node.index < d.tree.size
  · cases hrefused : o.refused? with
    | some c =>
      rw [commit_refused hn hrefused] at h
      cases h
    | none =>
      obtain ⟨d₁, hcommit, hd₁⟩ := commit_rewritten hn hrefused
      rw [hcommit] at h
      rw [← Except.ok.inj h]
      exact .inr hd₁
  · exact .inl (commit_of_missing hn h)

/-- **Whatever is committed rewrites elements,** and touches neither the tree nor a listener. -/
theorem exists_rewritten_of_commit (h : o.commit d node = .ok d') : ∃ f, Document.Rewritten f d d' := by
  rcases cases_of_commit h with rfl | h
  · exact ⟨_, .refl d'⟩
  · exact ⟨_, h⟩

/-- What an outcome does not touch of any element is kept when it is committed. -/
theorem view_commit {α : Type} {π : Element → α} (hπ : ∀ n e, π (o.rewriting d node n e) = π e)
    (h : o.commit d node = .ok d') : d'.view π = d.view π := by
  rcases cases_of_commit h with rfl | h
  · rfl
  · exact h.view hπ

end Outcome

/-! ## Findings -/

/-- **What becomes of a directive:** the outcome that is committed, or why the directive is skipped. -/
def Directive.finding (config : Config) (change : Option Change) (d : Document)
    (directive : Directive) : Except EffectError Outcome := do
  let o ← (directive.outcome config change d).mapError .unknownInput
  match o.refused? with
  | some c => throw (.document (.invalidClass c))
  | none => return o

namespace Directive

variable {config : Config} {change change' : Option Change} {d d' : Document} {directive : Directive}
  {o : Outcome}

theorem finding_congr (h : Alike config directive.references change change' d d') :
    directive.finding config change d = directive.finding config change' d' := by
  unfold finding
  rw [outcome_congr h]

theorem finding_of_values (h : d.values = d'.values) :
    directive.finding config change d = directive.finding config change d' := by
  unfold finding
  rw [outcome_of_values h]

/-- How a directive fails to find something out depends on which of its inputs exist, since the classes
for which an outcome is refused do not depend on the inputs. -/
theorem error?_finding_congr
    (h : Context.Coexist directive.references ⟨d.values, change, config.evaluation.unknownInput⟩
      ⟨d'.values, change', config.evaluation.unknownInput⟩) :
    error? (directive.finding config change d) = error? (directive.finding config change' d') := by
  refine error?_bind_congr (error?_mapError_congr _ (error?_outcome_congr h)) fun o o' ho ho' => ?_
  have hrefused : o.refused? = o'.refused? := by
    unfold Outcome.refused?
    rw [map_fst_classes (mapError_eq_ok_iff.mp ho), map_fst_classes (mapError_eq_ok_iff.mp ho')]
  rw [hrefused]
  cases o'.refused? <;> rfl

theorem finding_eq_ok_iff :
    directive.finding config change d = .ok o ↔
      directive.outcome config change d = .ok o ∧ o.refused? = none := by
  unfold finding
  rw [bind_eq_ok_iff]
  simp only [mapError_eq_ok_iff]
  constructor
  · rintro ⟨o', ho', h⟩
    split at h
    · cases h
    · next hnone =>
      rw [← Except.ok.inj h]
      exact ⟨ho', hnone⟩
  · rintro ⟨ho, hnone⟩
    exact ⟨o, ho, by rw [hnone]; rfl⟩

/-- A directive finds nothing out because it misses an input, or because a class is no class name. -/
theorem cases_of_finding_error {e : EffectError} (h : directive.finding config change d = .error e) :
    (∃ e', directive.outcome config change d = .error e' ∧ e = .unknownInput e') ∨
      ∃ o c, directive.outcome config change d = .ok o ∧ o.refused? = some c ∧
        e = .document (.invalidClass c) := by
  cases ho : directive.outcome config change d with
  | error e' =>
    unfold finding at h
    rw [ho] at h
    exact .inl ⟨e', rfl, (Except.error.inj h).symm⟩
  | ok o =>
    cases hrefused : o.refused? with
    | none =>
      rw [finding_eq_ok_iff.mpr ⟨ho, hrefused⟩] at h
      cases h
    | some c =>
      unfold finding at h
      rw [ho] at h
      simp only [bind, Except.bind, Except.mapError, hrefused] at h
      exact .inr ⟨o, c, rfl, hrefused, (Except.error.inj h).symm⟩

/-- **A directive that finds something out rewrites the document,** -/
theorem effect_of_finding {node : NodeId} (hn : node.index < d.tree.size)
    (h : directive.finding config change d = .ok o) :
    ∃ d', directive.effect config change d node = .ok (d', o.state) ∧
      Document.Rewritten (o.rewriting d node) d d' := by
  obtain ⟨ho, hrefused⟩ := finding_eq_ok_iff.mp h
  obtain ⟨d', hcommit, hd'⟩ := Outcome.commit_rewritten hn hrefused
  exact ⟨d', effect_of_commit ho hcommit, hd'⟩

/-- **and one that does not fails.** -/
theorem effect_of_finding_error {node : NodeId} (hn : node.index < d.tree.size) {e : EffectError}
    (h : directive.finding config change d = .error e) :
    directive.effect config change d node = .error e := by
  rcases cases_of_finding_error h with ⟨e', ho, rfl⟩ | ⟨o, c, ho, hrefused, rfl⟩
  · exact effect_of_outcome_error ho
  · exact effect_of_commit_error ho (Outcome.commit_refused hn hrefused)

end Directive

namespace Pass

variable {config : Config} {change : Option Change} {p : Pass} {entry : IndexedDirective} {o : Outcome}

/-- **An entry that finds something out rewrites the document.** -/
theorem apply_of_finding (hn : entry.node.index < p.document.tree.size)
    (h : entry.directive.finding config change p.document = .ok o) :
    Document.Rewritten (o.rewriting p.document entry.node) p.document
        (apply config change p entry).document ∧
      (apply config change p entry).report = p.report.succeed := by
  obtain ⟨d', heffect, hd'⟩ := Directive.effect_of_finding hn h
  unfold apply
  rw [heffect]
  exact ⟨hd', rfl⟩

/-- **A pass rewrites elements,** even one that writes to nodes that do not exist. -/
theorem exists_rewritten_applyAll (entries : List IndexedDirective) (p : Pass) :
    ∃ f, Document.Rewritten f p.document (applyAll config change p entries).document := by
  induction entries generalizing p with
  | nil => exact ⟨_, .refl _⟩
  | cons entry rest ih =>
    have hfirst : ∃ f, Document.Rewritten f p.document (apply config change p entry).document := by
      unfold apply
      split
      · next d state? heffect =>
        obtain ⟨o, -, hcommit⟩ := Directive.commit_of_effect heffect
        exact Outcome.exists_rewritten_of_commit hcommit
      · exact ⟨_, .refl _⟩
    obtain ⟨f, hf⟩ := hfirst
    obtain ⟨g, hg⟩ := ih (apply config change p entry)
    exact ⟨_, hf.trans hg⟩

/-- **No pass attaches or detaches a listener.** -/
theorem listeners_applyAll (entries : List IndexedDirective) (p : Pass) :
    (applyAll config change p entries).document.listeners = p.document.listeners := by
  obtain ⟨f, hf⟩ := exists_rewritten_applyAll entries p
  exact hf.listeners

/-- **An entry that does not is skipped.** -/
theorem apply_of_finding_error (hn : entry.node.index < p.document.tree.size) {e : EffectError}
    (h : entry.directive.finding config change p.document = .error e) :
    apply config change p entry =
      { p with report := p.report.fail ⟨entry.node, entry.directive.kind, e⟩ } := by
  unfold apply
  rw [Directive.effect_of_finding_error hn h]

end Pass

end ReactiveForm
