import ReactiveForm.Binding.Controller
import ReactiveForm.Proofs.Binding.Pass
import ReactiveForm.Proofs.Binding.Sparing
import ReactiveForm.Proofs.Document.Entry

/-!
# `ReactiveForm.Proofs.Binding.Change` — handling a change is applying its dependents afresh

The handler of a change does not look the changed input up by its name: it takes the value from the
control that has changed. Where an input has one control, or where all of its controls are radio
buttons, this is the value that a look-up finds, and handling the change is no more than one pass
through the directives that name the input.

## Contents
- `Pass.applyAll_of_change`, a change that tells nothing new.
- `Document.Carried`, how inputs have to be carried for the two readings to agree.
- `Controller.handleChange_of_carried`.
-/

namespace ReactiveForm

/-! ## A change that tells nothing new -/

theorem Directive.outcome_of_change {directive : Directive} {config : Config} {d : Document}
    {input value : String} (h : d.inputSnapshot input = some value) :
    directive.outcome config (some ⟨input, value⟩) d = directive.outcome config none d :=
  outcome_congr ⟨fun name _ => Context.resolve_of_change h name, rfl, rfl⟩

/-- **A directive that does not name an input** finds out the same, whatever the input is. -/
theorem Directive.outcome_of_differs {directive : Directive} {config : Config} {d d' : Document}
    {name : String} (h : Document.Differs name d d') (hname : name ∉ directive.references) :
    directive.outcome config none d = directive.outcome config none d' := by
  refine outcome_congr ⟨fun other hother => h.others other fun he => hname (he ▸ hother), ?_, rfl⟩
  exact Document.inputNames_congr h.controls

namespace Pass

variable {config : Config} {p : Pass} {entry : IndexedDirective} {entries : List IndexedDirective}
  {input value : String}

/-- Sound entries change no input. -/
theorem plain_of_sound (hs : ∀ entry ∈ entries, entry.Sound config p.document) :
    Plain p.document entries where
  inTree entry h := (hs entry h).inTree
  assignments entry h a ha := ⟨(hs entry h).writable.assignments a ha, (hs entry h).neutral a ha⟩

theorem apply_of_change (h : p.document.inputSnapshot input = some value) :
    apply config (some ⟨input, value⟩) p entry = apply config none p entry := by
  unfold apply
  rw [Directive.effect_eq, Directive.effect_eq, Directive.outcome_of_change h]

/-- **A pass with a changed input is a pass without,** when the change is already in the document. -/
theorem applyAll_of_change (hplain : Plain p.document entries)
    (h : p.document.inputSnapshot input = some value) :
    applyAll config (some ⟨input, value⟩) p entries = applyAll config none p entries := by
  induction entries generalizing p with
  | nil => rfl
  | cons entry rest ih =>
    -- after the first entry the input still has its new value
    have hstep : applyAll config (some ⟨input, value⟩) (apply config none p entry) rest =
        applyAll config none (apply config none p entry) rest := by
      refine ih hplain.tail ?_
      have hview : (apply config none p entry).document.view Element.inputPart = _ :=
        hplain.inputView_apply
      have hv := congrArg (fun s : ValueSource => s.valueOf input) (Document.values_congr hview)
      exact hv.trans h
    show applyAll config _ (apply config _ p entry) rest = _
    rw [apply_of_change h]
    exact hstep

end Pass

/-! ## How inputs are carried -/

namespace Document

variable {d d' : Document} {name : String}

/-- **An input that is carried as a handler expects:** by no control, by one control that is not a
textarea, or by radio buttons only. -/
def Carried (d : Document) (name : String) : Prop :=
  d.controlsNamed name = [] ∨
    (∃ node, d.controlsNamed name = [node] ∧ (d.element? node).any (·.tag == "textarea") = false) ∨
    ∀ node ∈ d.controlsNamed name, d.control? node = some .radio

instance (d : Document) (name : String) : Decidable (d.Carried name) :=
  decidable_of_iff
    (d.controlsNamed name = [] ∨
      (d.controlsNamed name).length = 1 ∧
        (∀ node ∈ d.controlsNamed name, (d.element? node).any (·.tag == "textarea") = false) ∨
      ∀ node ∈ d.controlsNamed name, d.control? node = some .radio) <| by
    refine or_congr_right (or_congr_left ?_)
    rw [List.length_eq_one_iff]
    constructor
    · rintro ⟨⟨node, hone⟩, htag⟩
      exact ⟨node, hone, htag node (by rw [hone]; exact List.mem_cons_self)⟩
    · rintro ⟨node, hone, htag⟩
      refine ⟨⟨node, hone⟩, fun other hother => ?_⟩
      rw [hone] at hother
      rwa [List.mem_singleton.mp hother]

/-- A textarea is a text field. -/
theorem control?_of_textarea {node : NodeId} (h : (d.element? node).any (·.tag == "textarea") = true) :
    d.control? node = some .text := by
  obtain ⟨e, he, htag⟩ := Option.any_eq_true _ _ |>.mp h
  refine Option.bind_eq_some_iff.mpr ⟨e, he, ?_⟩
  unfold Element.control? ControlKind.classify
  rw [beq_iff_eq.mp htag, if_neg (by decide), if_pos rfl]

/-- A control of such an input is not a textarea. -/
theorem Carried.tag_ne_textarea (h : d.Carried name) {node : NodeId}
    (hn : node ∈ d.controlsNamed name) : (d.element? node).any (·.tag == "textarea") = false := by
  rcases h with hnone | ⟨one, hone, htag⟩ | hradio
  · rw [hnone] at hn
    cases hn
  · rw [hone] at hn
    rwa [List.mem_singleton.mp hn]
  · refine eq_false_of_ne_true fun htag => ?_
    have htext := control?_of_textarea htag
    rw [hradio node hn] at htext
    cases htext

theorem Carried.congr (h : d.Carried name)
    (hview : d.view Element.controlPart = d'.view Element.controlPart) : d'.Carried name := by
  unfold Carried at h ⊢
  rw [← controlsNamed_congr hview]
  refine h.imp_right fun h => h.imp ?_ ?_
  · rintro ⟨node, hone, htag⟩
    refine ⟨node, hone, (any_element?_congr (map_element?_of_view hview node) ?_).symm.trans htag⟩
    exact fun _ _ he => congrArg (· == "textarea") (congrArg Element.ControlPart.tag he)
  · exact fun hradio node hn => (control?_congr hview node).symm.trans (hradio node hn)

end Document

namespace Controller

variable {c : Controller} {d : Document} {name : String} {node : NodeId}

/-- The handler finds a value at a control. -/
theorem isSome_changedValue? (hn : node ∈ d.controlsNamed name) :
    (changedValue? d node name).isSome = true := by
  unfold changedValue?
  split
  · exact Document.isSome_inputSnapshot_iff.mpr (List.ne_nil_of_mem hn)
  · exact Document.isSome_controlSnapshot (Document.mem_controlsNamed.mp hn).2.2

/-- **Handling a change is a pass with the value that is found there.** -/
theorem handleChange_eq {value : String} (hn : node ∈ d.controlsNamed name)
    (hvalue : changedValue? d node name = some value) :
    c.handleChange d node = c.applyAll d (some ⟨name, value⟩) {} (c.index.dependents name) := by
  have hname := (Document.mem_controlsNamed.mp hn).2.1
  unfold handleChange
  simp only [hname, hvalue]

/-- **The two readings of a changed input agree.** -/
theorem changedValue?_of_carried (h : d.Carried name) (hn : node ∈ d.controlsNamed name) :
    changedValue? d node name = d.inputSnapshot name := by
  unfold changedValue?
  split
  · rfl
  · next hradio =>
    rcases h with hnone | ⟨one, hone, -⟩ | hall
    · rw [hnone] at hn
      cases hn
    · rw [hone] at hn
      obtain rfl : node = one := List.mem_singleton.mp hn
      unfold Document.inputSnapshot
      rw [hone]
      exact (if_neg hradio).symm
    · exact absurd (hall node hn) hradio

/-- **Handling a change is a pass through the dependents of its input.** -/
theorem handleChange_of_carried (h : d.Carried name) (hn : node ∈ d.controlsNamed name)
    (hs : ∀ entry ∈ c.index.dependents name, entry.Sound c.config d) :
    c.handleChange d node = c.applyAll d none {} (c.index.dependents name) := by
  obtain ⟨value, hvalue⟩ := Option.isSome_iff_exists.mp
    (Document.isSome_inputSnapshot_iff.mpr (List.ne_nil_of_mem hn))
  rw [handleChange_eq hn ((changedValue?_of_carried h hn).trans hvalue)]
  unfold applyAll
  rw [Pass.applyAll_of_change (Pass.plain_of_sound hs) hvalue]

/-- A change of an element that is no control is not handled. -/
theorem handleChange_of_not_control (h : (d.control? node).isSome = false) :
    c.handleChange d node = c.unchanged d := by
  have hnone : d.control? node = none := Option.not_isSome_iff_eq_none.mp (ne_true_of_eq_false h)
  have hsnap : d.controlSnapshot node = none := by
    unfold Document.controlSnapshot
    cases he : d.element? node with
    | none => rfl
    | some e =>
      have hek : e.control? = none := by
        unfold Document.control? at hnone
        rwa [he] at hnone
      show (e.control? >>= fun kind => some (e.snapshot kind)) = none
      rw [hek]
      rfl
  unfold handleChange changedValue?
  rw [hnone]
  cases d.attribute? node "name" with
  | none => rfl
  | some name =>
    simp only [reduceCtorEq, if_false, hsnap]

end Controller

end ReactiveForm
