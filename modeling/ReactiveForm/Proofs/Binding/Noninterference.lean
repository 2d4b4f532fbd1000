import ReactiveForm.Proofs.Binding.Interaction

/-!
# `ReactiveForm.Proofs.Binding.Noninterference` — a directive sees its inputs and its element

Two documents that have nothing in common but an element and the values of some inputs are all the same to
a directive of that element that references these inputs: it does the same in both, or it fails in both for
the same cause. Only what is suggested in place of a missing input can tell them apart. So a change to any
other input is none of its business, and re-applying the dependents of an input leaves no directive behind.

## Contents
- `Outcome.stateless_rewrite`, what an outcome makes of an element does not depend on what a user enters.
- `EffectError.SameCause` and `Directive.AgreeAt`, effects that cannot be told apart at an element.
- `Directive.effect_agree`, for inputs that are read alike.
- `Directive.effect_noninterference`: **no other input interferes**.
-/

namespace ReactiveForm

/-! ## What an outcome makes of an element -/

theorem Element.stateless_foldl_withSetting (settings : List (String × Bool)) (e : Element) :
    (settings.foldl withSetting e).stateless = settings.foldl withSetting e.stateless := by
  induction settings generalizing e with
  | nil => rfl
  | cons s rest ih =>
    have hs : (e.withSetting s).stateless = e.stateless.withSetting s := by
      unfold withSetting withClass withoutClass
      cases s.2 with
      | true => exact apply_ite stateless (e.hasClass s.1 = true) _ _
      | false => rfl
    rw [List.foldl_cons, List.foldl_cons, ih, hs]

theorem Element.stateless_assign (e : Element) (name value : String) :
    (e.assign name value).stateless = (e.stateless.assign name value).stateless := by
  unfold assign
  split <;> rfl

namespace Outcome

theorem stateless_write (o : Outcome) (e : Element) :
    (o.write e).stateless = (o.write e.stateless).stateless := by
  have hclasses := congrArg Element.classes (Element.stateless_foldl_withSetting o.classes e)
  unfold write Element.stateless at *
  rw [hclasses]

/-- The value and the state of an element decide nothing but the value and the state that it has then. -/
theorem stateless_rewrite (o : Outcome) (e : Element) :
    (o.rewrite e).stateless = (o.rewrite e.stateless).stateless := by
  have hwrite := o.unassigned.stateless_write e
  unfold rewrite
  cases o.assignment with
  | none => exact hwrite
  | some a =>
    calc ((o.unassigned.write e).assign a.name a.value).stateless
        = ((o.unassigned.write e).stateless.assign a.name a.value).stateless :=
          Element.stateless_assign _ _ _
      _ = ((o.unassigned.write e.stateless).stateless.assign a.name a.value).stateless := by rw [hwrite]
      _ = ((o.unassigned.write e.stateless).assign a.name a.value).stateless :=
          (Element.stateless_assign _ _ _).symm

theorem stateless_rewrite_congr (o : Outcome) {e e' : Element} (h : e.stateless = e'.stateless) :
    (o.rewrite e).stateless = (o.rewrite e').stateless := by
  rw [o.stateless_rewrite e, h, ← o.stateless_rewrite e']

end Outcome

/-! ## Effects that agree -/

/-- Errors that have the same cause, whatever they suggest. -/
inductive EffectError.SameCause : EffectError → EffectError → Prop where
  /-- The same input is missing. -/
  | unknownInput {e e' : UnknownInput} (h : e.name = e'.name) : SameCause (.unknownInput e) (.unknownInput e')
  /-- The same edit is refused. -/
  | document (e : DocumentError) : SameCause (.document e) (.document e)

namespace Directive

/-- **Effects that cannot be told apart at the elements of two nodes:** both fail for the same cause, or
both succeed with the same state and leave the elements with the same tag, attributes, classes and text. -/
inductive AgreeAt (node node' : NodeId) :
    Except EffectError (Document × Option EffectState) →
      Except EffectError (Document × Option EffectState) → Prop where
  | failed {e e' : EffectError} (h : e.SameCause e') : AgreeAt node node' (.error e) (.error e')
  | applied {d d' : Document} {e e' : Element} (he : d.element? node = some e)
      (he' : d'.element? node' = some e') (h : e.stateless = e'.stateless) (state : Option EffectState) :
      AgreeAt node node' (.ok (d, state)) (.ok (d', state))

variable {config : Config} {change change' : Option Change} {d d' : Document} {node node' : NodeId}
  {e e' : Element} {directive : Directive} {o : Outcome}

/-- What a directive finds out, and which input it misses, depends on its own inputs only. -/
theorem name_outcome_congr
    (h : Context.Concur directive.references ⟨d.values, change, config.evaluation.unknownInput⟩
      ⟨d'.values, change', config.evaluation.unknownInput⟩) :
    (directive.outcome config change d).mapError UnknownInput.name =
      (directive.outcome config change' d').mapError UnknownInput.name := by
  have htruths : (directive.truths config change d).mapError UnknownInput.name =
      (directive.truths config change' d').mapError UnknownInput.name :=
    mapError_mapM_congr fun c hc =>
      Condition.name_evaluate_congr (h.mono fun _ hn => mem_references.mpr (.inl ⟨c, hc, hn⟩))
  have hechoed : (directive.echoed config change d).mapError UnknownInput.name =
      (directive.echoed config change' d').mapError UnknownInput.name := by
    cases directive with
    | echo input =>
      have hr := h.resolve input List.mem_cons_self
      simp only [echoed, hr]
      cases Context.resolve ⟨d'.values, change', config.evaluation.unknownInput⟩ input with
      | some value => rfl
      | none => cases config.evaluation.unknownInput <;> rfl
    | _ => rfl
  exact mapError_bind_congr htruths fun _ => mapError_bind_congr hechoed fun _ => rfl

/-- **Effects agree** where the inputs are read alike and the elements are alike. -/
theorem effect_agree
    (h : Context.Concur directive.references ⟨d.values, change, config.evaluation.unknownInput⟩
      ⟨d'.values, change', config.evaluation.unknownInput⟩)
    (he : d.element? node = some e) (he' : d'.element? node' = some e')
    (hsame : e.stateless = e'.stateless) :
    AgreeAt node node' (directive.effect config change d node)
      (directive.effect config change' d' node') := by
  rcases eq_of_mapError_eq (name_outcome_congr h) with ⟨o, ho, ho'⟩ | ⟨u, u', ho, ho', hname⟩
  · -- the outcome is the same, so that it is refused in both documents or in neither
    have hfinding : directive.finding config change d = directive.finding config change' d' := by
      unfold finding
      rw [ho, ho']
    have hn := Document.lt_size_of_element? he
    have hn' := Document.lt_size_of_element? he'
    cases hok : directive.finding config change d with
    | error f =>
      rw [effect_of_finding_error hn hok, effect_of_finding_error hn' (hfinding ▸ hok)]
      rcases cases_of_finding_error hok with ⟨u, hu, -⟩ | ⟨-, c, -, -, rfl⟩
      · rw [ho] at hu
        cases hu
      · exact .failed (.document _)
    | ok o =>
      obtain ⟨d₁, heffect, hd₁⟩ := effect_of_finding hn hok
      obtain ⟨d₁', heffect', hd₁'⟩ := effect_of_finding hn' (hfinding ▸ hok)
      rw [heffect, heffect']
      have hself : ∀ (d : Document) (n : NodeId) (e : Element), o.rewriting d n n e = o.rewrite e :=
        fun _ _ _ => if_pos rfl
      refine .applied ?_ ?_ (o.stateless_rewrite_congr hsame) o.state
      · rw [hd₁.element?, he, Option.map_some, hself]
      · rw [hd₁'.element?, he', Option.map_some, hself]
  · rw [effect_of_outcome_error ho, effect_of_outcome_error ho']
    exact .failed (.unknownInput hname)

/-! ## Noninterference -/

theorem resolve_of_elsewhere {source : ValueSource} {policy : UnknownInputPolicy} {name : String}
    (h : ∀ c ∈ change, c.input ≠ name) :
    Context.resolve ⟨source, change, policy⟩ name = source.valueOf name := by
  cases change with
  | none => rfl
  | some c => exact if_neg (h c rfl)

/-- **No other input interferes with a directive,** whatever it says: where two elements are alike up to
what a user enters, and the inputs that the directive references have the same values, its effects agree,
be there a changed input or none. So a change of an input that it does not reference does not change what
it does: neither telling it of such a change, nor entering such an input. -/
theorem effect_noninterference (directive : Directive) (config : Config) {d d' : Document}
    {node node' : NodeId} {e e' : Element} (he : d.element? node = some e)
    (he' : d'.element? node' = some e') (hsame : e.stateless = e'.stateless)
    (hinputs : ∀ name ∈ directive.references, d.inputSnapshot name = d'.inputSnapshot name) :
    (∀ change, AgreeAt node node' (directive.effect config change d node)
      (directive.effect config change d' node')) ∧
    (∀ change change' : Option Change,
      (∀ c ∈ change, c.input ∉ directive.references) → (∀ c ∈ change', c.input ∉ directive.references) →
        AgreeAt node node' (directive.effect config change d node)
          (directive.effect config change' d' node')) ∧
    ∀ name value d₁, name ∉ directive.references → Document.Entered name d d₁ →
      AgreeAt node node (directive.effect config none d node)
        (directive.effect config (some ⟨name, value⟩) d₁ node) := by
  refine ⟨fun change => ?_, fun change change' hc hc' => ?_, fun name value d₁ hname hd₁ => ?_⟩
  · refine effect_agree ⟨fun name hn => ?_, rfl⟩ he he' hsame
    cases change with
    | none => exact hinputs name hn
    | some c =>
      show (if c.input = name then some c.value else d.inputSnapshot name) =
        if c.input = name then some c.value else d'.inputSnapshot name
      rw [hinputs name hn]
  · refine effect_agree ⟨fun name hn => ?_, rfl⟩ he he' hsame
    rw [resolve_of_elsewhere fun c h => ne_of_mem_of_not_mem hn (hc c h) |>.symm,
      resolve_of_elsewhere fun c h => ne_of_mem_of_not_mem hn (hc' c h) |>.symm]
    exact hinputs name hn
  · have hview := Document.map_element?_of_view hd₁.stateless node
    rw [he, Option.map_some] at hview
    obtain ⟨e₁, he₁, hstateless⟩ := Option.map_eq_some_iff.mp hview
    refine effect_agree ⟨fun other hother => ?_, rfl⟩ he he₁ hstateless.symm
    have hne : other ≠ name := ne_of_mem_of_not_mem hother hname
    refine (hd₁.inputSnapshot hne).symm.trans ?_
    rw [resolve_of_elsewhere fun c h => ?_]
    · rfl
    · rw [← Option.some.inj h]
      exact hne.symm

/-- A form with an input, and a paragraph that wears a class. -/
def sparse : Document := .form
  [.ofAttributes "input" [("name", "a"), ("value", "1")], .ofAttributes "p" [("class", "n")]]

/-- The same paragraph among more inputs. -/
def crowded : Document := .form
  [.ofAttributes "p" [("class", "n")], .ofAttributes "input" [("name", "b"), ("value", "2")],
   .ofAttributes "input" [("name", "a"), ("value", "1")]]

/-- A directive that looks at the one input only does the same in both forms, though the other input has a
value in one of them only. -/
theorem effect_noninterference_crowded :
    let a : Condition := .compare ⟨"a", .equal, "1"⟩
    let directive : Directive := .classIf [⟨["m"], a⟩, ⟨["n"], .not a⟩]
    sparse.inputSnapshot "b" ≠ crowded.inputSnapshot "b" ∧ directive.references = ["a"] ∧
      sparse.inputSnapshot "a" = crowded.inputSnapshot "a" ∧
      AgreeAt ⟨2⟩ ⟨1⟩ (directive.effect {} none sparse ⟨2⟩)
        (directive.effect {} (some ⟨"b", "3"⟩) crowded ⟨1⟩) := by
  intro a directive
  have hreferences : directive.references = ["a"] := by decide +kernel
  have hinput : sparse.inputSnapshot "a" = crowded.inputSnapshot "a" := by decide +kernel
  refine ⟨by decide +kernel, hreferences, hinput, ?_⟩
  have he : sparse.element? ⟨2⟩ = some (.ofAttributes "p" [("class", "n")]) := rfl
  have he' : crowded.element? ⟨1⟩ = some (.ofAttributes "p" [("class", "n")]) := rfl
  have hagree := effect_noninterference directive {} he he' rfl fun name hname => by
    rw [hreferences] at hname
    rw [List.mem_singleton.mp hname, hinput]
  refine hagree.2.1 none (some ⟨"b", "3"⟩) (fun c hc => nomatch hc) fun c hc => ?_
  rw [← Option.some.inj hc, hreferences]
  decide

end Directive

end ReactiveForm
