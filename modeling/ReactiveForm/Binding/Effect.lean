import ReactiveForm.Binding.Index
import ReactiveForm.Config.Basic
import ReactiveForm.Document.Snapshot

/-!
# `ReactiveForm.Binding.Effect` — applying directives

The conditions of a directive are evaluated before its element is touched. An effect that fails
answers with an error and no document, so the element stays as it was.

## Contents
- `EffectStates`, the last truths of condition-driven directives.
- `Directive.effect`, the effect of one directive on a document.
- `Pass`, one run through some directives, with `Pass.apply` and `Pass.applyAll`.
-/

namespace ReactiveForm

/-! ## States -/

/-- The last truth of the condition of each directive that has one. -/
structure EffectStates where
  known : List ((NodeId × DirectiveKind) × EffectState)
  deriving DecidableEq, Repr

namespace EffectStates

/-- Nothing has been evaluated. -/
def none : EffectStates := ⟨[]⟩

/-- The state of a directive. -/
def get? (s : EffectStates) (node : NodeId) (kind : DirectiveKind) : Option EffectState :=
  s.known.lookup (node, kind)

/-- The states with that of one directive set. -/
def set (s : EffectStates) (node : NodeId) (kind : DirectiveKind) (state : EffectState) :
    EffectStates :=
  ⟨((node, kind), state) :: s.known.filter (·.1 != (node, kind))⟩

@[simp] theorem get?_set_self (s : EffectStates) (node : NodeId) (kind : DirectiveKind)
    (state : EffectState) : (s.set node kind state).get? node kind = some state := by
  simp [get?, set]

theorem lookup_filter_ne {key other : NodeId × DirectiveKind} (h : other ≠ key)
    (l : List ((NodeId × DirectiveKind) × EffectState)) :
    (l.filter (·.1 != key)).lookup other = l.lookup other := by
  induction l with
  | nil => rfl
  | cons first rest ih =>
    obtain ⟨k, state⟩ := first
    by_cases hk : k = key
    · subst hk
      rw [List.filter_cons_of_neg (by simp), ih, List.lookup_cons, beq_eq_false_iff_ne.mpr h]
    · rw [List.filter_cons_of_pos (by simpa using hk), List.lookup_cons, List.lookup_cons, ih]

theorem get?_set (s : EffectStates) (node : NodeId) (kind : DirectiveKind) (state : EffectState)
    (node' : NodeId) (kind' : DirectiveKind) :
    (s.set node kind state).get? node' kind' =
      if (node', kind') = (node, kind) then some state else s.get? node' kind' := by
  unfold get? set
  rw [List.lookup_cons]
  by_cases h : (node', kind') = (node, kind)
  · rw [h]
    simp
  · rw [beq_eq_false_iff_ne.mpr h, if_neg h]
    exact lookup_filter_ne h s.known

end EffectStates

/-! ## Effects -/

/-- The truth of a condition in a document. -/
def Document.evaluate (d : Document) (config : Config) (change : Option Change) (c : Condition) :
    Except UnknownInput Bool :=
  c.evaluate { source := d.values, change, unknownInput := config.evaluation.unknownInput }

/-- The document in which the classes of a node are present or absent, one after the other. -/
def Document.setClasses (d : Document) (node : NodeId) (settings : List (String × Bool)) :
    Except DocumentError Document :=
  settings.foldlM (fun d (name, present) => d.setClass node name present) d

namespace Directive

/-- The truth of the conditions of a directive, in order. -/
def truths (directive : Directive) (config : Config) (change : Option Change) (d : Document) :
    Except UnknownInput (List Bool) :=
  directive.conditions.mapM (d.evaluate config change)

/-- What a directive with one condition does, given how its truth changes the document. -/
def conditional (c : Condition) (config : Config) (change : Option Change) (d : Document)
    (act : Bool → Except DocumentError Document) :
    Except EffectError (Document × Option EffectState) := do
  let active ← (d.evaluate config change c).mapError .unknownInput
  let d ← (act active).mapError .document
  return (d, some (.ofBool active))

/-- The effect of a directive of a node: the document, and the state of the directive when it is driven
by one condition. -/
def effect (config : Config) (change : Option Change) (d : Document) (node : NodeId) :
    Directive → Except EffectError (Document × Option EffectState)
  | showIf c => conditional c config change d fun active =>
    d.setClass node config.classes.hidden !active
  | hideIf c => conditional c config change d fun active =>
    d.setClass node config.classes.hidden active
  | disableIf c => conditional c config change d fun active =>
    d.setClass node config.classes.disabled active
  | classIf rules => do
    let truths ← ((classIf rules).truths config change d).mapError .unknownInput
    let settings := (rules.zip truths).flatMap fun (rule, present) =>
      rule.classes.map fun name => (name, present)
    let d ← (d.setClasses node settings).mapError .document
    return (d, none)
  | attributeIf rule => conditional rule.condition config change d fun active =>
    match if active then some rule.whenTrue else rule.whenFalse with
    | some a => d.setAttribute node a.name a.value
    | none => .ok d
  | echo input => do
    let ctx : Context :=
      { source := d.values, change, unknownInput := config.evaluation.unknownInput }
    match ctx.resolve input with
    | some value => return (← (d.setText node value).mapError .document, none)
    | none =>
      match config.evaluation.unknownInput with
      | .fail => throw (.unknownInput (.among input d.values))
      | .assumeFalse => return (d, none)
  | switch _ _ => .ok (d, none)

end Directive

/-! ## Passes -/

/-- A run through some directives, so far. -/
structure Pass where
  document : Document
  states : EffectStates
  report : Report

namespace Pass

/-- The run after one more directive. -/
def apply (config : Config) (change : Option Change) (p : Pass) (entry : IndexedDirective) : Pass :=
  match entry.directive.effect config change p.document entry.node with
  | .ok (d, state?) =>
    { document := d
      states :=
        match state? with
        | some state => p.states.set entry.node entry.directive.kind state
        | none => p.states
      report := p.report.succeed }
  | .error e => { p with report := p.report.fail ⟨entry.node, entry.directive.kind, e⟩ }

/-- The run after some more directives. -/
def applyAll (config : Config) (change : Option Change) (p : Pass)
    (entries : List IndexedDirective) : Pass :=
  entries.foldl (apply config change) p

end Pass

end ReactiveForm
