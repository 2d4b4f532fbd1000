import ReactiveForm.Condition.Evaluation
import ReactiveForm.Proofs.Except

/-!
# `ReactiveForm.Proofs.Condition.Dependence` — what the truth of a condition depends on

A condition looks at the inputs that it names and at nothing else. Whether it has a truth at all, and why
it has none, is a question of which of them exist; their values do not matter for that.

## Contents
- `Context.Agree`, contexts that give some inputs the same values, and `Condition.evaluate_congr`.
- `Condition.evaluate_ok_iff`, when a condition has a truth.
- `Context.Coexist`, contexts in which the same inputs exist, and `Condition.error?_evaluate_congr`.
- `Context.Concur`, contexts that may differ in all other inputs, and `Condition.name_evaluate_congr`.
- `Context.resolve_of_change`, a change that tells nothing new.
-/

namespace ReactiveForm

/-! ## Agreement -/

/-- Two contexts that cannot be told apart by looking at the inputs `names`. -/
structure Context.Agree (names : List String) (ctx ctx' : Context) : Prop where
  resolve : ∀ name ∈ names, ctx.resolve name = ctx'.resolve name
  known : ctx.source.names = ctx'.source.names
  unknownInput : ctx.unknownInput = ctx'.unknownInput

variable {ctx ctx' : Context} {names : List String}

theorem Context.Agree.mono (h : ctx.Agree names ctx') {fewer : List String}
    (hsub : ∀ name ∈ fewer, name ∈ names) : ctx.Agree fewer ctx' :=
  ⟨fun name hn => h.resolve name (hsub name hn), h.known, h.unknownInput⟩

/-- Two contexts in which the same of the inputs `names` exist, whatever their values are. -/
structure Context.Coexist (names : List String) (ctx ctx' : Context) : Prop where
  isSome : ∀ name ∈ names, (ctx.resolve name).isSome = (ctx'.resolve name).isSome
  known : ctx.source.names = ctx'.source.names
  unknownInput : ctx.unknownInput = ctx'.unknownInput

theorem Context.Coexist.mono (h : ctx.Coexist names ctx') {fewer : List String}
    (hsub : ∀ name ∈ fewer, name ∈ names) : ctx.Coexist fewer ctx' :=
  ⟨fun name hn => h.isSome name (hsub name hn), h.known, h.unknownInput⟩

/-- Two contexts that give the inputs `names` the same values, whatever other inputs there are. -/
structure Context.Concur (names : List String) (ctx ctx' : Context) : Prop where
  resolve : ∀ name ∈ names, ctx.resolve name = ctx'.resolve name
  unknownInput : ctx.unknownInput = ctx'.unknownInput

theorem Context.Concur.mono (h : ctx.Concur names ctx') {fewer : List String}
    (hsub : ∀ name ∈ fewer, name ∈ names) : ctx.Concur fewer ctx' :=
  ⟨fun name hn => h.resolve name (hsub name hn), h.unknownInput⟩

/-- A change to the value that the input has anyway tells nothing new. -/
theorem Context.resolve_of_change {source : ValueSource} {policy : UnknownInputPolicy}
    {input value : String} (h : source.valueOf input = some value) (name : String) :
    Context.resolve ⟨source, some ⟨input, value⟩, policy⟩ name =
      Context.resolve ⟨source, none, policy⟩ name := by
  show (if input = name then some value else source.valueOf name) = source.valueOf name
  split
  · next he => rw [← he, h]
  · rfl

theorem Comparison.evaluate_congr {c : Comparison} (h : ctx.Agree [c.input] ctx') :
    c.evaluate ctx = c.evaluate ctx' := by
  unfold Comparison.evaluate UnknownInput.among
  rw [h.resolve c.input List.mem_cons_self, h.unknownInput, h.known]

theorem Comparison.error?_evaluate_congr {c : Comparison} (h : ctx.Coexist [c.input] ctx') :
    error? (c.evaluate ctx) = error? (c.evaluate ctx') := by
  have hsome := h.isSome c.input List.mem_cons_self
  unfold Comparison.evaluate UnknownInput.among
  rw [h.unknownInput, h.known]
  cases hv : ctx.resolve c.input with
  | some value =>
    rw [hv] at hsome
    obtain ⟨value', hv'⟩ := Option.isSome_iff_exists.mp hsome.symm
    rw [hv']
    rfl
  | none =>
    rw [hv] at hsome
    rw [Option.not_isSome_iff_eq_none.mp (ne_true_of_eq_false hsome.symm)]

/-- The other inputs decide at most which names are suggested for a missing one. -/
theorem Comparison.name_evaluate_congr {c : Comparison} (h : ctx.Concur [c.input] ctx') :
    (c.evaluate ctx).mapError UnknownInput.name = (c.evaluate ctx').mapError UnknownInput.name := by
  unfold Comparison.evaluate
  rw [h.resolve c.input List.mem_cons_self, h.unknownInput]
  cases ctx'.resolve c.input with
  | some value => rfl
  | none => cases ctx'.unknownInput <;> rfl

/-! ## Conditions -/

namespace Condition

/-- The inputs of the parts of a condition are among its own. -/
theorem references_not (c : Condition) : (not c).references = c.references := rfl

theorem references_group (c : Condition) : (group c).references = c.references := rfl

theorem mem_references_join {k : Connective} {l r : Condition} {name : String} :
    name ∈ (join k l r).references ↔ name ∈ l.references ∨ name ∈ r.references := by
  simp only [mem_references, comparisons, List.mem_append, or_and_right, exists_or]

/-- **The truth of a condition depends on its own inputs only.** -/
theorem evaluate_congr {c : Condition} (h : ctx.Agree c.references ctx') :
    c.evaluate ctx = c.evaluate ctx' := by
  induction c with
  | compare c =>
    refine Comparison.evaluate_congr (h.mono fun name hn => ?_)
    rw [List.mem_singleton.mp hn]
    exact mem_references.mpr ⟨c, List.mem_cons_self, rfl⟩
  | not inner ih =>
    unfold evaluate
    rw [ih (references_not inner ▸ h)]
  | group inner ih =>
    unfold evaluate
    exact ih (references_group inner ▸ h)
  | join k left right ihl ihr =>
    unfold evaluate
    rw [ihl (h.mono fun name hn => mem_references_join.mpr (.inl hn)),
      ihr (h.mono fun name hn => mem_references_join.mpr (.inr hn))]

/-- **How a condition fails depends on which of its inputs exist.** -/
theorem error?_evaluate_congr {c : Condition} (h : ctx.Coexist c.references ctx') :
    error? (c.evaluate ctx) = error? (c.evaluate ctx') := by
  induction c with
  | compare c =>
    refine Comparison.error?_evaluate_congr (h.mono fun name hn => ?_)
    rw [List.mem_singleton.mp hn]
    exact mem_references.mpr ⟨c, List.mem_cons_self, rfl⟩
  | not inner ih =>
    unfold evaluate
    exact error?_bind_congr (ih (references_not inner ▸ h)) fun _ _ _ _ => rfl
  | group inner ih =>
    unfold evaluate
    exact ih (references_group inner ▸ h)
  | join k left right ihl ihr =>
    unfold evaluate
    refine error?_bind_congr (ihl (h.mono fun name hn => mem_references_join.mpr (.inl hn)))
      fun _ _ _ _ => ?_
    exact error?_bind_congr (ihr (h.mono fun name hn => mem_references_join.mpr (.inr hn)))
      fun _ _ _ _ => rfl

/-- **No other input is looked at,** not even to tell which one is missing. -/
theorem name_evaluate_congr {c : Condition} (h : ctx.Concur c.references ctx') :
    (c.evaluate ctx).mapError UnknownInput.name = (c.evaluate ctx').mapError UnknownInput.name := by
  induction c with
  | compare c =>
    refine Comparison.name_evaluate_congr (h.mono fun name hn => ?_)
    rw [List.mem_singleton.mp hn]
    exact mem_references.mpr ⟨c, List.mem_cons_self, rfl⟩
  | not inner ih =>
    unfold evaluate
    exact mapError_bind_congr (ih (references_not inner ▸ h)) fun _ => rfl
  | group inner ih =>
    unfold evaluate
    exact ih (references_group inner ▸ h)
  | join k left right ihl ihr =>
    unfold evaluate
    refine mapError_bind_congr (ihl (h.mono fun name hn => mem_references_join.mpr (.inl hn)))
      fun _ => ?_
    exact mapError_bind_congr (ihr (h.mono fun name hn => mem_references_join.mpr (.inr hn)))
      fun _ => rfl

/-- **When a condition has a truth:** when all its inputs exist, or when missing ones are tolerated. -/
theorem evaluate_ok_iff {c : Condition} :
    (∃ b, c.evaluate ctx = .ok b) ↔
      ctx.unknownInput = .assumeFalse ∨ ∀ name ∈ c.references, (ctx.resolve name).isSome = true := by
  induction c with
  | compare c =>
    have hmem : ∀ name, name ∈ (compare c).references ↔ c.input = name := by
      intro name
      simp [mem_references, comparisons]
    unfold evaluate Comparison.evaluate
    simp only [hmem, forall_eq']
    cases ctx.resolve c.input with
    | some value => simp
    | none => cases ctx.unknownInput <;> simp
  | not inner ih =>
    rw [references_not, ← ih, evaluate]
    cases inner.evaluate ctx with
    | ok b => exact ⟨fun _ => ⟨b, rfl⟩, fun _ => ⟨!b, rfl⟩⟩
    | error e => constructor <;> rintro ⟨_, h⟩ <;> cases h
  | group inner ih => exact ih
  | join k left right ihl ihr =>
    -- both sides are evaluated, whatever the truth of the left one
    have hboth : (ctx.unknownInput = .assumeFalse ∨
          ∀ name ∈ (join k left right).references, (ctx.resolve name).isSome = true) ↔
        (∃ b, left.evaluate ctx = .ok b) ∧ ∃ b, right.evaluate ctx = .ok b := by
      rw [ihl, ihr, ← or_and_left]
      simp only [mem_references_join, or_imp, forall_and]
    rw [hboth, evaluate]
    cases left.evaluate ctx with
    | error e =>
      constructor
      · rintro ⟨_, h⟩
        cases h
      · rintro ⟨⟨_, h⟩, -⟩
        cases h
    | ok l =>
      cases right.evaluate ctx with
      | error e =>
        constructor
        · rintro ⟨_, h⟩
          cases h
        · rintro ⟨-, _, h⟩
          cases h
      | ok r => exact ⟨fun _ => ⟨⟨l, rfl⟩, r, rfl⟩, fun _ => ⟨k.apply l r, rfl⟩⟩

end Condition

end ReactiveForm
