import ReactiveForm.Proofs.Condition.Dependence

/-!
# `ReactiveForm.Proofs.Condition.Truth` — the truth that an evaluation finds

The truth of a condition is a matter of propositional logic over its comparisons, and a comparison holds when
its input has a value that stands in the relation. Nothing in this says in which order to look. An evaluation
looks from left to right and never stops early, so the input that it reports as missing is the first of all
those that the condition names.

## Contents
- `Resolves`, the values of inputs, with a change that hides the source.
- `Comparison.Meets` and `Condition.Holds`, the truth of comparisons and of conditions.
- `Condition.error?_evaluate`, what is reported, and `Condition.holds_iff_of_evaluate`, what is answered.
- `Condition.evaluate_decides`, both together.
-/

namespace ReactiveForm

/-! ## Truth -/

/-- **The value of an input**: the changed input has its new value, and every other one has the value that the
source gives. -/
inductive Resolves (source : ValueSource) (change : Option Change) (name value : String) : Prop where
  | changed (h : change = some ⟨name, value⟩)
  | unchanged (h : ∀ k, change = some k → k.input ≠ name) (hv : source.valueOf name = some value)

/-- A comparison holds of the value of its input. Where there is no value, neither relation holds. -/
def Comparison.Meets (k : Comparison) (source : ValueSource) (change : Option Change) : Prop :=
  match k.relation with
  | .equal => Resolves source change k.input k.literal
  | .notEqual => ∃ value, Resolves source change k.input value ∧ value ≠ k.literal

/-- **The truth of a condition**, given which comparisons are true. -/
def Condition.Holds (atom : Comparison → Prop) : Condition → Prop
  | compare k => atom k
  | not inner => ¬inner.Holds atom
  | join .and left right => left.Holds atom ∧ right.Holds atom
  | join .or left right => left.Holds atom ∨ right.Holds atom
  | group inner => inner.Holds atom

variable {source : ValueSource} {change : Option Change} {policy : UnknownInputPolicy}

/-- A context resolves names as `Resolves` says. -/
theorem Context.resolve_eq_some_iff {name value : String} :
    Context.resolve ⟨source, change, policy⟩ name = some value ↔ Resolves source change name value := by
  unfold Context.resolve
  cases change with
  | none =>
    refine ⟨fun h => .unchanged (fun k hk => nomatch hk) h, fun h => ?_⟩
    cases h with
    | changed h => cases h
    | unchanged _ hv => exact hv
  | some k =>
    obtain ⟨input, new⟩ := k
    by_cases hi : input = name
    · subst hi
      simp only [if_true, Option.some.injEq]
      refine ⟨fun h => .changed (h ▸ rfl), fun h => ?_⟩
      cases h with
      | changed h => exact congrArg Change.value (Option.some.inj h)
      | unchanged h _ => exact absurd rfl (h _ rfl)
    · simp only [if_neg hi]
      refine ⟨fun h => .unchanged (fun k hk => Option.some.inj hk ▸ hi) h, fun h => ?_⟩
      cases h with
      | changed h => exact absurd (congrArg Change.input (Option.some.inj h)) hi
      | unchanged _ hv => exact hv

theorem Context.resolve_eq_none_iff {name : String} :
    Context.resolve ⟨source, change, policy⟩ name = none ↔ ∀ value, ¬Resolves source change name value := by
  rw [Option.eq_none_iff_forall_ne_some]
  exact forall_congr' fun value => not_congr resolve_eq_some_iff

theorem Context.isSome_resolve_iff {name : String} :
    (Context.resolve ⟨source, change, policy⟩ name).isSome = true ↔
      ∃ value, Resolves source change name value := by
  rw [Option.isSome_iff_exists]
  exact exists_congr fun value => resolve_eq_some_iff

/-! ## What is answered -/

/-- A comparison holds when its input has a value that stands in the relation to the literal. -/
theorem Comparison.meets_iff {k : Comparison} :
    k.Meets source change ↔
      ∃ value, Resolves source change k.input value ∧ k.relation.holds value k.literal = true := by
  unfold Comparison.Meets
  cases k.relation with
  | equal => simp [Relation.holds]
  | notEqual => simp [Relation.holds]

/-- A comparison that is evaluated is true exactly when it holds. -/
theorem Comparison.meets_iff_of_evaluate {k : Comparison} {b : Bool}
    (h : k.evaluate ⟨source, change, policy⟩ = .ok b) : b = true ↔ k.Meets source change := by
  simp only [Comparison.meets_iff, ← @Context.resolve_eq_some_iff source change policy]
  unfold Comparison.evaluate at h
  cases hv : Context.resolve ⟨source, change, policy⟩ k.input with
  | some value =>
    rw [hv] at h
    obtain rfl := Except.ok.inj h
    simp
  | none =>
    rw [hv] at h
    cases policy with
    | fail => cases h
    | assumeFalse =>
      obtain rfl := Except.ok.inj h
      simp

/-- **What is answered is the truth**, by induction on the condition. -/
theorem Condition.holds_iff_of_evaluate {c : Condition} {b : Bool}
    (h : c.evaluate ⟨source, change, policy⟩ = .ok b) :
    b = true ↔ c.Holds (·.Meets source change) := by
  induction c generalizing b with
  | compare k => exact Comparison.meets_iff_of_evaluate h
  | group inner ih => exact ih h
  | not inner ih =>
    obtain ⟨b', hb', h⟩ := bind_eq_ok_iff.mp h
    obtain rfl := Except.ok.inj h
    rw [Condition.Holds, ← ih hb']
    cases b' <;> decide
  | join k left right ihl ihr =>
    obtain ⟨l, hl, h⟩ := bind_eq_ok_iff.mp h
    obtain ⟨r, hr, h⟩ := bind_eq_ok_iff.mp h
    obtain rfl := Except.ok.inj h
    cases k with
    | and =>
      rw [Condition.Holds, ← ihl hl, ← ihr hr]
      exact Bool.and_eq_true_iff
    | or =>
      rw [Condition.Holds, ← ihl hl, ← ihr hr]
      exact Bool.or_eq_true_iff

/-! ## What is reported -/

/-- Repetitions do not matter for the first element of a kind. -/
theorem find?_eraseDups {α : Type} [BEq α] [LawfulBEq α] (p : α → Bool) (l : List α) :
    l.eraseDups.find? p = l.find? p := by
  match l with
  | [] => rfl
  | a :: as =>
    rw [List.eraseDups_cons, List.find?_cons, List.find?_cons, find?_eraseDups p (as.filter _)]
    cases ha : p a with
    | true => rfl
    | false =>
      -- what is left out behind `a` is equal to it, and so is not of the kind either
      rw [List.find?_filter]
      refine congrArg (fun q => as.find? q) (funext fun b => ?_)
      cases hb : b == a with
      | false => simp
      | true => simp [eq_of_beq hb, ha]
termination_by l.length
decreasing_by exact Nat.lt_succ_of_le (List.length_filter_le _ _)

/-- **The missing input that is reported is the first that the condition names.** Both sides of a connective
are looked at, so the names on the right count as soon as none on the left is missing. -/
theorem Condition.error?_evaluate (c : Condition) :
    error? (c.evaluate ⟨source, change, .fail⟩) =
      (c.references.find? fun name => (Context.resolve ⟨source, change, .fail⟩ name).isNone).map
        (UnknownInput.among · source) := by
  unfold references
  rw [find?_eraseDups]
  induction c with
  | compare k =>
    unfold evaluate Comparison.evaluate comparisons
    cases hv : Context.resolve ⟨source, change, .fail⟩ k.input <;> simp [hv, error?]
  | group inner ih => exact ih
  | not inner ih => exact (error?_map _ _).trans ih
  | join k left right ihl ihr =>
    rw [comparisons, List.map_append, List.find?_append, Option.map_or, ← ihl, ← ihr]
    exact error?_both _ _ _

/-! ## Both together -/

/-- **An evaluation decides every condition, without a short cut.** Where missing inputs are errors, it fails
exactly when some input that the condition names has no value; it reports the first of these, with the names
that may have been meant. Under either policy it answers, with the truth of the condition, exactly when missing
inputs are tolerated or none is missing; a comparison of a missing input is false, whatever its relation. -/
theorem Condition.evaluate_decides (c : Condition) (source : ValueSource) (change : Option Change) :
    (∀ e, c.evaluate ⟨source, change, .fail⟩ = .error e ↔
      ∃ before name after, c.references = before ++ name :: after ∧
        (∀ n ∈ before, ∃ value, Resolves source change n value) ∧
        (∀ value, ¬Resolves source change name value) ∧
        e = ⟨name, suggest name source.names⟩) ∧
    ∀ policy, (∃ b, c.evaluate ⟨source, change, policy⟩ = .ok b ∧
        (b = true ↔ c.Holds (·.Meets source change))) ↔
      policy = .assumeFalse ∨ ∀ name ∈ c.references, ∃ value, Resolves source change name value := by
  constructor
  · intro e
    have hfound : ∀ n, (!(Context.resolve ⟨source, change, .fail⟩ n).isNone) = true ↔
        ∃ value, Resolves source change n value := by
      intro n
      rw [Option.not_isNone, Context.isSome_resolve_iff]
    rw [← error?_eq_some_iff, c.error?_evaluate, Option.map_eq_some_iff]
    simp only [List.find?_eq_some_iff_append, Option.isNone_iff_eq_none, Context.resolve_eq_none_iff, hfound]
    constructor
    · rintro ⟨name, ⟨hnone, before, after, hsplit, hbefore⟩, rfl⟩
      exact ⟨before, name, after, hsplit, hbefore, hnone, rfl⟩
    · rintro ⟨before, name, after, hsplit, hbefore, hnone, rfl⟩
      exact ⟨name, ⟨hnone, before, after, hsplit, hbefore⟩, rfl⟩
  · intro policy
    have hok : (∃ b, c.evaluate ⟨source, change, policy⟩ = .ok b) ↔ _ := evaluate_ok_iff
    simp only [Context.isSome_resolve_iff] at hok
    rw [← hok]
    exact exists_congr fun b => and_iff_left_of_imp holds_iff_of_evaluate

end ReactiveForm
