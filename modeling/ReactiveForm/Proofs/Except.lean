import Mathlib.Data.List.Forall2

/-!
# `ReactiveForm.Proofs.Except` — taking computations apart that can fail

A computation of several steps that has succeeded has succeeded in every step. The lemmas here say so
for each way of putting steps together, so that no proof has to look into a `do` block by cases.

## Contents
- `bind_eq_ok_iff`, `mapError_eq_ok_iff`, `map_eq_ok_iff`, and `bind_eq_error_iff`, `mapError_eq_error_iff`,
  `map_eq_error_iff`.
- `mapM_eq_ok_iff`, a step made at every item of a list, with `forall_mem_of_mapM_eq_ok`,
  `length_of_mapM_eq_ok`, `eq_map_of_mapM_eq_ok`, `mapM_ok_iff` and `mapM_congr`.
- `FailsFirst` and `mapM_eq_error_iff`, the first item at which the step fails.
- `error?`, how a computation fails, for computations that fail alike whatever they answer with.
- `eq_of_mapError_eq`, `mapError_bind_congr` and `mapError_mapM_congr`, for computations that answer alike
  as far as a part of their errors tells.
-/

namespace ReactiveForm

variable {ε δ α β : Type}

theorem bind_eq_ok_iff {x : Except ε α} {f : α → Except ε β} {b : β} :
    (x >>= f) = .ok b ↔ ∃ a, x = .ok a ∧ f a = .ok b := by
  cases x with
  | error e => exact ⟨fun h => (nomatch h), fun ⟨_, ha, _⟩ => (nomatch ha)⟩
  | ok a =>
    refine ⟨fun h => ⟨a, rfl, h⟩, fun ⟨a', ha, h⟩ => ?_⟩
    rw [← Except.ok.inj ha] at h
    exact h

theorem mapError_eq_ok_iff {x : Except ε α} {f : ε → δ} {a : α} :
    x.mapError f = .ok a ↔ x = .ok a := by
  cases x with
  | error e => exact ⟨fun h => (nomatch h), fun h => (nomatch h)⟩
  | ok a' => exact ⟨fun h => congrArg Except.ok (Except.ok.inj h),
      fun h => congrArg Except.ok (Except.ok.inj h)⟩

theorem map_eq_ok_iff {x : Except ε α} {f : α → β} {b : β} :
    x.map f = .ok b ↔ ∃ a, x = .ok a ∧ f a = b := by
  cases x with
  | error e => exact ⟨fun h => (nomatch h), fun ⟨_, ha, _⟩ => (nomatch ha)⟩
  | ok a =>
    refine ⟨fun h => ⟨a, rfl, Except.ok.inj h⟩, fun ⟨a', ha, h⟩ => ?_⟩
    rw [Except.ok.inj ha, ← h]
    rfl

theorem map_eq_error_iff {x : Except ε α} {f : α → β} {e : ε} : x.map f = .error e ↔ x = .error e := by
  cases x with
  | error e' => exact ⟨fun h => congrArg Except.error (Except.error.inj h),
      fun h => congrArg Except.error (Except.error.inj h)⟩
  | ok a => exact ⟨fun h => (nomatch h), fun h => (nomatch h)⟩

/-- A step fails, or else the one after it. -/
theorem bind_eq_error_iff {x : Except ε α} {f : α → Except ε β} {e : ε} :
    (x >>= f) = .error e ↔ x = .error e ∨ ∃ a, x = .ok a ∧ f a = .error e := by
  cases x with
  | error e' =>
    refine ⟨fun h => .inl (congrArg Except.error (Except.error.inj h)), ?_⟩
    rintro (h | ⟨a, ha, -⟩)
    · exact congrArg Except.error (Except.error.inj h)
    · cases ha
  | ok a =>
    refine ⟨fun h => .inr ⟨a, rfl, h⟩, ?_⟩
    rintro (h | ⟨a', ha, h⟩)
    · cases h
    · rw [← Except.ok.inj ha] at h
      exact h

theorem mapError_eq_error_iff {x : Except ε α} {f : ε → δ} {d : δ} :
    x.mapError f = .error d ↔ ∃ e, x = .error e ∧ f e = d := by
  cases x with
  | error e =>
    refine ⟨fun h => ⟨e, rfl, Except.error.inj h⟩, fun ⟨e', he, h⟩ => ?_⟩
    rw [Except.error.inj he, ← h]
    rfl
  | ok a => exact ⟨nofun, fun ⟨_, h, _⟩ => (nomatch h)⟩

/-- An error of one kind is not of another. -/
theorem mapError_ne_error {x : Except ε α} {f : ε → δ} {d : δ} (hf : ∀ e, f e ≠ d) : x.mapError f ≠ .error d :=
  fun h => (mapError_eq_error_iff.mp h).elim fun e he => hf e he.2

theorem mapM_eq_ok_iff {f : α → Except ε β} {xs : List α} {ys : List β} :
    xs.mapM f = .ok ys ↔ List.Forall₂ (fun x y => f x = .ok y) xs ys := by
  induction xs generalizing ys with
  | nil =>
    rw [List.mapM_nil, List.forall₂_nil_left_iff]
    exact ⟨fun h => (Except.ok.inj h).symm, fun h => congrArg Except.ok h.symm⟩
  | cons x rest ih =>
    rw [List.mapM_cons, List.forall₂_cons_left_iff, bind_eq_ok_iff]
    refine exists_congr fun y => ?_
    rw [bind_eq_ok_iff]
    constructor
    · rintro ⟨hy, tail, htail, h⟩
      exact ⟨tail, hy, ih.mp htail, (Except.ok.inj h).symm⟩
    · rintro ⟨tail, hy, htail, rfl⟩
      exact ⟨hy, tail, ih.mpr htail, rfl⟩

/-- What holds of every result holds of all of them. -/
theorem forall_mem_of_mapM_eq_ok {f : α → Except ε β} {P : β → Prop} {xs : List α} {ys : List β}
    (hf : ∀ x ∈ xs, ∀ y, f x = .ok y → P y) (h : xs.mapM f = .ok ys) : ∀ y ∈ ys, P y := by
  induction mapM_eq_ok_iff.mp h with
  | nil => exact nofun
  | cons hy hrest ih =>
    obtain ⟨hx, hf⟩ := List.forall_mem_cons.mp hf
    exact List.forall_mem_cons.mpr ⟨hx _ hy, ih hf (mapM_eq_ok_iff.mpr hrest)⟩

theorem length_of_mapM_eq_ok {f : α → Except ε β} {xs : List α} {ys : List β}
    (h : xs.mapM f = .ok ys) : ys.length = xs.length :=
  (mapM_eq_ok_iff.mp h).length_eq.symm

/-- Results that are known one by one. -/
theorem eq_map_of_mapM_eq_ok {f : α → Except ε β} {g : α → β} {xs : List α} {ys : List β}
    (hf : ∀ x y, f x = .ok y → g x = y) (h : xs.mapM f = .ok ys) : ys = xs.map g := by
  induction mapM_eq_ok_iff.mp h with
  | nil => rfl
  | cons hy hrest ih => rw [List.map_cons, hf _ _ hy, ih (mapM_eq_ok_iff.mpr hrest)]

/-- A step that is made everywhere succeeds when it succeeds everywhere. -/
theorem mapM_ok_iff {f : α → Except ε β} {xs : List α} :
    (∃ ys, xs.mapM f = .ok ys) ↔ ∀ x ∈ xs, ∃ y, f x = .ok y := by
  induction xs with
  | nil => exact ⟨fun _ x hx => (nomatch hx), fun _ => ⟨[], rfl⟩⟩
  | cons x rest ih =>
    rw [List.forall_mem_cons, ← ih, List.mapM_cons]
    constructor
    · rintro ⟨ys, h⟩
      obtain ⟨y, hy, h⟩ := bind_eq_ok_iff.mp h
      obtain ⟨tail, htail, -⟩ := bind_eq_ok_iff.mp h
      exact ⟨⟨y, hy⟩, tail, htail⟩
    · rintro ⟨⟨y, hy⟩, tail, htail⟩
      exact ⟨y :: tail, bind_eq_ok_iff.mpr ⟨y, hy, bind_eq_ok_iff.mpr ⟨tail, htail, rfl⟩⟩⟩

/-- **The first item at which a step fails:** it has succeeded at all items before it. -/
def FailsFirst (f : α → Except ε β) (xs : List α) (e : ε) : Prop :=
  ∃ before x after, xs = before ++ x :: after ∧ (∀ y ∈ before, ∃ b, f y = .ok b) ∧ f x = .error e

theorem failsFirst_cons_iff {f : α → Except ε β} {x : α} {rest : List α} {e : ε} :
    FailsFirst f (x :: rest) e ↔ f x = .error e ∨ (∃ y, f x = .ok y) ∧ FailsFirst f rest e := by
  constructor
  · rintro ⟨before, bad, after, hsplit, hbefore, hbad⟩
    cases before with
    | nil =>
      obtain ⟨rfl, -⟩ := List.cons.inj hsplit
      exact .inl hbad
    | cons y others =>
      obtain ⟨rfl, rfl⟩ := List.cons.inj hsplit
      obtain ⟨hx, hothers⟩ := List.forall_mem_cons.mp hbefore
      exact .inr ⟨hx, others, bad, after, rfl, hothers, hbad⟩
  · rintro (h | ⟨hx, before, bad, after, rfl, hbefore, hbad⟩)
    · exact ⟨[], x, rest, rfl, nofun, h⟩
    · exact ⟨x :: before, bad, after, rfl, List.forall_mem_cons.mpr ⟨hx, hbefore⟩, hbad⟩

theorem mapM_eq_error_iff {f : α → Except ε β} {xs : List α} {e : ε} :
    xs.mapM f = .error e ↔ FailsFirst f xs e := by
  induction xs with
  | nil => exact ⟨nofun, fun ⟨before, _, _, h, _⟩ => by cases before <;> cases h⟩
  | cons x rest ih =>
    rw [List.mapM_cons, failsFirst_cons_iff, ← ih]
    cases f x with
    | error e' =>
      show Except.error e' = .error e ↔ _
      exact ⟨fun h => .inl (congrArg Except.error (Except.error.inj h)), fun h =>
        h.elim (fun h => congrArg Except.error (Except.error.inj h)) fun ⟨⟨_, hy⟩, _⟩ => nomatch hy⟩
    | ok y =>
      have hrest : (Except.ok y >>= fun y => rest.mapM f >>= fun ys => Except.ok (y :: ys)) = .error e ↔
          rest.mapM f = .error e := map_eq_error_iff (f := (y :: ·))
      exact hrest.trans ⟨fun h => .inr ⟨⟨y, rfl⟩, h⟩, fun h => h.elim nofun And.right⟩

/-- An error that is wrapped at every item may as well be wrapped once. -/
theorem mapM_mapError {f : α → Except ε β} {g : ε → δ} {xs : List α} :
    xs.mapM (fun x => (f x).mapError g) = (xs.mapM f).mapError g := by
  induction xs with
  | nil => rfl
  | cons x rest ih =>
    rw [List.mapM_cons, List.mapM_cons, ih]
    cases f x with
    | error e => rfl
    | ok y => cases rest.mapM f <;> rfl

theorem mapM_congr {f g : α → Except ε β} {xs : List α} (h : ∀ x ∈ xs, f x = g x) :
    xs.mapM f = xs.mapM g := by
  induction xs with
  | nil => rfl
  | cons x rest ih =>
    rw [List.mapM_cons, List.mapM_cons, h x List.mem_cons_self,
      ih fun y hy => h y (List.mem_cons_of_mem _ hy)]

/-- A computation that answers with something of a kind. -/
theorem exists_ok_of_any {x : Except ε α} {P : α → Prop} [DecidablePred P]
    (h : x.toOption.any (fun a => decide (P a)) = true) : ∃ a, x = .ok a ∧ P a := by
  cases x with
  | error e => cases h
  | ok a => exact ⟨a, rfl, of_decide_eq_true h⟩

/-! ## Failing alike -/

/-- How a computation fails, if it does. -/
def error? : Except ε α → Option ε
  | .ok _ => none
  | .error e => some e

variable {x x' : Except ε α}

theorem isNone_error?_iff : (error? x).isNone = true ↔ ∃ a, x = .ok a := by
  cases x with
  | ok a => exact ⟨fun _ => ⟨a, rfl⟩, fun _ => rfl⟩
  | error e => exact ⟨fun h => (nomatch h), fun ⟨_, h⟩ => (nomatch h)⟩

theorem error?_eq_some_iff {e : ε} : error? x = some e ↔ x = .error e := by
  cases x with
  | ok a => exact ⟨fun h => (nomatch h), fun h => (nomatch h)⟩
  | error e' => exact ⟨fun h => congrArg Except.error (Option.some.inj h),
      fun h => congrArg some (Except.error.inj h)⟩

/-- What is made of an answer cannot fail. -/
theorem error?_map (x : Except ε α) (f : α → β) : error? (x >>= fun a => .ok (f a)) = error? x := by
  cases x <;> rfl

/-- Of two computations that are both made, the first that fails tells how. -/
theorem error?_both {γ : Type} (x : Except ε α) (y : Except ε β) (f : α → β → γ) :
    error? (x >>= fun a => y >>= fun b => .ok (f a b)) = (error? x).or (error? y) := by
  cases x with
  | ok a => exact error?_map y (f a)
  | error e => rfl

/-- Computations that fail alike and go on to fail alike, whatever each of them answers with. -/
theorem error?_bind_congr {γ δ : Type} {y : Except ε γ} {f : α → Except ε β} {g : γ → Except ε δ}
    (hx : error? x = error? y)
    (hf : ∀ a c, x = .ok a → y = .ok c → error? (f a) = error? (g c)) :
    error? (x >>= f) = error? (y >>= g) := by
  cases x with
  | ok a =>
    cases y with
    | ok c => exact hf a c rfl rfl
    | error e' => cases hx
  | error e =>
    cases y with
    | ok c => cases hx
    | error e' => exact hx

theorem error?_mapError_congr (f : ε → δ) (hx : error? x = error? x') :
    error? (x.mapError f) = error? (x'.mapError f) := by
  cases x with
  | ok a =>
    cases x' with
    | ok a' => rfl
    | error e' => cases hx
  | error e =>
    cases x' with
    | ok a' => cases hx
    | error e' => exact congrArg (Option.map f) hx

theorem error?_mapM_congr {f f' : α → Except ε β} {xs : List α}
    (h : ∀ x ∈ xs, error? (f x) = error? (f' x)) : error? (xs.mapM f) = error? (xs.mapM f') := by
  induction xs with
  | nil => rfl
  | cons x rest ih =>
    obtain ⟨hx, hrest⟩ := List.forall_mem_cons.mp h
    rw [List.mapM_cons, List.mapM_cons]
    refine error?_bind_congr hx fun _ _ _ _ => ?_
    exact error?_bind_congr (ih hrest) fun _ _ _ _ => rfl

/-! ## Telling less of an error -/

variable {g : ε → δ}

/-- Computations that cannot be told apart by a part of their errors. -/
theorem eq_of_mapError_eq (h : x.mapError g = x'.mapError g) :
    (∃ a, x = .ok a ∧ x' = .ok a) ∨ ∃ e e', x = .error e ∧ x' = .error e' ∧ g e = g e' := by
  cases x with
  | ok a =>
    cases x' with
    | ok a' => exact .inl ⟨a, rfl, congrArg Except.ok (Except.ok.inj h).symm⟩
    | error e' => cases h
  | error e =>
    cases x' with
    | ok a' => cases h
    | error e' => exact .inr ⟨e, e', rfl, rfl, Except.error.inj h⟩

theorem mapError_bind_congr {f f' : α → Except ε β} (hx : x.mapError g = x'.mapError g)
    (hf : ∀ a, (f a).mapError g = (f' a).mapError g) :
    (x >>= f).mapError g = (x' >>= f').mapError g := by
  rcases eq_of_mapError_eq hx with ⟨a, rfl, rfl⟩ | ⟨e, e', rfl, rfl, he⟩
  · exact hf a
  · exact congrArg Except.error he

theorem mapError_mapM_congr {f f' : α → Except ε β} {xs : List α}
    (h : ∀ x ∈ xs, (f x).mapError g = (f' x).mapError g) :
    (xs.mapM f).mapError g = (xs.mapM f').mapError g := by
  induction xs with
  | nil => rfl
  | cons x rest ih =>
    obtain ⟨hx, hrest⟩ := List.forall_mem_cons.mp h
    rw [List.mapM_cons, List.mapM_cons]
    refine mapError_bind_congr hx fun _ => ?_
    exact mapError_bind_congr (ih hrest) fun _ => rfl

end ReactiveForm
