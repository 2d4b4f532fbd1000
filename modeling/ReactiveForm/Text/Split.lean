/-!
# `ReactiveForm.Text.Split` — cutting at separators

## Contents
- `splitFirst`, the two sides of the first separator, and `splitFirst_eq_some_iff`, that nothing is lost and
  the first one is taken.
- `splitAll`, the pieces between all separators, with `splitAll_append_cons`.
- `lines`, the lines of a text, and `lines_pair`.
-/

namespace ReactiveForm

namespace Text

/-! ## The first separator -/

/-- What stands before and after the first separator. -/
def splitFirst (sep : Char) (cs : List Char) : Option (List Char × List Char) :=
  match cs.dropWhile (· != sep) with
  | [] => none
  | _ :: after => some (cs.takeWhile (· != sep), after)

/-- A text that is cut is the two parts with the separator between them. -/
theorem append_of_splitFirst {sep : Char} {cs before after : List Char}
    (h : splitFirst sep cs = some (before, after)) : cs = before ++ sep :: after := by
  unfold splitFirst at h
  split at h
  · simp at h
  · next c rest hdrop =>
    obtain ⟨hb, ha⟩ := Prod.mk.inj (Option.some.inj h)
    have hc : c = sep := by
      have hhead := List.head?_dropWhile_not (· != sep) cs
      rw [hdrop] at hhead
      simpa using hhead
    subst hc
    rw [← hb, ← ha, ← hdrop, List.takeWhile_append_dropWhile]

/-- A text is cut in two exactly where no separator stands before the cut. -/
theorem splitFirst_eq_some_iff {sep : Char} {cs before after : List Char} :
    splitFirst sep cs = some (before, after) ↔ cs = before ++ sep :: after ∧ sep ∉ before := by
  constructor
  · intro h
    refine ⟨append_of_splitFirst h, ?_⟩
    unfold splitFirst at h
    split at h
    · cases h
    · rw [← (Prod.mk.inj (Option.some.inj h)).1]
      intro hmem
      have hne := List.all_eq_true.mp List.all_takeWhile sep hmem
      simp at hne
  · rintro ⟨rfl, hbefore⟩
    have hall : ∀ c ∈ before, (c != sep) = true := fun c hc => bne_iff_ne.mpr fun heq => hbefore (heq ▸ hc)
    unfold splitFirst
    rw [List.dropWhile_append_of_pos hall, List.takeWhile_append_of_pos hall]
    simp

/-! ## All separators -/

/-- The pieces between the separators; there is always one. -/
def splitAll (sep : Char) : List Char → List (List Char)
  | [] => [[]]
  | c :: cs =>
    if c = sep then [] :: splitAll sep cs
    else
      match splitAll sep cs with
      | [] => [[c]]
      | piece :: rest => (c :: piece) :: rest

theorem splitAll_of_notMem {sep : Char} {cs : List Char} (h : sep ∉ cs) : splitAll sep cs = [cs] := by
  induction cs with
  | nil => rfl
  | cons c cs ih =>
    obtain ⟨hc, hcs⟩ := List.ne_and_not_mem_of_not_mem_cons h
    rw [splitAll, if_neg (Ne.symm hc), ih hcs]

/-- What stands before the first separator is the first piece. -/
theorem splitAll_append_cons {sep : Char} {before : List Char} (h : sep ∉ before) (after : List Char) :
    splitAll sep (before ++ sep :: after) = before :: splitAll sep after := by
  induction before with
  | nil => rw [List.nil_append, splitAll, if_pos rfl]
  | cons c before ih =>
    obtain ⟨hc, hbefore⟩ := List.ne_and_not_mem_of_not_mem_cons h
    rw [List.cons_append, splitAll, if_neg (Ne.symm hc), ih hbefore]

/-! ## Lines -/

/-- A line without the carriage return that belongs to its end. -/
def dropReturn (line : List Char) : List Char :=
  if line.getLast? = some '\r' then line.dropLast else line

/-- The lines of a text, without their ends. What follows the last line end is a line unless it is
empty. -/
def lines (cs : List Char) : List (List Char) :=
  let pieces := splitAll '\n' cs
  pieces.dropLast.map dropReturn ++ (pieces.getLast?.toList.filter (!·.isEmpty))

/-- A line end between two texts without one. -/
theorem lines_pair {first second : List Char} (hfirst : '\n' ∉ first) (hsecond : '\n' ∉ second)
    (hne : second ≠ []) : lines (first ++ '\n' :: second) = [dropReturn first, second] := by
  have hkeeps : (!second.isEmpty) = true := by rwa [Bool.not_eq_true', List.isEmpty_eq_false_iff]
  unfold lines
  rw [splitAll_append_cons hfirst, splitAll_of_notMem hsecond]
  show dropReturn first :: [second].filter (!·.isEmpty) = _
  rw [List.filter_cons, if_pos hkeeps, List.filter_nil]

end Text

end ReactiveForm
