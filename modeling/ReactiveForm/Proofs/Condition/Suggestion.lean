import Mathlib.Data.List.Sort
import Mathlib.Order.Bounds.Basic
import ReactiveForm.Condition.Suggestion

/-!
# `ReactiveForm.Proofs.Condition.Suggestion` — which names are suggested

The distance of two texts is computed from the distances of their ends, row by row. What it stands for is said
without any table: the least number of single edits that lead from one text to the other.
* **Reached** — the row that is computed tells at every character which edit to make first.
* **Not undercut** — one edit, wherever it is made, changes the distance to any third text by at most one, so
  that no sequence of edits is shorter than the distance.

Suggestions are then known by three properties: what is near enough, how often, and in which order.

## Contents
- `CharEdit` and `CharEdits`, changes of a text.
- `editDistance_cons_cons`, the distance from that of shorter texts, and `editDistance_comm`.
- `charEdits_editDistance`, `CharEdit.editDistance_le` and `isLeast_editDistance`: **the distance is least**.
- `perm_suggest`, `Nearer` and `Suggests`; `suggest_eq_iff`: **what is suggested**.
-/

namespace ReactiveForm

/-! ## Edits -/

/-- **One edit of a text**: a character is put in, taken out or replaced, at some place. -/
inductive CharEdit : List Char → List Char → Prop where
  | insert (before : List Char) (c : Char) (after : List Char) : CharEdit (before ++ after) (before ++ c :: after)
  | delete (before : List Char) (c : Char) (after : List Char) : CharEdit (before ++ c :: after) (before ++ after)
  | substitute (before : List Char) (c d : Char) (after : List Char) :
      CharEdit (before ++ c :: after) (before ++ d :: after)

/-- A number of edits, one after the other. -/
inductive CharEdits : Nat → List Char → List Char → Prop where
  | nil (xs : List Char) : CharEdits 0 xs xs
  | cons {n : Nat} {xs ys zs : List Char} (first : CharEdit xs ys) (others : CharEdits n ys zs) :
      CharEdits (n + 1) xs zs

variable {n : Nat} {c : Char} {xs ys us vs : List Char}

theorem CharEdit.cons_char (h : CharEdit xs ys) (c : Char) : CharEdit (c :: xs) (c :: ys) := by
  cases h with
  | insert before d after => exact .insert (c :: before) d after
  | delete before d after => exact .delete (c :: before) d after
  | substitute before d e after => exact .substitute (c :: before) d e after

/-- What is done to a text can be done behind one more character. -/
theorem CharEdits.cons_char (h : CharEdits n xs ys) (c : Char) : CharEdits n (c :: xs) (c :: ys) := by
  induction h with
  | nil xs => exact .nil (c :: xs)
  | cons first _ ih => exact .cons (first.cons_char c) ih

/-! ## The distance from that of shorter texts -/

/-- A row for a text begins with the distance to the whole of it, and goes on with the row for the rest. -/
theorem distances_cons (y : Char) (ys xs : List Char) :
    distances (y :: ys) xs = editDistance xs (y :: ys) :: distances ys xs := by
  induction xs with
  | nil =>
    unfold editDistance
    simp [distances, List.range_succ]
  | cons x xs ih =>
    unfold editDistance
    simp only [distances, ih, distanceRow, List.headD_cons]

theorem distances_nil (xs : List Char) : distances [] xs = [xs.length] := by
  induction xs with
  | nil => rfl
  | cons x xs ih =>
    rw [distances, ih]
    rfl

@[simp] theorem editDistance_nil_right (xs : List Char) : editDistance xs [] = xs.length := by
  rw [editDistance, distances_nil, List.headD_cons]

@[simp] theorem editDistance_nil_left (ys : List Char) : editDistance [] ys = ys.length := by
  simp [editDistance, distances, List.range_succ]

theorem editDistance_cons_cons (x y : Char) (xs ys : List Char) :
    editDistance (x :: xs) (y :: ys) =
      if x = y then editDistance xs ys
      else 1 + min (editDistance xs ys) (min (editDistance xs (y :: ys)) (editDistance (x :: xs) ys)) := by
  have hrow : editDistance (x :: xs) (y :: ys) = (distanceRow x (y :: ys) (distances (y :: ys) xs)).headD 0 :=
    rfl
  rw [hrow, distances_cons, distanceRow]
  rfl

theorem editDistance_cons_self (c : Char) (xs ys : List Char) :
    editDistance (c :: xs) (c :: ys) = editDistance xs ys := by
  rw [editDistance_cons_cons, if_pos rfl]

theorem editDistance_cons_of_ne {x y : Char} (h : x ≠ y) (xs ys : List Char) :
    editDistance (x :: xs) (y :: ys) =
      1 + min (editDistance xs ys) (min (editDistance xs (y :: ys)) (editDistance (x :: xs) ys)) := by
  rw [editDistance_cons_cons, if_neg h]

theorem editDistance_comm (xs ys : List Char) : editDistance xs ys = editDistance ys xs := by
  induction xs generalizing ys with
  | nil => rw [editDistance_nil_left, editDistance_nil_right]
  | cons x xs ih =>
    induction ys with
    | nil => rw [editDistance_nil_left, editDistance_nil_right]
    | cons y ys ihy =>
      by_cases hxy : x = y
      · rw [hxy, editDistance_cons_self, editDistance_cons_self, ih]
      · rw [editDistance_cons_of_ne hxy, editDistance_cons_of_ne (Ne.symm hxy), ih, ih, ihy,
          min_comm (editDistance (y :: ys) xs)]

/-! ## The distance can be reached -/

/-- **As many edits as the distance says are enough.** -/
theorem charEdits_editDistance (xs ys : List Char) : CharEdits (editDistance xs ys) xs ys := by
  induction xs generalizing ys with
  | nil =>
    induction ys with
    | nil => exact .nil []
    | cons y ys ih =>
      rw [editDistance_nil_left] at ih ⊢
      exact .cons (.insert [] y []) (ih.cons_char y)
  | cons x xs ih =>
    induction ys with
    | nil =>
      have hxs := ih []
      rw [editDistance_nil_right] at hxs ⊢
      exact .cons (.delete [] x xs) hxs
    | cons y ys ihy =>
      by_cases hxy : x = y
      · rw [hxy, editDistance_cons_self]
        exact (ih ys).cons_char y
      · rw [editDistance_cons_of_ne hxy, Nat.add_comm]
        -- the least of the three neighbours tells what to do with the first character
        have hleast : ∀ a b c : Nat, min a (min b c) = a ∨ min a (min b c) = b ∨ min a (min b c) = c := by
          omega
        rcases hleast (editDistance xs ys) (editDistance xs (y :: ys)) (editDistance (x :: xs) ys) with
          h | h | h
        · rw [h]
          exact .cons (.substitute [] x y xs) ((ih ys).cons_char y)
        · rw [h]
          exact .cons (.delete [] x xs) (ih (y :: ys))
        · rw [h]
          exact .cons (.insert [] y (x :: xs)) (ihy.cons_char y)

/-! ## The distance cannot be undercut -/

/-- A character more in front of a text changes its distance to any other by at most one. The induction is on
both lengths together, since the argument goes to and fro between the two texts. -/
theorem editDistance_cons_near (c : Char) (xs ys : List Char) :
    editDistance (c :: xs) ys ≤ editDistance xs ys + 1 ∧ editDistance xs ys ≤ editDistance (c :: xs) ys + 1 := by
  induction hlength : xs.length + ys.length using Nat.strong_induction_on generalizing c xs ys with
  | _ length ih =>
    cases ys with
    | nil =>
      rw [editDistance_nil_right, editDistance_nil_right, List.length_cons]
      omega
    | cons y ys =>
      rw [List.length_cons] at hlength
      obtain ⟨hless, hmore⟩ := ih (ys.length + xs.length) (by omega) y ys xs rfl
      rw [editDistance_comm (y :: ys), editDistance_comm ys] at hless hmore
      by_cases hc : c = y
      · rw [hc, editDistance_cons_self]
        exact ⟨hmore, hless⟩
      · obtain ⟨-, hrest⟩ := ih (xs.length + ys.length) (by omega) c xs ys rfl
        rw [editDistance_cons_of_ne hc]
        omega

theorem editDistance_cons_right_near (c : Char) (xs ys : List Char) :
    editDistance xs (c :: ys) ≤ editDistance xs ys + 1 ∧ editDistance xs ys ≤ editDistance xs (c :: ys) + 1 := by
  have h := editDistance_cons_near c ys xs
  rwa [editDistance_comm (c :: ys), editDistance_comm ys] at h

/-- Another first character changes the distance to any other text by at most one. -/
theorem editDistance_substitute_near (c d : Char) (xs zs : List Char) :
    editDistance (c :: xs) zs ≤ editDistance (d :: xs) zs + 1 := by
  induction zs with
  | nil => simp
  | cons z zs ih =>
    obtain ⟨hcz, -⟩ := editDistance_cons_right_near z (c :: xs) zs
    obtain ⟨hz, hz'⟩ := editDistance_cons_right_near z xs zs
    have hc : editDistance (c :: xs) (z :: zs) ≤ editDistance xs zs + 1 := by
      rw [editDistance_cons_cons]
      split <;> omega
    by_cases hd : d = z
    · rw [hd, editDistance_cons_self]
      exact hc
    · rw [editDistance_cons_of_ne hd]
      omega

/-- Texts whose distances to any third text are at most one apart stay so behind one more character. -/
theorem editDistance_cons_le_of_le (h : ∀ zs, editDistance us zs ≤ editDistance vs zs + 1) (c : Char)
    (zs : List Char) : editDistance (c :: us) zs ≤ editDistance (c :: vs) zs + 1 := by
  induction zs with
  | nil => simpa using h []
  | cons z zs ih =>
    by_cases hc : c = z
    · rw [hc, editDistance_cons_self, editDistance_cons_self]
      exact h zs
    · have hzs := h zs
      have hwhole := h (z :: zs)
      rw [editDistance_cons_of_ne hc, editDistance_cons_of_ne hc]
      omega

theorem editDistance_append_le_of_le (h : ∀ zs, editDistance us zs ≤ editDistance vs zs + 1)
    (before zs : List Char) : editDistance (before ++ us) zs ≤ editDistance (before ++ vs) zs + 1 := by
  induction before generalizing zs with
  | nil => exact h zs
  | cons c before ih => exact editDistance_cons_le_of_le ih c zs

/-- **One edit changes the distance to any third text by at most one.** -/
theorem CharEdit.editDistance_le (h : CharEdit xs ys) (zs : List Char) :
    editDistance xs zs ≤ editDistance ys zs + 1 := by
  cases h with
  | insert before c after =>
    exact editDistance_append_le_of_le (fun zs => (editDistance_cons_near c after zs).2) before zs
  | delete before c after =>
    exact editDistance_append_le_of_le (fun zs => (editDistance_cons_near c after zs).1) before zs
  | substitute before c d after =>
    exact editDistance_append_le_of_le (editDistance_substitute_near c d after) before zs

theorem editDistance_self (xs : List Char) : editDistance xs xs = 0 := by
  induction xs with
  | nil => rfl
  | cons x xs ih => rw [editDistance_cons_self, ih]

/-- **Fewer edits than the distance says are not enough.** -/
theorem CharEdits.editDistance_le (h : CharEdits n xs ys) : editDistance xs ys ≤ n := by
  induction h with
  | nil xs => rw [editDistance_self]
  | cons first _ ih => exact (first.editDistance_le _).trans (Nat.succ_le_succ ih)

/-- **The distance of two texts is the least number of edits** that lead from one to the other. -/
theorem isLeast_editDistance (xs ys : List Char) : IsLeast {n | CharEdits n xs ys} (editDistance xs ys) :=
  ⟨charEdits_editDistance xs ys, fun _ h => h.editDistance_le⟩

/-! ## Suggestions -/

/-- What is suggested are the known names that are near, in some order. -/
theorem perm_suggest (name : String) (known : List String) :
    (suggest name known).Perm
      (known.filter fun k => editDistance name.toList k.toList ≤ suggestionDistance) := by
  unfold suggest
  refine ((List.mergeSort_perm _ suggestionLe).map _).trans (.of_eq ?_)
  rw [List.filter_map, List.map_map]
  exact List.map_id _

/-- The least number of edits from one name to another. -/
def Apart (n : Nat) (name other : String) : Prop := IsLeast {m | CharEdits m name.toList other.toList} n

/-- One name comes before another, or is the same: it is a beginning of the other, or it has the smaller code
point where they first differ. -/
def CodePointLe (s t : String) : Prop := s = t ∨ List.Lex (fun c d => c.toNat < d.toNat) s.toList t.toList

/-- **The order of suggestions for a name**: by their distance to it, and those at the same distance by their
code points. -/
def Nearer (name s t : String) : Prop :=
  ∃ m n, Apart m name s ∧ Apart n name t ∧ (m < n ∨ m = n ∧ CodePointLe s t)

/-- **The suggestions for a name among those that are known**: they are all within two edits, each known name
within two edits occurs as often as it is known, and nearer ones come first. -/
structure Suggests (name : String) (known suggestions : List String) : Prop where
  near : ∀ s ∈ suggestions, ∃ n ≤ 2, CharEdits n name.toList s.toList
  count_eq : ∀ s, (∃ n ≤ 2, CharEdits n name.toList s.toList) → suggestions.count s = known.count s
  sorted : suggestions.Pairwise (Nearer name)

variable {name s t : String} {known suggestions : List String}

theorem apart_iff : Apart n name s ↔ editDistance name.toList s.toList = n :=
  ⟨fun h => (isLeast_editDistance _ _).unique h, fun h => h ▸ isLeast_editDistance _ _⟩

theorem editDistance_le_iff : editDistance xs ys ≤ n ↔ ∃ m ≤ n, CharEdits m xs ys :=
  ⟨fun h => ⟨_, h, charEdits_editDistance xs ys⟩, fun ⟨_, hm, h⟩ => h.editDistance_le.trans hm⟩

theorem codePointLe_iff : CodePointLe s t ↔ s ≤ t := by
  have hlt : List.Lex (fun c d => c.toNat < d.toNat) s.toList t.toList ↔ s < t :=
    (List.lex_lt (α := Char)).trans String.lt_iff.symm
  rw [CodePointLe, hlt, Std.le_iff_lt_or_eq, or_comm]

theorem suggestionLe_iff {a b : Nat × String} :
    suggestionLe a b = true ↔ a.1 < b.1 ∨ a.1 = b.1 ∧ a.2 ≤ b.2 := by
  simp [suggestionLe]

theorem suggestionLe_trans {a b c : Nat × String} (h : suggestionLe a b = true) (h' : suggestionLe b c = true) :
    suggestionLe a c = true := by
  rw [suggestionLe_iff] at h h' ⊢
  rcases h with h | ⟨h, hle⟩ <;> rcases h' with h' | ⟨h', hle'⟩
  · exact .inl (h.trans h')
  · exact .inl (h' ▸ h)
  · exact .inl (h ▸ h')
  · exact .inr ⟨h.trans h', String.le_trans hle hle'⟩

theorem suggestionLe_total (a b : Nat × String) : (suggestionLe a b || suggestionLe b a) = true := by
  rw [Bool.or_eq_true, suggestionLe_iff, suggestionLe_iff]
  rcases Nat.lt_trichotomy a.1 b.1 with h | h | h
  · exact .inl (.inl h)
  · rcases String.le_total a.2 b.2 with hle | hle
    · exact .inl (.inr ⟨h, hle⟩)
    · exact .inr (.inr ⟨h.symm, hle⟩)
  · exact .inr (.inl h)

theorem nearer_iff : Nearer name s t ↔
    suggestionLe (editDistance name.toList s.toList, s) (editDistance name.toList t.toList, t) = true := by
  rw [suggestionLe_iff]
  constructor
  · rintro ⟨m, n, hm, hn, h⟩
    rwa [apart_iff.mp hm, apart_iff.mp hn, ← codePointLe_iff]
  · intro h
    exact ⟨_, _, isLeast_editDistance _ _, isLeast_editDistance _ _, by rwa [codePointLe_iff]⟩

theorem Nearer.antisymm (h : Nearer name s t) (h' : Nearer name t s) : s = t := by
  rw [nearer_iff, suggestionLe_iff] at h h'
  rcases h with h | ⟨heq, hle⟩
  · rcases h' with h' | ⟨heq, -⟩
    · exact absurd h (Nat.lt_asymm h')
    · exact absurd heq (Nat.ne_of_gt h)
  · rcases h' with h' | ⟨-, hle'⟩
    · exact absurd heq (Nat.ne_of_gt h')
    · exact String.le_antisymm hle hle'

theorem pairwise_mergeSort_suggestionLe (scored : List (Nat × String)) :
    (scored.mergeSort suggestionLe).Pairwise (suggestionLe · ·) :=
  @List.pairwise_mergeSort _ suggestionLe (fun _ _ _ => suggestionLe_trans) suggestionLe_total scored

/-- The suggestions are sorted by their scores, and every score is the distance of its name. -/
theorem pairwise_suggest (name : String) (known : List String) : (suggest name known).Pairwise (Nearer name) := by
  unfold suggest
  rw [List.pairwise_map]
  refine (pairwise_mergeSort_suggestionLe _).imp_of_mem fun {a b} ha hb h => ?_
  obtain ⟨k, -, rfl⟩ := List.mem_map.mp (List.mem_of_mem_filter (List.mem_mergeSort.mp ha))
  obtain ⟨l, -, rfl⟩ := List.mem_map.mp (List.mem_of_mem_filter (List.mem_mergeSort.mp hb))
  exact nearer_iff.mpr h

theorem suggests_suggest (name : String) (known : List String) : Suggests name known (suggest name known) where
  near s hs := by
    have hfilter := (perm_suggest name known).mem_iff.mp hs
    exact editDistance_le_iff.mp (of_decide_eq_true (List.mem_filter.mp hfilter).2)
  count_eq s hs := by
    rw [(perm_suggest name known).count_eq, List.count_filter]
    exact decide_eq_true (editDistance_le_iff.mpr hs)
  sorted := pairwise_suggest name known

/-- Names that are known are suggested in one way only. -/
theorem Suggests.unique {others : List String} (h : Suggests name known suggestions)
    (h' : Suggests name known others) : suggestions = others := by
  have hperm : suggestions.Perm others := by
    refine List.perm_iff_count.mpr fun s => ?_
    by_cases hs : ∃ n ≤ 2, CharEdits n name.toList s.toList
    · rw [h.count_eq s hs, h'.count_eq s hs]
    · rw [List.count_eq_zero.mpr fun hmem => hs (h.near s hmem),
        List.count_eq_zero.mpr fun hmem => hs (h'.near s hmem)]
  exact hperm.eq_of_pairwise (fun _ _ _ _ => Nearer.antisymm) h.sorted h'.sorted

/-- **Suggestions are exactly the near names, nearest first.** The distance of two texts is the least number of
insertions, deletions and substitutions of single characters that lead from one to the other. What is suggested
for a name are the known names within two of these, as often as they are known, by their distance and then by
their code points, and no other list has these properties. -/
theorem suggest_eq_iff :
    (∀ xs ys, IsLeast {n | CharEdits n xs ys} (editDistance xs ys)) ∧
      ∀ name known suggestions, suggest name known = suggestions ↔ Suggests name known suggestions := by
  refine ⟨isLeast_editDistance, fun name known suggestions => ⟨?_, (suggests_suggest name known).unique⟩⟩
  rintro rfl
  exact suggests_suggest name known

example : suggest "rol" ["role", "rule", "plan", "rol", "role", "all"] = ["rol", "role", "role", "all", "rule"] := by
  cbv

end ReactiveForm
