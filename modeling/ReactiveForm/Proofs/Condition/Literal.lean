import Mathlib.Data.List.Infix
import ReactiveForm.Condition.Lexer
import ReactiveForm.Proofs.Text.Trimming

/-!
# `ReactiveForm.Proofs.Condition.Literal` — which quoted literals are read whole

A literal between single quotes is not escaped. The lexer takes the first single quote inside it for the
closing one and reads on without protection, up to the next `)`, `&&` or `||`. If nothing of that kind
follows the quote inside the literal, the scan reaches the quote that really closes it, and the outer quotes
come off; else the literal is cut short and something else is read.

## Contents
- `HoldsEnd` and `Escapes`, the literals that are cut short.
- `scanValue_of_not_escapes`, what is read of one that is not.
- `literal_ne_of_escapes`, that something else is read of one that is.
-/

namespace ReactiveForm

namespace Condition

open Text

/-! ## Literals that are cut short -/

/-- Something that ends an unquoted literal occurs in a text. -/
def HoldsEnd (cs : List Char) : Prop := [')'] <:+: cs ∨ ['&', '&'] <:+: cs ∨ ['|', '|'] <:+: cs

/-- **A literal that escapes its quotes**: an end occurs somewhere after its first single quote. -/
def Escapes (literal : List Char) : Prop :=
  ∃ before after, literal = before ++ '\'' :: after ∧ '\'' ∉ before ∧ HoldsEnd after

theorem not_holdsEnd_nil : ¬HoldsEnd [] := by
  rintro (h | h | h) <;> simp [List.infix_nil] at h

/-- The first single quote is found by a scan, so that the predicate can be computed. -/
theorem escapes_iff {literal : List Char} :
    Escapes literal ↔ HoldsEnd (literal.dropWhile (· != '\'')).tail := by
  constructor
  · rintro ⟨before, after, rfl, hbefore, hend⟩
    have hskip : ∀ c ∈ before, (c != '\'') = true := fun c hc => by
      rw [bne_iff_ne]
      rintro rfl
      exact hbefore hc
    rw [List.dropWhile_append_of_pos hskip]
    simpa using hend
  · intro h
    cases hdrop : literal.dropWhile (· != '\'') with
    | nil =>
      rw [hdrop] at h
      exact absurd h not_holdsEnd_nil
    | cons q after =>
      rw [hdrop] at h
      have hq : q = '\'' := by simpa [hdrop] using List.head?_dropWhile_not (· != '\'') literal
      subst hq
      refine ⟨literal.takeWhile (· != '\''), after, ?_, fun hmem => ?_, h⟩
      · rw [← hdrop, List.takeWhile_append_dropWhile]
      · simpa using List.mem_takeWhile_imp hmem

instance (cs : List Char) : Decidable (HoldsEnd cs) := inferInstanceAs (Decidable (_ ∨ _ ∨ _))

instance (literal : List Char) : Decidable (Escapes literal) := decidable_of_iff _ escapes_iff.symm

theorem holdsEnd_of_endsLiteral {c : Char} {cs rest : List Char} (hne : rest.head? ≠ some c)
    (h : endsLiteral c (cs ++ rest) = true) : HoldsEnd (c :: cs) := by
  simp only [endsLiteral, Bool.or_eq_true, Bool.and_eq_true, beq_iff_eq] at h
  rcases h with rfl | ⟨hc, hhead⟩
  · exact .inl ⟨[], cs, rfl⟩
  · cases cs with
    | nil => exact absurd hhead hne
    | cons d ds =>
      obtain rfl : d = c := by simpa using hhead
      rcases hc with rfl | rfl
      · exact .inr (.inl ⟨[], ds, rfl⟩)
      · exact .inr (.inr ⟨[], ds, rfl⟩)

theorem HoldsEnd.cons {c : Char} {cs : List Char} (h : HoldsEnd cs) : HoldsEnd (c :: cs) :=
  h.imp List.infix_cons (Or.imp List.infix_cons List.infix_cons)

/-- Without an end before the quote, an unquoted literal reaches it. -/
theorem literalLength_of_not_holdsEnd {cs : List Char} (h : ¬HoldsEnd cs) (rest : List Char) :
    literalLength (cs ++ '\'' :: rest) = cs.length + 1 + literalLength rest := by
  induction cs with
  | nil =>
    rw [List.nil_append, literalLength, if_neg (by simp [endsLiteral])]
    simp [Nat.add_comm]
  | cons c cs ih =>
    have hc : endsLiteral c (cs ++ '\'' :: rest) = false := by
      refine Bool.eq_false_iff.mpr fun hend => ?_
      by_cases hq : c = '\''
      · subst hq
        simp [endsLiteral] at hend
      · exact h (holdsEnd_of_endsLiteral (by simpa using Ne.symm hq) hend)
    rw [List.cons_append, literalLength, if_neg (by simp [hc]), ih fun he => h he.cons,
      List.length_cons]
    omega

/-- With an end in it, an unquoted literal ends inside. -/
theorem literalLength_lt_of_holdsEnd {cs : List Char} (h : HoldsEnd cs) (rest : List Char) :
    literalLength (cs ++ rest) < cs.length := by
  induction cs with
  | nil => exact absurd h not_holdsEnd_nil
  | cons c cs ih =>
    rw [List.cons_append, literalLength]
    split
    · simp
    · next hend =>
      refine Nat.succ_lt_succ (ih ?_)
      -- the end does not begin at the first character, so it occurs later
      rcases h with h | h | h <;> rcases List.infix_cons_iff.mp h with hp | hi
      · obtain ⟨t, ht⟩ := hp
        cases ht
        simp [endsLiteral] at hend
      · exact .inl hi
      · obtain ⟨t, ht⟩ := hp
        cases ht
        simp [endsLiteral] at hend
      · exact .inr (.inl hi)
      · obtain ⟨t, ht⟩ := hp
        cases ht
        simp [endsLiteral] at hend
      · exact .inr (.inr hi)

/-! ## The token of a literal -/

theorem idxOf?_append_cons {q : Char} {before : List Char} (h : q ∉ before) (after : List Char) :
    (before ++ q :: after).idxOf? q = some before.length := by
  induction before with
  | nil => simp [List.idxOf?_cons]
  | cons c cs ih =>
    obtain ⟨hc, hcs⟩ : q ≠ c ∧ q ∉ cs := by simpa using h
    rw [List.cons_append, List.idxOf?_cons, if_neg (by simpa using Ne.symm hc), ih hcs]
    rfl

/-- A text in which a quote is found, cut at the first one. -/
theorem exists_of_idxOf?_eq_some {q : Char} {cs : List Char} {n : Nat} (h : cs.idxOf? q = some n) :
    ∃ before after, cs = before ++ q :: after ∧ q ∉ before ∧ before.length = n := by
  have hmem : q ∈ cs := by
    by_contra hnot
    rw [List.idxOf?_eq_none_iff.mpr hnot] at h
    cases h
  obtain ⟨before, after, rfl, hbefore⟩ := List.eq_append_cons_of_mem hmem
  rw [idxOf?_append_cons hbefore] at h
  exact ⟨before, after, rfl, hbefore, Option.some.inj h⟩

/-- Where the scan of a quoted literal ends: the first quote inside closes it, and what follows is read
like an unquoted one. -/
theorem scanValue_quoted {before : List Char} (h : '\'' ∉ before) (after : List Char) :
    scanValue '\'' (before ++ '\'' :: after) =
      .ok (literalToken ('\'' :: (before ++ '\'' :: after.take (literalLength after))),
        before.length + 1 + literalLength after) := by
  have hquote : isQuote '\'' = true := by decide
  have hdrop : (before ++ '\'' :: after).drop (before.length + 1) = after := by
    rw [← List.drop_drop, List.drop_left]
    rfl
  have htake : (before ++ '\'' :: after).take (before.length + 1 + literalLength after) =
      before ++ '\'' :: after.take (literalLength after) := by
    rw [Nat.add_assoc, List.take_length_add_append, Nat.add_comm, List.take_succ_cons]
  simp only [scanValue, hquote, if_true, idxOf?_append_cons h, hdrop, htake]

/-- Trimming does not go behind the quotes of a literal. -/
theorem trimChars_quoted (inner after : List Char) :
    trimChars ('\'' :: (inner ++ '\'' :: after)) = '\'' :: (inner ++ '\'' :: trimEnd after) := by
  have hq : isBlank '\'' = false := by decide
  have hstart : trimStart ('\'' :: inner) = '\'' :: inner := trimStart_append_cons hq [] inner
  have htrim := trimChars_append_cons hq ('\'' :: inner) after
  rwa [hstart] at htrim

/-- What follows a literal: nothing but blanks stand before the next end. -/
def FollowsLiteral (rest : List Char) : Prop :=
  ∀ c ∈ rest.take (literalLength rest), isBlank c = true

/-- The quotes of a literal that does not escape them come off. -/
theorem scanValue_of_not_escapes {literal rest : List Char} (h : ¬Escapes literal)
    (hrest : FollowsLiteral rest) :
    scanValue '\'' (literal ++ '\'' :: rest) =
      .ok (.quoted (String.ofList literal), literal.length + 1 + literalLength rest) := by
  have htoken : literalToken ('\'' :: (literal ++ '\'' :: rest.take (literalLength rest))) =
      .quoted (String.ofList literal) := by
    rw [literalToken, trimChars_quoted, trimEnd_eq_nil hrest, unquote_quoted (by decide)]
  -- the first quote closes the scan; what follows it is taken up to the quote at the end
  by_cases hq : '\'' ∈ literal
  · obtain ⟨before, after, hsplit, hbefore⟩ := List.eq_append_cons_of_mem hq
    have hend : ¬HoldsEnd after := fun he => h ⟨before, after, hsplit, hbefore, he⟩
    have hlength := literalLength_of_not_holdsEnd hend rest
    have htake : (after ++ '\'' :: rest).take (after.length + 1 + literalLength rest) =
        after ++ '\'' :: rest.take (literalLength rest) := by
      rw [Nat.add_assoc, List.take_length_add_append, Nat.add_comm, List.take_succ_cons]
    subst hsplit
    rw [List.append_assoc, List.cons_append, scanValue_quoted hbefore, hlength, htake]
    rw [List.append_assoc, List.cons_append] at htoken
    have htaken : before.length + 1 + (after.length + 1 + literalLength rest) =
        (before ++ '\'' :: after).length + 1 + literalLength rest := by
      simp only [List.length_append, List.length_cons]
      omega
    rw [htoken, htaken]
  · rw [scanValue_quoted hq, htoken]

/-- Only a text of one character over and over is its own tail with that character in front. -/
theorem eq_of_cons_isPrefix {a : Char} {s cs : List Char} (h : cs = a :: s) (hp : s <+: cs) :
    ∀ c ∈ cs, c = a := by
  induction s generalizing cs with
  | nil => simp [h]
  | cons b s ih =>
    subst h
    obtain ⟨rfl, hs⟩ := List.cons_prefix_cons.mp hp
    have hall := ih rfl hs
    intro c hc
    rcases List.mem_cons.mp hc with hc | hc
    · exact hc
    · exact hall c hc

theorem not_holdsEnd_of_all_quotes {cs : List Char} (h : ∀ c ∈ cs, c = '\'') : ¬HoldsEnd cs := by
  rintro (he | he | he)
  · exact absurd (h _ (he.subset List.mem_cons_self)) (by decide)
  · exact absurd (h _ (he.subset List.mem_cons_self)) (by decide)
  · exact absurd (h _ (he.subset List.mem_cons_self)) (by decide)

theorem length_of_unquote {q : Char} {cs inner : List Char} (h : unquote (q :: cs) = some inner) :
    inner.length + 1 = cs.length := by
  simp only [unquote] at h
  split at h
  · next hq =>
    obtain ⟨-, hlast⟩ : isQuote q = true ∧ cs.getLast? = some q := by simpa using hq
    have hpos : 0 < cs.length := List.length_pos_iff.mpr (by rintro rfl; simp at hlast)
    rw [← Option.some.inj h, List.length_dropLast]
    omega
  · simp at h

/-- **A literal that escapes its quotes is read as another one**: what is taken is shorter by the part
from the end on, and a quote in front cannot make up for it. -/
theorem literal_ne_of_escapes {literal : List Char} (h : Escapes literal) (rest : List Char)
    {token : Token} {n : Nat} (hs : scanValue '\'' (literal ++ '\'' :: rest) = .ok (token, n)) :
    token.literal? ≠ some (String.ofList literal) := by
  obtain ⟨before, after, rfl, hbefore, hend⟩ := h
  rw [List.append_assoc, List.cons_append, scanValue_quoted hbefore] at hs
  have hlt := literalLength_lt_of_holdsEnd hend ('\'' :: rest)
  rw [List.take_append_of_le_length hlt.le] at hs
  have htrim := trimChars_quoted before (after.take (literalLength (after ++ '\'' :: rest)))
  have hafter := (trimEnd_isPrefix (after.take (literalLength (after ++ '\'' :: rest)))).trans
    (List.take_prefix _ _)
  generalize trimEnd (after.take (literalLength (after ++ '\'' :: rest))) = s at htrim hafter
  obtain ⟨rfl, -⟩ := Prod.mk.inj (Except.ok.inj hs)
  rw [literalToken, htrim]
  intro hliteral
  cases hunquote : unquote ('\'' :: (before ++ '\'' :: s)) with
  | none =>
    rw [hunquote] at hliteral
    have heq : '\'' :: (before ++ '\'' :: s) = before ++ '\'' :: after :=
      String.ofList_injective (Option.some.inj hliteral)
    cases before with
    | cons b bs =>
      obtain ⟨rfl, -⟩ := List.cons.inj heq
      exact hbefore List.mem_cons_self
    | nil =>
      -- `after` is a quote in front of a part of itself
      have hcons : after = '\'' :: s := (List.cons.inj heq).2.symm
      exact not_holdsEnd_of_all_quotes (eq_of_cons_isPrefix hcons hafter) hend
  | some inner =>
    -- without its quotes the part that is taken is shorter still
    rw [hunquote] at hliteral
    have heq : inner = before ++ '\'' :: after := String.ofList_injective (Option.some.inj hliteral)
    have hlength := length_of_unquote hunquote
    have hle := hafter.length_le
    rw [heq] at hlength
    simp only [List.length_append, List.length_cons] at hlength
    omega

end Condition

end ReactiveForm
