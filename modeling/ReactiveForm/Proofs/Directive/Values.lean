import ReactiveForm.Proofs.Condition.Normalization
import ReactiveForm.Proofs.Directive.Rendering

/-!
# `ReactiveForm.Proofs.Directive.Values` — values of assignments and literals of conditions

The value of an assignment and the literal of a comparison are written alike: white space around them is no
part of them, and neither are the quotes that they stand between. They are read by two rules, though. A literal
loses its ends if they are the same quote (`unquote`), a value as soon as each of them is a quote
(`stripQuotes`).

## Contents
- `Crossed`, texts between two different quotes, and `stripChars_eq_iff`, where the two rules agree.
- `Directive.value_eq_literal_iff`: **a value is what it would be as a literal, unless it stands
  between two different quotes**.
-/

namespace ReactiveForm

namespace Text

/-! ## Two different quotes -/

/-- **A text between two different quotes.** -/
def Crossed (cs : List Char) : Prop :=
  cs.head?.any isQuote = true ∧ cs.getLast?.any isQuote = true ∧ cs.head? ≠ cs.getLast?

instance (cs : List Char) : Decidable (Crossed cs) := inferInstanceAs (Decidable (_ ∧ _ ∧ _))

theorem crossed_iff {cs : List Char} : Crossed cs ↔ ∃ q r inside, isQuote q = true ∧ isQuote r = true ∧ q ≠ r ∧
    cs = q :: (inside ++ [r]) := by
  constructor
  · rintro ⟨hhead, hlast, hne⟩
    obtain ⟨q, hq, hquote⟩ := (Option.any_eq_true _ _).mp hhead
    obtain ⟨r, hr, hquote'⟩ := (Option.any_eq_true _ _).mp hlast
    rw [hq, hr] at hne
    obtain ⟨rest, rfl⟩ := List.head?_eq_some_iff.mp hq
    have hdiffer : q ≠ r := fun he => hne (congrArg some he)
    cases hrest : rest.getLast? with
    | none =>
      -- a single character is no text between two quotes
      rw [List.getLast?_eq_none_iff.mp hrest] at hr
      exact absurd (Option.some.inj hr) hdiffer
    | some last =>
      rw [List.getLast?_cons, hrest] at hr
      obtain ⟨inside, rfl⟩ := List.getLast?_eq_some_iff.mp hrest
      obtain rfl : last = r := Option.some.inj hr
      exact ⟨q, last, inside, hquote, hquote', hdiffer, rfl⟩
  · rintro ⟨q, r, inside, hq, hr, hne, rfl⟩
    have hlast : (q :: (inside ++ [r])).getLast? = some r := List.getLast?_concat (l := q :: inside)
    refine ⟨hq, ?_, ?_⟩
    · rw [hlast]
      exact hr
    · rw [hlast]
      exact fun he => hne (Option.some.inj he)

/-- The quotes of such a text are no quotes of a literal. -/
theorem unquote_of_crossed {q r : Char} (hne : q ≠ r) (inside : List Char) :
    unquote (q :: (inside ++ [r])) = none := by
  have hlast : ((inside ++ [r]).getLast? == some q) = false := by
    rw [List.getLast?_concat]
    exact beq_eq_false_iff_ne.mpr fun he => hne (Option.some.inj he).symm
  simp only [unquote, hlast, Bool.and_false]
  rfl

/-- **The two rules for quotes agree exactly on the texts that are not between two different quotes.** -/
theorem stripChars_eq_iff {cs : List Char} :
    stripChars cs = (unquote (trimChars cs)).getD (trimChars cs) ↔ ¬Crossed (trimChars cs) := by
  constructor
  · intro h hcrossed
    obtain ⟨q, r, inside, hq, hr, hne, htrim⟩ := crossed_iff.mp hcrossed
    rw [stripChars_of_quotes hq hr htrim, htrim, unquote_of_crossed hne, Option.getD_none] at h
    have hlength := congrArg List.length h
    simp only [List.length_cons, List.length_append] at hlength
    omega
  · intro h
    cases hunquote : unquote (trimChars cs) with
    | some inside =>
      obtain ⟨q, hq, htrim⟩ := Condition.unquote_eq_some_iff.mp hunquote
      exact stripChars_of_quotes hq hq htrim
    | none =>
      refine stripChars_of_bare fun q r inside hq hr htrim => ?_
      by_cases hqr : q = r
      · subst hqr
        rw [htrim, unquote_quoted hq] at hunquote
        cases hunquote
      · exact h (crossed_iff.mpr ⟨q, r, inside, hq, hr, hqr, htrim⟩)

end Text

open Text

/-! ## Values and literals -/

namespace Directive

/-- **A value means what it means as a literal, unless it stands between two different quotes.** The two rules
leave the same of a text exactly if its ends are not two different quotes: these come off a value and stay on a
literal. So what is assigned to an attribute is what the same text means behind an operator, wherever it is one
literal there, with this one exception. -/
theorem value_eq_literal_iff (raw : String) :
    ((stripQuotes raw).toList = (unquote (trim raw).toList).getD (trim raw).toList ↔
        ¬Crossed (trim raw).toList) ∧
      (∀ q q' inside, isQuote q = true → isQuote q' = true → q ≠ q' →
        (trim raw).toList = q :: (inside ++ [q']) →
          unquote (trim raw).toList = none ∧ (stripQuotes raw).toList = inside) ∧
      (∀ key value : String, NamesAttribute key.toList →
        parseAssignment value (key ++ "=" ++ raw).toList = .ok ⟨trim key, stripQuotes raw⟩) ∧
      ∀ (p : Precedence) (name w : String) (r : Relation), Condition.IsName name →
        (∀ c ∈ w.toList, isBlank c = true) → Condition.Unbroken raw.toList → ∃ literal,
          Condition.parse p (name ++ w ++ r.symbol ++ raw) = .ok (.compare ⟨name, r, literal⟩) ∧
            (stripQuotes raw = literal ↔ ¬Crossed (trim raw).toList) := by
  have hstripped : (stripQuotes raw).toList = stripChars raw.toList := String.toList_ofList
  refine ⟨?_, ?_, ?_, ?_⟩
  · rw [hstripped, toList_trim]
    exact stripChars_eq_iff
  · intro q q' inside hq hq' hne htrim
    rw [toList_trim] at htrim
    rw [hstripped, toList_trim, htrim]
    exact ⟨unquote_of_crossed hne inside, stripChars_of_quotes hq hq' htrim⟩
  · intro key value hkey
    have htext : (key ++ "=" ++ raw).toList = key.toList ++ '=' :: raw.toList := by
      rw [String.toList_append, String.toList_append, List.append_assoc]
      rfl
    rw [htext, parseAssignment_append_cons hkey]
    rfl
  · intro p name w r hname hw hunbroken
    obtain ⟨literal, hdenotes, -⟩ := Condition.existsUnique_denotes raw.toList
    refine ⟨literal, hunbroken.parse_comparison hname hw p r hdenotes, ?_⟩
    rw [toList_trim, ← stripChars_eq_iff, ← Condition.denotes_iff.mp hdenotes, ← String.toList_inj, hstripped]

/-- A value between different quotes, which is no literal, and a value between equal quotes, which is one. -/
theorem value_eq_literal_iff_quoted :
    (parseAssignment "m==1?title='x' y\"" "title='x' y\"".toList = .ok ⟨"title", "x' y"⟩ ∧
      ∃ literal, Condition.parse .leftToRight "m=='x' y\"" = .ok (.compare ⟨"m", .equal, literal⟩) ∧
        literal ≠ "x' y") ∧
      parseAssignment "m==1? title = 'é \" ' " " title = 'é \" ' ".toList = .ok ⟨"title", "é \" "⟩ ∧
      Condition.parse .standard "m != 'é \" ' " = .ok (.compare ⟨"m", .notEqual, "é \" "⟩) := by
  have hname : Condition.IsName "m" := by decide
  constructor
  · have hraw : Condition.Unbroken "'x' y\"".toList :=
      @Condition.Unbroken.quoted [] '\'' "x".toList " y\"".toList nofun (by decide) (by decide) (by decide)
    obtain ⟨-, -, hassigned, hliteral⟩ := value_eq_literal_iff "'x' y\""
    obtain ⟨literal, hparse, hagree⟩ := hliteral .leftToRight "m" "" .equal hname nofun hraw
    exact ⟨hassigned "title" "m==1?title='x' y\"" (by decide), literal, hparse,
      fun he => hagree.mp he.symm (by decide)⟩
  · have hspace : ∀ c ∈ " ".toList, isBlank c = true := List.all_eq_true.mp (by decide)
    have hraw : Condition.Unbroken " 'é \" ' ".toList :=
      @Condition.Unbroken.quoted " ".toList '\'' "é \" ".toList " ".toList hspace (by decide) (by decide)
        (by decide)
    obtain ⟨-, -, hassigned, hliteral⟩ := value_eq_literal_iff " 'é \" ' "
    obtain ⟨literal, hparse, hagree⟩ := hliteral .standard "m" " " .notEqual hname hspace hraw
    obtain rfl := hagree.mpr (by decide)
    exact ⟨hassigned " title " "m==1? title = 'é \" ' " (by decide), hparse⟩

/-- **Two different quotes come off a value and stay on a literal.** -/
theorem crossed_value_ne_literal :
    unquote (trim "'x' y\"").toList = none ∧ stripQuotes "'x' y\"" = "x' y" ∧
      stripQuotes "'x' y\"" ≠ trim "'x' y\"" ∧
      parse {} .attributeIf "m==1?title='x' y\"" =
        .ok (.attributeIf ⟨.compare ⟨"m", .equal, "1"⟩, ⟨"title", "x' y"⟩, none⟩) ∧
      parse {} .showIf "m=='x' y\"" = .ok (.showIf (.compare ⟨"m", .equal, "'x' y\""⟩)) := by
  decide +kernel

end Directive

end ReactiveForm
