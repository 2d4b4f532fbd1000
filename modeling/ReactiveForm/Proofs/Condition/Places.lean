import ReactiveForm.Proofs.Condition.Normalization
import ReactiveForm.Proofs.Except

/-!
# `ReactiveForm.Proofs.Condition.Places` — where tokens and lexical faults stand in a text

A lexeme carries the offset of its first byte, and so does an error. What an offset is worth is said here by
the text itself: it is cut in two at a place, and what follows the cut begins with the spelling of the token, or
with the operator or the quote that cannot be read. Every character has a width, so that a text can be cut at an
offset in one way at most.

## Contents
- `Stands`, what stands at an offset of a text, with `Stands.append` and `Stands.of_split`.
- `Token.Begins` and `ParseFault.Offends`, what a text begins with, and `tells_scan`.
- `stands_of_lexFrom` and `stands_of_lexFrom_error`: **tokens and faults stand where they are said to**.
-/

namespace ReactiveForm

namespace Condition

open Text

/-! ## Offsets -/

/-- **What stands at an offset of a text**: a character that is no white space, and the property holds of what
begins with it. -/
def Stands (P : List Char → Prop) (cs : List Char) (offset : Nat) : Prop :=
  ∃ before c after, cs = before ++ c :: after ∧ width before = offset ∧ isBlank c = false ∧ P (c :: after)

variable {P : List Char → Prop} {cs : List Char} {offset : Nat}

/-- A text is cut at an offset in one way at most. -/
theorem eq_of_width_eq {xs xs' ys ys' : List Char} (h : xs ++ ys = xs' ++ ys') (hw : width xs = width xs') :
    xs = xs' ∧ ys = ys' := by
  induction xs generalizing xs' with
  | nil =>
    cases xs' with
    | nil => exact ⟨rfl, h⟩
    | cons d xs' =>
      have hpos := d.utf8Size_pos
      rw [width_nil, width_cons] at hw
      omega
  | cons c xs ih =>
    cases xs' with
    | nil =>
      have hpos := c.utf8Size_pos
      rw [width_nil, width_cons] at hw
      omega
    | cons d xs' =>
      rw [List.cons_append, List.cons_append] at h
      obtain ⟨rfl, htail⟩ := List.cons.inj h
      rw [width_cons, width_cons] at hw
      obtain ⟨rfl, rfl⟩ := ih htail (by omega)
      exact ⟨rfl, rfl⟩

namespace Stands

/-- What stands in a text stands behind another text too, by the width of that. -/
theorem append (h : Stands P cs offset) (front : List Char) : Stands P (front ++ cs) (width front + offset) := by
  obtain ⟨before, c, after, rfl, rfl, hc, hP⟩ := h
  exact ⟨front ++ before, c, after, (List.append_assoc _ _ _).symm, width_append front before, hc, hP⟩

/-- What stands behind some characters of a text. -/
theorem append_drop {c : Char} {rest : List Char} {n : Nat} (h : Stands P (rest.drop n) offset) :
    Stands P (c :: rest) (width (c :: rest.take n) + offset) := by
  have happend := h.append (c :: rest.take n)
  rwa [List.cons_append, List.take_append_drop] at happend

theorem of_split (h : Stands P cs offset) {before after : List Char} {c : Char} (hcs : cs = before ++ c :: after)
    (hw : width before = offset) : isBlank c = false ∧ P (c :: after) := by
  obtain ⟨before', c', after', rfl, rfl, hc, hP⟩ := h
  obtain ⟨-, heq⟩ := eq_of_width_eq hcs hw.symm
  obtain ⟨rfl, rfl⟩ := List.cons.inj heq
  exact ⟨hc, hP⟩

theorem exists_split (h : Stands P cs offset) : ∃ before after, cs = before ++ after ∧ width before = offset := by
  obtain ⟨before, c, after, hcs, hw, -, -⟩ := h
  exact ⟨before, _, hcs, hw⟩

theorem lt_width (h : Stands P cs offset) : offset < width cs := by
  obtain ⟨before, c, after, rfl, rfl, -, -⟩ := h
  have hpos := c.utf8Size_pos
  rw [width_append, width_cons]
  omega

end Stands

/-! ## What a text begins with -/

/-- **A text begins with the spelling of a token.** A word is spelled by itself, whether it is a name or a
literal, and a quoted text between two quotes of one kind. -/
def Token.Begins : Token → List Char → Prop
  | opening, cs => ['('] <+: cs
  | closing, cs => [')'] <+: cs
  | connective k, cs => k.symbol.toList <+: cs
  | negation, cs => ['!'] <+: cs
  | relation r, cs => r.symbol.toList <+: cs
  | word w, cs => w ≠ "" ∧ w.toList <+: cs
  | quoted t, cs => ∃ q, isQuote q = true ∧ q :: (t.toList ++ [q]) <+: cs

/-- **A text begins with what cannot be read**: half of a connective or of `==`, an operator that there is not,
or a quote that nothing closes. -/
inductive ParseFault.Offends : ParseFault → List Char → Prop
  | halfAnd {rest : List Char} (h : rest.head? ≠ some '&') : Offends (.halfConnective .and) ('&' :: rest)
  | halfOr {rest : List Char} (h : rest.head? ≠ some '|') : Offends (.halfConnective .or) ('|' :: rest)
  | halfEquality {rest : List Char} (h : rest.head? ≠ some '=') : Offends .halfEquality ('=' :: rest)
  | unknownOperator {c : Char} (rest : List Char) (h : c = '<' ∨ c = '>') :
      Offends (.unknownOperator c) (c :: rest)
  | unterminatedQuote {q : Char} {rest : List Char} (hq : isQuote q = true) (h : q ∉ rest) :
      Offends .unterminatedQuote (q :: rest)

/-- **What a scan tells of the text that it has looked at.** -/
inductive Tells (cs : List Char) : Scan → Prop
  | token {token : Token} (n : Nat) (h : token.Begins cs) : Tells cs (.ok (token, n))
  | fault {fault : ParseFault} (h : fault.Offends cs) : Tells cs (.error fault)

theorem Tells.ite {p : Prop} [Decidable p] {a b : Scan} (h : p → Tells cs a) (h' : ¬p → Tells cs b) :
    Tells cs (if p then a else b) := by
  split
  · next hp => exact h hp
  · next hp => exact h' hp

theorem tells_scanQuoted {q : Char} (hq : isQuote q = true) (rest : List Char) :
    Tells (q :: rest) (scanQuoted q rest) := by
  unfold scanQuoted
  cases hn : rest.idxOf? q with
  | none => exact .fault (.unterminatedQuote hq (List.idxOf?_eq_none_iff.mp hn))
  | some n =>
    obtain ⟨inside, after, rfl, -, rfl⟩ := exists_of_idxOf?_eq_some hn
    refine .token _ ⟨q, hq, after, ?_⟩
    rw [String.toList_ofList, List.take_left]
    simp

/-- A mark of two characters. -/
theorem prefix_of_head? {c d : Char} {rest : List Char} (h : rest.head? = some d) : [c, d] <+: c :: rest := by
  obtain ⟨after, rfl⟩ := List.head?_eq_some_iff.mp h
  exact ⟨after, rfl⟩

theorem tells_scanSymbol (c : Char) (rest : List Char) : Tells (c :: rest) (scanSymbol c rest) := by
  unfold scanSymbol
  refine .ite ?_ fun _ => .ite ?_ fun _ => .ite ?_ fun _ => .ite ?_ fun _ => .ite ?_ fun _ => .ite ?_ fun _ =>
    .ite (fun h => .fault (.unknownOperator rest h)) fun _ => .ite (fun h => tells_scanQuoted h rest) fun _ => ?_
  · rintro rfl
    exact .token _ ⟨rest, rfl⟩
  · rintro rfl
    exact .token _ ⟨rest, rfl⟩
  · rintro rfl
    exact .ite (fun h => .token _ (prefix_of_head? h)) fun h => .fault (.halfAnd h)
  · rintro rfl
    exact .ite (fun h => .token _ (prefix_of_head? h)) fun h => .fault (.halfOr h)
  · rintro rfl
    exact .ite (fun h => .token _ (prefix_of_head? h)) fun _ => .token _ ⟨rest, rfl⟩
  · rintro rfl
    exact .ite (fun h => .token _ (prefix_of_head? h)) fun h => .fault (.halfEquality h)
  · refine .token _ ⟨by simp [← String.toList_inj], ?_⟩
    rw [String.toList_ofList, List.cons_prefix_cons]
    exact ⟨rfl, List.takeWhile_prefix isWordChar⟩

/-- A literal stands where its first character does: only what follows is trimmed off. -/
theorem begins_literalToken {c : Char} (hc : isBlank c = false) {taken rest : List Char} (h : taken <+: rest) :
    (literalToken (c :: taken)).Begins (c :: rest) := by
  have htrim : trimChars (c :: taken) = c :: trimEnd taken := trimChars_append_cons hc [] taken
  have hprefix : c :: trimEnd taken <+: c :: rest :=
    List.cons_prefix_cons.mpr ⟨rfl, (trimEnd_isPrefix taken).trans h⟩
  unfold literalToken
  rw [htrim]
  dsimp only
  cases hunquote : unquote (c :: trimEnd taken) with
  | none =>
    show _ ∧ _
    exact ⟨by simp [← String.toList_inj], by rwa [String.toList_ofList]⟩
  | some inner =>
    obtain ⟨q, hq, heq⟩ := unquote_eq_some_iff.mp hunquote
    exact ⟨q, hq, by rwa [String.toList_ofList, ← heq]⟩

theorem tells_scanValue {c : Char} (hc : isBlank c = false) (rest : List Char) :
    Tells (c :: rest) (scanValue c rest) := by
  unfold scanValue
  refine .ite (fun hq => ?_) fun _ => .ite (fun _ => tells_scanSymbol c rest) fun _ =>
    .token _ (begins_literalToken hc (List.take_prefix _ rest))
  cases hn : rest.idxOf? c with
  | none => exact .fault (.unterminatedQuote hq (List.idxOf?_eq_none_iff.mp hn))
  | some n => exact .token _ (begins_literalToken hc (List.take_prefix _ rest))

theorem tells_scan (mode : LexMode) {c : Char} (hc : isBlank c = false) (rest : List Char) :
    Tells (c :: rest) (mode.scan c rest) := by
  cases mode with
  | symbols => exact tells_scanSymbol c rest
  | value => exact tells_scanValue hc rest

/-! ## The whole text -/

/-- **Every token stands where its lexeme says,** counted from the offset of the text. -/
theorem stands_of_lexFrom {mode : LexMode} {position : Nat} {lexemes : List Lexeme}
    (h : lexFrom mode position cs = .ok lexemes) :
    ∀ l ∈ lexemes, ∃ offset, l.position = position + offset ∧ Stands l.token.Begins cs offset := by
  fun_induction lexFrom mode position cs generalizing lexemes with
  | case1 mode position =>
    rw [← Except.ok.inj h]
    exact fun l hl => absurd hl List.not_mem_nil
  | case2 mode position c rest hc ih =>
    intro l hl
    obtain ⟨offset, hposition, hstands⟩ := ih h l hl
    exact ⟨_, by rw [hposition, Nat.add_assoc]; rfl, hstands.append [c]⟩
  | case3 mode position c rest hc fault hs => cases h
  | case4 mode position c rest hc token n hs ih =>
    obtain ⟨others, hothers, rfl⟩ := map_eq_ok_iff.mp h
    refine List.forall_mem_cons.mpr ⟨⟨0, rfl, ?_⟩, fun l hl => ?_⟩
    · have htells := tells_scan mode (eq_false_of_ne_true hc) rest
      rw [hs] at htells
      cases htells with
      | token _ hbegins => exact ⟨[], c, rest, rfl, rfl, eq_false_of_ne_true hc, hbegins⟩
    · obtain ⟨offset, hposition, hstands⟩ := ih hothers l hl
      exact ⟨_, by rw [hposition, Nat.add_assoc], hstands.append_drop⟩

/-- **A text without tokens has a fault where its error says.** -/
theorem stands_of_lexFrom_error {mode : LexMode} {position : Nat} {e : ParseError}
    (h : lexFrom mode position cs = .error e) :
    ∃ offset, e.position = position + offset ∧ Stands e.fault.Offends cs offset := by
  fun_induction lexFrom mode position cs with
  | case1 mode position => cases h
  | case2 mode position c rest hc ih =>
    obtain ⟨offset, hposition, hstands⟩ := ih h
    exact ⟨_, by rw [hposition, Nat.add_assoc]; rfl, hstands.append [c]⟩
  | case3 mode position c rest hc fault hs =>
    have htells := tells_scan mode (eq_false_of_ne_true hc) rest
    rw [hs] at htells
    rw [← Except.error.inj h]
    cases htells with
    | fault hoffends => exact ⟨0, rfl, [], c, rest, rfl, rfl, eq_false_of_ne_true hc, hoffends⟩
  | case4 mode position c rest hc token n hs ih =>
    obtain ⟨offset, hposition, hstands⟩ := ih (map_eq_error_iff.mp h)
    exact ⟨_, by rw [hposition, Nat.add_assoc], hstands.append_drop⟩

theorem stands_of_tokenize {lexemes : List Lexeme} (h : tokenize cs = .ok lexemes) :
    ∀ l ∈ lexemes, Stands l.token.Begins cs l.position := by
  intro l hl
  obtain ⟨offset, hposition, hstands⟩ := stands_of_lexFrom h l hl
  rwa [hposition, Nat.zero_add]

theorem stands_of_tokenize_error {e : ParseError} (h : tokenize cs = .error e) :
    Stands e.fault.Offends cs e.position := by
  obtain ⟨offset, hposition, hstands⟩ := stands_of_lexFrom_error h
  rwa [hposition, Nat.zero_add]

end Condition

end ReactiveForm
