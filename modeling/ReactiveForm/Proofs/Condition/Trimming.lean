import ReactiveForm.Proofs.Condition.Exactness
import ReactiveForm.Proofs.Condition.Literal
import ReactiveForm.Proofs.Text.Trimming

/-!
# `ReactiveForm.Proofs.Condition.Trimming` — white space around a condition

A condition is trimmed by some of those who read it and not by others. It makes no difference: white space
before a token is skipped, and white space after the last one is either skipped too or part of a literal,
which is trimmed itself.

## Contents
- `ScansAlike`, two scans that differ in white space at the end, and `scan_append_blanks`.
- `lexes_append_blanks`, **white space after a text does not change its tokens**, and `parse_trim_eq_ok_iff`.
-/

namespace ReactiveForm

namespace Condition

open Text

/-! ## One token -/

/-- Two scans of a text, without and with white space at its end: both fail, or both find the same token,
and what is left differs in white space at the end again. -/
inductive ScansAlike (rest blanks : List Char) : Scan → Scan → Prop
  | error (fault : ParseFault) : ScansAlike rest blanks (.error fault) (.error fault)
  | token (token : Token) {n n' : Nat} {left : List Char} (hleft : ∀ b ∈ left, isBlank b = true)
      (hdrop : (rest ++ blanks).drop n' = rest.drop n ++ left) :
      ScansAlike rest blanks (.ok (token, n)) (.ok (token, n'))

variable {blanks : List Char}

/-- No white space is taken by a token that ends in the text. -/
theorem ScansAlike.within (hb : ∀ b ∈ blanks, isBlank b = true) {rest : List Char} {n : Nat}
    (h : n ≤ rest.length) (token : Token) :
    ScansAlike rest blanks (.ok (token, n)) (.ok (token, n)) :=
  .token token hb (List.drop_append_of_le_length h)

theorem ScansAlike.ite {rest : List Char} {p : Prop} [Decidable p] {a a' b b' : Scan}
    (h : p → ScansAlike rest blanks a a') (h' : ¬p → ScansAlike rest blanks b b') :
    ScansAlike rest blanks (if p then a else b) (if p then a' else b') := by
  split
  · next hp => exact h hp
  · next hp => exact h' hp

/-- White space at the end is no mark to look out for. -/
theorem head?_append_blanks (hb : ∀ b ∈ blanks, isBlank b = true) {d : Char} (hd : isBlank d = false)
    (rest : List Char) : (rest ++ blanks).head? = some d ↔ rest.head? = some d := by
  cases rest with
  | cons c rest => rfl
  | nil =>
    refine ⟨fun h => ?_, nofun⟩
    have hblank := hb d (List.mem_of_head? h)
    rw [hd] at hblank
    cases hblank

/-- White space at the end has no quote to be found. -/
theorem idxOf?_append_blanks (hb : ∀ b ∈ blanks, isBlank b = true) {q : Char} (hq : isBlank q = false)
    (rest : List Char) : (rest ++ blanks).idxOf? q = rest.idxOf? q := by
  by_cases hmem : q ∈ rest
  · obtain ⟨before, after, rfl, hbefore⟩ := List.eq_append_cons_of_mem hmem
    rw [List.append_assoc, List.cons_append, idxOf?_append_cons hbefore, idxOf?_append_cons hbefore]
  · have hblank : q ∉ blanks := by
      intro h
      rw [hb q h] at hq
      cases hq
    rw [List.idxOf?_eq_none_iff.mpr hmem, List.idxOf?_eq_none_iff]
    exact fun h => (List.mem_append.mp h).elim hmem hblank

theorem lt_of_idxOf?_eq_some {q : Char} {cs : List Char} {n : Nat} (h : cs.idxOf? q = some n) :
    n < cs.length :=
  (List.idxOf?_eq_some_iff.mp h).1

theorem scanQuoted_append_blanks (hb : ∀ b ∈ blanks, isBlank b = true) {q : Char}
    (hq : isBlank q = false) (rest : List Char) :
    ScansAlike rest blanks (scanQuoted q rest) (scanQuoted q (rest ++ blanks)) := by
  unfold scanQuoted
  rw [idxOf?_append_blanks hb hq]
  cases hn : rest.idxOf? q with
  | none => exact .error _
  | some n =>
    have hlt := lt_of_idxOf?_eq_some hn
    show ScansAlike rest blanks _ (.ok (.quoted (String.ofList ((rest ++ blanks).take n)), n + 1))
    rw [List.take_append_of_le_length (Nat.le_of_lt hlt)]
    exact .within hb hlt _

/-- No symbol takes white space at the end. -/
theorem scanSymbol_append_blanks (hb : ∀ b ∈ blanks, isBlank b = true) {c : Char}
    (hc : isBlank c = false) (rest : List Char) :
    ScansAlike rest blanks (scanSymbol c rest) (scanSymbol c (rest ++ blanks)) := by
  have hhead : ∀ {d : Char}, isBlank d = false →
      ((rest ++ blanks).head? = some d ↔ rest.head? = some d) := fun hd => head?_append_blanks hb hd rest
  -- a mark of two characters has its second one in the text
  have htwo : ∀ {d : Char}, rest.head? = some d → 1 ≤ rest.length := fun h =>
    List.length_pos_of_mem (List.mem_of_head? h)
  have hword : (rest ++ blanks).takeWhile isWordChar = rest.takeWhile isWordChar := by
    have hnone : blanks.takeWhile isWordChar = [] := by
      cases blanks with
      | nil => rfl
      | cons b blanks =>
        refine List.takeWhile_cons_of_neg ?_
        rw [isWordChar, hb b List.mem_cons_self]
        exact Bool.false_ne_true
    rw [List.takeWhile_append, hnone, List.append_nil]
    split
    · next hall => exact ((List.takeWhile_prefix isWordChar).eq_of_length hall).symm
    · rfl
  have hwithin := (List.takeWhile_prefix (l := rest) isWordChar).length_le
  have hnone : ∀ token, ScansAlike rest blanks (.ok (token, 0)) (.ok (token, 0)) :=
    fun token => .within hb (Nat.zero_le _) token
  have hone : ∀ {d : Char} (token : Token), rest.head? = some d →
      ScansAlike rest blanks (.ok (token, 1)) (.ok (token, 1)) := fun token hd => .within hb (htwo hd) token
  unfold scanSymbol
  rw [hword]
  simp only [hhead (d := '&') (by decide), hhead (d := '|') (by decide), hhead (d := '=') (by decide)]
  refine .ite (fun _ => hnone _) fun _ => .ite (fun _ => hnone _) fun _ => .ite (fun _ => ?_) fun _ =>
    .ite (fun _ => ?_) fun _ => .ite (fun _ => ?_) fun _ => .ite (fun _ => ?_) fun _ =>
    .ite (fun _ => .error _) fun _ => .ite (fun _ => ?_) fun _ => .within hb hwithin _
  · exact .ite (fun hd => hone _ hd) fun _ => .error _
  · exact .ite (fun hd => hone _ hd) fun _ => .error _
  · exact .ite (fun hd => hone _ hd) fun _ => hnone _
  · exact .ite (fun hd => hone _ hd) fun _ => .error _
  · exact scanQuoted_append_blanks hb hc rest

/-! ### Literals -/

theorem literalLength_le (cs : List Char) : literalLength cs ≤ cs.length := by
  induction cs with
  | nil => exact Nat.le_refl _
  | cons c cs ih =>
    rw [literalLength]
    split
    · exact Nat.zero_le _
    · exact Nat.succ_le_succ ih

theorem endsLiteral_of_isBlank {c : Char} (hc : isBlank c = true) (rest : List Char) :
    endsLiteral c rest = false := by
  have hmark : ∀ {d : Char}, isBlank d = false → (c == d) = false := fun hd =>
    beq_eq_false_iff_ne.mpr fun he => by rw [he, hd] at hc; cases hc
  simp only [endsLiteral, hmark (d := ')') (by decide), hmark (d := '&') (by decide),
    hmark (d := '|') (by decide)]
  rfl

theorem endsLiteral_append_blanks (hb : ∀ b ∈ blanks, isBlank b = true) (c : Char) (rest : List Char) :
    endsLiteral c (rest ++ blanks) = endsLiteral c rest := by
  by_cases hc : isBlank c = true
  · rw [endsLiteral_of_isBlank hc, endsLiteral_of_isBlank hc]
  · have hhead := head?_append_blanks hb (eq_false_of_ne_true hc) rest
    unfold endsLiteral
    rw [Bool.eq_iff_iff]
    simp only [Bool.or_eq_true, Bool.and_eq_true, beq_iff_eq, hhead]

/-- A literal ends where it ended, or takes the white space too if it went to the end of the text. -/
theorem literalLength_append_blanks (hb : ∀ b ∈ blanks, isBlank b = true) (cs : List Char) :
    literalLength (cs ++ blanks) = literalLength cs ∨
      literalLength cs = cs.length ∧ literalLength (cs ++ blanks) = (cs ++ blanks).length := by
  induction cs with
  | nil =>
    refine .inr ⟨rfl, ?_⟩
    rw [List.nil_append]
    induction blanks with
    | nil => rfl
    | cons b blanks ih =>
      have hend := endsLiteral_of_isBlank (hb b List.mem_cons_self) blanks
      rw [literalLength, if_neg (ne_true_of_eq_false hend), ih fun x hx => hb x (List.mem_cons_of_mem _ hx),
        List.length_cons]
  | cons c cs ih =>
    rw [List.cons_append, literalLength, literalLength, endsLiteral_append_blanks hb]
    split
    · exact .inl rfl
    · rcases ih with hsame | ⟨hshort, hlong⟩
      · exact .inl (congrArg (· + 1) hsame)
      · rw [hshort, hlong]
        exact .inr ⟨rfl, rfl⟩

theorem literalToken_append_blanks (hb : ∀ b ∈ blanks, isBlank b = true) (raw : List Char) :
    literalToken (raw ++ blanks) = literalToken raw := by
  unfold literalToken
  rw [trimChars_append_blanks hb]

/-- A literal after a part of the text that is taken anyway. -/
theorem scansAlike_literal (hb : ∀ b ∈ blanks, isBlank b = true) (c : Char) {rest : List Char} {m : Nat}
    (hm : m ≤ rest.length) :
    ScansAlike rest blanks
      (.ok (literalToken (c :: rest.take (m + literalLength (rest.drop m))),
        m + literalLength (rest.drop m)))
      (.ok (literalToken (c :: (rest ++ blanks).take (m + literalLength ((rest ++ blanks).drop m))),
        m + literalLength ((rest ++ blanks).drop m))) := by
  have hle : m + literalLength (rest.drop m) ≤ rest.length := by
    have hlength := literalLength_le (rest.drop m)
    rw [List.length_drop] at hlength
    omega
  rw [List.drop_append_of_le_length hm]
  rcases literalLength_append_blanks hb (rest.drop m) with hsame | ⟨hshort, hlong⟩
  · rw [hsame, List.take_append_of_le_length hle]
    exact .within hb hle _
  · -- the literal goes to the end of the text, and the white space is trimmed from it
    have hall : m + (rest.drop m).length = rest.length := by
      rw [List.length_drop]
      omega
    have hall' : m + (rest.drop m ++ blanks).length = (rest ++ blanks).length := by
      rw [List.length_append, List.length_append, List.length_drop]
      omega
    rw [hshort, hlong, hall, hall', List.take_length, List.take_length, ← List.cons_append,
      literalToken_append_blanks hb]
    have hrest : (rest ++ blanks).drop (rest ++ blanks).length = rest.drop rest.length ++ [] := by
      rw [List.drop_length, List.drop_length]
      rfl
    exact .token _ (List.forall_mem_nil _) hrest

theorem scanValue_append_blanks (hb : ∀ b ∈ blanks, isBlank b = true) {c : Char}
    (hc : isBlank c = false) (rest : List Char) :
    ScansAlike rest blanks (scanValue c rest) (scanValue c (rest ++ blanks)) := by
  unfold scanValue
  rw [idxOf?_append_blanks hb hc, endsLiteral_append_blanks hb]
  split
  · cases hn : rest.idxOf? c with
    | none => exact .error _
    | some n => exact scansAlike_literal hb c (lt_of_idxOf?_eq_some hn)
  split
  · exact scanSymbol_append_blanks hb hc rest
  · have hliteral := scansAlike_literal hb c (Nat.zero_le rest.length)
    simpa only [List.drop_zero, Nat.zero_add] using hliteral

theorem scan_append_blanks (mode : LexMode) (hb : ∀ b ∈ blanks, isBlank b = true) {c : Char}
    (hc : isBlank c = false) (rest : List Char) :
    ScansAlike rest blanks (mode.scan c rest) (mode.scan c (rest ++ blanks)) := by
  cases mode with
  | symbols => exact scanSymbol_append_blanks hb hc rest
  | value => exact scanValue_append_blanks hb hc rest

/-! ## The whole text -/

theorem lexes_blanks_iff (hb : ∀ b ∈ blanks, isBlank b = true) {mode : LexMode} {tokens : List Token} :
    Lexes mode blanks tokens ↔ tokens = [] := by
  have hnothing : Lexes mode (blanks ++ []) tokens ↔ Lexes mode [] tokens := lexes_append_of_blank blanks hb
  rw [List.append_nil] at hnothing
  rw [hnothing]
  constructor
  · intro h
    cases h
    rfl
  · rintro rfl
    exact .nil

/-- **White space after a text does not change its tokens**, nor whether it has any. The induction is on the
length of the text, since a token may take more than one character. -/
theorem lexes_append_blanks {mode : LexMode} {cs : List Char} {tokens : List Token}
    (hb : ∀ b ∈ blanks, isBlank b = true) : Lexes mode (cs ++ blanks) tokens ↔ Lexes mode cs tokens := by
  induction hlength : cs.length using Nat.strong_induction_on generalizing cs blanks mode tokens with
  | _ length ih =>
    cases cs with
    | nil =>
      rw [List.nil_append, lexes_blanks_iff hb]
      constructor
      · rintro rfl
        exact .nil
      · intro h
        cases h
        rfl
    | cons c rest =>
      subst hlength
      by_cases hc : isBlank c = true
      · have hone : ∀ b ∈ [c], isBlank b = true := List.forall_mem_singleton.mpr hc
        show Lexes mode ([c] ++ (rest ++ blanks)) tokens ↔ Lexes mode ([c] ++ rest) tokens
        rw [lexes_append_of_blank [c] hone, lexes_append_of_blank [c] hone]
        exact ih rest.length (Nat.lt_succ_self _) hb rfl
      · have hc := eq_false_of_ne_true hc
        have halike := scan_append_blanks mode hb hc rest
        show Lexes mode (c :: (rest ++ blanks)) tokens ↔ _
        generalize hwith : mode.scan c (rest ++ blanks) = found' at halike
        generalize hwithout : mode.scan c rest = found at halike
        cases halike with
        | error fault =>
          exact iff_of_false (not_lexes_of_error hc hwith tokens) (not_lexes_of_error hc hwithout tokens)
        | @token token n n' left hleft hdrop =>
          have hshorter : (rest.drop n).length < (c :: rest).length := by
            rw [List.length_drop, List.length_cons]
            omega
          rw [lexes_token_iff mode hc hwith, lexes_token_iff mode hc hwithout, hdrop]
          exact exists_congr fun us => and_congr_right fun _ => ih _ hshorter hleft rfl

theorem lexes_trimChars {mode : LexMode} {cs : List Char} {tokens : List Token} :
    Lexes mode (trimChars cs) tokens ↔ Lexes mode cs tokens := by
  obtain ⟨before, hbefore, hstart⟩ := exists_append_trimStart cs
  obtain ⟨after, hafter, hend⟩ := exists_trimEnd_append (trimStart cs)
  conv_rhs => rw [← hstart, lexes_append_of_blank before hbefore, ← hend]
  exact (lexes_append_blanks hafter).symm

theorem lexes_trimEnd {mode : LexMode} {cs : List Char} {tokens : List Token} :
    Lexes mode (trimEnd cs) tokens ↔ Lexes mode cs tokens := by
  obtain ⟨after, hafter, hend⟩ := exists_trimEnd_append cs
  conv_rhs => rw [← hend]
  exact (lexes_append_blanks hafter).symm

/-- Texts with the same tokens are read as the same condition. -/
theorem parse_eq_ok_congr {p : Precedence} {text text' : String}
    (h : ∀ tokens, Lexes .symbols text.toList tokens ↔ Lexes .symbols text'.toList tokens) (c : Condition) :
    parse p text = .ok c ↔ parse p text' = .ok c := by
  rw [parse_iff_lexes, parse_iff_lexes]
  exact exists_congr fun tokens => and_congr_left fun _ => h tokens

/-- **White space around a text does not change the condition that it is read as**, nor whether it is read
as one. -/
theorem parse_trim_eq_ok_iff {p : Precedence} {text : String} {c : Condition} :
    parse p (trim text) = .ok c ↔ parse p text = .ok c := by
  refine parse_eq_ok_congr (fun tokens => ?_) c
  rw [toList_trim]
  exact lexes_trimChars

end Condition

end ReactiveForm
