import ReactiveForm.Proofs.Condition.Exactness
import ReactiveForm.Proofs.Condition.Literal

/-!
# `ReactiveForm.Proofs.Condition.ReadingBack` — which conditions survive their canonical spelling

The canonical spelling puts every literal between single quotes, whatever it holds. The tokens of a spelling
are computed from the front: names, operators and connectives are set off by spaces, so that only literals
can be misread. A condition comes back exactly when none of its literals escapes its quotes.

## Contents
- `tokens`, the linearisation that a canonical spelling should have.
- `lexes_text`, that it has it if no literal escapes; `not_escapes_of_lexes`, the converse.
- `parse_text_iff`, the characterisation.
-/

namespace ReactiveForm

namespace Condition

open Text

/-! ## The tokens of a canonical spelling -/

theorem lexes_space_iff {mode : LexMode} {rest : List Char} {tokens : List Token} :
    Lexes mode (' ' :: rest) tokens ↔ Lexes mode rest tokens :=
  lexes_append_of_blank [' '] (List.forall_mem_singleton.mpr (by decide))

/-- A name is read as a word when no character of a word follows it. -/
theorem lexes_word {name : String} (h : IsName name) {rest : List Char}
    (hrest : rest.takeWhile isWordChar = []) (tokens : List Token) :
    Lexes .symbols (name.toList ++ rest) tokens ↔
      ∃ us, tokens = .word name :: us ∧ Lexes .symbols rest us := by
  obtain ⟨hne, hword⟩ := h
  cases hcs : name.toList with
  | nil => exact absurd (String.toList_eq_nil_iff.mp hcs) hne
  | cons c cs =>
    rw [hcs] at hword
    have hc := hword c List.mem_cons_self
    have htake : (cs ++ rest).takeWhile isWordChar = cs := by
      rw [List.takeWhile_append_of_pos fun d hd => hword d (List.mem_cons_of_mem _ hd), hrest,
        List.append_nil]
    simp only [isWordChar, isPunctuation, Bool.and_eq_true, Bool.not_eq_true', Bool.or_eq_false_iff,
      beq_eq_false_iff_ne] at hc
    -- a word character is none of those that the scan looks for first
    obtain ⟨hblank, ⟨⟨⟨⟨⟨⟨⟨⟨h1, h2⟩, h3⟩, h4⟩, h5⟩, h6⟩, h7⟩, h8⟩, h9⟩⟩ := hc
    have hscan : LexMode.scan .symbols c (cs ++ rest) = .ok (.word name, cs.length) := by
      simp only [LexMode.scan, scanSymbol, h1, h2, h3, h4, h5, h6, h7, h8, h9, htake, if_false,
        or_self, Bool.false_eq_true]
      rw [← hcs, String.ofList_toList]
    rw [List.cons_append, lexes_token_iff .symbols hblank hscan, List.drop_left]
    rfl

/-- A name that a space follows is read as a word. -/
theorem lexes_name {name : String} (h : IsName name) (rest : List Char) (tokens : List Token) :
    Lexes .symbols (name.toList ++ ' ' :: rest) tokens ↔
      ∃ us, tokens = .word name :: us ∧ Lexes .symbols rest us := by
  have hspace : (' ' :: rest).takeWhile isWordChar = [] := List.takeWhile_cons_of_neg (by decide)
  rw [lexes_word h hspace]
  simp only [lexes_space_iff]

/-- An operator is read whatever follows it, which is read as a value. -/
theorem lexes_operator (r : Relation) (rest : List Char) (tokens : List Token) :
    Lexes .symbols (r.symbol.toList ++ rest) tokens ↔
      ∃ us, tokens = .relation r :: us ∧ Lexes .value rest us := by
  cases r with
  | equal =>
    show Lexes .symbols ('=' :: '=' :: rest) tokens ↔ _
    rw [lexes_token_iff .symbols (by decide) rfl]
    rfl
  | notEqual =>
    show Lexes .symbols ('!' :: '=' :: rest) tokens ↔ _
    rw [lexes_token_iff .symbols (by decide) rfl]
    rfl

theorem lexes_relation (r : Relation) (rest : List Char) (tokens : List Token) :
    Lexes .symbols (r.symbol.toList ++ ' ' :: rest) tokens ↔
      ∃ us, tokens = .relation r :: us ∧ Lexes .value rest us := by
  rw [lexes_operator]
  simp only [lexes_space_iff]

theorem lexes_connective (k : Connective) (rest : List Char) (tokens : List Token) :
    Lexes .symbols (k.symbol.toList ++ ' ' :: rest) tokens ↔
      ∃ us, tokens = .connective k :: us ∧ Lexes .symbols rest us := by
  cases k with
  | and =>
    show Lexes .symbols ('&' :: '&' :: ' ' :: rest) tokens ↔ _
    rw [lexes_token_iff .symbols (by decide) rfl]
    simp only [Token.modeAfter, List.drop_succ_cons, List.drop_zero, lexes_space_iff]
  | or =>
    show Lexes .symbols ('|' :: '|' :: ' ' :: rest) tokens ↔ _
    rw [lexes_token_iff .symbols (by decide) rfl]
    simp only [Token.modeAfter, List.drop_succ_cons, List.drop_zero, lexes_space_iff]

/-- The tokens of the canonical spelling of a condition whose literals keep their quotes. -/
def tokens : Condition → List Token
  | compare k => [.word k.input, .relation k.relation, .quoted k.literal]
  | not inner => .negation :: inner.tokens
  | join k left right => left.tokens ++ .connective k :: right.tokens
  | group inner => .opening :: inner.tokens ++ [.closing]

theorem spells_tokens (c : Condition) : Spells c c.tokens := by
  induction c with
  | compare k => exact .compare rfl
  | not inner ih => exact .not ih
  | join k left right ihl ihr => exact .join ihl ihr
  | group inner ih => exact .group ih

/-- All linearisations of a condition are of one length: only the form of literals is free. -/
theorem Spells.length_eq {c : Condition} {ts : List Token} (h : Spells c ts) :
    ts.length = c.tokens.length := by
  induction h with
  | compare _ => rfl
  | not _ ih => simp [Condition.tokens, ih]
  | join _ _ ihl ihr => simp [Condition.tokens, ihl, ihr]
  | group _ ih => simp [Condition.tokens, ih]

/-- The name and the operator of a comparison are read, then its literal. -/
theorem lexes_compare {k : Comparison} (h : IsName k.input) (rest : List Char) (ts : List Token) :
    Lexes .symbols (k.text.toList ++ rest) ts ↔
      ∃ us, ts = .word k.input :: .relation k.relation :: us ∧
        Lexes .value ('\'' :: (k.literal.toList ++ '\'' :: rest)) us := by
  have htext : k.text.toList ++ rest = k.input.toList ++ ' ' ::
      (k.relation.symbol.toList ++ ' ' :: '\'' :: (k.literal.toList ++ '\'' :: rest)) := by
    simp [Comparison.text]
  rw [htext, lexes_name h]
  constructor
  · rintro ⟨us, rfl, hu⟩
    obtain ⟨vs, rfl, hv⟩ := (lexes_relation _ _ _).mp hu
    exact ⟨vs, rfl, hv⟩
  · rintro ⟨us, rfl, hu⟩
    exact ⟨_, rfl, (lexes_relation _ _ _).mpr ⟨us, rfl, hu⟩⟩

/-- A literal that keeps its quotes is read as a quoted text, and the blanks after it are skipped. -/
theorem lexes_literal {literal : String} (h : ¬Escapes literal.toList) {rest : List Char}
    (hrest : FollowsLiteral rest) (ts : List Token) :
    Lexes .value ('\'' :: (literal.toList ++ '\'' :: rest)) ts ↔
      ∃ us, ts = .quoted literal :: us ∧ Lexes .symbols rest us := by
  have hdrop : (literal.toList ++ '\'' :: rest).drop (literal.toList.length + 1 + literalLength rest) =
      rest.drop (literalLength rest) := by
    rw [Nat.add_assoc, ← List.drop_drop, List.drop_left, Nat.add_comm, List.drop_succ_cons]
  have hskip (us : List Token) :
      Lexes .symbols (rest.drop (literalLength rest)) us ↔ Lexes .symbols rest us := by
    rw [← lexes_append_of_blank _ hrest, List.take_append_drop]
  rw [lexes_token_iff .value (by decide) (scanValue_of_not_escapes h hrest),
    String.ofList_toList, hdrop]
  simp only [Token.modeAfter, hskip]

/-- No spelling begins with an equals sign, which would make an operator of a `!` before it. -/
theorem head?_text_ne {c : Condition} (hw : ∀ k ∈ c.comparisons, IsName k.input) (rest : List Char) :
    (c.text.toList ++ rest).head? ≠ some '=' := by
  induction c generalizing rest with
  | compare k =>
    obtain ⟨hne, hword⟩ := hw k List.mem_cons_self
    cases hcs : k.input.toList with
    | nil => exact absurd (String.toList_eq_nil_iff.mp hcs) hne
    | cons d ds =>
      have hd := hword d (hcs ▸ List.mem_cons_self)
      have hne : d ≠ '=' := by rintro rfl; exact absurd hd (by decide)
      simpa [text, Comparison.text, hcs] using hne
  | not inner _ => simp [text]
  | join k left right ihl _ =>
    have hleft := ihl fun j hj => hw j (List.mem_append_left _ hj)
    simpa [text] using hleft (' ' :: (k.symbol.toList ++ ' ' :: (right.text.toList ++ rest)))
  | group inner _ => simp [text]

theorem toList_text_join (k : Connective) (left right : Condition) (rest : List Char) :
    (join k left right).text.toList ++ rest =
      left.text.toList ++ ' ' :: (k.symbol.toList ++ ' ' :: (right.text.toList ++ rest)) := by
  simp [text]

theorem toList_text_group (inner : Condition) (rest : List Char) :
    (group inner).text.toList ++ rest = '(' :: (inner.text.toList ++ ')' :: rest) := by
  simp [text]

theorem toList_text_not (inner : Condition) (rest : List Char) :
    (not inner).text.toList ++ rest = '!' :: (inner.text.toList ++ rest) := by
  simp [text]

theorem followsLiteral_connective (k : Connective) (rest : List Char) :
    FollowsLiteral (' ' :: (k.symbol.toList ++ rest)) := by
  cases k <;> simp [FollowsLiteral, literalLength, endsLiteral, Connective.symbol, isBlank]

theorem followsLiteral_closing (rest : List Char) : FollowsLiteral (')' :: rest) := by
  simp [FollowsLiteral, literalLength, endsLiteral]

theorem lexes_opening (rest : List Char) (ts : List Token) :
    Lexes .symbols ('(' :: rest) ts ↔ ∃ us, ts = .opening :: us ∧ Lexes .symbols rest us := by
  have hblank : isBlank '(' = false := by decide
  exact lexes_token_iff .symbols hblank rfl ts

theorem lexes_closing (rest : List Char) (ts : List Token) :
    Lexes .symbols (')' :: rest) ts ↔ ∃ us, ts = .closing :: us ∧ Lexes .symbols rest us := by
  have hblank : isBlank ')' = false := by decide
  exact lexes_token_iff .symbols hblank rfl ts

theorem lexes_negation {rest : List Char} (h : rest.head? ≠ some '=') (ts : List Token) :
    Lexes .symbols ('!' :: rest) ts ↔ ∃ us, ts = .negation :: us ∧ Lexes .symbols rest us := by
  have hscan : LexMode.scan .symbols '!' rest = .ok (.negation, 0) := by
    simp [LexMode.scan, scanSymbol, h]
  exact lexes_token_iff .symbols (by decide) hscan ts

/-- **The canonical spelling has the canonical tokens**, if its literals keep their quotes. -/
theorem lexes_text {c : Condition} (hw : ∀ k ∈ c.comparisons, IsName k.input)
    (hg : ∀ k ∈ c.comparisons, ¬Escapes k.literal.toList) {rest : List Char}
    (hrest : FollowsLiteral rest) (ts : List Token) :
    Lexes .symbols (c.text.toList ++ rest) ts ↔
      ∃ us, ts = c.tokens ++ us ∧ Lexes .symbols rest us := by
  induction c generalizing rest ts with
  | compare k =>
    rw [text, lexes_compare (hw k List.mem_cons_self)]
    simp only [lexes_literal (hg k List.mem_cons_self) hrest]
    constructor
    · rintro ⟨_, rfl, us, rfl, hu⟩
      exact ⟨us, rfl, hu⟩
    · rintro ⟨us, rfl, hu⟩
      exact ⟨_, rfl, us, rfl, hu⟩
  | not inner ih =>
    rw [toList_text_not, lexes_negation (head?_text_ne (c := inner) hw rest)]
    simp only [ih hw hg hrest]
    constructor
    · rintro ⟨_, rfl, us, rfl, hu⟩
      exact ⟨us, rfl, hu⟩
    · rintro ⟨us, rfl, hu⟩
      exact ⟨_, rfl, us, rfl, hu⟩
  | join k left right ihl ihr =>
    have hwl := fun j hj => hw j (List.mem_append_left _ hj)
    have hwr := fun j hj => hw j (List.mem_append_right _ hj)
    have hgl := fun j hj => hg j (List.mem_append_left _ hj)
    have hgr := fun j hj => hg j (List.mem_append_right _ hj)
    rw [toList_text_join, ihl hwl hgl (followsLiteral_connective k _)]
    simp only [lexes_space_iff, lexes_connective, ihr hwr hgr hrest]
    constructor
    · rintro ⟨_, rfl, _, rfl, us, rfl, hu⟩
      exact ⟨us, by simp [Condition.tokens], hu⟩
    · rintro ⟨us, rfl, hu⟩
      exact ⟨.connective k :: (right.tokens ++ us), by simp [Condition.tokens], _, rfl, us, rfl, hu⟩
  | group inner ih =>
    rw [toList_text_group, lexes_opening]
    simp only [ih hw hg (followsLiteral_closing rest), lexes_closing]
    constructor
    · rintro ⟨_, rfl, _, rfl, us, rfl, hu⟩
      exact ⟨us, by simp [Condition.tokens], hu⟩
    · rintro ⟨us, rfl, hu⟩
      exact ⟨inner.tokens ++ .closing :: us, by simp [Condition.tokens], _, rfl, us, rfl, hu⟩

/-- **Whatever re-reads as itself keeps its quotes**: if the tokens of a canonical spelling begin with some
linearisation of the condition, no literal escapes. The induction is on the condition; up to the first
literal that escapes, the tokens are the canonical ones, so that literal is compared with itself. -/
theorem not_escapes_of_lexes {c : Condition} (hw : ∀ k ∈ c.comparisons, IsName k.input)
    {rest : List Char} {ts us : List Token} (hs : Spells c ts)
    (h : Lexes .symbols (c.text.toList ++ rest) (ts ++ us)) :
    ∀ k ∈ c.comparisons, ¬Escapes k.literal.toList := by
  induction hs generalizing rest us with
  | @compare name r literal token hliteral =>
    intro k hk hescapes
    rw [comparisons, List.mem_singleton] at hk
    subst hk
    obtain ⟨vs, hvs, hv⟩ := (lexes_compare (hw _ List.mem_cons_self) rest _).mp h
    obtain rfl : token :: us = vs := by simpa using hvs
    cases hv with
    | blank hb _ => exact absurd hb (by decide)
    | token _ hscan _ =>
      refine literal_ne_of_escapes hescapes rest hscan ?_
      rw [hliteral, String.ofList_toList]
  | @not inner ts _ ih =>
    rw [toList_text_not, lexes_negation (head?_text_ne (c := inner) hw rest)] at h
    obtain ⟨vs, hvs, hv⟩ := h
    obtain rfl : ts ++ us = vs := by simpa using hvs
    exact ih hw hv
  | @join k left right tl tr hl hr ihl ihr =>
    have hwl := fun j hj => hw j (List.mem_append_left _ hj)
    have hwr := fun j hj => hw j (List.mem_append_right _ hj)
    rw [toList_text_join, List.append_assoc] at h
    have hgl := ihl hwl h
    -- the left literals keep their quotes, so that the tokens of the left part are the canonical ones
    obtain ⟨vs, hvs, hv⟩ := (lexes_text hwl hgl (followsLiteral_connective k _) _).mp h
    -- and of the same number, whatever the linearisation
    obtain ⟨-, rfl⟩ := List.append_inj hvs hl.length_eq
    obtain ⟨vs, hvs, hv⟩ := (lexes_connective k _ _).mp (lexes_space_iff.mp hv)
    obtain rfl : tr ++ us = vs := by simpa using hvs
    have hgr := ihr hwr hv
    intro j hj
    rcases List.mem_append.mp hj with hj | hj
    · exact hgl j hj
    · exact hgr j hj
  | @group inner ts _ ih =>
    rw [toList_text_group, lexes_opening] at h
    obtain ⟨vs, hvs, hv⟩ := h
    obtain rfl : ts ++ .closing :: us = vs := by simpa using hvs
    exact ih hw hv

/-! ## The characterisation -/

/-- **Which conditions survive their canonical spelling.** A condition in normal form whose names are names
is read back from its canonical spelling, in the same precedence, exactly when no literal of it holds a
`)`, `&&` or `||` after its first single quote. -/
theorem parse_text_iff {p : Precedence} {c : Condition} (hn : NormalForm p .chain c)
    (hw : ∀ k ∈ c.comparisons, IsName k.input) :
    parse p c.text = .ok c ↔ ∀ k ∈ c.comparisons, ¬Escapes k.literal.toList := by
  constructor
  · intro h
    obtain ⟨lexemes, htokens, -, hs⟩ := parse_eq_ok_iff.mp h
    have hlexes := lexes_of_lexFrom htokens
    rw [← List.append_nil c.text.toList, ← List.append_nil (lexemes.map _)] at hlexes
    exact not_escapes_of_lexes hw hs hlexes
  · intro hg
    have hlexes : Lexes .symbols c.text.toList c.tokens := by
      have hend : FollowsLiteral [] := by simp [FollowsLiteral]
      rw [← List.append_nil c.text.toList]
      exact (lexes_text hw hg hend c.tokens).mpr ⟨[], by simp, .nil⟩
    obtain ⟨lexemes, htokens, hmap⟩ := hlexes.lexFrom 0
    exact parse_eq_ok_iff.mpr ⟨lexemes, htokens, hn, hmap ▸ spells_tokens c⟩

/-- A condition whose literals hold operators, parentheses and a quote comes back, and one whose literal has
a parenthesis after its quote does not. -/
theorem parse_text_iff_quoted :
    (parse .standard (join .or (compare ⟨"a", .equal, "x) && 'y"⟩)
        (not (group (compare ⟨"b", .notEqual, "it's"⟩)))).text =
      .ok (join .or (compare ⟨"a", .equal, "x) && 'y"⟩)
        (not (group (compare ⟨"b", .notEqual, "it's"⟩))))) ∧
    parse .leftToRight (compare ⟨"a", .equal, "it's (ok)"⟩).text ≠
      .ok (compare ⟨"a", .equal, "it's (ok)"⟩) := by
  constructor
  · refine (parse_text_iff ?_ ?_).mpr ?_
    · exact .nextAlternative (.firstAlternative (.firstFactor (.compare _)))
        (.firstFactor (.notGroup (.firstAlternative (.firstFactor (.compare _)))))
    · exact List.forall_mem_cons.mpr ⟨by decide, List.forall_mem_singleton.mpr (by decide)⟩
    · exact List.forall_mem_cons.mpr ⟨by decide, List.forall_mem_singleton.mpr (by decide)⟩
  · intro h
    have hname : IsName "a" := by decide
    have hkeeps := (parse_text_iff (.first (.compare _)) (List.forall_mem_singleton.mpr hname)).mp h
    exact hkeeps _ List.mem_cons_self (by decide)

end Condition

end ReactiveForm
