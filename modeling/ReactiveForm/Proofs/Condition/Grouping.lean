import ReactiveForm.Condition.Evaluation
import ReactiveForm.Proofs.Condition.ReadingBack
import ReactiveForm.Proofs.Condition.Trimming
import ReactiveForm.Proofs.Except

/-!
# `ReactiveForm.Proofs.Condition.Grouping` — conditions between parentheses

A literal without quotes goes on to the next mark, so that what follows a text can change how its last literal
is read. A closing parenthesis cannot: it is the one mark that ends a literal by itself, whatever stands before
it and after it, and it extends no other token. So a text that is a condition is the same condition between
parentheses, and conditions that have been read apart can be put together as texts.

## Contents
- `FoundAgain` and `scan_append_closing`, a token that is found before a closing parenthesis.
- `Lexes.append_closing`, **a closing parenthesis leaves the tokens before it alone**.
- `parse_parenthesized`: **conditions compose by parentheses**, and so does their truth.
-/

namespace ReactiveForm

namespace Condition

open Text

/-! ## One token -/

/-- A token that is found in a text is found again, with nothing of what follows the text. A scan that fails
promises nothing: what follows may close a quoted text. -/
inductive FoundAgain (rest : List Char) : Scan → Scan → Prop
  | error (fault : ParseFault) (found : Scan) : FoundAgain rest (.error fault) found
  | token (token : Token) {n : Nat} (hn : n ≤ rest.length) :
      FoundAgain rest (.ok (token, n)) (.ok (token, n))

variable {rest : List Char}

theorem FoundAgain.ite {p : Prop} [Decidable p] {a a' b b' : Scan} (h : p → FoundAgain rest a a')
    (h' : ¬p → FoundAgain rest b b') :
    FoundAgain rest (if p then a else b) (if p then a' else b') := by
  split
  · next hp => exact h hp
  · next hp => exact h' hp

/-- The closing parenthesis is no other mark. -/
theorem head?_append_closing {d : Char} (hd : d ≠ ')') (rest after : List Char) :
    (rest ++ ')' :: after).head? = some d ↔ rest.head? = some d := by
  cases rest with
  | cons c rest => rfl
  | nil => exact ⟨fun h => absurd (Option.some.inj h).symm hd, nofun⟩

theorem idxOf?_append_of_some {q : Char} {cs : List Char} {n : Nat} (h : cs.idxOf? q = some n)
    (ds : List Char) : (cs ++ ds).idxOf? q = some n := by
  obtain ⟨before, behind, rfl, hbefore, rfl⟩ := exists_of_idxOf?_eq_some h
  rw [List.append_assoc, List.cons_append, idxOf?_append_cons hbefore]

theorem scanQuoted_append_closing (q : Char) (rest after : List Char) :
    FoundAgain rest (scanQuoted q rest) (scanQuoted q (rest ++ ')' :: after)) := by
  unfold scanQuoted
  cases hn : rest.idxOf? q with
  | none => exact .error _ _
  | some n =>
    have hlt := lt_of_idxOf?_eq_some hn
    rw [idxOf?_append_of_some hn]
    show FoundAgain rest _ (.ok (.quoted (String.ofList ((rest ++ ')' :: after).take n)), n + 1))
    rw [List.take_append_of_le_length (Nat.le_of_lt hlt)]
    exact .token _ hlt

/-- No symbol is extended by a closing parenthesis. -/
theorem scanSymbol_append_closing (c : Char) (rest after : List Char) :
    FoundAgain rest (scanSymbol c rest) (scanSymbol c (rest ++ ')' :: after)) := by
  have htwo : ∀ {d : Char} (token : Token), rest.head? = some d →
      FoundAgain rest (.ok (token, 1)) (.ok (token, 1)) := fun token hd =>
    .token token (List.length_pos_of_mem (List.mem_of_head? hd))
  have hone : ∀ token, FoundAgain rest (.ok (token, 0)) (.ok (token, 0)) :=
    fun token => .token token (Nat.zero_le _)
  have hword : (rest ++ ')' :: after).takeWhile isWordChar = rest.takeWhile isWordChar := by
    have hnone : (')' :: after).takeWhile isWordChar = [] := List.takeWhile_cons_of_neg (by decide)
    rw [List.takeWhile_append, hnone, List.append_nil]
    split
    · next hall => exact ((List.takeWhile_prefix isWordChar).eq_of_length hall).symm
    · rfl
  unfold scanSymbol
  rw [hword]
  simp only [head?_append_closing (d := '&') (by decide), head?_append_closing (d := '|') (by decide),
    head?_append_closing (d := '=') (by decide)]
  refine .ite (fun _ => hone _) fun _ => .ite (fun _ => hone _) fun _ => .ite (fun _ => ?_) fun _ =>
    .ite (fun _ => ?_) fun _ => .ite (fun _ => ?_) fun _ => .ite (fun _ => ?_) fun _ =>
    .ite (fun _ => .error _ _) fun _ => .ite (fun _ => scanQuoted_append_closing c rest after) fun _ =>
    .token _ (List.takeWhile_prefix isWordChar).length_le
  · exact .ite (htwo _) fun _ => .error _ _
  · exact .ite (htwo _) fun _ => .error _ _
  · exact .ite (htwo _) fun _ => hone _
  · exact .ite (htwo _) fun _ => .error _ _

/-! ### Literals -/

theorem endsLiteral_append_closing (c : Char) (rest after : List Char) :
    endsLiteral c (rest ++ ')' :: after) = endsLiteral c rest := by
  by_cases hc : c = ')'
  · rw [hc]
    rfl
  · rw [Bool.eq_iff_iff]
    unfold endsLiteral
    simp only [Bool.or_eq_true, Bool.and_eq_true, beq_iff_eq, head?_append_closing hc]

/-- **A closing parenthesis ends a literal by itself,** so that it is never a part of one. -/
theorem literalLength_append_closing (cs after : List Char) :
    literalLength (cs ++ ')' :: after) = literalLength cs := by
  induction cs with
  | nil => rfl
  | cons c cs ih => rw [List.cons_append, literalLength, literalLength, endsLiteral_append_closing, ih]

/-- A literal after a part of the text that is taken anyway. -/
theorem foundAgain_literal (c : Char) {m : Nat} (hm : m ≤ rest.length) (after : List Char) :
    FoundAgain rest
      (.ok (literalToken (c :: rest.take (m + literalLength (rest.drop m))),
        m + literalLength (rest.drop m)))
      (.ok (literalToken (c :: (rest ++ ')' :: after).take
          (m + literalLength ((rest ++ ')' :: after).drop m))),
        m + literalLength ((rest ++ ')' :: after).drop m))) := by
  have hle : m + literalLength (rest.drop m) ≤ rest.length := by
    have hlength := literalLength_le (rest.drop m)
    rw [List.length_drop] at hlength
    omega
  rw [List.drop_append_of_le_length hm, literalLength_append_closing, List.take_append_of_le_length hle]
  exact .token _ hle

theorem scanValue_append_closing (c : Char) (rest after : List Char) :
    FoundAgain rest (scanValue c rest) (scanValue c (rest ++ ')' :: after)) := by
  unfold scanValue
  rw [endsLiteral_append_closing]
  refine .ite (fun _ => ?_) fun _ => .ite (fun _ => scanSymbol_append_closing c rest after) fun _ => ?_
  · cases hn : rest.idxOf? c with
    | none => exact .error _ _
    | some n =>
      rw [idxOf?_append_of_some hn]
      exact foundAgain_literal c (lt_of_idxOf?_eq_some hn) after
  · have hliteral := foundAgain_literal c (Nat.zero_le rest.length) after
    simpa only [List.drop_zero, Nat.zero_add] using hliteral

theorem scan_append_closing (mode : LexMode) (c : Char) (rest after : List Char) :
    FoundAgain rest (mode.scan c rest) (mode.scan c (rest ++ ')' :: after)) := by
  cases mode with
  | symbols => exact scanSymbol_append_closing c rest after
  | value => exact scanValue_append_closing c rest after

/-! ## A text between parentheses -/

/-- **A closing parenthesis leaves the tokens before it alone,** and what follows it is read as if it stood
by itself. -/
theorem Lexes.append_closing {mode : LexMode} {cs after : List Char} {ts us : List Token}
    (h : Lexes mode cs ts) (hafter : Lexes .symbols after us) :
    Lexes mode (cs ++ ')' :: after) (ts ++ .closing :: us) := by
  induction h with
  | @nil mode =>
    -- also where a value is expected: no literal begins with a closing parenthesis
    have hscan : LexMode.scan mode ')' after = .ok (.closing, 0) := by cases mode <;> rfl
    exact .token (by decide) hscan hafter
  | blank hc _ ih => exact .blank hc ih
  | @token mode c rest token n ts hc hs _ ih =>
    have hagain := scan_append_closing mode c rest after
    rw [hs] at hagain
    generalize hs' : mode.scan c (rest ++ ')' :: after) = found at hagain
    cases hagain with
    | token _ hn =>
      rw [← List.drop_append_of_le_length hn] at ih
      exact .token hc hs' ih

/-- A text between parentheses, with what follows it. -/
theorem Lexes.parenthesized {cs after : List Char} {ts us : List Token} (h : Lexes .symbols cs ts)
    (hafter : Lexes .symbols after us) :
    Lexes .symbols ('(' :: (cs ++ ')' :: after)) (.opening :: ts ++ .closing :: us) :=
  (lexes_opening _ _).mpr ⟨_, rfl, h.append_closing hafter⟩

/-! ## Composition -/

/-- Groups that are joined are a tree of either precedence. -/
theorem normalForm_join_group {p : Precedence} {c c' : Condition} (k : Connective)
    (h : NormalForm p .chain c) (h' : NormalForm p .chain c') :
    NormalForm p .chain (.join k (.group c) (.group c')) := by
  cases p with
  | leftToRight => exact .next (.first (.group h)) (.group h')
  | standard =>
    cases k with
    | and => exact .firstAlternative (.nextFactor (.firstFactor (.group h)) (.group h'))
    | or => exact .nextAlternative (.firstAlternative (.firstFactor (.group h))) (.firstFactor (.group h'))

theorem normalForm_not_group {p : Precedence} {c : Condition} (h : NormalForm p .chain c) :
    NormalForm p .chain (.not (.group c)) := by
  cases p with
  | leftToRight => exact .first (.notGroup h)
  | standard => exact .firstAlternative (.firstFactor (.notGroup h))

variable {p : Precedence} {a b : String} {c c' : Condition}

theorem parse_join_parenthesized (k : Connective) (h : parse p a = .ok c) (h' : parse p b = .ok c') :
    parse p ("(" ++ a ++ ") " ++ k.symbol ++ " (" ++ b ++ ")") = .ok (.join k (.group c) (.group c')) := by
  obtain ⟨ts, hts, hn, hs⟩ := parse_iff_lexes.mp h
  obtain ⟨us, hus, hn', hs'⟩ := parse_iff_lexes.mp h'
  have htext : ("(" ++ a ++ ") " ++ k.symbol ++ " (" ++ b ++ ")").toList =
      '(' :: (a.toList ++ ')' :: ' ' :: (k.symbol.toList ++ ' ' :: '(' :: (b.toList ++ [')']))) := by
    simp
  have hright : Lexes .symbols (' ' :: (k.symbol.toList ++ ' ' :: '(' :: (b.toList ++ [')'])))
      (.connective k :: (.opening :: us ++ [.closing])) :=
    lexes_space_iff.mpr ((lexes_connective k _ _).mpr ⟨_, rfl, hus.parenthesized .nil⟩)
  refine parse_iff_lexes.mpr ⟨_, htext ▸ hts.parenthesized hright, normalForm_join_group k hn hn', ?_⟩
  have hspells := Spells.join (k := k) hs.group hs'.group
  rwa [List.append_assoc] at hspells

theorem parse_not_parenthesized (h : parse p a = .ok c) :
    parse p ("!(" ++ a ++ ")") = .ok (.not (.group c)) := by
  obtain ⟨ts, hts, hn, hs⟩ := parse_iff_lexes.mp h
  have htext : ("!(" ++ a ++ ")").toList = '!' :: '(' :: (a.toList ++ [')']) := by simp
  have hlexes : Lexes .symbols ('!' :: '(' :: (a.toList ++ [')']))
      (.negation :: (.opening :: ts ++ [.closing])) :=
    (lexes_negation (by simp) _).mpr ⟨_, rfl, hts.parenthesized .nil⟩
  exact parse_iff_lexes.mpr ⟨_, htext ▸ hlexes, normalForm_not_group hn, .not (.group hs)⟩

/-! ### Truth -/

/-- A text has a truth value when it is a condition that has one. -/
theorem evaluateText_eq_ok_iff {ctx : Context} {text : String} {b : Bool} :
    evaluateText ctx p text = .ok b ↔ ∃ c, parse p text = .ok c ∧ c.evaluate ctx = .ok b := by
  unfold evaluateText
  rw [bind_eq_ok_iff]
  simp only [mapError_eq_ok_iff]

theorem evaluateText_of_parse {ctx : Context} {text : String} {b : Bool} (h : parse p text = .ok c) :
    evaluateText ctx p text = .ok b ↔ c.evaluate ctx = .ok b := by
  rw [evaluateText_eq_ok_iff]
  constructor
  · rintro ⟨c', hc', hb⟩
    rw [h] at hc'
    rwa [Except.ok.inj hc']
  · exact fun hb => ⟨c, h, hb⟩

theorem evaluate_join_eq_ok_iff {ctx : Context} {k : Connective} {b : Bool} :
    (join k c c').evaluate ctx = .ok b ↔
      ∃ x y, c.evaluate ctx = .ok x ∧ c'.evaluate ctx = .ok y ∧ b = k.apply x y := by
  rw [evaluate, bind_eq_ok_iff]
  refine exists_congr fun x => ?_
  rw [bind_eq_ok_iff]
  constructor
  · rintro ⟨hx, y, hy, hb⟩
    exact ⟨y, hx, hy, (Except.ok.inj hb).symm⟩
  · rintro ⟨y, hx, hy, rfl⟩
    exact ⟨hx, y, hy, rfl⟩

theorem evaluate_not_eq_ok_iff {ctx : Context} {b : Bool} :
    (not c).evaluate ctx = .ok b ↔ ∃ x, c.evaluate ctx = .ok x ∧ b = !x := by
  rw [evaluate, bind_eq_ok_iff]
  refine exists_congr fun x => and_congr_right fun _ => ?_
  exact ⟨fun hb => (Except.ok.inj hb).symm, fun hb => congrArg Except.ok hb.symm⟩

/-- **Conditions compose by parentheses.** Texts that are conditions by themselves can be joined, and negated,
as texts between parentheses: they are read as the groups of what they are read as alone. The truth of what has
been composed is that of the connective, and it has one exactly when the parts have. -/
theorem parse_parenthesized (h : parse p a = .ok c) (h' : parse p b = .ok c') :
    (∀ k : Connective, parse p ("(" ++ a ++ ") " ++ k.symbol ++ " (" ++ b ++ ")") =
        .ok (.join k (.group c) (.group c'))) ∧
      parse p ("!(" ++ a ++ ")") = .ok (.not (.group c)) ∧
      ∀ ctx z,
        (∀ k : Connective, evaluateText ctx p ("(" ++ a ++ ") " ++ k.symbol ++ " (" ++ b ++ ")") = .ok z ↔
          ∃ x y, evaluateText ctx p a = .ok x ∧ evaluateText ctx p b = .ok y ∧ z = k.apply x y) ∧
        (evaluateText ctx p ("!(" ++ a ++ ")") = .ok z ↔ ∃ x, evaluateText ctx p a = .ok x ∧ z = !x) := by
  have hjoin := fun k => parse_join_parenthesized k h h'
  have hnot := parse_not_parenthesized h
  refine ⟨hjoin, hnot, fun ctx z => ⟨fun k => ?_, ?_⟩⟩
  · rw [evaluateText_of_parse (hjoin k), evaluate_join_eq_ok_iff]
    simp only [evaluateText_of_parse h, evaluateText_of_parse h']
    rfl
  · rw [evaluateText_of_parse hnot, evaluate_not_eq_ok_iff]
    simp only [evaluateText_of_parse h]
    rfl

/-- Literals with an apostrophe, with a mark of their own and with white space behind them. -/
theorem parse_parenthesized_apostrophe :
    parse .standard "owner==it's " = .ok (.compare ⟨"owner", .equal, "it's"⟩) ∧
      parse .standard "dept!='a)' || dept==R&" =
        .ok (.join .or (.compare ⟨"dept", .notEqual, "a)"⟩) (.compare ⟨"dept", .equal, "R&"⟩)) ∧
      parse .standard "(owner==it's ) && (dept!='a)' || dept==R&)" =
        .ok (.join .and (.group (.compare ⟨"owner", .equal, "it's"⟩))
          (.group
            (.join .or (.compare ⟨"dept", .notEqual, "a)"⟩) (.compare ⟨"dept", .equal, "R&"⟩)))) ∧
      evaluateText { source := ⟨fun _ => some "it's", []⟩ } .standard "!(owner==it's )" = .ok false := by
  have howner : parse .standard "owner==it's " = .ok (.compare ⟨"owner", .equal, "it's"⟩) := by
    decide +kernel
  have hdept : parse .standard "dept!='a)' || dept==R&" =
      .ok (.join .or (.compare ⟨"dept", .notEqual, "a)"⟩) (.compare ⟨"dept", .equal, "R&"⟩)) := by
    decide +kernel
  obtain ⟨hjoin, -, htruth⟩ := parse_parenthesized howner hdept
  have hevaluate :
      evaluateText { source := ⟨fun _ => some "it's", []⟩ } .standard "owner==it's " = .ok true :=
    (evaluateText_of_parse howner).mpr rfl
  exact ⟨howner, hdept, hjoin .and, (htruth _ _).2.mpr ⟨true, hevaluate, rfl⟩⟩

end Condition

end ReactiveForm
