import ReactiveForm.Proofs.Condition.ReadingBack
import ReactiveForm.Proofs.Condition.Trimming

/-!
# `ReactiveForm.Proofs.Condition.Normalization` — what a literal is read as

After an operator the lexer takes one literal. Where it ends and what is left of it are two questions:
* **where it ends** — at the next `)`, `&&` or `||`, save that a quote at its very beginning protects what
  follows up to the same quote; a text without such an end is one literal to its last character;
* **what is left** — white space comes off at both ends, and then one layer of quotes, if the same quote stands
  at both ends. All else is kept: spaces inside, single marks and further quotes.

So a comparison that is the whole of a text can be told from the text alone, in either precedence.

## Contents
- `Unbroken`, the texts that are one literal, and `Denotes`, the literal that a text stands for.
- `literal?_literalToken_iff`, what is left, and `lexes_value_iff`, where a literal ends.
- `parse_comparison_iff`: **a text is read as one comparison exactly when its literal is not broken off**.
-/

namespace ReactiveForm

namespace Condition

open Text

/-! ## Literals as texts -/

/-- **A text that is one literal.** Nothing that ends a literal occurs in it, other than in a quoted section at
its beginning. -/
inductive Unbroken : List Char → Prop
  | bare {blanks : List Char} {c : Char} {rest : List Char} (hb : ∀ b ∈ blanks, isBlank b = true)
      (hc : isBlank c = false) (hq : isQuote c = false) (hend : ¬HoldsEnd (c :: rest)) :
      Unbroken (blanks ++ c :: rest)
  | quoted {blanks : List Char} {q : Char} {inside after : List Char}
      (hb : ∀ b ∈ blanks, isBlank b = true) (hq : isQuote q = true) (hinside : q ∉ inside)
      (hend : ¬HoldsEnd after) : Unbroken (blanks ++ q :: (inside ++ q :: after))

/-- **The literal that a text stands for:** the trimmed text, less the one quote that stands at both of its
ends. -/
inductive Denotes (raw : List Char) : List Char → Prop
  | quoted {q : Char} {inner : List Char} (hq : isQuote q = true)
      (h : trimChars raw = q :: (inner ++ [q])) : Denotes raw inner
  | bare (h : ∀ q inner, isQuote q = true → trimChars raw ≠ q :: (inner ++ [q])) :
      Denotes raw (trimChars raw)

/-! ## What is left of a literal -/

theorem unquote_eq_some_iff {cs inner : List Char} :
    unquote cs = some inner ↔ ∃ q, isQuote q = true ∧ cs = q :: (inner ++ [q]) := by
  constructor
  · intro h
    cases cs with
    | nil => cases h
    | cons q rest =>
      simp only [unquote] at h
      split at h
      · next hends =>
        obtain ⟨hq, hlast⟩ : isQuote q = true ∧ rest.getLast? = some q := by simpa using hends
        obtain ⟨front, rfl⟩ := List.getLast?_eq_some_iff.mp hlast
        rw [List.dropLast_concat] at h
        exact ⟨q, hq, by rw [Option.some.inj h]⟩
      · cases h
  · rintro ⟨q, hq, rfl⟩
    exact unquote_quoted hq inner

theorem denotes_iff {raw literal : List Char} :
    Denotes raw literal ↔ literal = (unquote (trimChars raw)).getD (trimChars raw) := by
  cases h : unquote (trimChars raw) with
  | some inner =>
    obtain ⟨q, hq, htrim⟩ := unquote_eq_some_iff.mp h
    constructor
    · intro hdenotes
      cases hdenotes with
      | quoted _ htrim' =>
        -- what is between the quotes at the ends is the same, whichever way it is found
        obtain ⟨rfl, hinner⟩ := List.cons.inj (htrim'.symm.trans htrim)
        exact List.append_cancel_right hinner
      | bare hnone => exact absurd htrim (hnone q inner hq)
    · rintro rfl
      exact .quoted hq htrim
  | none =>
    have hnone : ∀ q inner, isQuote q = true → trimChars raw ≠ q :: (inner ++ [q]) := by
      intro q inner hq htrim
      rw [unquote_eq_some_iff.mpr ⟨q, hq, htrim⟩] at h
      cases h
    constructor
    · intro hdenotes
      cases hdenotes with
      | quoted hq htrim => exact absurd htrim (hnone _ _ hq)
      | bare _ => rfl
    · intro hliteral
      rw [hliteral]
      exact .bare hnone

/-- A text stands for one literal. -/
theorem existsUnique_denotes (raw : List Char) : ∃! literal : String, Denotes raw literal.toList := by
  refine ⟨String.ofList ((unquote (trimChars raw)).getD (trimChars raw)), ?_, fun other hother => ?_⟩
  · exact denotes_iff.mpr String.toList_ofList
  · rw [← denotes_iff.mp hother, String.ofList_toList]

/-- **The token of a literal is what the text stands for.** -/
theorem literal?_literalToken_iff {raw : List Char} {literal : String} :
    (literalToken raw).literal? = some literal ↔ Denotes raw literal.toList := by
  have htoken : (literalToken raw).literal? =
      some (String.ofList ((unquote (trimChars raw)).getD (trimChars raw))) := by
    simp only [literalToken]
    cases unquote (trimChars raw) <;> rfl
  rw [htoken, denotes_iff, Option.some.injEq]
  constructor
  · rintro rfl
    exact String.toList_ofList
  · intro h
    rw [← h, String.ofList_toList]

/-! ## Where a literal ends -/

/-- An unquoted literal goes to the end of a text without an end. -/
theorem literalLength_eq_length_iff {cs : List Char} : literalLength cs = cs.length ↔ ¬HoldsEnd cs := by
  constructor
  · intro h hend
    have hlt := literalLength_lt_of_holdsEnd hend []
    rw [List.append_nil] at hlt
    omega
  · intro h
    induction cs with
    | nil => rfl
    | cons c cs ih =>
      have hc : endsLiteral c cs = false := by
        have hnothing : ([] : List Char).head? ≠ some c := nofun
        refine eq_false_of_ne_true fun hend => h ?_
        exact holdsEnd_of_endsLiteral hnothing (by rwa [List.append_nil])
      rw [literalLength, hc, if_neg Bool.false_ne_true, ih fun hend => h hend.cons, List.length_cons]

/-- A literal is not broken off before white space. -/
theorem literalLength_eq_length_of_blanks {cs : List Char}
    (h : ∀ b ∈ cs.drop (literalLength cs), isBlank b = true) : literalLength cs = cs.length := by
  induction cs with
  | nil => rfl
  | cons c cs ih =>
    rw [literalLength] at h ⊢
    split
    · next hend =>
      rw [if_pos hend, List.drop_zero] at h
      rw [endsLiteral_of_isBlank (h c List.mem_cons_self)] at hend
      cases hend
    · next hend =>
      rw [if_neg hend, List.drop_succ_cons] at h
      rw [ih h, List.length_cons]

/-- Nothing is left of a text when it is white space. -/
theorem lexes_nil_iff {mode : LexMode} {cs : List Char} :
    Lexes mode cs [] ↔ ∀ b ∈ cs, isBlank b = true := by
  constructor
  · intro h
    induction cs with
    | nil => exact nofun
    | cons c cs ih =>
      cases h with
      | blank hc h => exact List.forall_mem_cons.mpr ⟨hc, ih h⟩
  · exact fun h => (lexes_blanks_iff h).mpr rfl

/-- Where a literal would end at once, there is a mark and no literal. -/
theorem literal?_of_endsLiteral {c : Char} {rest : List Char} {token : Token} {n : Nat}
    (hend : endsLiteral c rest = true) (hs : scanSymbol c rest = .ok (token, n)) : token.literal? = none := by
  simp only [endsLiteral, Bool.or_eq_true, Bool.and_eq_true, beq_iff_eq] at hend
  rcases hend with rfl | ⟨rfl | rfl, hhead⟩
  · cases hs
    rfl
  · simp only [scanSymbol, hhead] at hs
    cases hs
    rfl
  · simp only [scanSymbol, hhead] at hs
    cases hs
    rfl

/-- What a text has behind its first quoted section. -/
theorem drop_section (c : Char) (inside after : List Char) :
    (inside ++ c :: after).drop (inside.length + 1) = after := by
  rw [← List.drop_drop, List.drop_left]
  rfl

/-- A literal that is read to the end of a text is not broken off. -/
theorem unbroken_of_scanValue {c : Char} {rest : List Char} {token : Token} {n : Nat}
    (hc : isBlank c = false) (hs : scanValue c rest = .ok (token, n))
    (hrest : ∀ b ∈ rest.drop n, isBlank b = true) (hliteral : token.literal? ≠ none) :
    Unbroken (c :: rest) := by
  have hb : ∀ b ∈ ([] : List Char), isBlank b = true := nofun
  unfold scanValue at hs
  split at hs
  · next hq =>
    split at hs
    · cases hs
    · next m hm =>
      -- behind the second quote the literal goes on like one without quotes
      obtain ⟨inside, after, rfl, hinside, rfl⟩ := exists_of_idxOf?_eq_some hm
      obtain ⟨-, rfl⟩ := Prod.mk.inj (Except.ok.inj hs)
      rw [drop_section, ← List.drop_drop, drop_section] at hrest
      exact .quoted hb hq hinside (literalLength_eq_length_iff.mp (literalLength_eq_length_of_blanks hrest))
  · next hq =>
    split at hs
    · next hend => exact absurd (literal?_of_endsLiteral hend hs) hliteral
    · next hend =>
      obtain ⟨-, rfl⟩ := Prod.mk.inj (Except.ok.inj hs)
      have hlength : literalLength (c :: rest) = (c :: rest).length := by
        rw [literalLength, if_neg hend, literalLength_eq_length_of_blanks hrest, List.length_cons]
      exact .bare hb hc (eq_false_of_ne_true hq) (literalLength_eq_length_iff.mp hlength)

/-- White space in front of a literal is no part of it. -/
theorem literalToken_blanks_append {blanks : List Char} (hb : ∀ b ∈ blanks, isBlank b = true) {c : Char}
    (hc : isBlank c = false) (rest : List Char) :
    literalToken (blanks ++ c :: rest) = literalToken (c :: rest) := by
  have htrim : trimChars (blanks ++ c :: rest) = trimChars (c :: rest) := by
    rw [trimChars_append_cons hc, trimStart_eq_nil hb]
    exact (trimChars_append_cons hc [] rest).symm
  unfold literalToken
  rw [htrim]

/-- **A text that is one literal is read as one token.** -/
theorem Unbroken.lexes {raw : List Char} (h : Unbroken raw) : Lexes .value raw [literalToken raw] := by
  cases h with
  | @bare blanks c rest hb hc hq hend =>
    have hlength : literalLength (c :: rest) = (c :: rest).length := literalLength_eq_length_iff.mpr hend
    have hgoes : endsLiteral c rest = false := by
      refine eq_false_of_ne_true fun hends => ?_
      rw [literalLength, if_pos hends] at hlength
      cases hlength
    have hrest : literalLength rest = rest.length := by
      rw [literalLength, hgoes, if_neg Bool.false_ne_true] at hlength
      exact Nat.succ.inj hlength
    have hscan : LexMode.scan .value c rest = .ok (literalToken (c :: rest), rest.length) := by
      show scanValue c rest = _
      unfold scanValue
      simp only [hq, hgoes, hrest, List.take_length, if_false, Bool.false_eq_true]
    rw [lexes_append_of_blank blanks hb, lexes_token_iff .value hc hscan, literalToken_blanks_append hb hc]
    exact ⟨[], rfl, lexes_nil_iff.mpr (by rw [List.drop_length]; exact List.forall_mem_nil _)⟩
  | @quoted blanks q inside after hb hq hinside hend =>
    have hblank : isBlank q = false := by
      refine eq_false_of_ne_true fun hblank => ?_
      rw [isQuote_of_isBlank hblank] at hq
      cases hq
    have hlength : inside.length + 1 + after.length = (inside ++ q :: after).length := by
      rw [List.length_append, List.length_cons]
      omega
    have hscan : LexMode.scan .value q (inside ++ q :: after) =
        .ok (literalToken (q :: (inside ++ q :: after)), (inside ++ q :: after).length) := by
      show scanValue q (inside ++ q :: after) = _
      unfold scanValue
      simp only [hq, idxOf?_append_cons hinside, drop_section, literalLength_eq_length_iff.mpr hend, hlength,
        List.take_length, if_true]
    rw [lexes_append_of_blank blanks hb, lexes_token_iff .value hblank hscan,
      literalToken_blanks_append hb hblank]
    exact ⟨[], rfl, lexes_nil_iff.mpr (by rw [List.drop_length]; exact List.forall_mem_nil _)⟩

theorem Unbroken.blank {c : Char} {raw : List Char} (hc : isBlank c = true) (h : Unbroken raw) :
    Unbroken (c :: raw) := by
  cases h with
  | bare hb hc' hq hend => exact .bare (List.forall_mem_cons.mpr ⟨hc, hb⟩) hc' hq hend
  | quoted hb hq hinside hend => exact .quoted (List.forall_mem_cons.mpr ⟨hc, hb⟩) hq hinside hend

theorem unbroken_of_lexes {raw : List Char} {token : Token} (h : Lexes .value raw [token])
    (hliteral : token.literal? ≠ none) : Unbroken raw := by
  induction raw with
  | nil => cases h
  | cons c rest ih =>
    cases h with
    | blank hc h => exact (ih h).blank hc
    | token hc hs hrest => exact unbroken_of_scanValue hc hs (lexes_nil_iff.mp hrest) hliteral

/-- **Where a literal ends:** a text after an operator is one literal exactly when it is not broken off. -/
theorem lexes_value_iff {raw : List Char} {token : Token} (hliteral : token.literal? ≠ none) :
    Lexes .value raw [token] ↔ Unbroken raw ∧ token = literalToken raw := by
  constructor
  · intro h
    have hunbroken := unbroken_of_lexes h hliteral
    exact ⟨hunbroken, (List.cons.inj (h.functional hunbroken.lexes)).1⟩
  · rintro ⟨h, rfl⟩
    exact h.lexes

/-! ## One comparison -/

/-- A comparison by itself is a tree of either precedence. -/
theorem normalForm_compare (p : Precedence) (k : Comparison) : NormalForm p .chain (.compare k) := by
  cases p with
  | leftToRight => exact .first (.compare k)
  | standard => exact .firstAlternative (.firstFactor (.compare k))

/-- What the tokens of a comparison are. -/
theorem spells_compare_iff {name : String} {r : Relation} {literal : String} {us : List Token} :
    Spells (.compare ⟨name, r, literal⟩) (.word name :: .relation r :: us) ↔
      ∃ token, us = [token] ∧ token.literal? = some literal := by
  constructor
  · intro h
    cases h with
    | compare hliteral => exact ⟨_, rfl, hliteral⟩
  · rintro ⟨token, rfl, hliteral⟩
    exact .compare hliteral

/-- The tokens of a name, white space and an operator, before what is read as a value. -/
theorem lexes_comparison {name w : String} (hname : IsName name) (hw : ∀ c ∈ w.toList, isBlank c = true)
    (r : Relation) (raw : List Char) (tokens : List Token) :
    Lexes .symbols (name.toList ++ (w.toList ++ (r.symbol.toList ++ raw))) tokens ↔
      ∃ us, tokens = .word name :: .relation r :: us ∧ Lexes .value raw us := by
  have hstop : (w.toList ++ (r.symbol.toList ++ raw)).takeWhile isWordChar = [] := by
    cases hcs : w.toList with
    | nil => cases r <;> exact List.takeWhile_cons_of_neg (by decide)
    | cons c cs =>
      refine List.takeWhile_cons_of_neg ?_
      rw [isWordChar, hw c (hcs ▸ List.mem_cons_self)]
      exact Bool.false_ne_true
  rw [lexes_word hname hstop]
  simp only [lexes_append_of_blank w.toList hw, lexes_operator]
  constructor
  · rintro ⟨_, rfl, us, rfl, hus⟩
    exact ⟨us, rfl, hus⟩
  · rintro ⟨us, rfl, hus⟩
    exact ⟨_, rfl, us, rfl, hus⟩

theorem toList_comparison (name w : String) (r : Relation) (raw : String) :
    (name ++ w ++ r.symbol ++ raw).toList = name.toList ++ (w.toList ++ (r.symbol.toList ++ raw.toList)) := by
  simp only [String.toList_append, List.append_assoc]

/-- A name, an operator and a text that is one literal are read as the comparison with what the text stands
for. -/
theorem Unbroken.parse_comparison {name w : String} (hname : IsName name)
    (hw : ∀ c ∈ w.toList, isBlank c = true) (p : Precedence) (r : Relation) {raw literal : String}
    (h : Unbroken raw.toList) (hdenotes : Denotes raw.toList literal.toList) :
    parse p (name ++ w ++ r.symbol ++ raw) = .ok (.compare ⟨name, r, literal⟩) := by
  have hlexes := (lexes_comparison hname hw r raw.toList _).mpr ⟨_, rfl, h.lexes⟩
  have hliteral := literal?_literalToken_iff.mpr hdenotes
  rw [parse_iff_lexes, toList_comparison]
  exact ⟨_, hlexes, normalForm_compare p _, spells_compare_iff.mpr ⟨_, rfl, hliteral⟩⟩

/-- **What a comparison is read as.** A name, an operator and a text that stands for one literal are read as
the comparison with this literal, in either precedence, exactly when the text is not broken off: something
stands in it, a quote at its beginning is found again, and no `)`, `&&` or `||` occurs in it, other than in the
quoted section at its beginning. -/
theorem parse_comparison_iff {name w : String} (hname : IsName name)
    (hw : ∀ c ∈ w.toList, isBlank c = true) (p : Precedence) (r : Relation) (raw : String) :
    (∃! literal : String, Denotes raw.toList literal.toList) ∧
      ∀ literal : String, parse p (name ++ w ++ r.symbol ++ raw) = .ok (.compare ⟨name, r, literal⟩) ↔
        Unbroken raw.toList ∧ Denotes raw.toList literal.toList := by
  refine ⟨existsUnique_denotes raw.toList, fun literal => ⟨fun h => ?_, ?_⟩⟩
  · rw [parse_iff_lexes, toList_comparison] at h
    obtain ⟨_, hlexes, -, hspells⟩ := h
    obtain ⟨us, rfl, hvalue⟩ := (lexes_comparison hname hw r raw.toList _).mp hlexes
    obtain ⟨token, rfl, hliteral⟩ := spells_compare_iff.mp hspells
    obtain ⟨hunbroken, rfl⟩ := (lexes_value_iff (by rw [hliteral]; nofun)).mp hvalue
    exact ⟨hunbroken, literal?_literalToken_iff.mp hliteral⟩
  · rintro ⟨hunbroken, hdenotes⟩
    exact hunbroken.parse_comparison hname hw p r hdenotes

/-- A quoted section that holds a mark, with more behind it, and a text between quotes. -/
theorem parse_comparison_iff_section :
    parse .standard "note == 'a && b' R&D's (x|  " =
        .ok (.compare ⟨"note", .equal, "'a && b' R&D's (x|"⟩) ∧
      parse .leftToRight "note !=  \"it's \" " = .ok (.compare ⟨"note", .notEqual, "it's "⟩) := by
  have hname : IsName "note" := by decide
  have hw : ∀ c ∈ " ".toList, isBlank c = true := List.all_eq_true.mp (by decide)
  have hsection : Unbroken " 'a && b' R&D's (x|  ".toList :=
    @Unbroken.quoted [' '] '\'' "a && b".toList " R&D's (x|  ".toList
      (List.all_eq_true.mp (by decide)) (by decide) (by decide) (by decide)
  have hquoted : Unbroken "  \"it's \" ".toList :=
    @Unbroken.quoted [' ', ' '] '"' "it's ".toList [' ']
      (List.all_eq_true.mp (by decide)) (by decide) (by decide) (by decide)
  constructor
  · exact ((parse_comparison_iff hname hw .standard .equal " 'a && b' R&D's (x|  ").2 _).mpr
      ⟨hsection, denotes_iff.mpr (by decide)⟩
  · exact ((parse_comparison_iff hname hw .leftToRight .notEqual "  \"it's \" ").2 _).mpr
      ⟨hquoted, denotes_iff.mpr (by decide)⟩

end Condition

end ReactiveForm
