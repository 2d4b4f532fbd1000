import ReactiveForm.Proofs.Condition.Exactness
import ReactiveForm.Proofs.Except

/-!
# `ReactiveForm.Proofs.Condition.Precedence` — the two precedences differ in association only

Both precedences read the same tokens, so what they say of a text can differ in two ways at most:
* **failing** — two parsers that are `Abreast` wait for the same thing inside the same open groups, whatever
  trees they have built; every token is refused by both or by neither;
* **trees** — both trees are spelled by the tokens of the text, and what a condition is written as and which
  comparisons it makes are read off its tokens.

The trees are the same unless some chain has an `&&` after an `||`: there, and only there, the connective
that binds tighter comes too late to be applied first.

## Contents
- `Parser.Abreast`, with its step, and `error?_parse_precedence`.
- `textOf` and `comparisonsOf`, what tokens alone tell about a condition.
- `Balanced`, `Joins` and `OrThenAnd`, the connectives of one chain in a list of tokens.
- `normalForm_standard_iff`, and `parse_precedences`.
-/

namespace ReactiveForm

namespace Condition

/-! ## Failing alike -/

/-- Waiting for the same, after the same name and operator; a term that has been read may be any. -/
inductive Expecting.Alike : Expecting → Expecting → Prop where
  | term (negated : Bool) : Alike (.term negated) (.term negated)
  | relation (negated : Bool) (input : String) : Alike (.relation negated input) (.relation negated input)
  | value (negated : Bool) (input : String) (r : Relation) :
      Alike (.value negated input r) (.value negated input r)
  | connective (term term' : Condition) : Alike (.connective term) (.connective term')

namespace Parser

/-- **Parsers that have read the same tokens**, of either precedence: they wait for the same thing, inside
groups that were opened at the same places. -/
structure Abreast (p q : Parser) : Prop where
  expecting : Expecting.Alike p.expecting q.expecting
  groups : p.groups.map OpenGroup.position = q.groups.map OpenGroup.position

/-- **Step.** A token is refused by both for the same fault, or by neither. -/
theorem Abreast.feed {p q : Parser} (h : Abreast p q) (l : Lexeme) :
    error? (p.feed l) = error? (q.feed l) ∧
      ∀ p' q', p.feed l = .ok p' → q.feed l = .ok q' → Abreast p' q' := by
  obtain ⟨token, position⟩ := l
  obtain ⟨precedence, expecting, links, groups⟩ := p
  obtain ⟨precedence', expecting', links', groups'⟩ := q
  obtain ⟨hexpecting, hgroups⟩ := h
  dsimp only at hexpecting hgroups
  cases hexpecting with
  | term negated =>
    cases negated <;> cases token <;> refine ⟨rfl, ?_⟩ <;> rintro p' q' ⟨⟩ ⟨⟩
    · exact ⟨.term false, congrArg (position :: ·) hgroups⟩
    · exact ⟨.term true, hgroups⟩
    · exact ⟨.relation false _, hgroups⟩
    · exact ⟨.term false, congrArg (position :: ·) hgroups⟩
    · exact ⟨.relation true _, hgroups⟩
  | relation negated name =>
    cases token <;> refine ⟨rfl, ?_⟩ <;> rintro p' q' ⟨⟩ ⟨⟩
    exact ⟨.value negated name _, hgroups⟩
  | value negated name r =>
    cases token <;> refine ⟨rfl, ?_⟩ <;> rintro p' q' ⟨⟩ ⟨⟩
    · exact ⟨.connective _ _, hgroups⟩
    · exact ⟨.connective _ _, hgroups⟩
  | connective term term' =>
    -- here alone it matters whether a group is open, and for both of them one is or none is
    cases groups with
    | nil =>
      obtain rfl : groups' = [] := List.map_eq_nil_iff.mp hgroups.symm
      cases token <;> refine ⟨rfl, ?_⟩ <;> rintro p' q' ⟨⟩ ⟨⟩
      exact ⟨.term false, rfl⟩
    | cons group groups =>
      obtain ⟨group', groups', rfl, -, htail⟩ := List.map_eq_cons_iff.mp hgroups.symm
      cases token <;> refine ⟨rfl, ?_⟩ <;> rintro p' q' ⟨⟩ ⟨⟩
      · exact ⟨.connective _ _, htail.symm⟩
      · exact ⟨.term false, hgroups⟩

/-- Parsers that have read the same tokens may both finish, or neither may, for the same fault. -/
theorem Abreast.finish {p q : Parser} (h : Abreast p q) (e : Nat) :
    error? (p.finish e) = error? (q.finish e) := by
  obtain ⟨precedence, expecting, links, groups⟩ := p
  obtain ⟨precedence', expecting', links', groups'⟩ := q
  obtain ⟨hexpecting, hgroups⟩ := h
  dsimp only at hexpecting hgroups
  cases hexpecting with
  | term negated => rfl
  | relation negated name => rfl
  | value negated name r => rfl
  | connective term term' =>
    cases groups with
    | nil =>
      obtain rfl : groups' = [] := List.map_eq_nil_iff.mp hgroups.symm
      rfl
    | cons group groups =>
      obtain ⟨group', groups', rfl, hhead, -⟩ := List.map_eq_cons_iff.mp hgroups.symm
      exact congrArg (fun position => some (ParseError.mk .unclosedGroup position)) hhead.symm

/-- **Run.** So it is after any tokens. -/
theorem Abreast.error?_run {p q : Parser} (h : Abreast p q) (ls : List Lexeme) (e : Nat) :
    error? (p.feedAll ls >>= fun p' => p'.finish e) =
      error? (q.feedAll ls >>= fun q' => q'.finish e) := by
  induction ls generalizing p q with
  | nil => exact h.finish e
  | cons l ls ih =>
    obtain ⟨herror, hnext⟩ := h.feed l
    rw [feedAll_cons, feedAll_cons, bind_assoc, bind_assoc]
    exact error?_bind_congr herror fun p' q' hp hq => ih (hnext p' q' hp hq)

end Parser

/-- **A text is refused by both precedences, for the same fault at the same place, or by neither.** -/
theorem error?_parse (p q : Precedence) (text : String) :
    error? (parse p text) = error? (parse q text) := by
  refine error?_bind_congr rfl fun lexemes lexemes' h h' => ?_
  obtain rfl := Except.ok.inj (h.symm.trans h')
  unfold parseLexemes
  split
  · rfl
  · have habreast : Parser.Abreast { precedence := p } { precedence := q } := ⟨.term false, rfl⟩
    exact habreast.error?_run lexemes _

/-! ## What tokens tell about a condition -/

/-- The comparisons that some tokens spell. -/
def comparisonsOf : List Token → List Comparison
  | .word input :: .relation relation :: t :: rest =>
    ⟨input, relation, t.literal?.getD ""⟩ :: comparisonsOf rest
  | _ :: rest => comparisonsOf rest
  | [] => []

/-- The canonical spelling of the condition that some tokens spell. -/
def textOf : List Token → String
  | .word input :: .relation relation :: t :: rest =>
    Comparison.text ⟨input, relation, t.literal?.getD ""⟩ ++ textOf rest
  | .connective k :: rest => " " ++ k.symbol ++ " " ++ textOf rest
  | .negation :: rest => "!" ++ textOf rest
  | .opening :: rest => "(" ++ textOf rest
  | .closing :: rest => ")" ++ textOf rest
  | _ => ""

theorem Spells.comparisonsOf_append {c : Condition} {ts : List Token} (h : Spells c ts)
    (us : List Token) : comparisonsOf (ts ++ us) = c.comparisons ++ comparisonsOf us := by
  induction h generalizing us with
  | compare hliteral => simp [comparisonsOf, comparisons, hliteral]
  | not _ ih => simpa [comparisonsOf, comparisons] using ih us
  | join _ _ ihl ihr => simp [comparisonsOf, comparisons, ihl, ihr]
  | group _ ih => simp [comparisonsOf, comparisons, ih]

theorem Spells.textOf_append {c : Condition} {ts : List Token} (h : Spells c ts)
    (us : List Token) : textOf (ts ++ us) = c.text ++ textOf us := by
  induction h generalizing us with
  | compare hliteral => simp [textOf, text, hliteral]
  | not _ ih => simp [textOf, text, ih, String.append_assoc]
  | join _ _ ihl ihr => simp [textOf, text, ihl, ihr, String.append_assoc]
  | group _ ih => simp [textOf, text, ih, String.append_assoc]

/-- **Conditions that are spelled alike are written alike and compare alike**: only the way in which chains
are joined is not told by the tokens. -/
theorem Spells.alike {c c' : Condition} {ts : List Token} (h : Spells c ts) (h' : Spells c' ts) :
    c.text = c'.text ∧ c.comparisons = c'.comparisons := by
  have htext := (h.textOf_append []).symm.trans (h'.textOf_append [])
  have hcomparisons := (h.comparisonsOf_append []).symm.trans (h'.comparisonsOf_append [])
  exact ⟨by simpa [textOf] using htext, by simpa [comparisonsOf] using hcomparisons⟩

/-! ## The connectives of one chain -/

/-- The number of open parentheses after a token; none is closed that is not open. -/
def Token.nest (n : Nat) : Token → Option Nat
  | opening => some (n + 1)
  | closing => n.casesOn none some
  | _ => some n

/-- The number of open parentheses after some tokens. -/
def nesting (n : Nat) (tokens : List Token) : Option Nat := tokens.foldlM Token.nest n

/-- Every parenthesis is closed, and none is that is not open. -/
def Balanced (tokens : List Token) : Prop := nesting 0 tokens = some 0

/-- A connective stands between the terms of the outermost chain. -/
def Joins (k : Connective) (tokens : List Token) : Prop :=
  ∃ before after, tokens = before ++ .connective k :: after ∧ Balanced before

/-- **Some chain has an `||` and, further on, an `&&`**: in between every parenthesis is closed, so that both
stand in the same chain, at whatever depth. -/
def OrThenAnd (tokens : List Token) : Prop :=
  ∃ before between after,
    tokens = before ++ .connective .or :: (between ++ .connective .and :: after) ∧ Balanced between

@[simp] theorem nesting_nil (n : Nat) : nesting n [] = some n := rfl

theorem nesting_cons (n : Nat) (t : Token) (ts : List Token) :
    nesting n (t :: ts) = (t.nest n).bind fun m => nesting m ts := rfl

theorem nesting_append (n : Nat) (ts us : List Token) :
    nesting n (ts ++ us) = (nesting n ts).bind fun m => nesting m us := by
  simp [nesting, List.foldlM_append]

theorem Token.nest_add {t : Token} {n m : Nat} (h : t.nest n = some m) (k : Nat) :
    t.nest (n + k) = some (m + k) := by
  cases t with
  | opening =>
    obtain rfl := Option.some.inj h
    exact congrArg some (Nat.add_right_comm n k 1)
  | closing =>
    cases n with
    | zero => cases h
    | succ n =>
      obtain rfl := Option.some.inj h
      rw [Nat.add_right_comm]
      rfl
  | _ =>
    obtain rfl := Option.some.inj h
    rfl

/-- Parentheses that are open already stay open. -/
theorem nesting_add {n m : Nat} {ts : List Token} (h : nesting n ts = some m) (k : Nat) :
    nesting (n + k) ts = some (m + k) := by
  induction ts generalizing n with
  | nil =>
    obtain rfl := Option.some.inj h
    rfl
  | cons t ts ih =>
    rw [nesting_cons] at h ⊢
    obtain ⟨i, hi, h⟩ := Option.bind_eq_some_iff.mp h
    rw [Token.nest_add hi]
    exact ih h

/-- If everything is closed in the end, and the rest closes nothing that it has not opened, the part before
it has left nothing open. -/
theorem balanced_of_append {ts us : List Token} {m : Nat} (h : nesting 0 (ts ++ us) = some 0)
    (hus : nesting 0 us = some m) : Balanced ts ∧ m = 0 := by
  rw [nesting_append] at h
  obtain ⟨n, hn, h⟩ := Option.bind_eq_some_iff.mp h
  have hadd := nesting_add hus n
  rw [Nat.zero_add, h] at hadd
  obtain ⟨rfl, rfl⟩ : m = 0 ∧ n = 0 := Nat.add_eq_zero_iff.mp (Option.some.inj hadd).symm
  exact ⟨hn, rfl⟩

/-- The tokens of a condition close every parenthesis that they open. -/
theorem Spells.nesting_append {c : Condition} {ts : List Token} (h : Spells c ts) (n : Nat)
    (us : List Token) : nesting n (ts ++ us) = nesting n us := by
  induction h generalizing n us with
  | @compare name r literal token hliteral => cases token <;> first | rfl | cases hliteral
  | not _ ih => exact ih n us
  | @join k l r ts vs _ _ ihl ihr =>
    rw [List.append_assoc, ihl]
    exact ihr n us
  | group _ ih =>
    rw [List.append_assoc]
    exact ih (n + 1) _

theorem Spells.nesting {c : Condition} {ts : List Token} (h : Spells c ts) (n : Nat) :
    Condition.nesting n ts = some n := by
  simpa using h.nesting_append n []

/-! ### Chains of a condition -/

/-- Two places in one list: one is before the other, or they are the same. -/
theorem cases_of_append_cons {α : Type} {xs ys xs' ys' : List α} {x y : α}
    (h : xs ++ x :: xs' = ys ++ y :: ys') :
    (∃ mid, ys = xs ++ x :: mid ∧ xs' = mid ++ y :: ys') ∨ (ys = xs ∧ y = x ∧ ys' = xs') ∨
      ∃ mid, xs = ys ++ y :: mid ∧ ys' = mid ++ x :: xs' := by
  rcases List.append_eq_append_iff.mp h with ⟨mid, rfl, hmid⟩ | ⟨mid, rfl, hmid⟩
  · cases mid with
    | nil =>
      obtain ⟨rfl, rfl⟩ := List.cons.inj hmid
      exact .inr (.inl ⟨List.append_nil xs, rfl, rfl⟩)
    | cons z mid =>
      obtain ⟨rfl, rfl⟩ := List.cons.inj hmid
      exact .inl ⟨mid, rfl, rfl⟩
  · cases mid with
    | nil =>
      obtain ⟨rfl, rfl⟩ := List.cons.inj hmid
      exact .inr (.inl ⟨(List.append_nil ys).symm, rfl, rfl⟩)
    | cons z mid =>
      obtain ⟨rfl, rfl⟩ := List.cons.inj hmid
      exact .inr (.inr ⟨mid, rfl, rfl⟩)

/-- A joined condition joins by what its parts join by and by its own connective. -/
theorem joins_join {c : Condition} {ts : List Token} (h : Spells c ts) (j k : Connective)
    (us : List Token) : Joins j (ts ++ .connective k :: us) ↔ Joins j ts ∨ j = k ∨ Joins j us := by
  constructor
  · rintro ⟨before, after, heq, hb⟩
    rcases cases_of_append_cons heq with ⟨mid, rfl, rfl⟩ | ⟨-, hk, -⟩ | ⟨mid, rfl, -⟩
    · exact .inr (.inr ⟨mid, after, rfl, (h.nesting_append 0 (.connective k :: mid)).symm.trans hb⟩)
    · exact .inr (.inl (Token.connective.inj hk))
    · exact .inl ⟨before, mid, rfl, hb⟩
  · rintro (⟨before, after, rfl, hb⟩ | rfl | ⟨before, after, rfl, hb⟩)
    · exact ⟨before, after ++ .connective k :: us, by simp, hb⟩
    · exact ⟨ts, us, rfl, h.nesting 0⟩
    · exact ⟨ts ++ .connective k :: before, after, by simp, (h.nesting_append 0 _).trans hb⟩

/-- Where a joined condition has an `&&` after an `||`: in a part, in both, or at its own connective. -/
theorem orThenAnd_join {c : Condition} {ts : List Token} (h : Spells c ts) (k : Connective)
    (us : List Token) :
    OrThenAnd (ts ++ .connective k :: us) ↔
      OrThenAnd ts ∨ OrThenAnd us ∨ (Joins .or ts ∧ (k = .and ∨ Joins .and us)) ∨
        (k = .or ∧ Joins .and us) := by
  constructor
  · rintro ⟨before, between, after, heq, hb⟩
    rcases cases_of_append_cons heq with ⟨mid, rfl, rfl⟩ | ⟨-, hk, rfl⟩ | ⟨mid, rfl, hrest⟩
    · exact .inr (.inl ⟨mid, between, after, rfl, hb⟩)
    · exact .inr (.inr (.inr ⟨(Token.connective.inj hk).symm, between, after, rfl, hb⟩))
    · -- the `||` stands in the left part; where does the `&&` stand?
      rcases cases_of_append_cons hrest with ⟨mid', rfl, -⟩ | ⟨rfl, hk, -⟩ | ⟨mid', rfl, rfl⟩
      · exact .inl ⟨before, between, mid', rfl, hb⟩
      · have hbefore := (balanced_of_append (h.nesting 0) hb).1
        exact .inr (.inr (.inl ⟨⟨before, _, rfl, hbefore⟩, .inl (Token.connective.inj hk)⟩))
      · have hmid : ∃ m, nesting 0 mid = some m := by
          unfold Balanced at hb
          rw [nesting_append] at hb
          exact (Option.bind_eq_some_iff.mp hb).imp fun _ hm => hm.1
        obtain ⟨m, hm⟩ := hmid
        have hall : nesting 0 (before ++ .connective .or :: mid) = some 0 := h.nesting 0
        obtain ⟨hbefore, rfl⟩ := balanced_of_append hall hm
        unfold Balanced at hb
        rw [nesting_append, hm] at hb
        exact .inr (.inr (.inl ⟨⟨before, _, rfl, hbefore⟩, .inr ⟨mid', after, rfl, hb⟩⟩))
  · rintro (⟨before, between, after, rfl, hb⟩ | ⟨before, between, after, rfl, hb⟩ |
      ⟨⟨before, after, rfl, hb⟩, hand⟩ | ⟨rfl, between, after, rfl, hb⟩)
    · exact ⟨before, between, after ++ .connective k :: us, by simp, hb⟩
    · exact ⟨ts ++ .connective k :: before, between, after, by simp, hb⟩
    · -- what follows the `||` in the left part closes what it opens
      have hafter : Balanced after := by
        have hts := h.nesting 0
        rw [nesting_append, hb] at hts
        exact hts
      rcases hand with rfl | ⟨between, rest, rfl, hbetween⟩
      · exact ⟨before, after, us, by simp, hafter⟩
      · refine ⟨before, after ++ .connective k :: between, rest, by simp, ?_⟩
        unfold Balanced
        rw [nesting_append, hafter]
        exact hbetween
    · exact ⟨ts, between, after, rfl, hb⟩

/-- A token in front, or one at the end, adds nothing to any chain unless it is a connective. -/
theorem orThenAnd_cons {t : Token} (ht : ∀ k, t ≠ .connective k) (ts : List Token) :
    OrThenAnd (t :: ts) ↔ OrThenAnd ts := by
  constructor
  · rintro ⟨before, between, after, heq, hb⟩
    cases before with
    | nil => exact absurd (List.cons.inj heq).1 (ht _)
    | cons s before => exact ⟨before, between, after, (List.cons.inj heq).2, hb⟩
  · rintro ⟨before, between, after, rfl, hb⟩
    exact ⟨t :: before, between, after, rfl, hb⟩

theorem orThenAnd_snoc {t : Token} (ht : ∀ k, t ≠ .connective k) (ts : List Token) :
    OrThenAnd (ts ++ [t]) ↔ OrThenAnd ts := by
  constructor
  · rintro ⟨before, between, after, heq, hb⟩
    have heq' : ts ++ [t] = (before ++ .connective .or :: between) ++ .connective .and :: after := by
      rw [heq, List.append_assoc, List.cons_append]
    rcases cases_of_append_cons heq' with ⟨mid, -, hnil⟩ | ⟨-, hk, -⟩ | ⟨mid, rfl, -⟩
    · exact absurd hnil.symm (by simp)
    · exact absurd hk.symm (ht _)
    · exact ⟨before, between, mid, by simp, hb⟩
  · rintro ⟨before, between, after, rfl, hb⟩
    exact ⟨before, between, after ++ [t], by simp, hb⟩

theorem orThenAnd_compare {k : Comparison} {ts : List Token} (h : Spells (.compare k) ts) :
    ¬OrThenAnd ts := by
  cases h with
  | @compare name r literal token hliteral =>
    have htoken : ∀ k, token ≠ .connective k := by
      rintro k rfl
      cases hliteral
    rw [orThenAnd_cons (fun _ => Token.noConfusion), orThenAnd_cons (fun _ => Token.noConfusion),
      orThenAnd_cons htoken]
    rintro ⟨before, between, after, heq, -⟩
    exact absurd heq.symm (by simp)

theorem orThenAnd_group {ts : List Token} : OrThenAnd (.opening :: ts ++ [.closing]) ↔ OrThenAnd ts := by
  rw [List.cons_append, orThenAnd_cons (fun _ => Token.noConfusion),
    orThenAnd_snoc (fun _ => Token.noConfusion)]

/-- A comparison has no connectives. -/
theorem not_joins_compare {k : Comparison} {ts : List Token} (h : Spells (.compare k) ts)
    (j : Connective) : ¬Joins j ts := by
  rintro ⟨before, after, heq, -⟩
  have hmem : .connective j ∈ ts := heq ▸ List.mem_append_right _ List.mem_cons_self
  cases h with
  | @compare name r literal token hliteral =>
    obtain rfl : Token.connective j = token := by simpa using hmem
    cases hliteral

/-- The connectives of a group stand between its parentheses. -/
theorem not_joins_group {c : Condition} {ts : List Token} (h : Spells (.group c) ts) (j : Connective) :
    ¬Joins j ts := by
  rintro ⟨before, after, heq, hb⟩
  cases h with
  | @group _ inner hc =>
    cases before with
    | nil => exact absurd (List.cons.inj heq).1 Token.noConfusion
    | cons t before =>
      obtain ⟨rfl, htail⟩ := List.cons.inj heq
      rcases cases_of_append_cons htail with ⟨mid, -, hnil⟩ | ⟨-, hk, -⟩ | ⟨mid, rfl, -⟩
      · exact absurd hnil.symm (by simp)
      · exact absurd hk Token.noConfusion
      · -- inside the group the parenthesis before it is still open
        have hinner := hc.nesting 0
        rw [nesting_append] at hinner
        obtain ⟨m, hm, -⟩ := Option.bind_eq_some_iff.mp hinner
        have hopen : nesting 1 before = some 0 := hb
        rw [← Nat.zero_add 1, nesting_add hm 1] at hopen
        exact absurd (Option.some.inj hopen) (Nat.succ_ne_zero m)

theorem not_joins_negation {ts : List Token} {j : Connective} (h : ¬Joins j ts) :
    ¬Joins j (.negation :: ts) := by
  rintro ⟨before, after, heq, hb⟩
  cases before with
  | nil => exact absurd (List.cons.inj heq).1 Token.noConfusion
  | cons t before =>
    obtain ⟨rfl, htail⟩ := List.cons.inj heq
    exact h ⟨before, after, htail, hb⟩

/-- A term joins nothing. -/
theorem not_joins_term {p : Precedence} {c : Condition} (hn : NormalForm p .term c) {ts : List Token}
    (hs : Spells c ts) (j : Connective) : ¬Joins j ts := by
  cases hn with
  | compare k => exact not_joins_compare hs j
  | notCompare k =>
    cases hs with
    | not hs => exact not_joins_negation (not_joins_compare hs j)
  | group _ => exact not_joins_group hs j
  | notGroup _ =>
    cases hs with
    | not hs => exact not_joins_negation (not_joins_group hs j)

/-! ## Trees of both precedences -/

/-- With `&&` binding tighter, a chain is a conjunction when it does not join by `||`. -/
theorem conjunction_iff {c : Condition} {ts : List Token} (hs : Spells c ts) :
    NormalForm .standard .conjunction c ↔ NormalForm .standard .chain c ∧ ¬Joins .or ts := by
  constructor
  · intro h
    refine ⟨.firstAlternative h, ?_⟩
    generalize hrank : Rank.conjunction = rank at h
    generalize hp : Precedence.standard = p at h
    induction h generalizing ts with
    | firstFactor h => exact not_joins_term h hs .or
    | nextFactor _ hr ih _ =>
      cases hs with
      | join hl hr' =>
        rw [joins_join hl]
        rintro (h | h | h)
        · exact ih hl rfl rfl h
        · cases h
        · exact not_joins_term hr hr' .or h
    | _ => cases hrank
  · rintro ⟨h, hor⟩
    cases h with
    | firstAlternative h => exact h
    | nextAlternative _ _ =>
      cases hs with
      | join hl _ => exact absurd ((joins_join hl _ _ _).mpr (.inr (.inl rfl))) hor

/-- What is no chain of several terms is a chain of one. -/
theorem chain_iff_term {p : Precedence} {c : Condition} (h : NormalForm p .term c) :
    NormalForm .standard .chain c ↔ NormalForm .standard .term c := by
  refine ⟨fun hc => ?_, fun hc => .firstAlternative (.firstFactor hc)⟩
  cases hc with
  | firstAlternative hc =>
    cases hc with
    | firstFactor hc => exact hc
    | nextFactor _ _ => cases h
  | nextAlternative _ _ => cases h

theorem chain_and_iff {l r : Condition} :
    NormalForm .standard .chain (.join .and l r) ↔
      NormalForm .standard .conjunction l ∧ NormalForm .standard .term r := by
  refine ⟨fun h => ?_, fun ⟨hl, hr⟩ => .firstAlternative (.nextFactor hl hr)⟩
  cases h with
  | firstAlternative h =>
    cases h with
    | firstFactor h => cases h
    | nextFactor hl hr => exact ⟨hl, hr⟩

theorem chain_or_iff {l r : Condition} :
    NormalForm .standard .chain (.join .or l r) ↔
      NormalForm .standard .chain l ∧ NormalForm .standard .conjunction r := by
  refine ⟨fun h => ?_, fun ⟨hl, hr⟩ => .nextAlternative hl hr⟩
  cases h with
  | firstAlternative h =>
    cases h with
    | firstFactor h => cases h
  | nextAlternative hl hr => exact ⟨hl, hr⟩

/-- **When association does not matter.** A tree that is built from the left is the tree of the other
precedence as well exactly when no chain in it has an `&&` after an `||`. -/
theorem normalForm_standard_iff {rank : Rank} {c : Condition} (hn : NormalForm .leftToRight rank c)
    {ts : List Token} (hs : Spells c ts) : NormalForm .standard rank c ↔ ¬OrThenAnd ts := by
  generalize hp : Precedence.leftToRight = p at hn
  induction hn generalizing ts with
  | compare k => exact iff_of_true (.compare k) (orThenAnd_compare hs)
  | notCompare k =>
    cases hs with
    | not hs =>
      rw [orThenAnd_cons (fun _ => Token.noConfusion)]
      exact iff_of_true (.notCompare k) (orThenAnd_compare hs)
  | group h ih =>
    cases hs with
    | group hs =>
      rw [orThenAnd_group, ← ih hs hp]
      exact ⟨fun h => by cases h; assumption, .group⟩
  | notGroup h ih =>
    cases hs with
    | not hs =>
      cases hs with
      | group hs =>
        rw [orThenAnd_cons (fun _ => Token.noConfusion), orThenAnd_group, ← ih hs hp]
        exact ⟨fun h => by cases h; assumption, .notGroup⟩
  | first h ih => exact (chain_iff_term h).trans (ih hs hp)
  | @next k l r hl hr ihl ihr =>
    cases hs with
    | join hsl hsr =>
      have hjoins := not_joins_term hr hsr
      rw [orThenAnd_join hsl]
      cases k with
      | and =>
        rw [chain_and_iff, conjunction_iff hsl, ihl hsl hp, ihr hsr hp]
        simp only [hjoins, and_true, reduceCtorEq, false_and, or_false, not_or]
        exact ⟨fun ⟨⟨h, hor⟩, h'⟩ => ⟨h, h', hor⟩, fun ⟨h, h', hor⟩ => ⟨⟨h, hor⟩, h'⟩⟩
      | or =>
        rw [chain_or_iff, conjunction_iff hsr, chain_iff_term hr, ihl hsl hp, ihr hsr hp]
        simp only [hjoins, reduceCtorEq, or_self, and_false, not_false_eq_true, and_true, or_false,
          not_or]
  | _ => cases hp

/-! ## The two precedences -/

/-- **The precedences differ in association only.** A text is refused by both, for the same fault at the same
place, or is read by both, as trees with the same canonical spelling, the same inputs and the same comparisons
in the same order. The trees are equal exactly when in no chain of the text, at whatever depth, an `||` is
followed by an `&&`. -/
theorem parse_precedences (text : String) :
    (∃ e, parse .leftToRight text = .error e ∧ parse .standard text = .error e) ∨
      ∃ lexemes c c', tokenize text.toList = .ok lexemes ∧
        parse .leftToRight text = .ok c ∧ parse .standard text = .ok c' ∧
        c.text = c'.text ∧ c.references = c'.references ∧ c.comparisons = c'.comparisons ∧
        (c = c' ↔ ¬OrThenAnd (lexemes.map Lexeme.token)) := by
  have herror := error?_parse .leftToRight .standard text
  cases hleft : parse .leftToRight text with
  | error e =>
    cases hstandard : parse .standard text with
    | error e' =>
      rw [hleft, hstandard] at herror
      exact .inl ⟨e, rfl, congrArg Except.error (Option.some.inj herror).symm⟩
    | ok c' =>
      rw [hleft, hstandard] at herror
      cases herror
  | ok c =>
    cases hstandard : parse .standard text with
    | error e' =>
      rw [hleft, hstandard] at herror
      cases herror
    | ok c' =>
      obtain ⟨lexemes, htokens, hn, hs⟩ := parse_eq_ok_iff.mp hleft
      obtain ⟨lexemes', htokens', hn', hs'⟩ := parse_eq_ok_iff.mp hstandard
      obtain rfl := Except.ok.inj (htokens.symm.trans htokens')
      obtain ⟨htext, hcomparisons⟩ := hs.alike hs'
      have hreferences : c.references = c'.references := by
        unfold references
        rw [hcomparisons]
      have heq : c = c' ↔ ¬OrThenAnd (lexemes.map Lexeme.token) := by
        rw [← normalForm_standard_iff hn hs]
        exact ⟨fun h => h ▸ hn', fun h => Spells.unique h hs hn' hs'⟩
      exact .inr ⟨lexemes, c, c', htokens, rfl, rfl, htext, hreferences, hcomparisons, heq⟩

end Condition

end ReactiveForm
