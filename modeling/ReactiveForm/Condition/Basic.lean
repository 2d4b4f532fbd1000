/-!
# `ReactiveForm.Condition.Basic` — conditions on the inputs of a form

A condition compares inputs with literals, as in `role==admin && !(tier!=pro)`. Input values are
strings, so a comparison is equality or inequality of strings.

## Contents
- `Relation`, `Comparison`, `Connective` and `Condition`.
- `Precedence` and `UnknownInputPolicy`, the two choices a reader and an evaluator leave open.
- `Condition.text`, the canonical spelling.
- `Condition.comparisons` and `Condition.references`, what a condition looks at.
-/

namespace ReactiveForm

/-! ## Comparisons -/

/-- How the value of an input is compared with a literal. -/
inductive Relation where
  | equal
  | notEqual
  deriving DecidableEq, Repr

namespace Relation

/-- The operator that is written for a relation. -/
def symbol : Relation → String
  | equal => "=="
  | notEqual => "!="

/-- The relation that an operator stands for. -/
def ofSymbol? (s : String) : Option Relation :=
  if s = "==" then some equal else if s = "!=" then some notEqual else none

/-- Whether a value stands in the relation to a literal. -/
def holds : Relation → String → String → Bool
  | equal, value, literal => value == literal
  | notEqual, value, literal => value != literal

end Relation

/-- A comparison of the input named `input` with a literal. -/
structure Comparison where
  input : String
  relation : Relation
  literal : String
  deriving DecidableEq, Repr

/-- The canonical spelling: the literal stands between single quotes, whatever it holds. -/
def Comparison.text (c : Comparison) : String :=
  c.input ++ " " ++ c.relation.symbol ++ " '" ++ c.literal ++ "'"

/-! ## Conditions -/

/-- The two connectives of a chain. -/
inductive Connective where
  | and
  | or
  deriving DecidableEq, Repr

namespace Connective

/-- The operator that is written for a connective. -/
def symbol : Connective → String
  | and => "&&"
  | or => "||"

/-- The truth function of a connective. -/
def apply : Connective → Bool → Bool → Bool
  | and, a, b => a && b
  | or, a, b => a || b

end Connective

/-- A condition, with its parentheses kept as groups. -/
inductive Condition where
  | compare (comparison : Comparison)
  | not (inner : Condition)
  | join (connective : Connective) (left right : Condition)
  | group (inner : Condition)
  deriving DecidableEq, Repr

namespace Condition

/-- The canonical spelling of a condition. -/
def text : Condition → String
  | compare c => c.text
  | not inner => "!" ++ inner.text
  | join k left right => left.text ++ " " ++ k.symbol ++ " " ++ right.text
  | group inner => "(" ++ inner.text ++ ")"

/-- The comparisons of a condition, from left to right. -/
def comparisons : Condition → List Comparison
  | compare c => [c]
  | not inner => inner.comparisons
  | join _ left right => left.comparisons ++ right.comparisons
  | group inner => inner.comparisons

/-- The inputs that a condition names, each once, in order of first appearance. -/
def references (c : Condition) : List String :=
  (c.comparisons.map Comparison.input).eraseDups

@[simp] theorem mem_references {c : Condition} {name : String} :
    name ∈ c.references ↔ ∃ k ∈ c.comparisons, k.input = name := by
  simp [references]

end Condition

/-! ## Choices -/

/-- How `&&` and `||` bind relative to each other. -/
inductive Precedence where
  /-- Operators apply strictly from the left: `a || b && c` is `(a || b) && c`. -/
  | leftToRight
  /-- `&&` binds tighter than `||`. -/
  | standard
  deriving DecidableEq, Repr

/-- What becomes of a comparison whose input does not exist. -/
inductive UnknownInputPolicy where
  /-- The evaluation fails. -/
  | fail
  /-- The comparison is false, whatever its relation. -/
  | assumeFalse
  deriving DecidableEq, Repr

end ReactiveForm
