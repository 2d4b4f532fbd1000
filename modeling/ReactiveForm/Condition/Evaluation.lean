import ReactiveForm.Condition.Parser
import ReactiveForm.Condition.Suggestion
import ReactiveForm.StringMap

/-!
# `ReactiveForm.Condition.Evaluation` — the truth of a condition

## Contents
- `ValueSource`, where input values are looked up.
- `Change` and `Context`, what else an evaluation depends on.
- `Condition.evaluate`, which looks at every comparison: `&&` and `||` do not stop early, so a missing
  input is reported even where the result would already be decided.
- `Condition.evaluateText`, for a condition that still has to be read.
-/

namespace ReactiveForm

/-! ## Value sources -/

/-- Where the values of inputs come from, and the names that may be suggested. -/
structure ValueSource where
  valueOf : String → Option String
  names : List String

namespace ValueSource

/-- The source of given values. -/
def ofMap (values : StringMap String) : ValueSource := ⟨values.get?, values.keys⟩

/-- A source that does not tell its names. -/
def nameless (source : ValueSource) : ValueSource := { source with names := [] }

/-- Two sources, of which the first hides the second. -/
def layered (top bottom : ValueSource) : ValueSource where
  valueOf name := (top.valueOf name).or (bottom.valueOf name)
  names := bottom.names.foldl (fun names n => if names.contains n then names else names ++ [n]) top.names

end ValueSource

/-! ## Contexts -/

/-- An input that has just changed, with its new value. -/
structure Change where
  input : String
  value : String
  deriving DecidableEq, Repr

/-- What an evaluation depends on. -/
structure Context where
  source : ValueSource
  change : Option Change := none
  unknownInput : UnknownInputPolicy := .fail

/-- The value of an input: of the changed one the new value, of all others the source's. -/
def Context.resolve (ctx : Context) (name : String) : Option String :=
  match ctx.change with
  | some change => if change.input = name then some change.value else ctx.source.valueOf name
  | none => ctx.source.valueOf name

/-! ## Evaluation -/

/-- An input that does not exist, with the names that may have been meant. -/
structure UnknownInput where
  name : String
  suggestions : List String
  deriving DecidableEq, Repr

namespace UnknownInput

/-- The error of looking for `name` among the names of a source. -/
def among (name : String) (source : ValueSource) : UnknownInput := ⟨name, suggest name source.names⟩

/-- The text of the error. -/
def message (e : UnknownInput) : String :=
  let hint :=
    if e.suggestions.isEmpty then ""
    else " (did you mean: " ++ ", ".intercalate e.suggestions ++ "?)"
  "unknown input '" ++ e.name ++ "'" ++ hint

end UnknownInput

/-- The truth of one comparison. -/
def Comparison.evaluate (c : Comparison) (ctx : Context) : Except UnknownInput Bool :=
  match ctx.resolve c.input with
  | some value => .ok (c.relation.holds value c.literal)
  | none =>
    match ctx.unknownInput with
    | .fail => .error (.among c.input ctx.source)
    | .assumeFalse => .ok false

/-- The truth of a condition. -/
def Condition.evaluate (ctx : Context) : Condition → Except UnknownInput Bool
  | compare c => c.evaluate ctx
  | not inner => do return !(← inner.evaluate ctx)
  | group inner => inner.evaluate ctx
  | join k left right => do
    let l ← left.evaluate ctx
    let r ← right.evaluate ctx
    return k.apply l r

/-- Why the text of a condition has no truth value. -/
inductive EvaluationError where
  | parse (error : Condition.ParseError)
  | unknownInput (error : UnknownInput)
  deriving DecidableEq, Repr

namespace EvaluationError

/-- The text of the error. -/
def message : EvaluationError → String
  | parse e => "invalid condition: " ++ e.text
  | unknownInput e => e.message

end EvaluationError

/-- The truth of the condition that a text spells. -/
def Condition.evaluateText (ctx : Context) (precedence : Precedence) (text : String) :
    Except EvaluationError Bool := do
  let condition ← (Condition.parse precedence text).mapError .parse
  (condition.evaluate ctx).mapError .unknownInput

end ReactiveForm
