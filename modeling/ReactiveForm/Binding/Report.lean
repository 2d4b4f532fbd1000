import ReactiveForm.Condition.Evaluation
import ReactiveForm.Directive.Parser
import ReactiveForm.Document.Basic

/-!
# `ReactiveForm.Binding.Report` — what became of the directives

A directive that fails is skipped; the others are not concerned. A report counts the directives that
were applied and lists those that were not.

## Contents
- `EffectError` and `Failure`.
- `EffectState`, the last truth of a condition-driven directive.
- `Report`, with `Report.merge`.
-/

namespace ReactiveForm

/-- Why a directive could not be applied. -/
inductive EffectError where
  | directive (error : DirectiveError)
  | unknownInput (error : UnknownInput)
  | document (error : DocumentError)
  deriving DecidableEq, Repr

/-- The text of an error. -/
def EffectError.message : EffectError → String
  | directive e => e.message
  | unknownInput e => e.message
  | document e => e.message

/-- A directive of a node that was skipped. -/
structure Failure where
  node : NodeId
  kind : DirectiveKind
  error : EffectError
  deriving DecidableEq, Repr

/-- The text of a failure. -/
def Failure.message (f : Failure) : String :=
  f.kind.attributeName ++ " on " ++ f.node.text ++ ": " ++ f.error.message

/-- Whether the condition of a directive was true when it was last evaluated. -/
inductive EffectState where
  | active
  | inactive
  deriving DecidableEq, Repr

/-- The state of a directive whose condition has the given truth. -/
def EffectState.ofBool : Bool → EffectState
  | true => active
  | false => inactive

/-- What became of the directives of one pass. -/
structure Report where
  applied : Nat := 0
  failures : List Failure := []
  deriving DecidableEq, Repr

namespace Report

/-- Whether nothing failed. -/
def isClean (r : Report) : Bool := r.failures.isEmpty

/-- The report on two passes. -/
def merge (r s : Report) : Report := ⟨r.applied + s.applied, r.failures ++ s.failures⟩

/-- The report with one more directive applied. -/
def succeed (r : Report) : Report := { r with applied := r.applied + 1 }

/-- The report with one more directive skipped. -/
def fail (r : Report) (f : Failure) : Report := { r with failures := r.failures ++ [f] }

end Report

end ReactiveForm
