import ReactiveForm.Condition.Basic

/-!
# `ReactiveForm.Directive.Basic` — what an element asks for

A directive is an attribute of an element that makes the element follow the inputs of the form:

    data-show, data-hide, data-disable   condition
    data-classname                       class list:condition[, ...]
    data-if                              condition?attr=value[:attr=value]
    data-state                           input name
    data-switch                          group name

## Contents
- `DirectiveKind`, in the order in which effects are applied, with the attributes that carry them.
- `ClassRule`, `Assignment`, `AttributeRule` and `Directive`.
- `Directive.references`, the inputs whose changes concern a directive.
-/

namespace ReactiveForm

/-! ## Kinds -/

/-- The kinds of directives, in the order in which their effects are applied. -/
inductive DirectiveKind where
  | showIf
  | hideIf
  | disableIf
  | classIf
  | attributeIf
  | echo
  | switch
  deriving DecidableEq, Repr

namespace DirectiveKind

/-- Every kind, in the order of application. -/
def all : List DirectiveKind := [showIf, hideIf, disableIf, classIf, attributeIf, echo, switch]

/-- The name of a kind. -/
def name : DirectiveKind → String
  | showIf => "show"
  | hideIf => "hide"
  | disableIf => "disable"
  | classIf => "classname"
  | attributeIf => "if"
  | echo => "state"
  | switch => "switch"

/-- The attribute that carries a kind. -/
def attributeName (kind : DirectiveKind) : String := "data-" ++ kind.name

theorem mem_all (kind : DirectiveKind) : kind ∈ all := by
  cases kind <;> decide

end DirectiveKind

/-- The attribute with the class that a switch toggles. -/
def switchClassAttribute : String := "data-switch-class"

/-- The attribute that makes a member of a switch group a trigger of it. -/
def switchTriggerAttribute : String := "target"

/-! ## Directives -/

/-- Classes that are present when a condition is true and absent otherwise. -/
structure ClassRule where
  classes : List String
  condition : Condition
  deriving DecidableEq, Repr

/-- An attribute and the value it is given. -/
structure Assignment where
  name : String
  value : String
  deriving DecidableEq, Repr

/-- The spelling of an assignment; the value is not escaped. -/
def Assignment.text (a : Assignment) : String := a.name ++ "=\"" ++ a.value ++ "\""

/-- An assignment for when a condition is true, and perhaps one for when it is false. -/
structure AttributeRule where
  condition : Condition
  whenTrue : Assignment
  whenFalse : Option Assignment
  deriving DecidableEq, Repr

/-- What a directive attribute says. -/
inductive Directive where
  | showIf (condition : Condition)
  | hideIf (condition : Condition)
  | disableIf (condition : Condition)
  | classIf (rules : List ClassRule)
  | attributeIf (rule : AttributeRule)
  /-- The element shows the value of the named input as its text. -/
  | echo (input : String)
  /-- The element belongs to a group whose members toggle a class together: their own one, or the
  class of hidden elements. -/
  | switch (group : String) (ownClass : Option String)
  deriving DecidableEq, Repr

namespace Directive

/-- The kind of a directive. -/
def kind : Directive → DirectiveKind
  | showIf _ => .showIf
  | hideIf _ => .hideIf
  | disableIf _ => .disableIf
  | classIf _ => .classIf
  | attributeIf _ => .attributeIf
  | echo _ => .echo
  | switch _ _ => .switch

/-- The conditions of a directive, in order. -/
def conditions : Directive → List Condition
  | showIf c => [c]
  | hideIf c => [c]
  | disableIf c => [c]
  | classIf rules => rules.map ClassRule.condition
  | attributeIf rule => [rule.condition]
  | echo _ => []
  | switch _ _ => []

/-- The inputs whose changes concern a directive, each once, in order of first appearance. A switch
group is not an input. -/
def references : Directive → List String
  | echo input => [input]
  | d => (d.conditions.flatMap Condition.references).eraseDups

end Directive

end ReactiveForm
