import ReactiveForm.Directive.Parser

/-!
# `ReactiveForm.Config.Basic` — the configuration

## Contents
- `MarkerClasses`, `EvaluationSettings`, `Capabilities` and `Config`; a value without fields is the
  default.
- `Config.problems`, what types cannot rule out.
-/

namespace ReactiveForm

/-- The classes that mark hidden and disabled elements. -/
structure MarkerClasses where
  hidden : String := "bs-d-none"
  disabled : String := "bs-ui-disabled"
  deriving DecidableEq, Repr

/-- How conditions are read and evaluated. -/
structure EvaluationSettings where
  precedence : Precedence := .leftToRight
  unknownInput : UnknownInputPolicy := .fail
  deriving DecidableEq, Repr

/-- What can be switched off. -/
structure Capabilities where
  /-- Whether switch groups exist. -/
  switches : Bool := true
  /-- Whether class lists may stand between quotes. -/
  quotedClassLists : Bool := true
  deriving DecidableEq, Repr

/-- A configuration. -/
structure Config where
  classes : MarkerClasses := {}
  evaluation : EvaluationSettings := {}
  capabilities : Capabilities := {}
  deriving DecidableEq, Repr

instance : Inhabited Config := ⟨{}⟩

/-- What the configuration says on reading directives. -/
def Config.directiveOptions (c : Config) : DirectiveOptions where
  precedence := c.evaluation.precedence
  quotedClassLists := c.capabilities.quotedClassLists

/-! ## Problems -/

/-- What can be wrong with a configuration. -/
inductive ConfigProblem where
  | emptyClass (key : String)
  | blankInClass (key name : String)
  | sharedClass (name : String)
  deriving DecidableEq, Repr

/-- The text of a problem. -/
def ConfigProblem.message : ConfigProblem → String
  | emptyClass key => key ++ ": class name must not be empty"
  | blankInClass key name => key ++ ": class name '" ++ name ++ "' must not contain whitespace"
  | sharedClass name => "classes: hidden and disabled share the class '" ++ name ++ "'"

/-- What is wrong with one class name. -/
def classProblem? (key name : String) : Option ConfigProblem :=
  if name.isEmpty then some (.emptyClass key)
  else if Text.hasBlank name then some (.blankInClass key name)
  else none

/-- Everything that is wrong with a configuration. -/
def Config.problems (c : Config) : List ConfigProblem :=
  (classProblem? "classes.hidden" c.classes.hidden).toList ++
    (classProblem? "classes.disabled" c.classes.disabled).toList ++
    (if !c.classes.hidden.isEmpty && c.classes.hidden == c.classes.disabled then
      [.sharedClass c.classes.hidden]
    else [])

end ReactiveForm
