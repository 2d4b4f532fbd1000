import ReactiveForm.Condition.Parser
import ReactiveForm.Directive.Basic
import ReactiveForm.Text.Section

/-!
# `ReactiveForm.Directive.Parser` — reading directive attributes

## Contents
- `DirectiveFault` and `DirectiveError`, why an attribute is no directive.
- `DirectiveOptions`, what changes how attributes are read.
- `Directive.parse`, from an attribute value to a directive.
-/

namespace ReactiveForm

/-! ## Errors -/

/-- What is wrong with the shape of an attribute value. -/
inductive DirectiveFault where
  | missingColon (pair : String)
  | noClasses (pair : String)
  | missingQuestionMark
  | notAssignment (text : String)
  | badAttributeName (name : String)
  deriving DecidableEq, Repr

/-- The text of a fault. -/
def DirectiveFault.message : DirectiveFault → String
  | missingColon pair => "missing ':' in '" ++ pair ++ "'"
  | noClasses pair => "no class names before ':' in '" ++ pair ++ "'"
  | missingQuestionMark => "missing '?' after condition"
  | notAssignment text => "expected attr=value, found '" ++ text ++ "'"
  | badAttributeName name => "invalid attribute name '" ++ name ++ "'"

/-- Why an attribute value is no directive. -/
inductive DirectiveError where
  | condition (error : Condition.ParseError)
  | empty (kind : DirectiveKind)
  | malformed (kind : DirectiveKind) (value : String) (fault : DirectiveFault)
  deriving DecidableEq, Repr

/-- The text of an error. -/
def DirectiveError.message : DirectiveError → String
  | condition e => "invalid condition: " ++ e.text
  | empty kind => "empty " ++ kind.name ++ " directive"
  | malformed kind value fault =>
    "malformed " ++ kind.name ++ " directive '" ++ value ++ "': " ++ fault.message

/-! ## Options -/

/-- What changes how directive attributes are read. -/
structure DirectiveOptions where
  precedence : Precedence := .leftToRight
  /-- Whether a class list may stand between quotes, as in `'a b':role==x`. -/
  quotedClassLists : Bool := true
  deriving DecidableEq, Repr

/-! ## Reading -/

namespace Directive

open Text

/-- The condition that some characters spell. -/
def parseCondition (options : DirectiveOptions) (cs : List Char) : Except DirectiveError Condition :=
  (Condition.parse options.precedence (String.ofList cs)).mapError .condition

/-- One `class list:condition` pair of the attribute `value`; the pair is trimmed. -/
def parseClassRule (options : DirectiveOptions) (value : String) (pair : List Char) :
    Except DirectiveError ClassRule := do
  let refuse (fault : String → DirectiveFault) : Except DirectiveError ClassRule :=
    throw (.malformed .classIf value (fault (String.ofList pair)))
  match splitSectionOnce ':' pair with
  | none => refuse .missingColon
  | some (list, condition) =>
    let classes := words (if options.quotedClassLists then stripChars list else trimChars list)
    if classes.isEmpty then refuse .noClasses
    else
      return ⟨classes.map String.ofList, ← parseCondition options (trimChars condition)⟩

/-- The rules of a class attribute; blank pairs between commas are skipped. -/
def parseClassRules (options : DirectiveOptions) (value : String) :
    Except DirectiveError (List ClassRule) := do
  let pairs := ((splitSections ',' value.toList).map trimChars).filter (!·.isEmpty)
  let rules ← pairs.mapM (parseClassRule options value)
  if rules.isEmpty then throw (.empty .classIf)
  return rules

/-- One `attr=value` of the attribute `value`. -/
def parseAssignment (value : String) (cs : List Char) : Except DirectiveError Assignment :=
  let refuse (fault : DirectiveFault) : Except DirectiveError Assignment :=
    .error (.malformed .attributeIf value fault)
  match splitSectionOnce '=' cs with
  | none => refuse (.notAssignment (String.ofList (trimChars cs)))
  | some (name, given) =>
    let name := trimChars name
    if name.isEmpty || name.any isBlank then refuse (.badAttributeName (String.ofList name))
    else .ok ⟨String.ofList name, String.ofList (stripChars given)⟩

/-- The rule of an attribute choice. -/
def parseAttributeRule (options : DirectiveOptions) (value : String) :
    Except DirectiveError AttributeRule := do
  match splitSectionOnce '?' value.toList with
  | none => throw (.malformed .attributeIf value .missingQuestionMark)
  | some (condition, branches) =>
    let (whenTrue, whenFalse) :=
      match splitSectionOnce ':' branches with
      | some (t, f) => (t, some f)
      | none => (branches, none)
    return {
      condition := ← parseCondition options (trimChars condition)
      whenTrue := ← parseAssignment value whenTrue
      whenFalse := ← whenFalse.mapM (parseAssignment value) }

/-- The directive of the given kind that an attribute value spells. A switch is read without the class
that another attribute may give it. -/
def parse (options : DirectiveOptions) (kind : DirectiveKind) (raw : String) :
    Except DirectiveError Directive := do
  let value := trim raw
  if value.isEmpty then throw (.empty kind)
  match kind with
  | .showIf => return .showIf (← parseCondition options value.toList)
  | .hideIf => return .hideIf (← parseCondition options value.toList)
  | .disableIf => return .disableIf (← parseCondition options value.toList)
  | .classIf => return .classIf (← parseClassRules options value)
  | .attributeIf => return .attributeIf (← parseAttributeRule options value)
  | .echo => return .echo value
  | .switch => return .switch value none

end Directive

end ReactiveForm
