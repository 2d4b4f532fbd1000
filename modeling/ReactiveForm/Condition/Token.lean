import ReactiveForm.Condition.Basic

/-!
# `ReactiveForm.Condition.Token` — tokens of a condition and what can be wrong with a text

## Contents
- `Token` and `Lexeme`, a token with the byte offset at which it begins.
- `ParseFault`, the causes for which a text is refused, and `ParseFault.message`.
- `ParseError`, a cause with its place.
-/

namespace ReactiveForm

namespace Condition

/-! ## Tokens -/

/-- A token of a condition. -/
inductive Token where
  | opening
  | closing
  | connective (connective : Connective)
  | negation
  | relation (relation : Relation)
  | word (text : String)
  | quoted (text : String)
  deriving DecidableEq, Repr

namespace Token

/-- How a token is named in a message. -/
def describe : Token → String
  | opening => "'('"
  | closing => "')'"
  | connective k => "'" ++ k.symbol ++ "'"
  | negation => "'!'"
  | relation r => "'" ++ r.symbol ++ "'"
  | word w => "'" ++ w ++ "'"
  | quoted q => "\"" ++ q ++ "\""

/-- The literal that a token stands for, where a value is expected. -/
def literal? : Token → Option String
  | word w => some w
  | quoted q => some q
  | _ => none

end Token

/-- A token and the offset of its first byte. -/
structure Lexeme where
  token : Token
  position : Nat
  deriving DecidableEq, Repr

/-! ## Errors -/

/-- Why a text is not a condition. A fault that meets the end of the text has found no token. -/
inductive ParseFault where
  | empty
  | halfConnective (connective : Connective)
  | halfEquality
  | unknownOperator (operator : Char)
  | unterminatedQuote
  | expectedInput (found : Option Token)
  | expectedRelation (input : String) (found : Option Token)
  | expectedValue (relation : Relation) (found : Option Token)
  | unclosedGroup
  | expectedClosing (found : Token)
  | unopenedGroup
  | unexpected (found : Token)
  deriving DecidableEq, Repr

namespace ParseFault

/-- What was found instead, as the end of a message. -/
def foundText : Option Token → String
  | none => ""
  | some t => ", found " ++ t.describe

/-- The text of a fault. -/
def message : ParseFault → String
  | empty => "empty condition"
  | halfConnective k => "expected '" ++ k.symbol ++ "'"
  | halfEquality => "unknown operator '=', use '=='"
  | unknownOperator c =>
    "unknown operator '" ++ c.toString ++ "', only '==' and '!=' are supported"
  | unterminatedQuote => "unterminated quoted string"
  | expectedInput found => "expected input name" ++ foundText found
  | expectedRelation input found =>
    "expected '==' or '!=' after '" ++ input ++ "'" ++ foundText found
  | expectedValue relation found =>
    "expected value after '" ++ relation.symbol ++ "'" ++ foundText found
  | unclosedGroup => "unbalanced '(': missing ')'"
  | expectedClosing found => "expected ')'" ++ foundText (some found)
  | unopenedGroup => "unbalanced ')': no matching '('"
  | unexpected found => "unexpected " ++ found.describe ++ " after condition"

end ParseFault

/-- A fault and the byte offset it is reported at. -/
structure ParseError where
  fault : ParseFault
  position : Nat
  deriving DecidableEq, Repr

namespace ParseError

/-- The text of an error without its place. -/
def message (e : ParseError) : String := e.fault.message

/-- The text of an error with its place. -/
def text (e : ParseError) : String := e.message ++ " at position " ++ toString e.position

end ParseError

end Condition

end ReactiveForm
