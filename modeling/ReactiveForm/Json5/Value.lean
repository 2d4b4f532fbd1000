/-!
# `ReactiveForm.Json5.Value` — JSON5 texts as trees

A value remembers where it begins, as the number of characters that were left to read. Numbers and
strings stay as they are written: what they stand for is only asked, and only found to be wrong, when
a value is used.

## Contents
- `Piece` and `Key`, the pieces of strings and names.
- `Value`, with `Value.remaining`.
- `Location`, a line and a column, and `Location.ofRemaining`.
-/

namespace ReactiveForm

namespace Json5

/-! ## Values -/

/-- A piece of a string or of a name, as it is written. -/
inductive Piece where
  /-- A character that stands for itself. -/
  | plain (char : Char)
  /-- A backslash and a character. -/
  | escaped (char : Char)
  /-- A backslash and the digit zero. -/
  | nul
  /-- The two digits of a one-byte escape. -/
  | byte (digits : List Char)
  /-- The four digits of a two-byte escape. -/
  | unit (digits : List Char)
  deriving DecidableEq, Repr

/-- The key of a member, and the number of characters left where it begins. -/
structure Key where
  remaining : Nat
  pieces : List Piece
  deriving DecidableEq, Repr

/-- A value; `remaining` is the number of characters left where it begins. -/
inductive Value where
  | null (remaining : Nat)
  | bool (remaining : Nat) (value : Bool)
  | number (remaining : Nat) (text : List Char)
  | string (remaining : Nat) (pieces : List Piece)
  | array (remaining : Nat) (items : List Value)
  | object (remaining : Nat) (members : List (Key × Value))

/-- The number of characters left where a value begins. -/
def Value.remaining : Value → Nat
  | null r => r
  | bool r _ => r
  | number r _ => r
  | string r _ => r
  | array r _ => r
  | object r _ => r

/-! ## Places in a text -/

/-- A line and a column, both from 1; columns count characters. -/
structure Location where
  line : Nat
  column : Nat
  deriving DecidableEq, Repr

/-- The place after some text: a new line begins after every line feed. -/
def Location.after (read : List Char) : Location where
  line := read.count '\n' + 1
  column := (read.reverse.takeWhile (· != '\n')).length + 1

/-- The place in a text where some characters are left. -/
def Location.ofRemaining (text : List Char) (remaining : Nat) : Location :=
  .after (text.take (text.length - remaining))

end Json5

end ReactiveForm
