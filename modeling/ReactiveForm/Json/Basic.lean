/-!
# `ReactiveForm.Json.Basic` — JSON values and their text

The members of an object keep their order. Text is written either on one line or with one item a line,
two spaces deeper for each level.

## Contents
- `Json`, the values that this library writes.
- `Json.quote`, a string with the escapes of the format.
- `Json.compact` and `Json.pretty`, the two layouts.
-/

namespace ReactiveForm

/-- A JSON value; numbers are whole. -/
inductive Json where
  | null
  | bool (value : Bool)
  | number (value : Int)
  | string (text : String)
  | array (items : List Json)
  | object (members : List (String × Json))

namespace Json

/-! ## Strings -/

/-- The two digits of a control character. -/
def controlDigits (n : Nat) : List Char := [(n / 16).digitChar, (n % 16).digitChar]

/-- A character inside a string: quotes, backslashes and control characters are escaped. -/
def escapeChar (c : Char) : List Char :=
  if c = '"' then ['\\', '"']
  else if c = '\\' then ['\\', '\\']
  else if c = '\n' then ['\\', 'n']
  else if c = '\r' then ['\\', 'r']
  else if c = '\t' then ['\\', 't']
  else if c.toNat = 0x8 then ['\\', 'b']
  else if c.toNat = 0xC then ['\\', 'f']
  else if c.toNat < 0x20 then ['\\', 'u', '0', '0'] ++ controlDigits c.toNat
  else [c]

/-- A string between double quotes. -/
def quote (s : String) : List Char := '"' :: s.toList.flatMap escapeChar ++ ['"']

/-- The text of a value that holds no other values. -/
def scalar : Json → List Char
  | null => "null".toList
  | bool true => "true".toList
  | bool false => "false".toList
  | number n => (toString n).toList
  | string s => quote s
  | array _ => []
  | object _ => []

/-! ## One line -/

mutual

/-- The text of a value on one line. -/
def compactChars : Json → List Char
  | array items => '[' :: compactItems items ++ [']']
  | object members => '\x7b' :: compactMembers members ++ ['\x7d']
  | other => other.scalar

/-- Items with commas between them. -/
def compactItems : List Json → List Char
  | [] => []
  | [item] => compactChars item
  | item :: rest => compactChars item ++ ',' :: compactItems rest

/-- Members with commas between them. -/
def compactMembers : List (String × Json) → List Char
  | [] => []
  | [(key, value)] => quote key ++ ':' :: compactChars value
  | (key, value) :: rest => quote key ++ ':' :: compactChars value ++ ',' :: compactMembers rest

end

/-- The text of a value on one line. -/
def compact (j : Json) : String := String.ofList j.compactChars

/-! ## One item a line -/

/-- The start of a new line at a depth. -/
def newline (depth : Nat) : List Char := '\n' :: List.replicate (2 * depth) ' '

mutual

/-- The text of a value that begins at a depth, with one item a line. -/
def prettyChars (depth : Nat) : Json → List Char
  | array [] => "[]".toList
  | array (item :: rest) =>
    '[' :: prettyItems (depth + 1) (item :: rest) ++ newline depth ++ [']']
  | object [] => ['\x7b', '\x7d']
  | object (member :: rest) =>
    '\x7b' :: prettyMembers (depth + 1) (member :: rest) ++ newline depth ++ ['\x7d']
  | other => other.scalar

/-- Items on lines of their own. -/
def prettyItems (depth : Nat) : List Json → List Char
  | [] => []
  | [item] => newline depth ++ prettyChars depth item
  | item :: rest => newline depth ++ prettyChars depth item ++ ',' :: prettyItems depth rest

/-- Members on lines of their own. -/
def prettyMembers (depth : Nat) : List (String × Json) → List Char
  | [] => []
  | [(key, value)] => newline depth ++ quote key ++ ": ".toList ++ prettyChars depth value
  | (key, value) :: rest =>
    newline depth ++ quote key ++ ": ".toList ++ prettyChars depth value ++
      ',' :: prettyMembers depth rest

end

/-- The text of a value with one item a line. -/
def pretty (j : Json) : String := String.ofList (j.prettyChars 0)

end Json

end ReactiveForm
