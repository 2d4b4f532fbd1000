import ReactiveForm.Json5.Value

/-!
# `ReactiveForm.Json5.Text` — what strings and names stand for

Two escapes of two bytes stand for one character when the first is in the range of high surrogates:
the piece after it gives the low one. The two are joined by a bitwise or, whose carry-free sum is not
the usual one above `U+1FFFF`.

## Contents
- `TextFault`, why pieces stand for no text.
- `hexValue?`, a number of base sixteen.
- `textOf`, the text of some pieces.
-/

namespace ReactiveForm

namespace Json5

/-- Why the pieces of a string stand for no text. -/
inductive TextFault where
  | badHex
  | unexpectedTrail
  | expectedTrail
  | missingTrail
  | noCharacter
  deriving DecidableEq, Repr

/-- The text of a fault. -/
def TextFault.message : TextFault → String
  | badHex => "error parsing hex"
  | unexpectedTrail => "unexpected unicode trail surrogate"
  | expectedTrail => "expecting unicode trail surrogate"
  | missingTrail => "missing unicode trail surrogate"
  | noCharacter => "error parsing unicode"

/-! ## Digits -/

/-- The value of a digit of base sixteen. -/
def hexDigitValue? (c : Char) : Option Nat :=
  if '0' ≤ c ∧ c ≤ '9' then some (c.toNat - '0'.toNat)
  else if 'a' ≤ c ∧ c ≤ 'f' then some (c.toNat - 'a'.toNat + 10)
  else if 'A' ≤ c ∧ c ≤ 'F' then some (c.toNat - 'A'.toNat + 10)
  else none

/-- The number that some digits of base sixteen stand for. -/
def hexDigits? (cs : List Char) : Option Nat :=
  cs.foldlM (fun n c => (hexDigitValue? c).map fun d => 16 * n + d) 0

/-- The number of 32 bits that a text of base sixteen stands for; at least one digit is needed. -/
def hexValue? (cs : List Char) : Option Nat :=
  if cs.isEmpty then none else (hexDigits? cs).filter (· < 0x100000000)

/-! ## Pieces -/

/-- The characters of a piece after its backslash, if it has one. -/
def Piece.written : Piece → List Char
  | plain c => [c]
  | escaped c => [c]
  | nul => ['0']
  | byte digits => digits
  | unit digits => digits

/-- The character that a backslash and a character stand for. -/
def escapedChar (c : Char) : Char :=
  if c = 'b' then Char.ofNat 0x8
  else if c = 'f' then Char.ofNat 0xC
  else if c = 'n' then '\n'
  else if c = 'r' then '\r'
  else if c = 't' then '\t'
  else if c = 'v' then Char.ofNat 0xB
  else c

/-- The character of a code point. -/
def charOf? (n : Nat) : Option Char := if n.isValidChar then some (Char.ofNat n) else none

/-- Whether a number is a low surrogate. -/
def isTrail (n : Nat) : Bool := 0xDC00 ≤ n && n ≤ 0xDFFF

/-- Whether a number is a high surrogate. -/
def isLead (n : Nat) : Bool := 0xD800 ≤ n && n ≤ 0xDBFF

/-- The code point of two surrogates. -/
def joinSurrogates (lead trail : Nat) : Nat :=
  ((lead - 0xD800) <<< 10) ||| (trail - 0xDC00 + 0x10000)

/-- The number of a text of base sixteen. -/
def readHex (cs : List Char) : Except TextFault Nat := (hexValue? cs).elim (.error .badHex) .ok

/-- The character of a code point. -/
def readChar (n : Nat) : Except TextFault Char := (charOf? n).elim (.error .noCharacter) .ok

/-- The characters of some pieces. -/
def charsOf : List Piece → Except TextFault (List Char)
  | [] => .ok []
  | .plain c :: rest => (charsOf rest).map (c :: ·)
  | .escaped c :: rest => (charsOf rest).map (escapedChar c :: ·)
  | .nul :: rest => (charsOf rest).map (Char.ofNat 0 :: ·)
  | .byte digits :: rest => do
    let c ← readChar (← readHex digits)
    (charsOf rest).map (c :: ·)
  | [.unit digits] => do
    let n ← readHex digits
    if isTrail n then throw .unexpectedTrail
    if isLead n then throw .missingTrail
    return [← readChar n]
  | .unit digits :: piece :: rest => do
    let n ← readHex digits
    if isTrail n then throw .unexpectedTrail
    if isLead n then
      let trail ← readHex piece.written
      if !isTrail trail then throw .expectedTrail
      let c ← readChar (joinSurrogates n trail)
      (charsOf rest).map (c :: ·)
    else
      let c ← readChar n
      (charsOf (piece :: rest)).map (c :: ·)

/-- The text of some pieces. -/
def textOf (pieces : List Piece) : Except TextFault String := (charsOf pieces).map String.ofList

end Json5

end ReactiveForm
