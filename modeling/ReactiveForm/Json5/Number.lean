import ReactiveForm.Decimal.Shortest
import ReactiveForm.Json5.Text

/-!
# `ReactiveForm.Json5.Number` — what numbers stand for

A number without a point and without an exponent is whole, and so is one of base sixteen. A whole
number has 64 bits and a sign, one of base sixteen 32 bits and no sign. The words for infinity and for
the undefined number belong to the numbers with a fraction, but with a plus sign they do not.

## Contents
- `Number` and `NumberFault`.
- `numberOf`, the number of a text.
- `Number.describe`, how a number is named in a message.
-/

namespace ReactiveForm

namespace Json5

/-- A number that has been read. -/
inductive Number where
  | whole (value : Int)
  | fraction (value : Binary64)
  deriving DecidableEq, Repr

/-- Why a text stands for no number. -/
inductive NumberFault where
  | badHex
  | badInteger
  | badFraction
  | tooLarge
  deriving DecidableEq, Repr

/-- The text of a fault. -/
def NumberFault.message : NumberFault → String
  | badHex => "error parsing hex"
  | badInteger => "error parsing integer"
  | badFraction => "error parsing number"
  | tooLarge => "error parsing number: too large"

/-! ## Classes of texts -/

/-- A text of base sixteen without a sign. -/
def isHexText : List Char → Bool
  | '0' :: x :: _ :: _ => x == 'x' || x == 'X'
  | _ => false

/-- The texts of the values that are not finite. -/
def special? (cs : List Char) : Option Binary64 :=
  if cs = "Infinity".toList then some (.infinite false)
  else if cs = "-Infinity".toList then some (.infinite true)
  else if cs = "NaN".toList ∨ cs = "-NaN".toList then some .undefined
  else none

/-- Whether a text is read as a whole number. -/
def isWholeText (cs : List Char) : Bool :=
  !cs.contains '.' && (isHexText cs || (!cs.contains 'e' && !cs.contains 'E')) &&
    (special? cs).isNone

/-! ## Reading -/

/-- The sign of a text, negative or not, and what follows it. -/
def splitSign : List Char → Bool × List Char
  | '-' :: rest => (true, rest)
  | '+' :: rest => (false, rest)
  | cs => (false, cs)

/-- The number of some decimal digits. -/
def digitsValue (cs : List Char) : Nat := cs.foldl (fun n c => 10 * n + (c.toNat - '0'.toNat)) 0

/-- The whole number of some decimal digits with a sign, if it has 64 bits. -/
def integerOf? (cs : List Char) : Option Int :=
  let (negative, digits) := splitSign cs
  if digits.isEmpty || !digits.all Char.isDigit then none
  else
    let n := Int.ofNat (digitsValue digits)
    let n := if negative then -n else n
    if -0x8000000000000000 ≤ n ∧ n < 0x8000000000000000 then some n else none

/-- The mantissa and the power of ten of a decimal without a sign. -/
def decimalOf? (cs : List Char) : Option (Nat × Int) :=
  let whole := cs.takeWhile Char.isDigit
  let rest := cs.drop whole.length
  let fraction := if rest.head? = some '.' then (rest.drop 1).takeWhile Char.isDigit else []
  let rest := if rest.head? = some '.' then rest.drop (1 + fraction.length) else rest
  let power? : Option Int :=
    match rest with
    | [] => some 0
    | e :: power => if e = 'e' ∨ e = 'E' then signed? power else none
  if whole.isEmpty && fraction.isEmpty then none
  else power?.map fun power =>
    (digitsValue (whole ++ fraction), power - Int.ofNat fraction.length)
where
  signed? (cs : List Char) : Option Int :=
    let (negative, digits) := splitSign cs
    if digits.isEmpty || !digits.all Char.isDigit then none
    else
      let n := Int.ofNat (digitsValue digits)
      some (if negative then -n else n)

/-- The number with a fraction that a text stands for. -/
def fractionOf (cs : List Char) : Except NumberFault Binary64 :=
  match special? cs with
  | some v => .ok v
  | none =>
    let (negative, rest) := splitSign cs
    match decimalOf? rest with
    | none => .error .badFraction
    | some (digits, power) =>
      match Binary64.ofDecimal? negative digits power with
      | some v => .ok v
      | none => .error .tooLarge

/-- The number that a text stands for. -/
def numberOf (cs : List Char) : Except NumberFault Number :=
  if isWholeText cs then
    if isHexText cs then
      match hexValue? (cs.drop 2) with
      | some n => .ok (.whole (Int.ofNat n))
      | none => .error .badHex
    else
      match integerOf? cs with
      | some n => .ok (.whole n)
      | none => .error .badInteger
  else (fractionOf cs).map .fraction

/-! ## Messages -/

/-- The text of a number with a fraction: written out, with a point even where no fraction is. -/
def fractionText : Binary64 → String
  | .undefined => "NaN"
  | .infinite negative => (if negative then "-" else "") ++ "inf"
  | .finite negative mantissa exponent =>
    (if negative then "-" else "") ++ (Decimal.shortest mantissa exponent).positional

/-- How a number is named in a message. -/
def Number.describe : Number → String
  | whole n => "integer `" ++ toString n ++ "`"
  | fraction v => "floating point `" ++ fractionText v ++ "`"

end Json5

end ReactiveForm
