import ReactiveForm.Decimal.Binary64

/-!
# `ReactiveForm.Decimal.Shortest` — the fewest digits that read back

The decimals that read back as a number form an interval around it, halfway to its neighbours; the
ends belong to it when the mantissa is even. Of the decimals in the interval the shortest are taken,
of these the nearest, and of two as near the greater.

## Contents
- `Interval`, the decimals that read back, as a test on quotients.
- `shortest`, the digits and the power of ten that are chosen.
- `positional`, digits written out around a decimal point.
-/

namespace ReactiveForm

namespace Decimal

/-! ## The interval of a number -/

/-- A number `value / unit` and the quotients `low / unit` and `high / unit` around it that read back
as the same number. -/
structure Interval where
  low : Nat
  value : Nat
  high : Nat
  unit : Nat
  closed : Bool

/-- The interval of `mantissa · 2 ^ exponent`; below a power of two the numbers are twice as dense. -/
def Interval.of (mantissa : Nat) (exponent : Int) : Interval :=
  let atPower := mantissa = Nat.pow 2 (Binary64.mantissaBits - 1) ∧ exponent > Binary64.minExponent
  let value := 4 * mantissa
  let low := if atPower then value - 1 else value - 2
  let high := value + 2
  let quarter := exponent - 2
  let up := if quarter < 0 then 1 else Nat.pow 2 quarter.natAbs
  let down := if quarter < 0 then Nat.pow 2 quarter.natAbs else 1
  ⟨low * up, value * up, high * up, down, mantissa % 2 == 0⟩

/-- Whether the quotient `num / den` lies in an interval. -/
def Interval.has (i : Interval) (num den : Nat) : Bool :=
  if i.closed then i.low * den ≤ num * i.unit && num * i.unit ≤ i.high * den
  else i.low * den < num * i.unit && num * i.unit < i.high * den

/-! ## Digits -/

/-- A decimal `digits · 10 ^ power`. -/
structure Digits where
  digits : Nat
  power : Int
  deriving DecidableEq, Repr

/-- A decimal as a quotient. -/
def Digits.quotient (d : Digits) : Nat × Nat :=
  if d.power < 0 then (d.digits, Nat.pow 10 d.power.natAbs)
  else (d.digits * Nat.pow 10 d.power.natAbs, 1)

/-- The power of ten of the leading digit of a positive quotient. -/
def leadingPower (num den : Nat) : Int :=
  let guess : Int :=
    Int.ofNat (Nat.toDigits 10 num).length - Int.ofNat (Nat.toDigits 10 den).length
  let (p, q) := (Digits.mk 1 guess).quotient
  if num * q < p * den then guess - 1 else guess

/-- The nearest decimal of an interval with the last digit at the given power, if there is one. -/
def Interval.nearest? (i : Interval) (power : Int) : Option Digits :=
  let (p, q) := (Digits.mk 1 power).quotient
  let below := i.value * q / (i.unit * p)
  let rest := i.value * q % (i.unit * p)
  let has (n : Nat) : Bool :=
    let (num, den) := (Digits.mk n power).quotient
    i.has num den
  match has below, has (below + 1) with
  | true, true => some ⟨if 2 * rest < i.unit * p then below else below + 1, power⟩
  | true, false => some ⟨below, power⟩
  | false, true => some ⟨below + 1, power⟩
  | false, false => none

/-- No number of the format needs more digits. -/
def maxDigits : Nat := 17

/-- The shortest decimal that reads back as `mantissa · 2 ^ exponent`, and of those the nearest. A number
just below a power of ten may read back from that power, so the search starts one place above the leading
digit. -/
def shortest (mantissa : Nat) (exponent : Int) : Digits :=
  if mantissa = 0 then ⟨0, 0⟩
  else
    let i := Interval.of mantissa exponent
    let top := leadingPower i.value i.unit
    ((List.range (maxDigits + 1)).findSome? fun n => i.nearest? (top + 1 - Int.ofNat n)).getD ⟨0, 0⟩

/-! ## Writing -/

/-- A decimal written out, with a point and at least one digit on either side of it. -/
def Digits.positional (d : Digits) : String :=
  let digits := Nat.toDigits 10 d.digits
  if d.power < 0 then
    let places := d.power.natAbs
    let padded := List.replicate (places + 1 - digits.length) '0' ++ digits
    String.ofList (padded.take (padded.length - places)) ++ "." ++
      String.ofList (padded.drop (padded.length - places))
  else String.ofList digits ++ String.ofList (List.replicate d.power.natAbs '0') ++ ".0"

end Decimal

end ReactiveForm
