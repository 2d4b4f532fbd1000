/-!
# `ReactiveForm.Decimal.Binary64` — numbers with 53 binary digits

A finite number of this format is `± mantissa · 2 ^ exponent` with a mantissa below `2 ^ 53` and an
exponent from `-1074` to `971`. Everything is computed with natural numbers, so nothing is rounded but
where the format asks for it.

## Contents
- `Binary64`, with infinities and the undefined number.
- `roundQuotient`, the nearest number to a positive quotient, ties to an even mantissa.
- `Binary64.ofDecimal?`, the number nearest to a decimal, unless that is too large.
-/

namespace ReactiveForm

/-- A number of the format. -/
inductive Binary64 where
  | undefined
  | infinite (negative : Bool)
  | finite (negative : Bool) (mantissa : Nat) (exponent : Int)
  deriving DecidableEq, Repr

namespace Binary64

/-- The number of digits of a mantissa. -/
def mantissaBits : Nat := 53

/-- The least exponent. -/
def minExponent : Int := -1074

/-- The greatest exponent. -/
def maxExponent : Int := 971

/-! ## Rounding -/

/-- A quotient as a natural number, to the nearest; of two as near, the even one. -/
def roundHalfEven (num den : Nat) : Nat :=
  let q := num / den
  let twice := 2 * (num % den)
  if twice > den ∨ (twice = den ∧ q % 2 = 1) then q + 1 else q

/-- The quotient `num / den` in units of `2 ^ exponent`, as another quotient. -/
def scaled (num den : Nat) (exponent : Int) : Nat × Nat :=
  if exponent < 0 then (num * Nat.pow 2 exponent.natAbs, den)
  else (num, den * Nat.pow 2 exponent.natAbs)

/-- The exponent that leaves the quotient `num / den` a mantissa of full length, if the format has
it. -/
def fittingExponent (num den : Nat) : Int :=
  let guess : Int := Int.ofNat num.log2 - Int.ofNat den.log2 - Int.ofNat mantissaBits
  let (n, d) := scaled num den guess
  max minExponent (if n / d < Nat.pow 2 mantissaBits then guess else guess + 1)

/-- The number nearest to a positive quotient, or nothing when that is too large. -/
def roundQuotient (num den : Nat) : Option (Nat × Int) :=
  let e := fittingExponent num den
  let (n, d) := scaled num den e
  let m := roundHalfEven n d
  let (m, e) := if m = Nat.pow 2 mantissaBits then (Nat.pow 2 (mantissaBits - 1), e + 1) else (m, e)
  if e > maxExponent then none else some (m, e)

/-! ## Decimals -/

/-- Powers of ten from which on every number is too large, and below which every number is zero. -/
def decimalRange : Int × Int := (-330, 310)

/-- The number nearest to `± digits · 10 ^ exponent`, or nothing when that is too large. -/
def ofDecimal? (negative : Bool) (digits : Nat) (exponent : Int) : Option Binary64 :=
  if digits = 0 then some (finite negative 0 minExponent)
  else
    let magnitude := Int.ofNat (Nat.toDigits 10 digits).length + exponent
    if magnitude < decimalRange.1 then some (finite negative 0 minExponent)
    else if magnitude > decimalRange.2 then none
    else
      let (num, den) :=
        if exponent < 0 then (digits, Nat.pow 10 exponent.natAbs)
        else (digits * Nat.pow 10 exponent.natAbs, 1)
      (roundQuotient num den).map fun (m, e) => finite negative m e

end Binary64

end ReactiveForm
