/-!
# `ReactiveForm.Text.CodePoints` — sets of characters given by ranges

The large classes of the Unicode standard are tables of ranges. A table is a list of first and last
code points, in ascending order.
-/

namespace ReactiveForm

namespace Text

/-- A set of code points, as ranges with both ends included. -/
abbrev CodePoints := List (Nat × Nat)

/-- Whether a character lies in one of the ranges. -/
def CodePoints.has (set : CodePoints) (c : Char) : Bool :=
  set.any fun (first, last) => first ≤ c.toNat && c.toNat ≤ last

end Text

end ReactiveForm
