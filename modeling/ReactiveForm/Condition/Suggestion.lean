/-!
# `ReactiveForm.Condition.Suggestion` — names that may have been meant

A name that is not known is answered with the known names that are a few edits away, nearest first.

## Contents
- `editDistance`, the number of insertions, deletions and substitutions between two texts, computed
  row by row.
- `suggest`, the known names within `suggestionDistance`.
-/

namespace ReactiveForm

/-! ## Edit distance -/

/-- The distances from `x :: xs` to every suffix of `ys`, longest first, given those from `xs`. -/
def distanceRow (x : Char) : List Char → List Nat → List Nat
  | y :: ys, whole :: shorter =>
    let right := distanceRow x ys shorter
    let diagonal := shorter.headD 0
    let best :=
      if x = y then diagonal
      else 1 + min diagonal (min whole (right.headD 0))
    best :: right
  | _, row => row.map (· + 1)

/-- The distances from `xs` to every suffix of `ys`, longest first. -/
def distances (ys : List Char) : List Char → List Nat
  | [] => (List.range (ys.length + 1)).reverse
  | x :: xs => distanceRow x ys (distances ys xs)

/-- The least number of one-character insertions, deletions and substitutions from one text to
another. -/
def editDistance (xs ys : List Char) : Nat := (distances ys xs).headD 0

/-! ## Suggestions -/

/-- How far a suggestion may be from the name that was written. -/
def suggestionDistance : Nat := 2

/-- The order of suggestions: by distance, then by name. -/
def suggestionLe (a b : Nat × String) : Bool :=
  a.1 < b.1 || (a.1 == b.1 && decide (a.2 ≤ b.2))

/-- The known names near a name, nearest first. -/
def suggest (name : String) (known : List String) : List String :=
  let scored := known.map fun k => (editDistance name.toList k.toList, k)
  ((scored.filter (·.1 ≤ suggestionDistance)).mergeSort suggestionLe).map (·.2)

end ReactiveForm
