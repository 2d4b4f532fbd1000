import ReactiveForm.Text.Quotation

/-!
# `ReactiveForm.Text.Section` — splitting outside quoted sections

A quote opens a section, the same quote closes it, and a separator inside a section is ordinary text.
A section that is never closed reaches to the end. `Quoting` is what a left to right scan has to
remember: the quote that is open, if any.

## Contents
- `Quoting` and `Quoting.after`, the state of the scan and its step.
- `splitSections`, all parts between the separators outside sections.
- `splitSectionOnce`, the cut at the first of them.
-/

namespace ReactiveForm

namespace Text

/-- The quote whose section is open, if any. -/
abbrev Quoting := Option Char

/-- What is open after one more character. -/
def Quoting.after : Quoting → Char → Quoting
  | some q, c => if c = q then none else some q
  | none, c => if isQuote c then some c else none

/-- Whether a character separates: no section is open, and it is not a quote itself. -/
def separates (sep : Char) (open? : Quoting) (c : Char) : Bool :=
  open?.isNone && !isQuote c && c == sep

/-- The first part and the others, when `open?` is open at the start. -/
def splitSectionsFrom (sep : Char) : Quoting → List Char → List Char × List (List Char)
  | _, [] => ([], [])
  | open?, c :: rest =>
    let (first, others) := splitSectionsFrom sep (open?.after c) rest
    if separates sep open? c then ([], first :: others) else (c :: first, others)

/-- The parts of a text between the separators outside quoted sections. -/
def splitSections (sep : Char) (cs : List Char) : List (List Char) :=
  let (first, others) := splitSectionsFrom sep none cs
  first :: others

/-- What stands before and after the first separator, when `open?` is open at the start. -/
def splitSectionOnceFrom (sep : Char) : Quoting → List Char → Option (List Char × List Char)
  | _, [] => none
  | open?, c :: rest =>
    if separates sep open? c then some ([], rest)
    else (splitSectionOnceFrom sep (open?.after c) rest).map fun (before, after) => (c :: before, after)

/-- What stands before and after the first separator outside quoted sections. -/
def splitSectionOnce (sep : Char) (cs : List Char) : Option (List Char × List Char) :=
  splitSectionOnceFrom sep none cs

theorem splitSections_ne_nil (sep : Char) (cs : List Char) : splitSections sep cs ≠ [] := by
  simp [splitSections]

end Text

end ReactiveForm
