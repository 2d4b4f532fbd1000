import ReactiveForm.Text.Lowercase.Table

/-!
# `ReactiveForm.Text.Lowercase` — full lower case

Lower case by the rules of the Unicode standard without language tailoring: most characters map one to
one, the capital `I` with a dot above becomes two characters, and a capital sigma becomes the final
form at the end of a word.

## Contents
- `lowerChar`, one character without regard to its place.
- `isFinalSigma`, the condition on the neighbours of a sigma.
- `lowercase`, a whole text.
-/

namespace ReactiveForm

namespace Text

/-- The lower case form of one character, wherever it stands. -/
def lowerChar (c : Char) : List Char :=
  if c.toNat = 0x130 then ['i', Char.ofNat 0x307]
  else
    match lowercaseRuns.findSome? fun run => run.lower? c.toNat with
    | some n => [Char.ofNat n]
    | none => [c]

/-- Whether the nearest character that is not case ignorable is cased. -/
def meetsCased (cs : List Char) : Bool :=
  (cs.find? fun c => !caseIgnorable.has c).any fun c => cased.has c

/-- A sigma is final when a cased character precedes it and none follows it; `before` is read from
right to left. -/
def isFinalSigma (before after : List Char) : Bool :=
  meetsCased before && !meetsCased after

/-- The lower case form of a text whose preceding characters, last first, are `before`. -/
def lowerFrom (before : List Char) : List Char → List Char
  | [] => []
  | c :: rest =>
    (if c.toNat = 0x3A3 && isFinalSigma before rest then [Char.ofNat 0x3C2] else lowerChar c) ++
      lowerFrom (c :: before) rest

/-- The lower case form of a text. -/
def lowercase (s : String) : String := String.ofList (lowerFrom [] s.toList)

end Text

end ReactiveForm
