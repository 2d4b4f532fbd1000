import ReactiveForm.Text.Split

/-!
# `ReactiveForm.FileTree.Path` — paths as they are written

A path keeps its spelling, because messages repeat it. What it means is read off the spelling: where it
starts, the steps it takes from there, and whether it insists on a directory.

## Contents
- `Path`, with `isAbsolute`, `endsInSlash`, `steps` and `lastName?`.
- `Path.isTooLong` and `Path.isTooLongName`, the limits on a path and on one name.
- `Path.directories`, the directories that are to hold what the path names.
- `Path.join`, a path one step longer.
-/

namespace ReactiveForm

/-- A path, as it is written. -/
structure Path where
  text : String
  deriving DecidableEq, Repr

namespace Path

/-- Whether the path starts at the root instead of the working directory. -/
def isAbsolute (p : Path) : Bool := p.text.toList.head? == some '/'

/-- Whether the path ends in a slash, so that it can only name a directory. -/
def endsInSlash (p : Path) : Bool := p.text.toList.getLast? == some '/'

/-- The steps of the path: a name to go down, `..` to go up and `.` to stay. -/
def steps (p : Path) : List String :=
  ((Text.splitAll '/' p.text.toList).filter (!·.isEmpty)).map String.ofList

/-- The last step of the path if it is a name. -/
def lastName? (p : Path) : Option String :=
  p.steps.getLast?.filter fun name => name != "." && name != ".."

/-- The longest name of a file, in bytes. -/
def maxNameBytes : Nat := 255

/-- The longest path, in bytes. -/
def maxBytes : Nat := 4095

/-- Whether no file can have the name. -/
def isTooLongName (name : String) : Bool := maxNameBytes < name.utf8ByteSize

/-- Whether the path is too long to be followed, wherever it leads. -/
def isTooLong (p : Path) : Bool := maxBytes < p.text.utf8ByteSize

/-- The beginnings of a path that end in a name or in `..`, the shortest first, from the spelling before
and the pieces between slashes after. -/
def beginningsFrom (before : List Char) : List (List Char) → List Path
  | [] => []
  | piece :: rest =>
    let longer := beginningsFrom (before ++ piece ++ ['/']) rest
    if piece.isEmpty || piece = ['.'] then longer else ⟨String.ofList (before ++ piece)⟩ :: longer

/-- The directories that are to hold what the path names, the nearest first, as the path spells them. -/
def directories (p : Path) : List Path :=
  (beginningsFrom [] (Text.splitAll '/' p.text.toList)).dropLast.reverse

/-- The path with one more name at its end. -/
def join (p : Path) (name : String) : Path :=
  if p.text.isEmpty || p.endsInSlash then ⟨p.text ++ name⟩ else ⟨p.text ++ "/" ++ name⟩

end Path

end ReactiveForm
