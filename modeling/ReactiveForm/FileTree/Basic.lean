import ReactiveForm.FileTree.Path

/-!
# `ReactiveForm.FileTree.Basic` — files and directories

A tree of files is a finite map from places to entries. Following a path needs a directory at every place
that the path leaves, so each way in which a file cannot be reached has an error of its own.

## Contents
- `Entry` and `FileError`.
- `FileTree`, with `get?`, `put` and `bare`; `get?_put`, how a tree is changed.
- `walk`, from a place along some steps, and `follow`, along steps of a path.
- `find`, `contains` and `read`.
- `makeDirectory`, `createDirectories`, `write` and `ofFiles`.
-/

namespace ReactiveForm

/-! ## Entries and errors -/

/-- A place in a tree, as the names on the way to it from the root. -/
abbrev Place := List String

/-- Bytes are equal when they are the same numbers in the same order. -/
instance (priority := high) bytesDecidableEq : DecidableEq ByteArray := ByteArray.instDecidableEq

/-- What there is at a place. -/
inductive Entry where
  | directory
  | text (content : String)
  /-- A file that is not UTF-8. -/
  | binary (content : ByteArray)
  deriving DecidableEq

/-- The file of some bytes. -/
def Entry.ofBytes (bytes : ByteArray) : Entry :=
  match String.fromUTF8? bytes with
  | some content => text content
  | none => binary bytes

/-- Why a file cannot be read or written. -/
inductive FileError where
  | notFound
  | alreadyExists
  | notDirectory
  | isDirectory
  | nameTooLong
  | notText
  deriving DecidableEq, Repr

/-- The text of an error. -/
def FileError.message : FileError → String
  | notFound => "No such file or directory (os error 2)"
  | alreadyExists => "File exists (os error 17)"
  | notDirectory => "Not a directory (os error 20)"
  | isDirectory => "Is a directory (os error 21)"
  | nameTooLong => "File name too long (os error 36)"
  | notText => "stream did not contain valid UTF-8"

/-! ## Trees -/

/-- The entries at all places but the root, and the place where relative paths start. -/
structure FileTree where
  entries : List (Place × Entry) := []
  workingDirectory : Place := []

namespace FileTree

instance : Inhabited FileTree := ⟨{}⟩

/-- The entry at a place; the root is a directory. -/
def get? (t : FileTree) (place : Place) : Option Entry :=
  if place = [] then some .directory else t.entries.lookup place

/-- The tree with the entry at a place replaced. -/
def put (t : FileTree) (place : Place) (e : Entry) : FileTree :=
  { t with entries := (place, e) :: t.entries.filter (·.1 != place) }

theorem lookup_filter_ne {place other : Place} (h : other ≠ place) (l : List (Place × Entry)) :
    (l.filter (·.1 != place)).lookup other = l.lookup other := by
  induction l with
  | nil => rfl
  | cons hd tl ih =>
    obtain ⟨p, e⟩ := hd
    by_cases hp : p = place
    · simp [List.lookup_cons, hp, beq_eq_false_iff_ne.mpr h, ih]
    · by_cases ho : other = p
      · simp [hp, ho]
      · simp [hp, List.lookup_cons, beq_eq_false_iff_ne.mpr ho, ih]

/-- What a changed tree holds. -/
theorem get?_put (t : FileTree) (place : Place) (e : Entry) (other : Place) :
    (t.put place e).get? other =
      if other = [] then some .directory else if other = place then some e else t.get? other := by
  unfold get? put
  by_cases hroot : other = []
  · simp [hroot]
  · by_cases h : other = place
    · simp [hroot, ← h]
    · simp [hroot, h, List.lookup_cons, beq_eq_false_iff_ne.mpr h, lookup_filter_ne h]

/-- The place where a path starts. -/
def start (t : FileTree) (p : Path) : Place := if p.isAbsolute then [] else t.workingDirectory

/-- The tree of nothing but the directories on the way to the working directory. -/
def bare (workingDirectory : Place) : FileTree where
  entries := (List.range workingDirectory.length).map fun n => (workingDirectory.take (n + 1), .directory)
  workingDirectory

/-! ## Following a path -/

/-- The place one step on, which has to lead out of a directory. -/
def step (t : FileTree) (place : Place) (name : String) : Except FileError Place :=
  match t.get? place with
  | some .directory =>
    if name = "." then .ok place
    else if name = ".." then .ok place.dropLast
    else if Path.isTooLongName name then .error .nameTooLong
    else .ok (place ++ [name])
  | some _ => .error .notDirectory
  | none => .error .notFound

/-- The place at the end of some steps. -/
def walk (t : FileTree) (place : Place) (names : List String) : Except FileError Place :=
  names.foldlM t.step place

/-- The place at the end of some steps from the start of a path. -/
def follow (t : FileTree) (p : Path) (names : List String) : Except FileError Place := do
  if p.text.isEmpty then throw .notFound
  if p.isTooLong then throw .nameTooLong
  t.walk (t.start p) names

/-- The directory in which the last step of a path is taken; to stay in a place it must be a directory. -/
def holder (t : FileTree) (p : Path) : Except FileError Place :=
  t.follow p (p.steps.dropLast ++ ["."])

/-- The entry that a path names. -/
def find (t : FileTree) (p : Path) : Except FileError Entry := do
  let place ← t.follow p p.steps
  match t.get? place with
  | none => throw .notFound
  | some .directory => return .directory
  | some e => if p.endsInSlash then throw .notDirectory else return e

/-- Whether a path names anything. -/
def contains (t : FileTree) (p : Path) : Bool := (t.find p).isOk

/-- The text of the file that a path names. -/
def read (t : FileTree) (p : Path) : Except FileError String := do
  match ← t.find p with
  | .directory => throw .isDirectory
  | .binary _ => throw .notText
  | .text content => return content

/-! ## Directories -/

/-- The tree with a new directory. -/
def makeDirectory (t : FileTree) (p : Path) : Except FileError FileTree := do
  let directory ← t.holder p
  match p.lastName? with
  | none => throw .alreadyExists
  | some name =>
    let place ← t.step directory name
    match t.get? place with
    | some _ => throw .alreadyExists
    | none => return t.put place .directory

/-- The tree with a directory, which may have been there before. -/
def ensureDirectory (t : FileTree) (p : Path) : Except FileError FileTree :=
  match t.makeDirectory p with
  | .error .alreadyExists =>
    match t.find p with
    | .ok .directory => .ok t
    | _ => .error .alreadyExists
  | result => result

/-- The tree with a directory and, where they are missing, with the directories that are to hold it. -/
def ensureDirectories (t : FileTree) : List Path → Except FileError FileTree
  | [] => .ok t
  | p :: holders =>
    match t.ensureDirectory p with
    | .error .notFound => do (← t.ensureDirectories holders).ensureDirectory p
    | result => result

/-- The tree with the directory that is to hold what a path names. -/
def createDirectories (t : FileTree) (p : Path) : Except FileError FileTree :=
  t.ensureDirectories p.directories

/-! ## Writing -/

/-- The tree with the file that a path names replaced. -/
def writeEntry (t : FileTree) (p : Path) (e : Entry) : Except FileError FileTree := do
  let directory ← t.holder p
  if p.endsInSlash then throw .isDirectory
  match p.lastName? with
  | none => throw .isDirectory
  | some name =>
    let place ← t.step directory name
    match t.get? place with
    | some .directory => throw .isDirectory
    | _ => return t.put place e

/-- The tree with the file that a path names holding a text. -/
def write (t : FileTree) (p : Path) (content : String) : Except FileError FileTree :=
  t.writeEntry p (.text content)

/-- The tree with some files, written one after the other. -/
def ofFiles (workingDirectory : Place) (files : List (Path × Entry)) : Except FileError FileTree :=
  files.foldlM (fun t (p, e) => do (← t.createDirectories p).writeEntry p e) (bare workingDirectory)

end FileTree

end ReactiveForm
