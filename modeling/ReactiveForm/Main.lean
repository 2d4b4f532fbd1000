import ReactiveForm.CommandLine.Run

/-!
# `ReactiveForm.Main` — the program on a real disk

The program reads what the disk holds on the way to the files that a command may use, runs the command on
that, and writes back what has changed.

## Contents
- `Disk.load` and `Disk.store`.
- `main`.
-/

namespace ReactiveForm

open CommandLine

namespace Disk

/-- The spelling of a place. -/
def spelling (place : Place) : String := "/" ++ "/".intercalate place

/-- The entry at a place of the disk, which lies in a directory. -/
def probe (place : Place) : IO (Option Entry) := do
  match ← (IO.FS.readBinFile (spelling place)).toBaseIO with
  | .ok bytes => return some (.ofBytes bytes)
  | .error (.inappropriateType ..) => return some .directory
  | .error _ => return none

/-- The tree with what the disk holds at a place and on the way to it. -/
def loadWay (t : FileTree) (place : Place) : IO FileTree := do
  let mut t := t
  for n in List.range (place.length + 1) do
    match ← probe (place.take n) with
    | some .directory => t := t.put (place.take n) .directory
    | some e => return t.put (place.take n) e
    | none => return t
  return t

/-- The place that steps lead to if all places on the way are directories. -/
def resolve (place : Place) (names : List String) : Place :=
  names.foldl (fun place name =>
    if name = "." then place else if name = ".." then place.dropLast else place ++ [name]) place

/-- What the disk holds on the way to some paths. -/
def load (workingDirectory : Place) (paths : List Path) : IO FileTree :=
  paths.foldlM (fun t p =>
    (List.range (p.steps.length + 1)).foldlM (fun t n =>
      loadWay t (resolve (t.start p) (p.steps.take n))) t) { workingDirectory }

/-- Writes the entries that a tree has and another had not. -/
def store (before after : FileTree) : IO Unit := do
  let changed := after.entries.reverse.filter fun (place, e) => before.get? place != some e
  for (place, e) in changed do
    match e with
    | .directory => IO.FS.createDirAll (spelling place)
    | .text content => IO.FS.writeFile (spelling place) content
    | .binary content => IO.FS.writeBinFile (spelling place) content

end Disk

/-- The files that a command may use. -/
def CommandLine.Invocation.paths (env : Environment) (i : Invocation) : List Path :=
  let config := (env.configPath i.settings).toOption.toList
  match i.command with
  | .query (.eval request) => config ++ request.fixture.toList
  | .query (.refs _) => config
  | .query (.mount fixture) => config ++ [fixture]
  | .query (.simulate fixture _) => config ++ [fixture]
  | .config _ => config

end ReactiveForm

open ReactiveForm ReactiveForm.CommandLine

/-- Runs the program. -/
def main (args : List String) : IO UInt32 := do
  let workingDirectory := (ReactiveForm.Path.mk (← IO.currentDir).toString).steps
  let home := (← IO.getEnv "HOME").filter (!·.isEmpty)
  let out ← IO.getStdout
  let env : Environment := {
    configVariable := ← IO.getEnv "FORMFX_CONFIG"
    home
    terminal := ← out.isTty }
  let paths := match Invocation.parse args with
    | .ok i => i.paths env
    | .error _ => []
  let files ← Disk.load workingDirectory paths
  let outcome := run { env with files } args
  Disk.store files outcome.files
  out.putStr outcome.response.output
  (← IO.getStderr).putStr outcome.response.errors
  return outcome.response.code.toUInt32
