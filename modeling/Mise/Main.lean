import Mise.CommandLine

/-!
# The Program

Recipes are compiled from the command line. Here the commands meet the disk: the operations of a
file system become actions, a report is printed, and its failure decides the exit code. All else is
settled before.

## Main definitions

* `disk`: The files of the disk.
* `main`: The program.
-/

namespace Mise

/-- The result of an action that may fail. -/
def attempted {α : Type} (action : IO α) : IO (Option α) := do
  try return some (← action) catch _ => return none

/-- Whether an action can be done. -/
def succeeds (action : IO Unit) : IO Bool :=
  return (← attempted action).isSome

/-- What is at a path on the disk. -/
def diskKind? (p : Path) : IO (Option FileKind) := do
  let info ← attempted do (← IO.FS.realPath p.text).metadata
  return info.map fun i => if i.type == .dir then .folder else .file

/-- The ways from a path on the disk to the files below it. -/
partial def diskFilesBelow (p : Path) : IO (List Location) := do
  match ← diskKind? p with
  | none => return []
  | some .file => return [[]]
  | some .folder =>
    let entries ← attempted do (← IO.FS.realPath p.text).readDir
    let ways ← (entries.getD #[]).toList.mapM fun e => do
      return (← diskFilesBelow (p.join ⟨e.fileName⟩)).map (e.fileName :: ·)
    return ways.flatten

/-- The files of the disk. -/
def disk : FileSystem IO where
  kind? := diskKind?
  read? p := attempted (IO.FS.readFile p.text)
  filesBelow := diskFilesBelow
  createFolders p := if p.text.isEmpty then return true else succeeds (IO.FS.createDirAll p.text)
  write p text := succeeds (IO.FS.writeFile p.text text)

end Mise

/-- Answer a request on the disk. -/
def main (arguments : List String) : IO UInt32 := do
  let request := Mise.Request.ofArguments (← IO.getEnv "GRAM_CONFIG") arguments
  let answer ← request.answer Mise.disk
  IO.print answer.output
  IO.eprint answer.errors
  return answer.exitCode.toUInt32
