import Mise.Path

/-!
# File Systems

What a project needs of the files around it, and no more: whether there is something at a path, the
text of a file, the files below a folder, and two ways of changing something, each of which may be
refused. Whoever works with files takes a file system as an argument, so that the same definition
runs on a disk and on a tree in memory.

## Main definitions

* `FileKind`: A file or a folder.
* `Location`: The names on the way to a file.
* `Location.isUpTo`: The order of locations.
* `FileSystem`: The operations.
-/

namespace Mise

/-- What may be at a path. -/
inductive FileKind where
  | file
  | folder
  deriving DecidableEq

/-- The names on the way to a file or folder. -/
abbrev Location := List String

/-- Whether a location comes before another one or is the same. The first names that differ
    decide. -/
def Location.isUpTo : Location → Location → Bool
  | [], _ => true
  | _ :: _, [] => false
  | a :: as, b :: bs => if a = b then isUpTo as bs else a < b

/-- The operations on files, each an action of `m`. -/
structure FileSystem (m : Type → Type) where
  /-- What is at a path, if there is anything. -/
  kind? : Path → m (Option FileKind)
  /-- The text of a file. -/
  read? : Path → m (Option String)
  /-- The files below a path, each by the names on the way to it. A file is below itself. -/
  filesBelow : Path → m (List Location)
  /-- Make a folder and those on the way to it, as far as they are missing. -/
  createFolders : Path → m Bool
  /-- Give a file a text. The file may be missing, its folder may not. -/
  write : Path → String → m Bool

end Mise
