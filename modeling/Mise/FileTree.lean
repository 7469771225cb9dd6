import Mise.Dictionary
import Mise.FileSystem

/-!
# File Trees

Files and folders in memory. Everything has one location, the names from the root to it, and a path
is followed to a location one segment at a time: every segment, even a dot, needs a folder to start
from, and two dots lead back to where the folder is. There are no links.

A path that is not absolute is followed from the working folder.

## Main definitions

* `FileTree`: Folders and the texts of files, by location.
* `FileTree.locate?`: Where a path leads.
* `FileTree.read?`, `FileTree.filesBelow`: Looking at files.
* `FileTree.createFolders?`, `FileTree.write?`: Changing a tree.
* `FileTree.system`: Trees as a file system.
-/

namespace Mise

/-- Folders and the texts of files, by location. The root is always a folder. -/
structure FileTree where
  folders : List Location
  files : Ledger Location String
  workingFolder : Location

namespace FileTree

/-- Whether there is a folder at a location. -/
def isFolder (t : FileTree) (l : Location) : Bool :=
  l.isEmpty || t.folders.contains l

/-- What is at a location. -/
def kindAt? (t : FileTree) (l : Location) : Option FileKind :=
  if t.isFolder l then some .folder
  else if t.files.has l then some .file
  else none

/-- Where a segment leads from a folder. -/
def stepFrom (folder : Location) (segment : String) : Location :=
  match PathPart.ofSegment? segment with
  | some (.name s) => folder ++ [s]
  | some .up => folder.dropLast
  | _ => folder

/-- Where segments lead from a location. Whatever they pass has to be a folder. -/
def follow? (t : FileTree) : Location → List String → Option Location
  | l, [] => some l
  | l, s :: rest => if t.isFolder l then t.follow? (stepFrom l s) rest else none

/-- Where a path starts. -/
def startOf (t : FileTree) (p : Path) : Location :=
  if p.isAbsolute then [] else t.workingFolder

/-- Where a path leads. There need not be anything. -/
def locate? (t : FileTree) (p : Path) : Option Location :=
  if p.text.isEmpty then none else t.follow? (t.startOf p) p.segments

/-- What is at a path. -/
def kind? (t : FileTree) (p : Path) : Option FileKind :=
  (t.locate? p).bind t.kindAt?

/-- The text of the file at a location. -/
def textAt? (t : FileTree) (l : Location) : Option String :=
  if t.isFolder l then none else t.files.get? l

/-- The text of the file at a path. -/
def read? (t : FileTree) (p : Path) : Option String :=
  (t.locate? p).bind t.textAt?

/-- The way from one location to another one below it. -/
def wayBelow? (top : Location) (l : Location) : Option Location :=
  if top.isPrefixOf l then some (l.drop top.length) else none

/-- The ways from a path to the files below it. -/
def filesBelow (t : FileTree) (p : Path) : List Location :=
  match t.locate? p with
  | none => []
  | some top => t.files.keys.filterMap (wayBelow? top)

/-- Make a folder at a location, unless there is one. It cannot take the place of a file. -/
def addFolder? (t : FileTree) (l : Location) : Option FileTree :=
  if t.isFolder l then some t
  else if t.files.has l then none
  else some { t with folders := t.folders ++ [l] }

/-- Make the folders that segments pass on their way from a location. -/
def addWay? (t : FileTree) : Location → List String → Option FileTree
  | _, [] => some t
  | l, s :: rest =>
    match t.addFolder? (stepFrom l s) with
    | none => none
    | some t => addWay? t (stepFrom l s) rest

/-- Whether a path ends in a dot. A folder is not made under such a name, only found. -/
def endsInDot (p : Path) : Bool :=
  (p.segments.reverse.dropWhile (· == "")).head? == some "."

/-- Make the folder at a path, and those on the way to it. The empty path asks for nothing. -/
def createFolders? (t : FileTree) (p : Path) : Option FileTree :=
  if p.text.isEmpty then some t
  else if endsInDot p && t.kind? p != some .folder then none
  else t.addWay? (t.startOf p) p.segments

/-- Give the file at a path a text. -/
def write? (t : FileTree) (p : Path) (text : String) : Option FileTree :=
  match t.locate? p with
  | none => none
  | some l => if t.isFolder l then none else some { t with files := t.files.set l text }

/-- The tree after a change that may be refused, and whether it was made. -/
def attempt (change : FileTree → Option FileTree) : StateM FileTree Bool := fun t =>
  match change t with
  | none => (false, t)
  | some t => (true, t)

/-- Trees as a file system. -/
def system : FileSystem (StateM FileTree) where
  kind? p := fun t => (t.kind? p, t)
  read? p := fun t => (t.read? p, t)
  filesBelow p := fun t => (t.filesBelow p, t)
  createFolders p := attempt (·.createFolders? p)
  write p text := attempt (·.write? p text)

/-- The tree with nothing but a working folder and the folders it is in. -/
def empty (workingFolder : Location) : FileTree where
  folders := (List.range workingFolder.length).map fun n => workingFolder.take (n + 1)
  files := []
  workingFolder := workingFolder

end FileTree

end Mise
