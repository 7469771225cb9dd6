import Mise.Text.Blank

/-!
# Paths

A path is kept as it was written, because that is how it is shown. What it means is read off its
parts: slashes separate them, empty parts and dots say nothing, and only a leading slash or a
leading dot is told apart from none. Two spellings of one place, such as `a/../b` and `b`, are
different paths.

## Main definitions

* `Path`: A path as it is written.
* `Path.parts`: What a path consists of, which is how paths are compared.
* `Path.join`, `Path.parent?`: A path taken from another one, and the path without its last part.
* `Path.fileName?`, `Path.stem?`, `Path.extension?`: The last part, and what is before and after
  its last dot.
-/

namespace Mise

/-- A path as it is written. -/
structure Path where
  text : String
  deriving DecidableEq

/-- A part of a path. -/
inductive PathPart where
  | root
  | here
  | up
  | name (s : String)
  deriving DecidableEq

/-- The part that a segment stands for. An empty one and a dot stand for none. -/
def PathPart.ofSegment? (segment : String) : Option PathPart :=
  if segment = "" ∨ segment = "." then none
  else if segment = ".." then some .up
  else some (.name segment)

/-- A name in two at its last dot, unless that dot comes first. -/
def splitExtension (name : String) : String × Option String :=
  let reversed := name.toList.reverse
  match reversed.dropWhile (· != '.') with
  | [] => (name, none)
  | [_] => (name, none)
  | _ :: stem =>
    (String.ofList stem.reverse, some (String.ofList (reversed.takeWhile (· != '.')).reverse))

/-- Segments without those at the end that stand for nothing. -/
def dropIdle (segments : List String) : List String :=
  (segments.reverse.dropWhile fun s => (PathPart.ofSegment? s).isNone).reverse

namespace Path

/-- Whether a path starts from the root. -/
def isAbsolute (p : Path) : Bool :=
  p.text.toList.head? == some '/'

/-- What is written between the slashes. -/
def segments (p : Path) : List String :=
  (Text.partsAt (· == '/') p.text.toList).map String.ofList

/-- The root or the dot that a path starts with, and the segments that follow it. -/
def start (p : Path) : Option PathPart × List String :=
  match p.segments with
  | "" :: s :: rest => (some .root, s :: rest)
  | "." :: rest => (some .here, rest)
  | segments => (none, segments)

/-- The parts of a path. -/
def parts (p : Path) : List PathPart :=
  p.start.1.toList ++ p.start.2.filterMap PathPart.ofSegment?

/-- The path with given segments after its start. -/
def ofSegments (start : Option PathPart) (segments : List String) : Path :=
  let rest := "/".intercalate segments
  match start with
  | some .root => ⟨"/" ++ rest⟩
  | some .here => if segments.isEmpty then ⟨"."⟩ else ⟨"./" ++ rest⟩
  | _ => ⟨rest⟩

/-- The path without its last part. There is none for the root and for the empty path. -/
def parent? (p : Path) : Option Path :=
  match p.start.1, dropIdle p.start.2 with
  | none, [] => none
  | some .root, [] => none
  | _, [] => some ⟨""⟩
  | start, segments => some (ofSegments start (dropIdle segments.dropLast))

/-- A path taken from a folder. An absolute path stays where it is. -/
def join (folder p : Path) : Path :=
  if p.isAbsolute then p
  else if folder.text.isEmpty || folder.text.toList.getLast? == some '/' then
    ⟨folder.text ++ p.text⟩
  else ⟨folder.text ++ "/" ++ p.text⟩

/-- The name at the end of a path. -/
def fileName? (p : Path) : Option String :=
  match p.parts.getLast? with
  | some (.name s) => some s
  | _ => none

/-- The name at the end of a path up to its last dot. -/
def stem? (p : Path) : Option String :=
  p.fileName?.map fun name => (splitExtension name).1

/-- What follows the last dot of the name at the end of a path. -/
def extension? (p : Path) : Option String :=
  p.fileName?.bind fun name => (splitExtension name).2

end Path

end Mise
