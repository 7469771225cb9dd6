import Mise.Yaml.Node
import Mise.Yaml.Plain

/-!
# YAML as Data

The nodes of a document become data. A scalar in quotes is a text, a plain one is read by its form,
and the tags of the standard say how to read it instead. Tags of one's own have no meaning here.

Aliases are replaced by what they stand for, again and again where it holds aliases itself. Two
limits keep that from going on for ever: collections may be nested only so deep, and the number of
replacements may not be out of proportion to the document.

## Main definitions

* `Reading`: A step of reading, which counts replacements.
* `Document.data?`: A node as data.
* `Document.target?`: A node, or what an alias stands for.
* `Document.fields?`: The fields of a root, as nodes.
-/

namespace Mise

namespace Yaml

/-- How deep collections may be nested. -/
def maxDepth : Nat := 128

/-- A step of reading: from the number of replacements so far to a result and their number after
    it. -/
abbrev Reading (α : Type) := Nat → Option (α × Nat)

mutual

/-- The number of events in which a node is told: one for a scalar or an alias, and for a
    collection one more than its content at either end. -/
def Node.events : Node → Nat
  | .scalar .. => 1
  | .aliasOf _ => 1
  | .sequence items _ => Node.listEvents items + 2
  | .mapping entries _ => Node.entryEvents entries + 2

/-- The number of events of nodes. -/
def Node.listEvents : List Node → Nat
  | [] => 0
  | n :: ns => n.events + Node.listEvents ns

/-- The number of events of the keys and values of a mapping. -/
def Node.entryEvents : List (Node × Node) → Nat
  | [] => 0
  | e :: es => Node.pairEvents e + Node.entryEvents es

/-- The number of events of a key and its value. -/
def Node.pairEvents : Node × Node → Nat
  | (key, value) => key.events + value.events

end

/-- The value of a scalar. -/
def scalarData? (text : String) (plain : Bool) : Option String → Option Data
  | none => if plain then Plain.value? text else some (.text text)
  | some tag =>
    if tag = "tag:yaml.org,2002:bool" then (Plain.bool? text).map .bool
    else if tag = "tag:yaml.org,2002:int" then
      (Plain.integer? text.toList).bind Plain.integerData?
    else if tag = "tag:yaml.org,2002:float" then (Plain.float? text).map .number
    else if tag = "tag:yaml.org,2002:null" then
      if Plain.isNull text then some .null else none
    else if tag = "!" then if plain then Plain.value? text else some (.text text)
    else if tag.startsWith "!" then none
    else some (.text text)

/-- Whether a collection may carry a tag: those of one's own are not known. -/
def isKnownTag (tag : Option String) : Bool :=
  tag.all fun t => t == "!" || !t.startsWith "!"

/-- The name of a field, given as data. A whole number will do. -/
def fieldName? : Data → Option String
  | .text s => some s
  | .int n => if 0 ≤ n then some (toString n) else none
  | _ => none

/-- Read each of a list of things in order. -/
def readEach {α β : Type} (read : α → Reading β) : List α → Reading (List β)
  | [], count => some ([], count)
  | a :: rest, count =>
    match read a count with
    | none => none
    | some (b, count) => (readEach read rest count).map fun (bs, count) => (b :: bs, count)

namespace Document

/-- The number of replacements that a document may take. -/
def maxReplacements (d : Document) : Nat :=
  100 * d.root.events

/-- A node, or the node that an alias stands for. -/
def target? (d : Document) : Node → Reading Node
  | .aliasOf id, count =>
    if d.maxReplacements ≤ count then none
    else (d.anchors.node? id).map fun n => (n, count + 1)
  | n, count => some (n, count)

/-- A node as data, with collections nested at most `depth` deep. -/
def data? (d : Document) : (depth : Nat) → Node → Reading Data
  | 0, n, count =>
    match d.target? n count with
    | some (.scalar text plain tag, count) => (scalarData? text plain tag).map fun v => (v, count)
    | _ => none
  | depth + 1, n, count =>
    match d.target? n count with
    | some (.scalar text plain tag, count) => (scalarData? text plain tag).map fun v => (v, count)
    | some (.sequence items tag, count) =>
      if isKnownTag tag then
        (readEach (data? d depth) items count).map fun (vs, count) => (.list vs, count)
      else none
    | some (.mapping entries tag, count) =>
      if isKnownTag tag then
        let field (e : Node × Node) : Reading (String × Data) := fun count =>
          match data? d depth e.1 count with
          | none => none
          | some (key, count) =>
            match fieldName? key, data? d depth e.2 count with
            | some name, some (v, count) => some ((name, v), count)
            | _, _ => none
        (readEach field entries count).map fun (fs, count) => (.record fs, count)
      else none
    | _ => none

/-- The text of a scalar, whatever its form. -/
def text? (d : Document) (n : Node) : Reading String := fun count =>
  match d.target? n count with
  | some (.scalar text _ _, count) => some (text, count)
  | _ => none

/-- The entries of a mapping, of which an empty plain scalar has none. -/
def entries? (d : Document) (n : Node) : Reading (List (Node × Node)) := fun count =>
  match d.target? n count with
  | some (.mapping entries _, count) => some (entries, count)
  | some (.scalar "" true _, count) => some ([], count)
  | _ => none

/-- The items of a sequence, of which an empty plain scalar has none. -/
def items? (d : Document) (n : Node) : Reading (List Node) := fun count =>
  match d.target? n count with
  | some (.sequence items _, count) => some (items, count)
  | some (.scalar "" true _, count) => some ([], count)
  | _ => none

/-- The fields of a root, each read by `read` if it knows the name. Others are passed over
    without looking at them. -/
def fields? (d : Document) (read : String → Option (Node → Reading Data)) :
    Option (List (String × Data)) :=
  let field (e : Node × Node) : Reading (Option (String × Data)) := fun count =>
    match d.text? e.1 count with
    | none => none
    | some (name, count) =>
      match read name with
      | none => some (none, count)
      | some value => (value e.2 count).map fun (v, count) => (some (name, v), count)
  match d.entries? d.root 0 with
  | none => none
  | some (entries, count) => (readEach field entries count).map fun (fs, _) => fs.filterMap id

end Document

end Yaml

end Mise
