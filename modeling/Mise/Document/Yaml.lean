import Mise.Document.Decode
import Mise.Yaml.Data

/-!
# Documents as YAML Texts

A document may be given as a YAML text. The fields of the root and the keys of the metadata are
taken as texts whatever their form, and metadata or children that are left blank are empty; inside
them, scalars are what their form says.

## Main definitions

* `Recipe.ofYaml?`: The document that a YAML text is.
-/

namespace Mise

namespace Yaml

/-- The text of a scalar as data. -/
def textData? (d : Document) (n : Node) : Reading Data := fun count =>
  (d.text? n count).map fun (s, count) => (.text s, count)

/-- Metadata as data: texts with the values they name. -/
def metaData? (d : Document) (n : Node) : Reading Data := fun count =>
  let field (e : Node × Node) : Reading (String × Data) := fun count =>
    match d.text? e.1 count with
    | none => none
    | some (name, count) =>
      (d.data? (maxDepth - 2) e.2 count).map fun (v, count) => ((name, v), count)
  match d.entries? n count with
  | none => none
  | some (entries, count) =>
    (readEach field entries count).map fun (fs, count) => (.record fs, count)

/-- The children of a root as data. -/
def childrenData? (d : Document) (n : Node) : Reading Data := fun count =>
  match d.items? n count with
  | none => none
  | some (items, count) =>
    (readEach (d.data? (maxDepth - 2)) items count).map fun (vs, count) => (.list vs, count)

/-- How the fields of a document are read. -/
def recipeField (d : Document) (name : String) : Option (Node → Reading Data) :=
  if name = "type" then some (textData? d)
  else if name = "meta" then some (metaData? d)
  else if name = "children" then some (childrenData? d)
  else none

end Yaml

/-- The document that a YAML text is. -/
def Recipe.ofYaml? (text : String) : Option Recipe :=
  match Yaml.Document.read? text with
  | none => none
  | some d => (d.fields? (Yaml.recipeField d)).bind fun fs => Recipe.ofData? (.record fs)

end Mise
