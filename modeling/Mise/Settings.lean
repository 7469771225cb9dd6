import Mise.Document.Decode
import Mise.Override
import Mise.Path
import Mise.Yaml.Data

/-!
# Settings

A project may have a file of settings: a table of ingredients, whether the staples extend it,
overrides for all recipes, and how compilations are laid out. Each may be left out, and so may the
whole file.

The file is a YAML text. Names are taken as texts whatever their form, truth values and numbers
have to be written plainly, and fields that are no settings are passed over.

## Main definitions

* `Settings`: The settings of a project, and the folder they are for.
* `Settings.ofYaml?`: Reading settings.
* `Settings.tablePath?`, `Settings.overrides`: What the settings say.
-/

namespace Mise

/-- The settings of a project. `folder` is where the path of the table starts. -/
structure Settings where
  ingredients : Option Path
  extendStaples : Bool
  densities : Dictionary Float
  pretty : Bool
  folder : Path

namespace Settings

/-- The settings of a project without a file of settings. -/
def default : Settings where
  ingredients := none
  extendStaples := true
  densities := Dictionary.empty
  pretty := true
  folder := ⟨"."⟩

/-- The name of the file of settings in the folder of a project. -/
def fileName : String := "gram.yaml"

open Yaml (Document Node Reading Plain.isNull Plain.bool? Plain.float? readEach)

/-- A scalar that is read by its plain form. -/
def plain? {α : Type} (read : String → Option α) (d : Document) (n : Node) : Reading α :=
  fun count =>
    match d.target? n count with
    | some (.scalar text true _, count) => (read text).map fun v => (v, count)
    | _ => none

/-- A text that is absent if the scalar is blank or a word for `null`. -/
def textOrNull? (d : Document) (n : Node) : Reading Data := fun count =>
  match d.target? n count with
  | some (.scalar text isPlain tag, count) =>
    if !isPlain then some (.text text, count)
    else match tag with
      | some "tag:yaml.org,2002:null" => if Plain.isNull text then some (.null, count) else none
      | some _ => some (.text text, count)
      | none =>
        if text.isEmpty || Plain.isNull text then some (.null, count)
        else some (.text text, count)
  | _ => none

/-- A mapping from names to numbers. -/
def numbers? (d : Document) (n : Node) : Reading Data := fun count =>
  let field (e : Node × Node) : Reading (String × Data) := fun count =>
    match d.text? e.1 count with
    | none => none
    | some (name, count) =>
      (plain? Plain.float? d e.2 count).map fun (x, count) => ((name, .number x), count)
  match d.entries? n count with
  | none => none
  | some (entries, count) =>
    (readEach field entries count).map fun (fs, count) => (.record fs, count)

/-- A truth value as data. -/
def truth? (d : Document) (n : Node) : Reading Data := fun count =>
  (plain? Plain.bool? d n count).map fun (b, count) => (.bool b, count)

/-- How the fields of settings are read. -/
def readField (d : Document) (name : String) : Option (Node → Reading Data) :=
  if name = "ingredients" then some (textOrNull? d)
  else if name = "extend_builtin" then some (truth? d)
  else if name = "densities" then some (numbers? d)
  else if name = "pretty" then some (truth? d)
  else none

open Decode (fieldValue? optional defaulted)

/-- Numbers by name, a later one replacing an earlier one. -/
def numbersOfData? : Data → Option (Dictionary Float)
  | .record fields =>
    (fields.mapM fun f : String × Data => f.2.asNumber?.map fun x => (f.1, x)).map Dictionary.ofList
  | _ => none

/-- The settings that fields give, none of them twice. -/
def ofFields? (folder : Path) (fields : List (String × Data)) : Option Settings := do
  let ingredients ← optional Decode.text? (← fieldValue? fields "ingredients")
  let extendStaples ← defaulted true Decode.bool? (← fieldValue? fields "extend_builtin")
  let densities ← defaulted Dictionary.empty numbersOfData? (← fieldValue? fields "densities")
  let pretty ← defaulted true Decode.bool? (← fieldValue? fields "pretty")
  return { ingredients := ingredients.map Path.mk, extendStaples, densities, pretty, folder }

/-- The settings that a YAML text gives a folder. -/
def ofYaml? (folder : Path) (text : String) : Option Settings :=
  match Document.read? text with
  | none => none
  | some d => (d.fields? (readField d)).bind (ofFields? folder)

/-- Where the table of ingredients is. -/
def tablePath? (s : Settings) : Option Path :=
  s.ingredients.map s.folder.join

/-- The overrides for all recipes of a project. -/
def overrides (s : Settings) : Overrides :=
  Overrides.ofList s.densities.entries

end Settings

end Mise
