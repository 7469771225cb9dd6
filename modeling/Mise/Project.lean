import Mise.Compilation
import Mise.Document.Json
import Mise.Document.Yaml
import Mise.Failure
import Mise.FileSystem
import Mise.Settings
import Mise.Text.Lowercase

/-!
# Projects

A project is a folder with recipes, perhaps settings, and perhaps a table of ingredients. Here its
files are read: the settings from where they are said to be or from the folder itself, the table
from where the settings place it, and a document by the extension of its name.

## Main definitions

* `Settings.load`: The settings in a file or a folder, which have to exist.
* `Settings.loadOrDefault`: The same, or the default settings.
* `CompileOptions.load`: What the recipes of a project are compiled with.
* `Recipe.load`: The document in a file.
* `Compilation.load`: The compilation of a file.
-/

namespace Mise

variable {m : Type → Type} [Monad m]

/-- The settings in a file, or in the file of settings of a folder. -/
def Settings.load (fs : FileSystem m) (p : Path) : m (Except Failure Settings) := do
  let inFolder := (← fs.kind? p) == some .folder
  let file := if inFolder then p.join ⟨Settings.fileName⟩ else p
  let folder := if inFolder then p else p.parent?.getD ⟨"."⟩
  match ← fs.kind? file with
  | none => return .error (.settingsMissing file)
  | some _ =>
    match ← fs.read? file with
    | none => return .error .inaccessible
    | some text => return (Settings.ofYaml? folder text).elim (.error .malformedYaml) .ok

/-- The settings in a file or a folder, or the default settings if there is no such file. -/
def Settings.loadOrDefault (fs : FileSystem m) (p : Path) : m (Except Failure Settings) := do
  match ← Settings.load fs p with
  | .error (.settingsMissing _) => return .ok Settings.default
  | loaded => return loaded

/-- The table of ingredients in a file. -/
def IngredientTable.load (fs : FileSystem m) (p : Path) : m (Except Failure IngredientTable) := do
  match ← fs.read? p with
  | none => return .error .inaccessible
  | some text => return (IngredientTable.read text).mapError (.table p.text)

/-- What the recipes of a project are compiled with. -/
def CompileOptions.load (fs : FileSystem m) (s : Settings) : m (Except Failure CompileOptions) := do
  match s.tablePath? with
  | none => return .ok ⟨s.overrides, stapleSource⟩
  | some p =>
    match ← IngredientTable.load fs p with
    | .error e => return .error e
    | .ok table =>
      return .ok ⟨s.overrides, (if s.extendStaples then table.extend else table).source⟩

/-- The document that a text is, if its format goes by the given extension. -/
def Recipe.ofText? (extension text : String) : Option (Except Failure Recipe) :=
  if extension = "json" then some ((Recipe.ofJson? text).elim (.error .malformedJson) .ok)
  else if extension = "yaml" ∨ extension = "yml" then
    some ((Recipe.ofYaml? text).elim (.error .malformedYaml) .ok)
  else none

/-- The document in a file. The case of its extension does not matter. -/
def Recipe.load (fs : FileSystem m) (p : Path) : m (Except Failure Recipe) := do
  let extension := Text.lowered (p.extension?.getD "")
  match ← fs.read? p with
  | none => return .error .inaccessible
  | some text =>
    return (Recipe.ofText? extension text).getD (.error (.unknownFormat extension p))

/-- The compilation of the document in a file. -/
def Compilation.load (fs : FileSystem m) (o : CompileOptions) (p : Path) :
    m (Except Failure Compilation) := do
  match ← Recipe.load fs p with
  | .error e => return .error e
  | .ok r => return (compile? o r).elim (.error (.notRecipe r.kind)) .ok

end Mise
