import Mise.Ingredient.Table
import Mise.Path

/-!
# Failures

Why a recipe cannot be compiled at all. What is wrong inside a text that cannot be decoded is not
told here: whoever wrote the text will find it with the tools for that kind of text.

## Main definitions

* `Failure`: The causes.
* `Failure.message?`: What is told about a cause.
-/

namespace Mise

/-- Why a recipe cannot be compiled. -/
inductive Failure where
  /-- A document that calls itself something else than a recipe. -/
  | notRecipe (kind : String)
  /-- A table, known by a name or a path, that is none. -/
  | table (name : String) (cause : TableError)
  /-- Settings that should be at a path but are not. -/
  | settingsMissing (path : Path)
  /-- A document whose format cannot be told from its extension. -/
  | unknownFormat (extension : String) (path : Path)
  /-- A text that is no JSON or no document. -/
  | malformedJson
  /-- A text that is no YAML, or neither a document nor settings. -/
  | malformedYaml
  /-- A file that cannot be read or written. -/
  | inaccessible
  deriving DecidableEq

/-- What is told about a failure. -/
def Failure.message? : Failure → Option String
  | .notRecipe kind => some ("compiler expects a Recipe document, found '" ++ kind ++ "'")
  | .table name cause => cause.message? name
  | .settingsMissing path => some ("configuration file not found: " ++ path.text)
  | .unknownFormat extension path =>
    some ("unsupported document format '" ++ extension ++ "' for " ++ path.text)
  | .malformedJson => none
  | .malformedYaml => none
  | .inaccessible => none

end Mise
