import Mise.Text.Blank
import Mise.Text.Lowercase

/-!
# Properties of Ingredients

What has to be known of an ingredient to weigh it and to estimate its nutrients. Tables of
properties are keyed by lower-case names, and a name that has no entry is tried once more without
the `s` it may end with.

## Main definitions

* `Properties`: Density, weight of a piece, and nutrients.
* `IngredientSource`: Where properties are looked up.
* `nameKey`: The key of a name.
* `IngredientSource.lookup?`: The properties of a name.
-/

namespace Mise

/-- Nutrients, per 100 grams in tables and absolute in estimates. -/
structure Macros where
  calories : Float
  protein : Float
  carbs : Float
  fat : Float
  deriving DecidableEq

/-- What is known of an ingredient: grams per millilitre, grams per piece, and nutrients. -/
structure Properties where
  density : Option Float
  pieceWeight : Option Float
  macros : Option Macros
  deriving DecidableEq

/-- Where the properties of an ingredient are looked up by key. -/
structure IngredientSource where
  byKey? : String → Option Properties

/-- The key of a name: lower case, without white space at its ends. -/
def nameKey (name : String) : String :=
  String.ofList (Text.lower (Text.trim name.toList))

/-- A word without the `s` that it ends with. -/
def singular? (key : String) : Option String :=
  match key.toList.reverse with
  | 's' :: rest => some (String.ofList rest.reverse)
  | _ => none

/-- The properties under the key of a name, or else under that key without a final `s`. -/
def IngredientSource.lookup? (source : IngredientSource) (name : String) : Option Properties :=
  match source.byKey? (nameKey name) with
  | some data => some data
  | none => (singular? (nameKey name)).bind source.byKey?

end Mise
