import Mise.Data
import Mise.Dictionary

/-!
# Registry

The ingredients, preparations and cookware that a recipe names, one entry per identity, in the
order in which they first came up. An entry is made once and only gains from then on: its display
name stays that of the first occurrence, a default unit is never replaced, and a property once
found is never taken back.

## Main definitions

* `IngredientEntry`, `CookwareEntry`, `Registry`: The entries.
* `Registry.intern`: Making the entry of an ingredient, or giving it a default unit.
* `Registry.markPart`, `Registry.markWhole`, `Registry.markPreparation`: What an entry gains.
* `Registry.internCookware`: Making the entry of a piece of cookware.
-/

namespace Mise

/-- The entry of an ingredient or preparation. `composite` holds for an ingredient that has parts
    and for the parts themselves; a part knows the identity of its parent. -/
structure IngredientEntry where
  id : String
  name : String
  defaultUnit : Option String
  composite : Bool
  parent : Option String
  preparation : Bool
  deriving DecidableEq

/-- An entry of which nothing but identity and name are known. -/
def IngredientEntry.fresh (id name : String) : IngredientEntry :=
  ⟨id, name, none, false, none, false⟩

/-- The entry of a piece of cookware. -/
structure CookwareEntry where
  id : String
  name : String
  deriving DecidableEq

/-- The entries of a recipe. -/
structure Registry where
  ingredients : Ledger String IngredientEntry
  cookware : Ledger String CookwareEntry
  deriving DecidableEq

namespace Registry

/-- The registry of a recipe of which nothing has been read. -/
def empty : Registry := ⟨[], []⟩

/-- Change the entry of an identity, made under the given name if it does not exist. -/
def change (r : Registry) (id name : String) (f : IngredientEntry → IngredientEntry) : Registry :=
  { r with ingredients := r.ingredients.alter id (.fresh id name) f }

/-- Make the entry of an ingredient if it does not exist, and give it a default unit if it has
    none. -/
def intern (r : Registry) (id name : String) (unit : Option String) : Registry :=
  r.change id name fun e => { e with defaultUnit := e.defaultUnit <|> unit }

/-- Enter an ingredient as part of a parent. -/
def markPart (r : Registry) (id name parent : String) : Registry :=
  r.change id name fun e => { e with composite := true, parent := some parent }

/-- Enter an ingredient as one that has parts. -/
def markWhole (r : Registry) (id name : String) : Registry :=
  r.change id name fun e => { e with composite := true }

/-- Enter a preparation. -/
def markPreparation (r : Registry) (id name : String) : Registry :=
  r.change id name fun e => { e with preparation := true }

/-- Make the entry of a piece of cookware if it does not exist. -/
def internCookware (r : Registry) (id name : String) : Registry :=
  { r with cookware := r.cookware.alter id ⟨id, name⟩ fun e => e }

/-- Whether an ingredient or preparation has an entry. -/
def hasIngredient (r : Registry) (id : String) : Bool :=
  r.ingredients.has id

/-- The display name of an ingredient or preparation. -/
def ingredientName? (r : Registry) (id : String) : Option String :=
  (r.ingredients.get? id).map IngredientEntry.name

end Registry

open Data (ofOption flag)

/-- The entry of an ingredient as data. -/
def IngredientEntry.toData (e : IngredientEntry) : Data :=
  .record (
    [("id", .text e.id), ("name", .text e.name), ("default_unit", ofOption .text e.defaultUnit)]
      ++ flag "is_composite" e.composite
      ++ [("parent", ofOption .text e.parent)]
      ++ flag "is_intermediate" e.preparation)

/-- The entry of a piece of cookware as data. -/
def CookwareEntry.toData (e : CookwareEntry) : Data :=
  .record [("id", .text e.id), ("name", .text e.name)]

/-- A registry as data. -/
def Registry.toData (r : Registry) : Data :=
  .record [("ingredients", .record (r.ingredients.map fun e => (e.1, e.2.toData))),
    ("cookware", .record (r.cookware.map fun e => (e.1, e.2.toData)))]

end Mise
