import Mise.Csv
import Mise.Decimal.Reader
import Mise.Dictionary
import Mise.Ingredient.Staple

/-!
# Tables of Ingredients

A table of ingredients is written as comma-separated values under a header. The columns are found
by their names: `name`, which has to be there once there is a row, and the figures `density`,
`unit_weight`, `calories`, `protein`, `carbs` and `fat`, each of which may be left out or left
empty. Other columns are ignored. The first row that is not in order spoils the table.

Of several rows with the same key the last one counts. A table may be extended by the staples,
which answer for the keys that the table does not have.

## Main definitions

* `TableError`: Why a text is no table.
* `IngredientTable`: The rows of a table, and whether the staples extend it.
* `IngredientTable.read`: Reading a table.
* `IngredientTable.source`: Looking up in a table.
-/

namespace Mise

/-- Why a text is no table: rows that cannot be decoded, and rows that make no sense. -/
inductive TableError where
  | malformed
  | emptyName (row : Nat)
  | notPositive (name : String)
  deriving DecidableEq

/-- What is wrong with the rows of a table with the given name. A row that cannot be decoded is
    left to whoever reads such texts. -/
def TableError.message? (table : String) : TableError → Option String
  | .malformed => none
  | .emptyName row =>
    some ("invalid ingredient table " ++ table ++ ": row " ++ toString row ++ " has an empty name")
  | .notPositive name =>
    some ("invalid ingredient table " ++ table ++ ": '" ++ name
      ++ "' has a non-positive density or unit weight")

/-- A row of a table: a key and what is known under it. -/
structure TableRow where
  key : String
  properties : Properties

/-- The value of a column that a row has at most once. -/
def column? (row : List (String × String)) (name : String) : Option (Option String) :=
  match row.filter fun cell => cell.1 == name with
  | [] => some none
  | [cell] => some (some cell.2)
  | _ => none

/-- The number in a column, absent if the column is missing or empty. -/
def numberColumn? (row : List (String × String)) (name : String) : Option (Option Float) :=
  match column? row name with
  | none => none
  | some none => some none
  | some (some cell) =>
    if cell.isEmpty then some none else (parseNumber? cell.toList).map some

/-- The row that the cells of a record make under a header. Nutrients are known if the calories
    are; others that are missing are taken as zero. -/
def TableRow.ofCells? (header record : List String) : Option TableRow :=
  if header.length ≠ record.length then none
  else
    let row := header.zip record
    match column? row "name", numberColumn? row "density", numberColumn? row "unit_weight",
      numberColumn? row "calories", numberColumn? row "protein", numberColumn? row "carbs",
      numberColumn? row "fat" with
    | some (some name), some density, some pieceWeight, some calories, some protein, some carbs,
        some fat =>
      some {
        key := nameKey name
        properties := {
          density, pieceWeight
          macros := calories.map fun calories =>
            ⟨calories, protein.getD 0.0, carbs.getD 0.0, fat.getD 0.0⟩ } }
    | _, _, _, _, _, _, _ => none

/-- Whether a figure is given and not above zero. -/
def isNonPositive (figure : Option Float) : Bool :=
  figure.any (· ≤ 0.0)

/-- The row with the given number, if it is in order. -/
def checkedRow (header record : List String) (number : Nat) : Except TableError TableRow :=
  match TableRow.ofCells? header record with
  | none => .error .malformed
  | some row =>
    if row.key.isEmpty then .error (.emptyName number)
    else if isNonPositive row.properties.density || isNonPositive row.properties.pieceWeight then
      .error (.notPositive row.key)
    else .ok row

/-- The rows of a table in order, or the first error. -/
def checkedRows (header : List String) :
    (number : Nat) → List (List String) → Except TableError (List TableRow)
  | _, [] => .ok []
  | number, r :: rs =>
    match checkedRow header r number with
    | .error e => .error e
    | .ok row =>
      match checkedRows header (number + 1) rs with
      | .error e => .error e
      | .ok rows => .ok (row :: rows)

/-- The rows of a table by key, and whether the staples extend it. -/
structure IngredientTable where
  rows : Dictionary Properties
  extended : Bool

namespace IngredientTable

/-- Read a table. -/
def read (text : String) : Except TableError IngredientTable :=
  match Csv.records text with
  | [] => .ok ⟨Dictionary.empty, false⟩
  | header :: records =>
    match checkedRows header 1 records with
    | .error e => .error e
    | .ok rows => .ok ⟨Dictionary.ofList (rows.map fun r => (r.key, r.properties)), false⟩

/-- The table extended by the staples. -/
def extend (table : IngredientTable) : IngredientTable :=
  { table with extended := true }

/-- The properties under a key. -/
def byKey? (table : IngredientTable) (key : String) : Option Properties :=
  match table.rows.get? key with
  | some data => some data
  | none => if table.extended then staple? key else none

/-- A table as a source of properties. -/
def source (table : IngredientTable) : IngredientSource := ⟨table.byKey?⟩

end IngredientTable

end Mise
