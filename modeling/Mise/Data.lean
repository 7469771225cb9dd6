import Mise.Decimal.Binary

/-!
# Data

The values that documents are decoded from and results are encoded to. A record keeps its fields in
the order in which they were written, and as read from a text it may name a field twice; what that
means is for the reader of the record to say.

Whole numbers are kept apart from other numbers, because they are written differently. A number
that is infinite or not a number has no place in data and is written as `null`, which
`Data.ofNumber` takes care of.

## Main definitions

* `Data`: The values.
* `Data.ofNumber`, `Data.ofOption`: Encoding a number and an optional value.
* `Data.lastWins`: A record without repeated fields, in which the last value of a field counts.
-/

namespace Mise

/-- A value in a document or a result. -/
inductive Data where
  | null
  | bool (b : Bool)
  | int (n : Int)
  | number (x : Float)
  | text (s : String)
  | list (items : List Data)
  | record (fields : List (String × Data))
  deriving Inhabited, BEq

namespace Data

/-- A number as data; one that is not finite has no other form than `null`. -/
def ofNumber (x : Float) : Data :=
  if isFiniteNumber x then .number x else .null

/-- An optional value as data, `null` if absent. -/
def ofOption {α : Type} (encode : α → Data) : Option α → Data
  | none => .null
  | some a => encode a

/-- A list of texts as data. -/
def ofTexts (texts : List String) : Data :=
  .list (texts.map .text)

/-- A field that is present only if it has a value. -/
def fieldIfSome {α : Type} (name : String) (encode : α → Data) :
    Option α → List (String × Data)
  | none => []
  | some a => [(name, encode a)]

/-- A flag that is present only if it holds. -/
def flag (name : String) (holds : Bool) : List (String × Data) :=
  if holds then [(name, .bool true)] else []

/-- The number that data stand for, if they are a number of either kind. -/
def asNumber? : Data → Option Float
  | .int n => some (Float.ofInt n)
  | .number x => some x
  | _ => none

/-- Set a field, in its place if it is already there and at the end otherwise. -/
def setField (fields : List (String × Data)) (name : String) (value : Data) :
    List (String × Data) :=
  match fields with
  | [] => [(name, value)]
  | field :: rest =>
    if field.1 = name then (name, value) :: rest else field :: setField rest name value

mutual

/-- Data in which no record repeats a field: the last value of a field counts, in the place of
    the first. -/
def lastWins : Data → Data
  | .list items => .list (lastWinsItems items)
  | .record fields =>
    .record ((lastWinsFields fields).foldl (fun acc f => setField acc f.1 f.2) [])
  | d => d

/-- `lastWins` on each item of a list. -/
def lastWinsItems : List Data → List Data
  | [] => []
  | d :: ds => lastWins d :: lastWinsItems ds

/-- `lastWins` on the value of each field of a record. -/
def lastWinsFields : List (String × Data) → List (String × Data)
  | [] => []
  | f :: fs => lastWinsField f :: lastWinsFields fs

/-- `lastWins` on the value of a field. -/
def lastWinsField : String × Data → String × Data
  | (name, d) => (name, lastWins d)

end

end Data

end Mise
