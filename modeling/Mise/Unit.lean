import Mise.Text.Blank
import Mise.Text.Lowercase

/-!
# Units

A unit is written in many ways. It is brought to its canonical spelling first: lower case, no
points at the end, single blanks between words, and the short name in place of a synonym. Only
canonical spellings occur in the tables of factors.

Durations follow a rule of their own, in which a unit that is not known counts as minutes.

## Main definitions

* `Unit.canonical`: The canonical spelling.
* `UnitClass`, `Unit.classify`: What a unit measures.
* `Unit.massFactor?`, `Unit.volumeFactor?`: Grams and millilitres per unit.
* `toMinutes`: A duration in minutes.
* `timerUnit`: The unit of a timer as it is shown.
-/

namespace Mise

/-- What a unit measures: mass in grams per unit, volume in millilitres per unit, pieces, or
    something that is not known and therefore taken as pieces too. -/
inductive UnitClass where
  | mass (factor : Float)
  | volume (factor : Float)
  | count
  | other
  deriving DecidableEq

namespace Unit

/-- Grams per unit of mass. -/
def massFactors : List (String × Float) :=
  [("g", 1.0), ("kg", 1000.0), ("mg", 0.001), ("oz", 28.349523125), ("lb", 453.59237)]

/-- Millilitres per unit of volume. -/
def volumeFactors : List (String × Float) :=
  [("ml", 1.0), ("cl", 10.0), ("dl", 100.0), ("l", 1000.0), ("tsp", 4.92892159375),
    ("tbsp", 14.78676478125), ("floz", 29.5735295625), ("cup", 236.5882365),
    ("pint", 473.176473), ("quart", 946.352946), ("gallon", 3785.411784)]

/-- The words for one piece. -/
def countWords : List String :=
  ["unit", "piece", "each", "whole", "item"]

/-- The other spellings of a unit, each with the canonical one. -/
def synonyms : List (String × String) :=
  [("gram", "g"), ("grams", "g"), ("gramme", "g"), ("grammes", "g"), ("gr", "g"),
    ("kilogram", "kg"), ("kilograms", "kg"), ("kilogramme", "kg"), ("kilogrammes", "kg"),
    ("kgs", "kg"),
    ("milligram", "mg"), ("milligrams", "mg"), ("milligramme", "mg"),
    ("ounce", "oz"), ("ounces", "oz"),
    ("lbs", "lb"), ("pound", "lb"), ("pounds", "lb"),
    ("milliliter", "ml"), ("milliliters", "ml"), ("millilitre", "ml"), ("millilitres", "ml"),
    ("mls", "ml"),
    ("centiliter", "cl"), ("centiliters", "cl"), ("centilitre", "cl"), ("centilitres", "cl"),
    ("deciliter", "dl"), ("deciliters", "dl"), ("decilitre", "dl"), ("decilitres", "dl"),
    ("liter", "l"), ("liters", "l"), ("litre", "l"), ("litres", "l"),
    ("teaspoon", "tsp"), ("teaspoons", "tsp"), ("tsps", "tsp"),
    ("tablespoon", "tbsp"), ("tablespoons", "tbsp"), ("tbs", "tbsp"), ("tbl", "tbsp"),
    ("tbsps", "tbsp"),
    ("fl oz", "floz"), ("fl. oz", "floz"), ("fluid ounce", "floz"), ("fluid ounces", "floz"),
    ("cups", "cup"),
    ("pints", "pint"), ("pt", "pint"),
    ("quarts", "quart"), ("qt", "quart"),
    ("gallons", "gallon"), ("gal", "gallon"),
    ("units", "unit"), ("pieces", "piece"), ("pc", "piece"), ("pcs", "piece"),
    ("items", "item")]

/-- A unit in lower case, without points and white space at its ends and with single blanks
    between its words. -/
def spelling (unit : String) : String :=
  let lowered := Text.lower (Text.trim unit.toList)
  let stripped := Text.trimEnd (Text.dropEndWhile (· == '.') lowered)
  String.ofList ([' '].intercalate (Text.words stripped))

/-- The canonical spelling of a unit. -/
def canonical (unit : String) : String :=
  let s := spelling unit
  (synonyms.lookup s).getD s

/-- Grams per unit, for a unit of mass. -/
def massFactor? (unit : String) : Option Float :=
  massFactors.lookup (canonical unit)

/-- Millilitres per unit, for a unit of volume. -/
def volumeFactor? (unit : String) : Option Float :=
  volumeFactors.lookup (canonical unit)

/-- What a unit measures. No unit at all counts pieces. -/
def classify (unit : String) : UnitClass :=
  let s := canonical unit
  if s = "" ∨ s ∈ countWords then .count
  else match massFactors.lookup s with
    | some factor => .mass factor
    | none =>
      match volumeFactors.lookup s with
      | some factor => .volume factor
      | none => .other

end Unit

/-- The words for hours. -/
def hourWords : List String :=
  ["h", "hr", "hrs", "hour", "hours", "heure", "heures"]

/-- The words for seconds. -/
def secondWords : List String :=
  ["s", "sec", "secs", "second", "seconds", "seconde", "secondes"]

/-- A unit of time in lower case, without white space at its ends and points at its end. -/
def timeWord (unit : String) : String :=
  String.ofList (Text.lower (Text.dropEndWhile (· == '.') (Text.trim unit.toList)))

/-- A duration in minutes. An unknown unit, or none, means minutes. -/
def toMinutes (amount : Float) (unit : Option String) : Float :=
  match unit.map timeWord with
  | none => amount
  | some word =>
    if word ∈ hourWords then amount * 60.0
    else if word ∈ secondWords then amount / 60.0
    else amount

/-- The unit of a timer as it is shown. -/
def timerUnit (unit : String) : String :=
  if unit = "m" ∨ unit = "minutes" then "min" else unit

end Mise
