import Mise.Data
import Mise.Ingredient
import Mise.Override
import Mise.Unit

/-!
# Mass

A quantity of an ingredient is converted to grams by the first rule that applies. A unit of mass
converts by itself. A volume is multiplied by a density: the override, the density from the source,
or that of water. Anything else is taken as a number of pieces and multiplied by the weight of a
piece, from the override or the source; without one there is no mass.

Each figure says which rule it comes from and whether it is only an estimate.

## Main definitions

* `MassMethod`: The rules.
* `MassFigure`: Grams with the rule they come from.
* `Weighing`: Overrides together with a source of properties.
* `Weighing.mass?`: The mass of a quantity.
-/

namespace Mise

/-- The rule that a mass comes from. A mass by `preparation` is not converted but taken over from
    a preparation that was weighed before. -/
inductive MassMethod where
  | physical
  | density
  | pieceWeight
  | water
  | explicit
  | preparation
  deriving DecidableEq

/-- The name of a rule in data. -/
def MassMethod.name : MassMethod → String
  | .physical => "physical"
  | .density => "density"
  | .pieceWeight => "unit_weight"
  | .water => "default"
  | .explicit => "explicit"
  | .preparation => "variable"

/-- Whether a rule relies on a typical figure, not on one that belongs to the quantity. -/
def MassMethod.isTypical : MassMethod → Bool
  | .density => true
  | .water => true
  | .pieceWeight => true
  | _ => false

/-- Grams, with the rule they come from. -/
structure MassFigure where
  grams : Float
  method : MassMethod
  estimated : Bool
  deriving DecidableEq

/-- A converted mass. -/
def MassFigure.of (grams : Float) (method : MassMethod) : MassFigure :=
  ⟨grams, method, method.isTypical⟩

/-- The fields of a mass in data. -/
def MassFigure.fields (m : MassFigure) : List (String × Data) :=
  [("normalizedMass", Data.ofNumber m.grams), ("conversionMethod", .text m.method.name),
    ("isEstimate", .bool m.estimated)]

/-- The fields of a mass, none if there is no mass. -/
def massFields : Option MassFigure → List (String × Data)
  | some m => m.fields
  | none => []

/-- The density of water in grams per millilitre. -/
def waterDensity : Float := 1.0

/-- The mass of a quantity of something whose override and properties are given. -/
def convert? (amount : Float) (unit : String) (override : Option Float)
    (properties : Option Properties) : Option MassFigure :=
  match Unit.classify unit with
  | .mass factor => some (.of (amount * factor) .physical)
  | .volume factor =>
    match override with
    | some density => some (.of (amount * factor * density) .explicit)
    | none =>
      match properties.bind Properties.density with
      | some density => some (.of (amount * factor * density) .density)
      | none => some (.of (amount * factor * waterDensity) .water)
  | _ =>
    match override with
    | some grams => some (.of (amount * grams) .explicit)
    | none =>
      (properties.bind Properties.pieceWeight).map fun weight => .of (amount * weight) .pieceWeight

/-- What is needed to weigh ingredients: overrides and a source of properties. -/
structure Weighing where
  overrides : Overrides
  source : IngredientSource

namespace Weighing

/-- The mass of a quantity of an ingredient, or of something without a name. -/
def massOf? (w : Weighing) (amount : Float) (unit : String) (name : Option String) :
    Option MassFigure :=
  convert? amount unit (name.bind w.overrides.of?) (name.bind w.source.lookup?)

/-- The mass of a quantity of an ingredient. -/
def mass? (w : Weighing) (amount : Float) (unit : String) (name : String) : Option MassFigure :=
  w.massOf? amount unit (some name)

end Weighing

end Mise
