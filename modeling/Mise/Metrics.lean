import Mise.Metadata
import Mise.Registry
import Mise.Section

/-!
# Metrics

Figures about a whole recipe besides its mass: how long it takes to get everything ready, and what
nutrients it has, as far as they can be known.

## Main definitions

* `countedUsages`: The usages that count in the totals of a recipe.
* `preparationTime`: Minutes to get everything ready.
* `Nutrition`: An estimate of nutrients.
* `Nutrition.estimate?`: The estimate for usages.
-/

namespace Mise

/-- The listed usages that count in the totals of a recipe: all but mentions of ingredients that
    were listed before. -/
def countedUsages (sections : List Section) : List Usage :=
  (sections.flatMap Section.ingredients).filter fun u =>
    match u.counted? with
    | some item => !item.hasModifier .reference
    | none => true

/-- Minutes for each entry of the registry. -/
def minutesPerEntry : Nat := 1

/-- Minutes for each usage that has to be prepared. -/
def minutesPerPreparation : Nat := 2

mutual

/-- The minutes that preparing a usage takes; of an alternative, those of the longest option. -/
def Usage.preparationMinutes : Usage → Nat
  | .ingredient u => if u.preparation.isSome then minutesPerPreparation else 0
  | .alternative options => Usage.longestPreparation options
  | _ => 0

/-- The longest preparation among usages. -/
def Usage.longestPreparation : List Usage → Nat
  | [] => 0
  | u :: us => max u.preparationMinutes (Usage.longestPreparation us)

end

/-- Minutes to get everything ready: fetching what the registry lists and preparing what the steps
    use. -/
def preparationTime (registry : Registry) (sections : List Section) : Nat :=
  (registry.ingredients.length + registry.cookware.length) * minutesPerEntry
    + ((sections.flatMap Section.contentUsages).map Usage.preparationMinutes).foldl (· + ·) 0

/-- Nutrients of a whole recipe and of one portion, with the share of the ingredients that they
    could be computed from. -/
structure Nutrition where
  total : Macros
  perPortion : Option Macros
  coverage : Float
  deriving DecidableEq

namespace Macros

/-- No nutrients. -/
def zero : Macros := ⟨0.0, 0.0, 0.0, 0.0⟩

/-- Nutrients with those of so many times a hundred grams of something added. -/
def addScaled (m per100 : Macros) (factor : Float) : Macros :=
  ⟨m.calories + per100.calories * factor, m.protein + per100.protein * factor,
    m.carbs + per100.carbs * factor, m.fat + per100.fat * factor⟩

/-- The nearest tenth. -/
def tenth (x : Float) : Float :=
  roundHalfAway (x * 10.0) / 10.0

/-- The nutrients of one of so many portions: calories to the nearest whole number, grams to the
    nearest tenth. -/
def portion (m : Macros) (portions : Float) : Macros :=
  ⟨roundHalfAway (m.calories / portions), tenth (m.protein / portions),
    tenth (m.carbs / portions), tenth (m.fat / portions)⟩

/-- Nutrients as data. -/
def toData (m : Macros) : Data :=
  .record [("calories", Data.ofNumber m.calories), ("protein", Data.ofNumber m.protein),
    ("carbs", Data.ofNumber m.carbs), ("fat", Data.ofNumber m.fat)]

end Macros

namespace Nutrition

/-- The metadata keys for the number of portions, the first that has a number counts. -/
def portionKeys : List String := ["servings", "portions"]

/-- The number of portions of a recipe, one if it does not say. -/
def portions (info : Meta) : Float :=
  (portionKeys.findSome? info.number?).getD 1.0

/-- What an ingredient contributes: how many times a hundred grams of which nutrients. It has to
    have a mass, and its nutrients have to be known. -/
def contribution? (source : IngredientSource) (u : ItemUsage) : Option (Macros × Float) :=
  match u.knownMass? with
  | none => none
  | some m =>
    if 0.0 < m.grams then
      ((source.lookup? u.name).bind Properties.macros).map fun per100 => (per100, m.grams / 100.0)
    else none

/-- The nutrients that ingredients add up to. -/
def sum (contributions : List (Macros × Float)) : Macros :=
  contributions.foldl (fun total c => total.addScaled c.1 c.2) .zero

/-- The estimate for usages, unless none of them counts. -/
def estimate? (source : IngredientSource) (info : Meta) (usages : List Usage) :
    Option Nutrition :=
  let items := usages.filterMap Usage.counted?
  if items.isEmpty then none
  else
    let contributions := items.filterMap (contribution? source)
    let total := sum contributions
    let portions := portions info
    some {
      total := total.portion 1.0
      perPortion := if 1.0 < portions then some (total.portion portions) else none
      coverage := round2 (Float.ofNat contributions.length / Float.ofNat items.length) }

/-- An estimate as data. -/
def toData (n : Nutrition) : Data :=
  .record [("total", n.total.toData), ("perPortion", Data.ofOption Macros.toData n.perPortion),
    ("isEstimate", .bool true), ("coverage", Data.ofNumber n.coverage)]

end Nutrition

end Mise
