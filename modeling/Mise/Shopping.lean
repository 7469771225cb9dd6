import Mise.Dependency
import Mise.Registry

/-!
# Shopping List

The listed ingredients of all sections are merged into one list. What has one identity becomes one
entry: masses that were measured as such are added up in grams, other numbers per unit, and what
has no number is told in words. Ingredients that are parts of a parent become an entry for the
parent, of which enough are bought for the part that needs most. Alternatives are left as they are.

Before that, every ingredient on a cycle of dependencies is marked as circular.

## Main definitions

* `Tally`, `Tally.add`, `Tally.entry`: Merging the usages of one ingredient.
* `PartTally`, `PartTally.add`, `PartTally.entry`: Merging the parts of one parent.
* `ShoppingItem`: What a line of the list may be.
* `markCircular`: Marking what lies on a cycle.
* `shoppingList`: The list.
-/

namespace Mise

/-- The line of one ingredient. `remarks` are quantities in other units and those without a
    number. -/
structure ShoppingEntry where
  id : String
  name : String
  quantity : Option Float
  unit : Option String
  remarks : List String
  mass : Option Float
  estimated : Bool
  circular : Bool
  deriving DecidableEq

/-- What is needed of one part of a parent. -/
structure PartEntry where
  id : String
  name : String
  quantity : Float
  unit : Option String
  nickname : Option String
  deriving DecidableEq

/-- The line of a parent that is bought for its parts. -/
structure ParentEntry where
  id : String
  name : String
  quantity : Float
  mass : Option MassFigure
  parts : List PartEntry
  deriving DecidableEq

/-- A line of the shopping list. -/
inductive ShoppingItem where
  | ingredient (e : ShoppingEntry)
  | parent (e : ParentEntry)
  | alternative (options : List Usage)

/-- What is remarked about a usage on a cycle. -/
def circularRemark : String := "⚠️ Circular reference"

/-- A quantity with its unit, if it has one. -/
def withUnit (quantity : String) (unit : Option String) : String :=
  match unit with
  | none => quantity
  | some unit => if unit = "" then quantity else quantity ++ " " ++ unit

/-- What the usages of one ingredient add up to so far: grams that were measured as mass, other
    numbers per unit, remarks, and all that is known of the mass. -/
structure Tally where
  name : String
  sureGrams : Float
  otherUnits : Ledger String Float
  remarks : List String
  mass : Float
  weighed : Bool
  estimated : Bool
  circular : Bool

namespace Tally

/-- A tally before its first usage. -/
def empty (name : String) : Tally where
  name := name
  sureGrams := 0.0
  otherUnits := []
  remarks := []
  mass := 0.0
  weighed := false
  estimated := false
  circular := false

/-- Add a remark. -/
def remark (t : Tally) (s : String) : Tally :=
  { t with remarks := t.remarks ++ [s] }

/-- Add the number of a usage: to the grams if it was measured as mass, else to its unit. -/
def addNumber (t : Tally) (x : Float) (unit : Option String) (mass : Option MassFigure) : Tally :=
  match mass.filter fun m => m.method == .physical with
  | some m => { t with sureGrams := t.sureGrams + m.grams }
  | none => { t with otherUnits := t.otherUnits.alter (unit.getD "") 0.0 (· + x) }

/-- Add the quantity of a usage. A ghost only leaves its formula. -/
def addQuantity (t : Tally) (u : ItemUsage) : Tally :=
  match u.formula.filter Formula.ghost with
  | some f => t.remark ("(" ++ f.raw ++ " ❓)")
  | none =>
    match u.number? with
    | some x => t.addNumber x u.unit u.mass
    | none =>
      match u.quantity with
      | some amount => t.remark (withUnit amount.display u.unit)
      | none => t

/-- Note whether a usage lies on a cycle. -/
def addCircular (t : Tally) (u : ItemUsage) : Tally :=
  if u.circular then
    let t := if u.isGhost then t else t.remark circularRemark
    { t with circular := true }
  else t

/-- Add the mass of a usage. -/
def addMass (t : Tally) (u : ItemUsage) : Tally :=
  match u.knownMass? with
  | some m =>
    { t with mass := t.mass + m.grams, weighed := true, estimated := t.estimated || m.estimated }
  | none => t

/-- Add a usage. -/
def add (t : Tally) (u : ItemUsage) : Tally :=
  ((t.addQuantity u).addCircular u).addMass u

/-- The numbers per unit, rounded. -/
def others (t : Tally) : List (String × Float) :=
  t.otherUnits.map fun e => (e.1, round2 e.2)

/-- The main quantity, and the numbers that are left for remarks. Grams come first, then the first
    of the other units. -/
def mainQuantity (t : Tally) : Option Float × Option String × List (String × Float) :=
  if 0.0 < t.sureGrams then (some (round2 t.sureGrams), some "g", t.others)
  else match t.others with
    | (unit, x) :: rest => (some x, if unit = "" then none else some unit, rest)
    | [] => (none, none, [])

/-- The line that a tally makes. -/
def entry (t : Tally) (id : String) : ShoppingEntry :=
  let (quantity, unit, rest) := t.mainQuantity
  { id, quantity, unit
    name := t.name
    remarks := rest.map (fun e => withUnit (displayNumber e.2) (some e.1)) ++ t.remarks
    mass := if t.weighed then some (round2 t.mass) else none
    estimated := t.estimated
    circular := t.circular }

end Tally

/-- What the parts of one parent add up to so far: the parents needed per part, and the numbers per
    part and unit. -/
structure PartTally where
  name : String
  parentsPerPart : Ledger String Float
  parts : Ledger (String × String) PartEntry

namespace PartTally

/-- A tally before its first part. -/
def empty (name : String) : PartTally := ⟨name, [], []⟩

/-- The parents that a usage declares. -/
def parentsOf (u : ItemUsage) : Float :=
  ((u.parent.bind ParentRef.quantity).bind Amount.number?).getD 0.0

/-- Add a usage. -/
def add (t : PartTally) (u : ItemUsage) : PartTally where
  name := t.name
  parentsPerPart := t.parentsPerPart.alter u.id 0.0 (· + parentsOf u)
  parts := t.parts.alter (u.id, u.unit.getD "") ⟨u.id, u.name, 0.0, u.unit, u.nickname⟩ fun p =>
    { p with quantity := p.quantity + u.number?.getD 0.0 }

/-- The line that a tally makes. Each parent yields all its parts, so the part that needs most
    parents decides. -/
def entry (t : PartTally) (id : String) (weighing : Weighing) : ParentEntry :=
  let quantity := (t.parentsPerPart.map Prod.snd).foldl maxNumber 0.0
  { id, quantity
    name := t.name
    mass := weighing.mass? quantity "" t.name
    parts := t.parts.map Prod.snd }

end PartTally

/-- The ingredients and alternatives that sections list, in order. -/
def listedUsages (sections : List Section) : List Usage :=
  sections.flatMap Section.ingredients

/-- The merged lists while usages are added. -/
structure Basket where
  standard : Ledger String Tally
  parents : Ledger String PartTally
  alternatives : List (List Usage)

namespace Basket

/-- No usages at all. -/
def empty : Basket := ⟨[], [], []⟩

/-- Add an ingredient, to the tally of its parent if it is part of one. -/
def addItem (registry : Registry) (b : Basket) (u : ItemUsage) : Basket :=
  match u.parent with
  | some p =>
    let id := slugify p.parent
    let name := (registry.ingredientName? id).getD p.parent
    { b with parents := b.parents.alter id (.empty name) (·.add u) }
  | none =>
    let name := (registry.ingredientName? u.id).getD u.name
    { b with standard := b.standard.alter u.id (.empty name) (·.add u) }

/-- Add a listed usage. -/
def add (registry : Registry) (b : Basket) : Usage → Basket
  | .ingredient u => b.addItem registry u
  | .alternative options => { b with alternatives := b.alternatives ++ [options] }
  | _ => b

/-- The lines of the list: ingredients, parents, alternatives. -/
def items (b : Basket) (weighing : Weighing) : List ShoppingItem :=
  b.standard.map (fun e => .ingredient (e.2.entry e.1))
    ++ b.parents.map (fun e => .parent (e.2.entry e.1 weighing))
    ++ b.alternatives.map .alternative

end Basket

mutual

/-- A usage in which the ingredients with the given identities are marked as circular. -/
def Usage.mark (ids : Names) : Usage → Usage
  | .ingredient u => .ingredient (if ids.has u.id then { u with circular := true } else u)
  | .alternative options => .alternative (Usage.markAll ids options)
  | u => u

/-- `Usage.mark` on each usage of a list. -/
def Usage.markAll (ids : Names) : List Usage → List Usage
  | [] => []
  | u :: us => u.mark ids :: Usage.markAll ids us

end

/-- `Usage.mark` on a piece of content. -/
def StepContent.mark (ids : Names) : StepContent → StepContent
  | .text s => .text s
  | .usage u => .usage (u.mark ids)

/-- `Usage.mark` on the content of a step. -/
def Step.mark (ids : Names) (s : Step) : Step :=
  { s with content := s.content.map (·.mark ids) }

/-- `Usage.mark` on the content of a step; a comment has none. -/
def StepBlock.mark (ids : Names) : StepBlock → StepBlock
  | .step s => .step (s.mark ids)
  | .comment c => .comment c

/-- `Usage.mark` on the ingredients and steps of a section. The list of cookware stays as it
    is. -/
def Section.mark (ids : Names) (s : Section) : Section :=
  { s with
    ingredients := Usage.markAll ids s.ingredients
    blocks := s.blocks.map (·.mark ids) }

/-- Sections in which every ingredient that is reported as lying on a cycle is marked. -/
def markCircular (sections : List Section) : List Section :=
  sections.map (·.mark (circularIdentities sections))

/-- The shopping list of sections that are marked already. -/
def mergedList (weighing : Weighing) (registry : Registry) (sections : List Section) :
    List ShoppingItem :=
  ((listedUsages sections).foldl (Basket.add registry) .empty).items weighing

/-- The shopping list of compiled sections, and the sections with their circular ingredients
    marked. -/
def shoppingList (weighing : Weighing) (registry : Registry) (sections : List Section) :
    List ShoppingItem × List Section :=
  let sections := markCircular sections
  (mergedList weighing registry sections, sections)

open Data (ofNumber ofOption ofTexts flag)

/-- The line of an ingredient as data. -/
def ShoppingEntry.fields (e : ShoppingEntry) : List (String × Data) :=
  [("id", .text e.id), ("name", .text e.name), ("qty", ofOption ofNumber e.quantity),
    ("unit", ofOption .text e.unit), ("variable_entries", ofTexts e.remarks),
    ("normalizedMass", ofOption ofNumber e.mass)]
    ++ flag "isEstimate" e.estimated
    ++ flag "isCircular" e.circular

/-- A part as data. -/
def PartEntry.toData (e : PartEntry) : Data :=
  .record [("id", .text e.id), ("name", .text e.name), ("qty", ofNumber e.quantity),
    ("unit", ofOption .text e.unit), ("alias", ofOption .text e.nickname)]

/-- The line of a parent as data. -/
def ParentEntry.fields (e : ParentEntry) : List (String × Data) :=
  [("id", .text e.id), ("name", .text e.name), ("qty", ofNumber e.quantity)]
    ++ massFields e.mass
    ++ [("usage", .list (e.parts.map PartEntry.toData))]

/-- A line of the shopping list as data. -/
def ShoppingItem.toData : ShoppingItem → Data
  | .ingredient e => .record (("type", .text "ingredient") :: e.fields)
  | .parent e => .record (("type", .text "composite") :: e.fields)
  | .alternative options => (Usage.alternative options).toData

end Mise
