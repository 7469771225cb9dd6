import Mise.Document
import Mise.Mass

/-!
# Usages

An item of the document turns into a usage when it is resolved: it gets an identity, a mass if it
can be weighed, and whatever it depends on. The options of an alternative are usages themselves.

A share of something that could not be weighed leaves a ghost: a usage whose formula is known but
whose mass must not be counted.

## Main definitions

* `Amount`: A number, words, or a figure with its parts.
* `Modifier`: What a modifier symbol means.
* `Formula`: The share that a quantity was resolved from.
* `ItemUsage`: The usage of an ingredient or of a piece of cookware.
* `Usage`: Any usage.
* `Usage.counted?`: The ingredient that a usage counts as in totals.

## Theorems

* `Usage.induction`: Induction on usages and the options inside them.
-/

namespace Mise

/-- The amount of a usage. -/
inductive Amount where
  | number (x : Float)
  | words (s : String)
  | figure (f : Figure)
  deriving DecidableEq

/-- A figure as it is shown: its own text if it has parts, the number otherwise. -/
def Figure.display : Figure → String
  | .single value _ => displayNumber value
  | .fraction value _ _ text => text.getD (displayNumber value)
  | .range value _ text => text.getD (displayNumber value)
  | .words text => text

namespace Amount

/-- The amount that a figure of the document makes. A number and words need no parts. -/
def ofFigure : Figure → Amount
  | .single value _ => .number value
  | .words text => .words text
  | f => .figure f

/-- The number to compute with. -/
def number? : Amount → Option Float
  | .number x => some x
  | .words _ => none
  | .figure f => f.number?

/-- An amount as it is shown. -/
def display : Amount → String
  | .number x => displayNumber x
  | .words s => s
  | .figure f => f.display

end Amount

/-- What a modifier symbol means; other symbols are kept as they are. -/
inductive Modifier where
  | optional
  | hidden
  | reference
  | bakersPercentage
  | other (symbol : String)
  deriving DecidableEq

namespace Modifier

/-- The meaning of a symbol. -/
def ofSymbol (symbol : String) : Modifier :=
  if symbol = "?" then .optional
  else if symbol = "-" then .hidden
  else if symbol = "&" then .reference
  else if symbol = "*" then .bakersPercentage
  else .other symbol

/-- The name of a modifier in data. -/
def name : Modifier → String
  | .optional => "optional"
  | .hidden => "hidden"
  | .reference => "reference"
  | .bakersPercentage => "bakers_percentage"
  | .other symbol => symbol

end Modifier

/-- The share that a quantity was resolved from. It is a ghost if its target had no mass. -/
structure Formula where
  raw : String
  target : String
  percent : Float
  ghost : Bool
  deriving DecidableEq

/-- The parent of a usage that is part of something, and how many parents it takes. -/
structure ParentRef where
  parent : String
  quantity : Option Amount
  unit : Option String
  deriving DecidableEq

/-- The usage of an ingredient or of a piece of cookware. -/
structure ItemUsage where
  id : String
  name : String
  quantity : Option Amount
  unit : Option String
  parent : Option ParentRef
  nickname : Option String
  preparation : Option String
  modifiers : List Modifier
  mass : Option MassFigure
  fixed : Option Bool
  circular : Bool
  dependencies : List String
  formula : Option Formula
  deriving DecidableEq

namespace ItemUsage

/-- A usage of which only identity and name are known. -/
def named (id name : String) : ItemUsage where
  id := id
  name := name
  quantity := none
  unit := none
  parent := none
  nickname := none
  preparation := none
  modifiers := []
  mass := none
  fixed := none
  circular := false
  dependencies := []
  formula := none

/-- Whether a usage is a share of something that had no mass. -/
def isGhost (u : ItemUsage) : Bool :=
  u.formula.any Formula.ghost

/-- The mass that counts in totals; a ghost has none. -/
def knownMass? (u : ItemUsage) : Option MassFigure :=
  if u.isGhost then none else u.mass

/-- Whether a usage carries a modifier. -/
def hasModifier (u : ItemUsage) (m : Modifier) : Bool :=
  u.modifiers.contains m

/-- The number of a usage's quantity. -/
def number? (u : ItemUsage) : Option Float :=
  u.quantity.bind Amount.number?

end ItemUsage

/-- A mention of an ingredient or of a preparation. -/
structure MentionUsage where
  id : String
  name : String
  quantity : Option Amount
  unit : Option String
  mass : Option MassFigure
  deriving DecidableEq

/-- A timer. -/
structure TimerUsage where
  name : Option String
  quantity : Option Figure
  unit : Option String
  background : Bool
  deriving DecidableEq

/-- A temperature. -/
structure TemperatureUsage where
  name : Option String
  quantity : Option Figure
  unit : Option String
  deriving DecidableEq

/-- What an item of the document was resolved to. -/
inductive Usage where
  | ingredient (u : ItemUsage)
  | cookware (u : ItemUsage)
  | mention (m : MentionUsage)
  | alternative (options : List Usage)
  | timer (t : TimerUsage)
  | temperature (t : TemperatureUsage)
  | comment (c : Comment)
  deriving Inhabited

namespace Usage

/-- Induction on usages: what holds of an alternative if it holds of its options, and of everything
    else anyway, holds of every usage. -/
@[elab_as_elim]
theorem induction {P : Usage → Prop} (single : ∀ u, (∀ options, u ≠ .alternative options) → P u)
    (alternative : ∀ options, (∀ option ∈ options, P option) → P (.alternative options))
    (u : Usage) : P u := by
  refine @Usage.rec P (fun us => ∀ u ∈ us, P u) (fun _ => ?_) (fun _ => ?_) (fun _ => ?_)
    alternative (fun _ => ?_) (fun _ => ?_) (fun _ => ?_) ?_ ?_ u
  -- An empty list of options has no members, and a longer one has its first and the others.
  case refine_7 => exact fun u h => absurd h List.not_mem_nil
  case refine_8 =>
    intro first rest hfirst hrest u h
    rcases List.mem_cons.1 h with rfl | hmem
    · exact hfirst
    · exact hrest u hmem
  all_goals exact single _ (fun options h => by simp only [reduceCtorEq] at h)

/-- The ingredient that a usage is. -/
def ingredient? : Usage → Option ItemUsage
  | .ingredient u => some u
  | _ => none

/-- The ingredient that a usage counts as in totals: itself, or the first option of an
    alternative. -/
def counted? : Usage → Option ItemUsage
  | .ingredient u => some u
  | .alternative options => options.head?.bind ingredient?
  | _ => none

end Usage

end Mise
