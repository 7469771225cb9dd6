import Mise.Dictionary
import Mise.Text.Blank

/-!
# Recipe Documents

A recipe as its author wrote it: metadata and a tree of sections, steps and the items inside steps.
Nothing is resolved here. Names are display names, quantities are as written, and a mention of an
earlier preparation is only a name.

Recipes without section headers list their steps directly under the root. Sections may be nested in
the document, although only the outermost ones are compiled.

## Main definitions

* `MetaValue`, `Meta`: Metadata.
* `Figure`: A number as written, with its fraction or range, or words in its place.
* `Quantity`: A figure with a unit, a share of something else, or words.
* `Item`: What a step contains.
* `Block`: What a section contains.
* `Recipe`: The root.

## Theorems

* `Item.induction`: Induction on items and the options inside them.
-/

namespace Mise

/-- A metadata value: a text, a list of texts or a number. -/
inductive MetaValue where
  | text (s : String)
  | list (items : List String)
  | number (x : Float)
  deriving Inhabited, DecidableEq

/-- Metadata in ascending order of the keys. -/
abbrev Meta := Dictionary MetaValue

/-- The ends of a range. -/
structure Bounds where
  min : Float
  max : Float
  deriving DecidableEq

/-- A number as written. A fraction and a range carry their parts and their text, and a range is
    computed with as the mean of its bounds. -/
inductive Figure where
  | single (value : Float) (text : Option String)
  | fraction (value : Float) (numerator denominator : Option Float) (text : Option String)
  | range (value : Float) (bounds : Option Bounds) (text : Option String)
  | words (text : String)
  deriving DecidableEq

/-- The number to compute with; words have none. -/
def Figure.number? : Figure → Option Float
  | .single value _ => some value
  | .fraction value _ _ _ => some value
  | .range value none _ => some value
  | .range _ (some bounds) _ => some ((bounds.min + bounds.max) / 2.0)
  | .words _ => none

/-- A figure with a unit. A fixed quantity does not scale with the number of servings. -/
structure Measured where
  figure : Option Figure
  unit : Option String
  fixed : Bool
  deriving DecidableEq

/-- A unit, unless it is blank. -/
def nonBlank? (unit : Option String) : Option String :=
  unit.filter fun u => !Text.isBlankText u

/-- What a share is taken of: a preparation, or an ingredient used earlier in the section. -/
inductive ShareOf where
  | preparation
  | ingredient
  deriving DecidableEq

/-- The sign in front of the target in the formula of a share. -/
def ShareOf.marker : ShareOf → String
  | .preparation => "&"
  | .ingredient => "@"

/-- A percentage of something else. -/
structure Share where
  percent : Float
  target : String
  of : ShareOf
  deriving DecidableEq

/-- A quantity attached to an item. -/
inductive Quantity where
  | measured (m : Measured)
  | share (s : Share)
  | words (text : String)
  deriving DecidableEq

/-- Whether a quantity is actually given; a measured one may lack its figure. -/
def Quantity.isPresent : Quantity → Bool
  | .measured m => m.figure.isSome
  | .share _ => true
  | .words _ => true

/-- The unit of a measured quantity, unless it is blank. -/
def Quantity.unit? : Quantity → Option String
  | .measured m => nonBlank? m.unit
  | .share _ => none
  | .words _ => none

/-- A parent item that an ingredient is a part of, and how many parents are taken for it. -/
structure Origin where
  parent : String
  quantity : Option Measured
  deriving DecidableEq

/-- An ingredient in a step. -/
structure IngredientItem where
  name : String
  modifiers : List String
  quantity : Option Quantity
  nickname : Option String
  preparation : Option String
  origin : Option Origin
  deriving DecidableEq

/-- A piece of cookware in a step. -/
structure CookwareItem where
  name : String
  modifiers : List String
  nickname : Option String
  quantity : Option Quantity
  preparation : Option String
  deriving DecidableEq

/-- A mention of an earlier ingredient or preparation. -/
structure Mention where
  name : String
  quantity : Option Quantity
  deriving DecidableEq

/-- A timer. A background timer leaves the cook free. -/
structure TimerItem where
  name : Option String
  quantity : Option Quantity
  background : Bool
  deriving DecidableEq

/-- A temperature. -/
structure TemperatureItem where
  name : Option String
  quantity : Option Quantity
  deriving DecidableEq

/-- Whether a comment takes the rest of a line or is enclosed. -/
inductive CommentKind where
  | line
  | block
  deriving Inhabited, DecidableEq

/-- A comment. -/
structure Comment where
  value : String
  kind : CommentKind
  deriving DecidableEq

/-- What a step contains. The options of an alternative exclude one another, and a declaration
    says that the step produces a preparation. -/
inductive Item where
  | ingredient (i : IngredientItem)
  | cookware (c : CookwareItem)
  | mention (m : Mention)
  | alternative (options : List Item)
  | timer (t : TimerItem)
  | temperature (t : TemperatureItem)
  | text (s : String)
  | comment (c : Comment)
  | declaration (name : String)

/-- Induction on items: what holds of an alternative if it holds of its options, and of everything
    else anyway, holds of every item. -/
@[elab_as_elim]
theorem Item.induction {P : Item → Prop} (single : ∀ i, (∀ options, i ≠ .alternative options) → P i)
    (alternative : ∀ options, (∀ option ∈ options, P option) → P (.alternative options))
    (i : Item) : P i := by
  refine @Item.rec P (fun is => ∀ i ∈ is, P i) (fun _ => ?_) (fun _ => ?_) (fun _ => ?_)
    alternative (fun _ => ?_) (fun _ => ?_) (fun _ => ?_) (fun _ => ?_) (fun _ => ?_) ?_ ?_ i
  -- An empty list of options has no members, and a longer one has its first and the others.
  case refine_9 => exact fun i h => absurd h List.not_mem_nil
  case refine_10 =>
    intro first rest hfirst hrest i h
    rcases List.mem_cons.1 h with rfl | hmem
    · exact hfirst
    · exact hrest i hmem
  all_goals exact single _ (fun options h => by simp only [reduceCtorEq] at h)

/-- A step: an action verb and its content in order. -/
structure StepNode where
  action : Option String
  items : List Item

/-- The header of a section. `produces` is the preparation that the whole section makes. -/
structure SectionHeader where
  title : Option String
  retroPlanning : Option String
  produces : Option String
  deriving DecidableEq

/-- What a section contains. -/
inductive Block where
  | section (header : SectionHeader) (children : List Block)
  | step (s : StepNode)
  | comment (c : Comment)

/-- A document. Its kind is what the root calls itself. -/
structure Recipe where
  kind : String
  info : Meta
  children : List Block

/-- The kind of a document that is a recipe. -/
def recipeKind : String := "Recipe"

/-- Whether a document is a recipe. -/
def Recipe.isRecipe (r : Recipe) : Bool :=
  r.kind == recipeKind

/-- The single text that a metadata value is, if it is one. -/
def MetaValue.asText? : MetaValue → Option String
  | .text s => some s
  | .list _ => none
  | .number _ => none

/-- The title in the metadata. -/
def Recipe.title? (r : Recipe) : Option String :=
  (r.info.get? "title").bind MetaValue.asText?

end Mise
