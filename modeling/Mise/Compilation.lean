import Mise.Data.Prune
import Mise.Digest
import Mise.Ingredient.Staple
import Mise.Json.Printer
import Mise.Metrics
import Mise.Resolution.Section
import Mise.Shopping

/-!
# Compilations

A compiled recipe: its entries, its shopping list, its sections with usages resolved and steps
laid out in time, and figures about the whole. Only a document that calls itself something else
than a recipe is refused; whatever else is wrong with it becomes a warning.

A compilation is written as data without anything absent: `null` and empty lists are pruned. Its
digest is that of the compact text.

## Main definitions

* `Compilation`: A compiled recipe.
* `finishRecipe`: What is made of the compiled sections of a recipe.
* `compile?`: Compiling a document.
* `Compilation.data`, `Compilation.text`, `Compilation.fingerprint`: How it is written.
-/

namespace Mise

/-- Figures about a whole recipe. -/
structure RecipeMetrics where
  totalTime : Float
  activeTime : Float
  preparationTime : Nat
  mass : MassTotal
  nutrition : Option Nutrition
  deriving DecidableEq

/-- A compiled recipe. -/
structure Compilation where
  title : Option String
  slug : Option String
  info : Meta
  registry : Registry
  shopping : List ShoppingItem
  cookware : List Usage
  sections : List Section
  warnings : List Warning
  metrics : RecipeMetrics

/-- What recipes are compiled with: overrides, which those of a recipe itself are laid over, and a
    source of properties. -/
structure CompileOptions where
  overrides : Overrides
  source : IngredientSource

/-- No overrides, and the staples. -/
def CompileOptions.default : CompileOptions := ⟨Dictionary.empty, stapleSource⟩

/-- A section with the total of its ingredients. -/
def Section.weighed (s : Section) : Section :=
  { s with mass := some (.ofUsages s.ingredients) }

/-- The cookware of a recipe: what its sections list, without mentions. -/
def recipeCookware (sections : List Section) : List Usage :=
  (sections.flatMap Section.cookware).filter fun u =>
    match u with
    | .cookware item => !item.hasModifier .reference
    | _ => true

/-- The overrides that hold for a recipe. -/
def CompileOptions.overridesFor (o : CompileOptions) (r : Recipe) : Overrides :=
  o.overrides.overlay (Overrides.ofMeta r.info)

/-- The compilation of a recipe, given its compiled sections. -/
def finishRecipe (o : CompileOptions) (r : Recipe) (compiled : CompiledSections) : Compilation :=
  let weighing : Weighing := ⟨o.overridesFor r, o.source⟩
  let (shopping, sections) :=
    shoppingList weighing compiled.registry (compiled.sections.map Section.weighed)
  { title := r.title?
    slug := r.title?.map slugify
    info := r.info
    registry := compiled.registry
    shopping
    cookware := recipeCookware sections
    sections
    warnings := compiled.warnings
    metrics := {
      totalTime := compiled.schedule.totalTime
      activeTime := compiled.schedule.activeTime
      preparationTime := preparationTime compiled.registry sections
      mass := .ofUsages (countedUsages sections)
      nutrition := Nutrition.estimate? o.source r.info (countedUsages sections) } }

/-- Compile a document that is a recipe. -/
def compileRecipe (o : CompileOptions) (r : Recipe) : Compilation :=
  finishRecipe o r (compileSections ⟨o.overridesFor r, o.source⟩ r.children)

/-- Compile a document, unless it is no recipe. -/
def compile? (o : CompileOptions) (r : Recipe) : Option Compilation :=
  if r.isRecipe then some (compileRecipe o r) else none

open Data (ofNumber ofOption)

/-- Figures about a recipe as data. -/
def RecipeMetrics.toData (m : RecipeMetrics) : Data :=
  .record (
    [("totalTime", ofNumber m.totalTime), ("activeTime", ofNumber m.activeTime),
      ("preparationTime", .int m.preparationTime)]
      ++ m.mass.fields
      ++ [("nutrition", ofOption Nutrition.toData m.nutrition)])

namespace Compilation

/-- The fields of a compilation, absent ones included. -/
def fields (c : Compilation) : List (String × Data) :=
  [("title", ofOption .text c.title), ("slug", ofOption .text c.slug), ("meta", metaData c.info),
    ("registry", c.registry.toData), ("shopping_list", .list (c.shopping.map ShoppingItem.toData)),
    ("cookware", .list (c.cookware.map Usage.toData)),
    ("sections", .list (c.sections.map Section.toData)),
    ("warnings", .list (c.warnings.map Warning.toData)), ("metrics", c.metrics.toData)]

/-- A compilation as data without anything absent. -/
def data (c : Compilation) : Data :=
  ((Data.record c.fields).prune).getD (.record [])

/-- A compilation as JSON. -/
def text (c : Compilation) (pretty : Bool) : String :=
  if pretty then Json.pretty c.data else Json.compact c.data

/-- The digest of a compilation. -/
def fingerprint (c : Compilation) : String :=
  Digest.ofText (c.text false)

end Compilation

end Mise
