import Mise.Registry
import Mise.Scope
import Mise.Section
import Mise.Warning

/-!
# Resolution of Items

The items of a recipe are resolved one after another in the order of the document. Each turns into
a usage, and on the way it may make entries in the registry, give rise to warnings and change what
later items can refer to. All of that is kept in a `Walk`.

The usages of a section are also listed, for the shopping list and as targets of shares. A bare
mention of an ingredient is not listed: it adds nothing to buy. The options of an alternative see
one another as if each were listed, but what they list is dropped with the group's end and the
group is listed as a whole, by the kind of its first option.

## Main definitions

* `Walk`: What has been found out so far.
* `Listed`: The usages that a section has listed so far.
* `Resolved`: What an item contributes to the content of its step.
* `resolveShare`, `resolveIngredient`, `resolveCookware`, `resolveMention`, `resolveMeasured`: The
  kinds of items.
* `resolveItem`, `resolveOptions`: Any item, and the options of an alternative.
-/

namespace Mise

/-- What has been found out on the way through a recipe: its entries, what can be referred to, the
    timeline, and the warnings in the order they were raised. -/
structure Walk where
  registry : Registry
  scope : Scope
  schedule : Schedule
  warnings : List Warning

namespace Walk

/-- The walk before its first step. -/
def start : Walk := ⟨Registry.empty, Scope.empty, Schedule.empty, []⟩

/-- Raise a warning. -/
def warn (w : Walk) (warning : Warning) : Walk :=
  { w with warnings := w.warnings ++ [warning] }

/-- Raise a warning under a condition. -/
def warnIf (w : Walk) (condition : Bool) (warning : Warning) : Walk :=
  if condition then w.warn warning else w

theorem warnIf_eq (w : Walk) (condition : Bool) (warning : Warning) :
    w.warnIf condition warning
      = { w with warnings := w.warnings ++ if condition then [warning] else [] } := by
  cases condition with
  | false => rw [warnIf, if_neg Bool.false_ne_true, if_neg Bool.false_ne_true, List.append_nil]
  | true => rw [warnIf, if_pos rfl, if_pos rfl, warn]

/-- Change what can be referred to. -/
def inScope (w : Walk) (f : Scope → Scope) : Walk :=
  { w with scope := f w.scope }

/-- Change the entries. -/
def inRegistry (w : Walk) (f : Registry → Registry) : Walk :=
  { w with registry := f w.registry }

end Walk

/-- The usages that a section has listed so far. -/
structure Listed where
  ingredients : List Usage
  cookware : List Usage

namespace Listed

/-- The lists of a section before its first item. -/
def empty : Listed := ⟨[], []⟩

/-- List a usage among the ingredients. -/
def addIngredient (l : Listed) (u : Usage) : Listed :=
  { l with ingredients := l.ingredients ++ [u] }

/-- List a usage among the cookware. -/
def addCookware (l : Listed) (u : Usage) : Listed :=
  { l with cookware := l.cookware ++ [u] }

end Listed

/-- What an item contributes to the content of its step. -/
inductive Resolved where
  | usage (u : Usage)
  | text (s : String)
  | nothing

/-- The amount and the unit of a quantity as written; a share has neither. -/
def writtenQuantity : Option Quantity → Option Amount × Option String
  | some (.measured m) => (m.figure.map Amount.ofFigure, nonBlank? m.unit)
  | some (.words text) => (some (.words text), none)
  | some (.share _) => (none, none)
  | none => (none, none)

/-- The parent of an ingredient as its usage shows it. -/
def ParentRef.ofOrigin (o : Origin) : ParentRef where
  parent := o.parent
  quantity := (o.quantity.bind Measured.figure).map Amount.ofFigure
  unit := nonBlank? (o.quantity.bind Measured.unit)

/-- The scaling flag of an ingredient: set if the quantity is fixed, as words always are. -/
def ingredientFixed : Option Quantity → Option Bool
  | some (.measured m) => if m.fixed then some true else none
  | some (.words _) => some true
  | _ => none

/-- The scaling flag of cookware: unset if the quantity scales; words do not. -/
def cookwareFixed : Option Quantity → Option Bool
  | some (.measured m) => if m.fixed then none else some false
  | some (.words _) => some true
  | _ => none

/-- The usage of an ingredient as it is written, without a mass. -/
def writtenIngredient (i : IngredientItem) : ItemUsage :=
  let (quantity, unit) := writtenQuantity i.quantity
  { ItemUsage.named (slugify i.name) i.name with
    quantity, unit
    parent := i.origin.map .ofOrigin
    nickname := i.nickname
    preparation := i.preparation
    modifiers := i.modifiers.map .ofSymbol
    fixed := ingredientFixed i.quantity }

/-- The usage of a piece of cookware. -/
def writtenCookware (c : CookwareItem) : ItemUsage :=
  let (quantity, unit) := writtenQuantity c.quantity
  { ItemUsage.named (slugify c.name) c.name with
    quantity, unit
    nickname := c.nickname
    preparation := c.preparation
    modifiers := c.modifiers.map .ofSymbol
    fixed := cookwareFixed c.quantity }

/-- The unit of a resolved share. -/
def shareUnit : String := "g"

/-- The sum of masses. It starts from the zero that no addition can tell from absence, so a single
    mass is its own sum. -/
def massSum (masses : List Float) : Float :=
  masses.foldl (· + ·) (-0.0)

/-- The ingredients with an identity among listed usages. An alternative is not one of them. -/
def sourcesOf (id : String) (listed : List Usage) : List ItemUsage :=
  (listed.filterMap Usage.ingredient?).filter fun u => u.id == id

/-- What a share is taken of: the grams of its target, or what is wrong with it. -/
def shareBase (s : Share) (item : String) (listed : Listed) (scope : Scope) :
    Except Warning Float :=
  match s.of with
  | .preparation =>
    match scope.weight? (slugify s.target) with
    | some weight => .ok weight.grams
    | none => .error (.preparationNotFound s.target item)
  | .ingredient =>
    let sources := sourcesOf (slugify s.target) listed.ingredients
    let masses := sources.filterMap ItemUsage.knownMass?
    if sources.isEmpty then .error (.shareUnresolved s.target item)
    else if masses.isEmpty then .error (.shareWithoutMass s.target item)
    else .ok (massSum (masses.map MassFigure.grams))

/-- The formula of a share as it is shown. -/
def Share.text (s : Share) : String :=
  displayNumber s.percent ++ "% of " ++ s.of.marker ++ s.target

/-- The grams of a share, given those of its target. -/
def Share.grams (s : Share) (base : Float) : Float :=
  round2 (base * s.percent / 100.0)

/-- Resolve an ingredient whose quantity is a share. Without a target it becomes a ghost of no
    grams. -/
def resolveShare (weighing : Weighing) (i : IngredientItem) (s : Share) (listed : Listed)
    (walk : Walk) : ItemUsage × Walk :=
  let target := slugify s.target
  let id := slugify i.name
  let base := shareBase s i.name listed walk.scope
  let (grams, ghost, walk) := match base with
    | .ok grams => (grams, false, walk)
    | .error warning => (0.0, true, walk.warn warning)
  let amount := s.grams grams
  let circular := target == id
  ({ writtenIngredient i with
    quantity := some (.number amount)
    unit := some shareUnit
    mass := weighing.mass? amount shareUnit i.name
    circular := circular
    formula := some ⟨s.text, s.target, s.percent, ghost⟩
    dependencies := [target] },
   walk.warnIf circular (.shareOfItself i.name))

/-- Enter an ingredient, and its parent if it has one. -/
def Registry.enter (r : Registry) (i : IngredientItem) : Registry :=
  let id := slugify i.name
  let r := r.intern id i.name (i.quantity.bind Quantity.unit?)
  match i.origin with
  | none => r
  | some origin =>
    let parent := slugify origin.parent
    (r.markPart id i.name parent).markWhole parent origin.parent

/-- Resolve an ingredient whose quantity is not a share. -/
def resolveWritten (weighing : Weighing) (i : IngredientItem) (listed : Listed) (walk : Walk) :
    Usage × Listed × Walk :=
  let written := writtenIngredient i
  let usage := Usage.ingredient
    { written with
      mass := written.number?.bind fun x => weighing.mass? x (written.unit.getD "") i.name }
  if written.hasModifier .reference then
    let walk := walk.warnIf (!walk.scope.seen.has i.name) (.undefinedIngredient i.name)
    let walk := walk.inScope (·.noteUse i.name)
    if i.quantity.any Quantity.isPresent then (usage, listed.addIngredient usage, walk)
    else (usage, listed, walk)
  else (usage, listed.addIngredient usage, walk.inScope (·.see i.name))

/-- Resolve an ingredient. -/
def resolveIngredient (weighing : Weighing) (i : IngredientItem) (listed : Listed) (walk : Walk) :
    Usage × Listed × Walk :=
  let walk := walk.inRegistry (·.enter i)
  match i.quantity with
  | some (.share s) =>
    let (u, walk) := resolveShare weighing i s listed walk
    (.ingredient u, listed.addIngredient (.ingredient u), walk)
  | _ => resolveWritten weighing i listed walk

/-- Resolve a piece of cookware. -/
def resolveCookware (c : CookwareItem) (listed : Listed) (walk : Walk) : Usage × Listed × Walk :=
  let usage := Usage.cookware (writtenCookware c)
  (usage, listed.addCookware usage, walk.inRegistry (·.internCookware (slugify c.name) c.name))

/-- The mass that a mention takes over from a weighed preparation. -/
def MassFigure.ofWeight (w : PreparationWeight) : MassFigure :=
  ⟨w.grams, .preparation, w.partly⟩

/-- Resolve a mention. With a quantity of its own it is weighed by that; without any it stands for
    all of the preparation. -/
def resolveMention (weighing : Weighing) (m : Mention) (walk : Walk) : MentionUsage × Walk :=
  let id := slugify m.name
  let walk := walk.warnIf (!walk.registry.hasIngredient id) (.undefinedMention m.name)
  let walk := walk.inScope (·.noteUse m.name)
  let (quantity, unit) := writtenQuantity m.quantity
  let mass := match quantity with
    | some amount => amount.number?.bind fun x => weighing.mass? x (unit.getD "") m.name
    | none => (walk.scope.weight? id).map .ofWeight
  (⟨id, m.name, quantity, unit, mass⟩, walk)

/-- The figure and the unit of a timer or a temperature, which should be a measured quantity with a
    unit. -/
def resolveMeasured (kind : Measurement) (name : Option String) (quantity : Option Quantity)
    (walk : Walk) : Option Figure × Option String × Walk :=
  match quantity with
  | none => (none, none, walk)
  | some (.measured m) =>
    let unit := nonBlank? m.unit
    (m.figure, unit, walk.warnIf unit.isNone (.unitMissing kind name))
  | some (.words text) => (some (.words text), none, walk.warn (.wordsMeasured kind text))
  | some (.share s) => (none, none, walk.warn (.shareMeasured kind s.target))

/-- Resolve a timer. -/
def resolveTimer (t : TimerItem) (walk : Walk) : TimerUsage × Walk :=
  let (figure, unit, walk) := resolveMeasured .timer t.name t.quantity walk
  (⟨t.name, figure, unit.map timerUnit, t.background⟩, walk)

/-- Resolve a temperature. -/
def resolveTemperature (t : TemperatureItem) (walk : Walk) : TemperatureUsage × Walk :=
  let (figure, unit, walk) := resolveMeasured .temperature t.name t.quantity walk
  (⟨t.name, figure, unit⟩, walk)

/-- Declare that the current step produces a preparation. -/
def declarePreparation (name : String) (walk : Walk) : Walk :=
  let id := slugify name
  let walk := walk.inRegistry (·.markPreparation id name)
  walk.inScope fun scope => { scope.define name with openPreparation := some id }

/-- List an alternative by the kind of its first option. -/
def Listed.addAlternative (l : Listed) (options : List Item) (u : Usage) : Listed :=
  match options.head? with
  | some (.ingredient _) => l.addIngredient u
  | some (.cookware _) => l.addCookware u
  | _ => l

mutual

/-- Resolve an item. -/
def resolveItem (weighing : Weighing) : Item → Listed → Walk → Resolved × Listed × Walk
  | .ingredient i, listed, walk =>
    let (u, listed, walk) := resolveIngredient weighing i listed walk
    (.usage u, listed, walk)
  | .cookware c, listed, walk =>
    let (u, listed, walk) := resolveCookware c listed walk
    (.usage u, listed, walk)
  | .mention m, listed, walk =>
    let (u, walk) := resolveMention weighing m walk
    (.usage (.mention u), listed, walk)
  | .alternative options, listed, walk =>
    let (us, walk) := resolveOptions weighing options listed walk
    (.usage (.alternative us), listed.addAlternative options (.alternative us), walk)
  | .timer t, listed, walk =>
    let (u, walk) := resolveTimer t walk
    (.usage (.timer u), listed, walk)
  | .temperature t, listed, walk =>
    let (u, walk) := resolveTemperature t walk
    (.usage (.temperature u), listed, walk)
  | .text s, listed, walk => (.text s, listed, walk)
  | .comment c, listed, walk => (.usage (.comment c), listed, walk)
  | .declaration name, listed, walk => (.nothing, listed, declarePreparation name walk)

/-- Resolve the options of an alternative one after another. Each sees what the earlier ones list,
    and the lists themselves are dropped. -/
def resolveOptions (weighing : Weighing) : List Item → Listed → Walk → List Usage × Walk
  | [], _, walk => ([], walk)
  | option :: options, listed, walk =>
    match resolveItem weighing option listed walk with
    | (.usage u, listed, walk) =>
      let (us, walk) := resolveOptions weighing options listed walk
      (u :: us, walk)
    | (_, listed, walk) => resolveOptions weighing options listed walk

end

end Mise
