import Mise.Preparation
import Mise.Resolution
import Mise.Usage.Text

/-!
# Compiling Sections

The walk through a whole recipe. A step resolves its items, adds up the timers that keep the cook
busy, starts the others in the background, and when it is complete records the weight of the
preparation it declares. A section collects what its steps list, and when it is complete records
the weight of the preparation it produces, in place of what its steps recorded.

A recipe that does not start with a section is taken as one section without a title. Blocks beside
sections and sections inside sections are passed over.

## Main definitions

* `StepProgress`: A step while its items are resolved.
* `compileStep`, `compileBlocks`, `compileSection`: The parts.
* `CompiledSections`: The outcome.
* `compileSections`: The whole walk.
-/

namespace Mise

/-- A step while its items are resolved: the text and content so far, the minutes the cook has been
    busy, and the background tasks that were started. -/
structure StepProgress where
  text : String
  content : List StepContent
  busy : Float
  background : List BackgroundTask

namespace StepProgress

/-- A step before its first item. -/
def empty : StepProgress := ⟨"", [], 0.0, []⟩

/-- Add a literal text. -/
def addText (p : StepProgress) (s : String) : StepProgress :=
  { p with text := p.text ++ s, content := p.content ++ [.text s] }

/-- Add a usage. -/
def addUsage (p : StepProgress) (u : Usage) : StepProgress :=
  { p with text := p.text ++ u.text, content := p.content ++ [.usage u] }

end StepProgress

/-- The minutes of a timer; one without a number has none. -/
def TimerUsage.minutes? (t : TimerUsage) : Option Float :=
  (t.quantity.bind Figure.number?).map fun x => toMinutes x t.unit

/-- The name of a background task whose timer has none. -/
def defaultTaskName : String := "Timer"

/-- The timer that a usage is, with its minutes. -/
def Usage.timed? : Usage → Option (TimerUsage × Float)
  | .timer t => t.minutes?.map fun minutes => (t, minutes)
  | _ => none

/-- Let the time of a usage pass: a background timer starts now, any other keeps the cook busy. -/
def passTime (u : Usage) (p : StepProgress) (walk : Walk) : StepProgress × Walk :=
  match u.timed? with
  | none => (p, walk)
  | some (t, minutes) =>
    if t.background then
      ({ p with
        background := p.background ++ [⟨t.name.getD defaultTaskName, minutes, p.busy⟩] },
       { walk with schedule := walk.schedule.startBackground p.busy minutes })
    else ({ p with busy := p.busy + minutes }, walk)

/-- Resolve the items of a step from here on. -/
def compileItems (weighing : Weighing) :
    List Item → StepProgress → Listed → Walk → StepProgress × Listed × Walk
  | [], p, listed, walk => (p, listed, walk)
  | item :: items, p, listed, walk =>
    match resolveItem weighing item listed walk with
    | (.text s, listed, walk) => compileItems weighing items (p.addText s) listed walk
    | (.usage u, listed, walk) =>
      let (p, walk) := passTime u (p.addUsage u) walk
      compileItems weighing items p listed walk
    | (.nothing, listed, walk) => compileItems weighing items p listed walk

/-- Record the weight of the preparation that a step has declared, if any. -/
def recordStep (content : List StepContent) (scope : Scope) : Scope :=
  match scope.openPreparation with
  | none => scope
  | some id =>
    let weight := stepWeight content
    { scope.setWeight id weight.grams weight.partly with openPreparation := none }

/-- Compile a step. -/
def compileStep (weighing : Weighing) (node : StepNode) (listed : Listed) (walk : Walk) :
    Step × Listed × Walk :=
  let walk := walk.inScope fun scope => { scope with openPreparation := none }
  let (p, listed, walk) := compileItems weighing node.items .empty listed walk
  let hasBackground := !p.background.isEmpty
  ({ text := Text.trimmed p.text
     action := node.action
     content := p.content
     timing := walk.schedule.timing p.busy hasBackground
     background := p.background
     produces := walk.scope.openPreparation },
   listed,
   { walk with
     schedule := walk.schedule.finishStep p.busy hasBackground
     scope := recordStep p.content walk.scope })

/-- Compile the blocks of a section from here on. -/
def compileBlocks (weighing : Weighing) :
    List Block → Listed → Walk → List StepBlock × Listed × Walk
  | [], listed, walk => ([], listed, walk)
  | .step node :: blocks, listed, walk =>
    let (step, listed, walk) := compileStep weighing node listed walk
    let (rest, listed, walk) := compileBlocks weighing blocks listed walk
    (.step step :: rest, listed, walk)
  | .comment c :: blocks, listed, walk =>
    let (rest, listed, walk) := compileBlocks weighing blocks listed walk
    (.comment c :: rest, listed, walk)
  | .section .. :: blocks, listed, walk => compileBlocks weighing blocks listed walk

/-- Open a section that produces a preparation. A second section for the same name is worth a
    warning. -/
def openSection (header : SectionHeader) (walk : Walk) : Walk :=
  match header.produces with
  | none => walk
  | some name =>
    let walk := walk.warnIf (walk.scope.declaredBySections.has name)
      (.preparationRedeclared name header.title)
    let walk := walk.inRegistry (·.markPreparation (slugify name) name)
    walk.inScope fun scope => (scope.declareBySection name).define name

/-- Close a section with the ingredients it has listed: what it produces is weighed now. -/
def closeSection (header : SectionHeader) (ingredients : List Usage) (walk : Walk) : Walk :=
  match header.produces with
  | none => walk
  | some name =>
    let weight := sectionWeight ingredients
    walk.inScope (·.setWeight (slugify name) weight.grams weight.partly)

/-- Compile a section. -/
def compileSection (weighing : Weighing) (header : SectionHeader) (children : List Block)
    (walk : Walk) : Section × Walk :=
  let (blocks, listed, walk) :=
    compileBlocks weighing children .empty (openSection header walk)
  ({ title := header.title
     ingredients := listed.ingredients
     cookware := listed.cookware
     blocks
     produces := header.produces
     retroPlanning := header.retroPlanning
     mass := none },
   closeSection header listed.ingredients walk)

/-- Compile the sections among blocks, one after another. -/
def compileSectionsFrom (weighing : Weighing) : List Block → Walk → List Section × Walk
  | [], walk => ([], walk)
  | .section header children :: blocks, walk =>
    let (compiled, walk) := compileSection weighing header children walk
    let (rest, walk) := compileSectionsFrom weighing blocks walk
    (compiled :: rest, walk)
  | _ :: blocks, walk => compileSectionsFrom weighing blocks walk

/-- The header of a section that the document does not have. -/
def noHeader : SectionHeader := ⟨none, none, none⟩

/-- The blocks of a document as sections: all in one unless the first is a section. -/
def sectioned (blocks : List Block) : List Block :=
  match blocks with
  | [] => []
  | .section .. :: _ => blocks
  | _ => [.section noHeader blocks]

/-- Sections, entries, warnings and timeline of a recipe. -/
structure CompiledSections where
  sections : List Section
  registry : Registry
  warnings : List Warning
  schedule : Schedule

/-- Compile the blocks of a recipe. -/
def compileSections (weighing : Weighing) (blocks : List Block) : CompiledSections :=
  let (sections, walk) := compileSectionsFrom weighing (sectioned blocks) .start
  ⟨sections, walk.registry, walk.warnings, walk.schedule⟩

end Mise
