import Mise.MassTotal
import Mise.Schedule
import Mise.Usage.Encode

/-!
# Compiled Sections

What becomes of the sections of a document: their steps with text, content and timing, and the
lists of ingredients and cookware that the steps use.

## Main definitions

* `StepContent`, `Step`, `StepBlock`: Compiled steps, and comments between them.
* `Section`: A compiled section.
* `Section.contentUsages`: The usages in the content of its steps.
-/

namespace Mise

/-- What the content of a step consists of. -/
inductive StepContent where
  | text (s : String)
  | usage (u : Usage)

/-- The usage that a piece of content is. -/
def StepContent.usage? : StepContent → Option Usage
  | .text _ => none
  | .usage u => some u

/-- A compiled step, with its text as it is read and the preparation it produces. -/
structure Step where
  text : String
  action : Option String
  content : List StepContent
  timing : Timing
  background : List BackgroundTask
  produces : Option String

/-- A step, or a comment between steps. -/
inductive StepBlock where
  | step (s : Step)
  | comment (c : Comment)

/-- The step that a block is. -/
def StepBlock.step? : StepBlock → Option Step
  | .step s => some s
  | .comment _ => none

/-- A compiled section. -/
structure Section where
  title : Option String
  ingredients : List Usage
  cookware : List Usage
  blocks : List StepBlock
  produces : Option String
  retroPlanning : Option String
  mass : Option MassTotal

/-- The usages in the content of a step. -/
def Step.usages (s : Step) : List Usage :=
  s.content.filterMap StepContent.usage?

/-- The steps of a section. -/
def Section.steps (s : Section) : List Step :=
  s.blocks.filterMap StepBlock.step?

/-- The usages in the content of all steps of a section. -/
def Section.contentUsages (s : Section) : List Usage :=
  s.steps.flatMap Step.usages

open Data (ofOption)

/-- A piece of content as data. -/
def StepContent.toData : StepContent → Data
  | .text s => .text s
  | .usage u => u.toData

/-- The fields of a step. -/
def Step.fields (s : Step) : List (String × Data) :=
  [("value", .text s.text), ("action", ofOption .text s.action),
    ("content", .list (s.content.map StepContent.toData)), ("timings", s.timing.toData),
    ("backgroundTasks", .list (s.background.map BackgroundTask.toData)),
    ("intermediate_preparation", ofOption .text s.produces)]

/-- A step or comment as data. -/
def StepBlock.toData : StepBlock → Data
  | .step s => .record (("type", .text "step") :: s.fields)
  | .comment c => .record (("type", .text "comment") :: c.fields)

/-- A section as data. -/
def Section.toData (s : Section) : Data :=
  .record [("title", ofOption .text s.title),
    ("ingredients", .list (s.ingredients.map Usage.toData)),
    ("cookware", .list (s.cookware.map Usage.toData)),
    ("steps", .list (s.blocks.map StepBlock.toData)),
    ("intermediate_preparation", ofOption .text s.produces),
    ("retro_planning", ofOption .text s.retroPlanning),
    ("metrics", ofOption MassTotal.toData s.mass)]

end Mise
