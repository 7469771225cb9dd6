import Mise.Scope
import Mise.Section

/-!
# Weights of Preparations

What a step or a section makes weighs as much as what goes into it. A step is weighed by its
content, where mentions of earlier preparations count as well; a section is weighed by its list of
ingredients. Whatever has no mass makes the weight partial, and so does a preparation that is
itself known in part only.

## Main definitions

* `Contribution`: What one usage adds to the weight of its step.
* `stepWeight`: The weight of what a step makes.
* `sectionWeight`: The weight of what a section makes.
-/

namespace Mise

/-- What one usage adds to the weight of its step: its grams, and whether they are all of it. -/
structure Contribution where
  grams : Float
  complete : Bool

namespace Contribution

/-- What an ingredient adds. -/
def ofItem (u : ItemUsage) : Contribution :=
  match u.knownMass? with
  | some m => ⟨m.grams, true⟩
  | none => ⟨0.0, false⟩

/-- What a mention adds. The partial weight of a preparation counts, but not as all of it. -/
def ofMention (m : MentionUsage) : Contribution :=
  match m.mass with
  | some mass => ⟨mass.grams, !(mass.method == .preparation && mass.estimated)⟩
  | none => ⟨0.0, false⟩

/-- What a usage adds to the weight of its step, if it is something that weighs. -/
def ofUsage? : Usage → Option Contribution
  | .ingredient u => some (ofItem u)
  | .alternative options => (options.head?.bind Usage.ingredient?).map ofItem
  | .mention m => some (ofMention m)
  | _ => none

end Contribution

/-- The weight of what a step makes. -/
def stepWeight (content : List StepContent) : PreparationWeight :=
  let contributions := (content.filterMap StepContent.usage?).filterMap Contribution.ofUsage?
  { grams := contributions.foldl (fun total c => total + c.grams) 0.0
    partly := contributions.any fun c => !c.complete }

/-- The mass that counts of an entry in a section's list of ingredients. -/
def listedMass? (u : Usage) : Option MassFigure :=
  u.counted?.bind ItemUsage.knownMass?

/-- The weight of what a section makes. -/
def sectionWeight (ingredients : List Usage) : PreparationWeight where
  grams := (ingredients.filterMap listedMass?).foldl (fun total m => total + m.grams) 0.0
  partly := ingredients.any fun u => (listedMass? u).isNone

end Mise
