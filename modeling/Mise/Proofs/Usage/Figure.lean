import Mise.Preparation
import Mise.Proofs.Decimal.Sum

/-!
# What Usages Amount To

A total adds up figures of usages, and it can only be said what a total is if it is said which
figure a usage has. There are two of them. The number of a usage is told by the form of its amount,
and its grams are those of its mass, unless it is a ghost, whose mass must not be counted.

A weight is a total of the second kind. What a step makes is weighed by the usages in its content,
an alternative by its first option, and mentions of earlier preparations count. What a section makes
is weighed by its list, where no mention counts. Whatever has no mass is left out of either sum:
the program adds a zero in its place, which makes no difference.

## Main definitions

* `Amount.value?`, `ItemUsage.value?`: The number of an amount, and of a usage.
* `ItemUsage.knownGrams?`: The grams of a usage that may be counted.
* `Usage.listedGrams?`, `Usage.stepGrams?`: The grams that a usage adds to the weight of what a
  section makes, and of what a step makes.

## Theorems

* `value?_eq`, `knownGrams?_eq`: These are the figures that the program computes with.
* `grams_stepWeight`, `grams_sectionWeight`: What a weight is the sum of.
* `partly_sectionWeight`: When the weight of a section is complete.
-/

namespace Mise

/-- The number that an amount stands for. A fraction stands for its value and a range for the middle
    of its bounds; words stand for none. -/
def Amount.value? : Amount → Option Float
  | .number x => some x
  | .figure (.single x _) => some x
  | .figure (.fraction x _ _ _) => some x
  | .figure (.range x none _) => some x
  | .figure (.range _ (some bounds) _) => some ((bounds.min + bounds.max) / 2.0)
  | .figure (.words _) => none
  | .words _ => none

/-- What an amount stands for is the number to compute with. -/
theorem Amount.value?_eq (a : Amount) : a.value? = a.number? := by
  cases a with
  | number x => rfl
  | words text => rfl
  | figure f =>
      cases f with
      | range x bounds text => cases bounds <;> rfl
      | _ => rfl

namespace ItemUsage

/-- The number of a usage's quantity, by the form of its amount. -/
def value? (u : ItemUsage) : Option Float :=
  u.quantity.bind Amount.value?

/-- The grams of a usage that may be counted. A ghost has none. -/
def knownGrams? (u : ItemUsage) : Option Float :=
  if u.isGhost then none else u.mass.map MassFigure.grams

theorem value?_eq (u : ItemUsage) : u.value? = u.number? :=
  congrArg u.quantity.bind (funext Amount.value?_eq)

theorem knownGrams?_eq (u : ItemUsage) : u.knownGrams? = u.knownMass?.map MassFigure.grams := by
  rw [knownGrams?, knownMass?]
  split <;> rfl

theorem knownGrams?_eq_none_iff (u : ItemUsage) : u.knownGrams? = none ↔ u.knownMass? = none := by
  rw [knownGrams?_eq, Option.map_eq_none_iff]

end ItemUsage

namespace Usage

/-- The grams that a usage adds to the weight of what a section makes: those of an ingredient, or of
    the first option of an alternative. -/
def listedGrams? : Usage → Option Float
  | .ingredient u => u.knownGrams?
  | .alternative (.ingredient u :: _) => u.knownGrams?
  | _ => none

/-- The grams that a usage adds to the weight of what a step makes. There a mention adds the weight
    that it has been given. -/
def stepGrams? : Usage → Option Float
  | .mention m => m.mass.map MassFigure.grams
  | u => u.listedGrams?

end Usage

section Weights

theorem grams_ofItem (u : ItemUsage) :
    (Contribution.ofItem u).grams = u.knownGrams?.getD 0.0 := by
  rw [Contribution.ofItem, ItemUsage.knownGrams?_eq]
  cases u.knownMass? <;> rfl

/-- What weighs adds its grams, or a zero if it has none. What does not weigh has none. -/
theorem grams_ofUsage? (u : Usage) :
    (∃ c, Contribution.ofUsage? u = some c ∧ c.grams = u.stepGrams?.getD 0.0)
      ∨ Contribution.ofUsage? u = none ∧ u.stepGrams? = none := by
  cases u with
  | ingredient u => exact Or.inl ⟨_, rfl, grams_ofItem u⟩
  | mention m =>
      refine Or.inl ⟨_, rfl, ?_⟩
      rw [Contribution.ofMention, Usage.stepGrams?]
      cases m.mass <;> rfl
  | alternative options =>
      cases options with
      | nil => exact Or.inr ⟨rfl, rfl⟩
      | cons first rest =>
          cases first with
          | ingredient u => exact Or.inl ⟨_, rfl, grams_ofItem u⟩
          | _ => exact Or.inr ⟨rfl, rfl⟩
  | _ => exact Or.inr ⟨rfl, rfl⟩

/-- The weight of what a step makes is the sum of the grams in its content. -/
theorem grams_stepWeight (content : List StepContent) :
    (stepWeight content).grams
      = sumInOrder ((content.filterMap StepContent.usage?).filterMap Usage.stepGrams?) := by
  generalize husages : content.filterMap StepContent.usage? = us
  -- The figures that are added, with those that are missing among them.
  let figures := us.filterMap fun u => (Contribution.ofUsage? u).map fun _ => u.stepGrams?
  have hadded : (us.filterMap Contribution.ofUsage?).map Contribution.grams
      = figures.map fun x => x.getD 0.0 := by
    rw [List.map_filterMap, List.map_filterMap]
    refine List.filterMap_congr fun u _ => ?_
    rcases grams_ofUsage? u with ⟨c, hc, hgrams⟩ | ⟨hnone, -⟩
    · simp only [hc, Option.map_some, hgrams]
    · simp only [hnone, Option.map_none]
  have hknown : figures.filterMap id = us.filterMap Usage.stepGrams? := by
    rw [List.filterMap_filterMap]
    refine List.filterMap_congr fun u _ => ?_
    rcases grams_ofUsage? u with ⟨c, hc, -⟩ | ⟨hnone, hgrams⟩
    · simp only [hc, Option.map_some, Option.bind_some, id]
    · simp only [hnone, Option.map_none, Option.bind_none, hgrams]
  rw [← hknown, ← sumInOrder_zeros, ← hadded, sumInOrder, List.foldl_map, stepWeight, husages]

theorem listedGrams?_eq (u : Usage) : u.listedGrams? = (listedMass? u).map MassFigure.grams := by
  cases u with
  | ingredient u => exact u.knownGrams?_eq
  | alternative options =>
      cases options with
      | nil => rfl
      | cons first rest =>
          cases first with
          | ingredient u => exact u.knownGrams?_eq
          | _ => rfl
  | _ => rfl

/-- The weight of what a section makes is the sum of the grams on its list. -/
theorem grams_sectionWeight (us : List Usage) :
    (sectionWeight us).grams = sumInOrder (us.filterMap Usage.listedGrams?) := by
  rw [funext listedGrams?_eq, ← List.map_filterMap, sumInOrder, List.foldl_map, sectionWeight]

/-- It is complete if there are grams for every entry of the list. -/
theorem partly_sectionWeight (us : List Usage) :
    (sectionWeight us).partly = false ↔ ∀ u ∈ us, u.listedGrams?.isSome := by
  simp only [sectionWeight, listedGrams?_eq, Option.isSome_map, List.any_eq_false,
    Option.isNone_iff_eq_none, Option.isSome_iff_ne_none]

end Weights

end Mise
