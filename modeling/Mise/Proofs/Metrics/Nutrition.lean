import Mise.Metrics

/-!
# Estimates of Nutrients

An estimate of nutrients is drawn from a list of usages, of which many say nothing about nutrients:
cookware and timers do not count at all, and an ingredient that counts may be a ghost, weigh nothing
or be unknown. What it says is made of two lists that are found on the way, of the ingredients that
count and of what they contribute.

A usage contributes if it counts as an ingredient that is not a ghost, has a mass above zero and has
known nutrients. This is a property of the usage alone. So the contributions of a list are those of
the usages in it that contribute, in the same order, and whatever else stands between them matters
to the coverage only.

## Main definitions

* `Usage.Contributes`: Whether a usage has a part in the nutrients.
* `Nutrition.contributions`: What usages contribute.

## Theorems

* `contributes_iff`: A usage contributes if and only if a contribution is found for it.
* `contributions_filter`: What usages contribute comes from those that contribute.
* `one_lt_portions_iff`: When there is more than one portion.
* `estimate?_eq_none_iff`: There is an estimate unless nothing counts.
* `estimate_by_contributing`: What an estimate is made of.
-/

namespace Mise

open Nutrition

/-- A usage that contributes to the nutrients: it counts as an ingredient that is not a ghost, that
    has a mass above zero and whose nutrients are known. -/
inductive Usage.Contributes (source : IngredientSource) (u : Usage) : Prop
  | intro {item : ItemUsage} {mass : MassFigure} {properties : Properties} {per100 : Macros}
      (counts : u.counted? = some item) (own : item.isGhost = false)
      (weighed : item.mass = some mass) (heavy : 0.0 < mass.grams)
      (listed : source.lookup? item.name = some properties)
      (known : properties.macros = some per100)

namespace Nutrition

/-- What usages contribute, in order. -/
def contributions (source : IngredientSource) (usages : List Usage) : List (Macros × Float) :=
  (usages.filterMap Usage.counted?).filterMap (contribution? source)

section Contributions

variable {source : IngredientSource}

/-- A usage contributes if and only if a contribution is found for it. -/
theorem contributes_iff {u : Usage} :
    u.Contributes source ↔ (u.counted?.bind (contribution? source)).isSome := by
  refine ⟨fun h => ?_, fun h => ?_⟩
  · rcases h with ⟨counts, own, weighed, heavy, listed, known⟩
    rw [counts, Option.bind_some, contribution?, ItemUsage.knownMass?, own, weighed]
    simp only [Bool.false_eq_true, if_false, if_pos heavy, listed, Option.bind_some, known,
      Option.map_some, Option.isSome_some]
  · -- What is found has got past every point where the search gives up.
    rcases Option.isSome_iff_exists.1 h with ⟨c, hc⟩
    rcases Option.bind_eq_some_iff.1 hc with ⟨item, counts, hitem⟩
    rw [contribution?, ItemUsage.knownMass?] at hitem
    cases own : item.isGhost with
    | true => simp only [own, if_true, reduceCtorEq] at hitem
    | false =>
        cases weighed : item.mass with
        | none => simp only [own, weighed, Bool.false_eq_true, if_false, reduceCtorEq] at hitem
        | some mass =>
            simp only [own, weighed, Bool.false_eq_true, if_false] at hitem
            by_cases heavy : 0.0 < mass.grams
            · rw [if_pos heavy] at hitem
              rcases Option.map_eq_some_iff.1 hitem with ⟨per100, hper100, -⟩
              rcases Option.bind_eq_some_iff.1 hper100 with ⟨properties, listed, known⟩
              exact ⟨counts, own, weighed, heavy, listed, known⟩
            · rw [if_neg heavy] at hitem
              cases hitem

instance (u : Usage) : Decidable (u.Contributes source) :=
  decidable_of_iff _ contributes_iff.symm

theorem contributions_eq_filterMap (usages : List Usage) :
    contributions source usages
      = usages.filterMap fun u => u.counted?.bind (contribution? source) := by
  rw [contributions, List.filterMap_filterMap]

/-- What usages contribute comes from those that contribute. -/
theorem contributions_filter (usages : List Usage) :
    contributions source (usages.filter fun u => u.Contributes source)
      = contributions source usages := by
  rw [contributions_eq_filterMap, contributions_eq_filterMap, List.filterMap_filter]
  refine congrFun (congrArg List.filterMap (funext fun u => ?_)) usages
  by_cases h : u.Contributes source
  · rw [if_pos (decide_eq_true h)]
  · rw [if_neg fun hd => h (of_decide_eq_true hd),
      Option.not_isSome_iff_eq_none.1 (mt contributes_iff.2 h)]

theorem length_contributions (usages : List Usage) :
    (contributions source usages).length = usages.countP fun u => u.Contributes source := by
  rw [contributions_eq_filterMap, List.length_filterMap_eq_countP]
  refine List.countP_congr fun u _ => ?_
  rw [← contributes_iff, decide_eq_true_iff]

-- A usage that contributes counts.
theorem countP_contributes_le (usages : List Usage) :
    (usages.countP fun u => u.Contributes source) ≤ usages.countP fun u => u.counted?.isSome := by
  refine List.countP_mono_left fun u _ h => ?_
  rcases of_decide_eq_true h with ⟨counts, -, -, -, -, -⟩
  rw [counts, Option.isSome_some]

end Contributions

/-- There is more than one portion if the first key that has a number has one above one. -/
theorem one_lt_portions_iff {info : Meta} :
    1.0 < portions info ↔ ∃ x : Float, 1.0 < x ∧
      (info.number? "servings" = some x
        ∨ info.number? "servings" = none ∧ info.number? "portions" = some x) := by
  rw [portions, portionKeys, List.findSome?_cons, List.findSome?_cons, List.findSome?_nil]
  cases info.number? "servings" with
  | some x => simp only [Option.getD_some, Option.some.injEq, reduceCtorEq, false_and, or_false,
      exists_eq_right']
  | none =>
      cases info.number? "portions" with
      | some x => simp only [Option.getD_some, Option.some.injEq, reduceCtorEq, true_and, false_or,
          exists_eq_right']
      | none =>
          have hone : ¬ (1.0 : Float) < 1.0 := by decide +kernel
          simp only [Option.getD_none, hone, reduceCtorEq, and_false, or_self, exists_false]

section Estimates

variable (source : IngredientSource) (info : Meta) (usages : List Usage)

theorem isEmpty_counted_iff :
    (usages.filterMap Usage.counted?).isEmpty ↔ ∀ u ∈ usages, u.counted? = none := by
  rw [List.isEmpty_iff, List.filterMap_eq_nil_iff]

/-- There is an estimate unless nothing counts. -/
theorem estimate?_eq_none_iff :
    estimate? source info usages = none ↔ ∀ u ∈ usages, u.counted? = none := by
  rw [← isEmpty_counted_iff, estimate?]
  by_cases h : (usages.filterMap Usage.counted?).isEmpty
  · exact iff_of_true (if_pos h) h
  · rw [if_neg h]
    exact iff_of_false (Option.some_ne_none _) h

/-- The estimate if something counts. -/
theorem estimate?_of_counted (h : ∃ u ∈ usages, u.counted? ≠ none) :
    estimate? source info usages = some {
      total := (sum (contributions source usages)).portion 1.0
      perPortion := if 1.0 < portions info then
        some ((sum (contributions source usages)).portion (portions info)) else none
      coverage := round2 (Float.ofNat (contributions source usages).length
        / Float.ofNat (usages.filterMap Usage.counted?).length) } := by
  have hcounted : ¬ (usages.filterMap Usage.counted?).isEmpty := by
    rw [isEmpty_counted_iff]
    rcases h with ⟨u, hmem, hu⟩
    exact fun hnone => hu (hnone u hmem)
  rw [estimate?, if_neg hcounted]
  rfl

/-- There is no estimate if and only if none of the usages counts. If there is one, its nutrients,
    of the whole and of a portion, are those that the usages that contribute add up to in their
    order. So any other usages with the same among them have the same nutrients, as long as one of
    them counts. The coverage is the share of the usages that contribute among those that count, of
    which they are never more. There are nutrients of a portion if and only if the first of the keys
    for portions that has a number has one above one. -/
theorem estimate_by_contributing :
    (estimate? source info usages = none ↔ ∀ u ∈ usages, u.counted? = none)
      ∧ ∀ n, estimate? source info usages = some n →
        let contributing := usages.filter fun u => u.Contributes source
        let nutrients := sum (contributions source contributing)
        n.total = nutrients.portion 1.0
        ∧ (∀ m ∈ n.perPortion, m = nutrients.portion (portions info))
        ∧ (∀ others : List Usage,
          (others.filter fun u => u.Contributes source) = contributing →
          (∃ u ∈ others, u.counted? ≠ none) →
          ∃ m, estimate? source info others = some m
            ∧ m.total = n.total ∧ m.perPortion = n.perPortion)
        ∧ n.coverage = round2 (Float.ofNat (usages.countP fun u => u.Contributes source)
            / Float.ofNat (usages.countP fun u => u.counted?.isSome))
        ∧ (usages.countP fun u => u.Contributes source)
            ≤ (usages.countP fun u => u.counted?.isSome)
        ∧ (n.perPortion.isSome ↔ ∃ x : Float, 1.0 < x ∧
            (info.number? "servings" = some x
              ∨ info.number? "servings" = none ∧ info.number? "portions" = some x)) := by
  refine ⟨estimate?_eq_none_iff source info usages, fun n hn => ?_⟩
  have hcounts : ∃ u ∈ usages, u.counted? ≠ none := by
    refine Classical.byContradiction fun hnot => ?_
    have hnone : ∀ u ∈ usages, u.counted? = none := fun u hmem =>
      Classical.byContradiction fun hu => hnot ⟨u, hmem, hu⟩
    rw [(estimate?_eq_none_iff source info usages).2 hnone] at hn
    cases hn
  rw [estimate?_of_counted source info usages hcounts, Option.some.injEq] at hn
  subst hn
  intro contributing nutrients
  have hnutrients : nutrients = sum (contributions source usages) :=
    congrArg sum (contributions_filter usages)
  refine ⟨?_, fun m hm => ?_, fun others hsame hothers => ?_, ?_, countP_contributes_le usages, ?_⟩
  · rw [hnutrients]
  · rw [hnutrients]
    exact (Option.some.inj (Option.ite_none_right_eq_some.1 hm).2).symm
  · -- The nutrients are computed from the contributions, and these are the same.
    have hcontributions : contributions source others = contributions source usages := by
      rw [← contributions_filter, hsame, contributions_filter]
    refine ⟨_, estimate?_of_counted source info others hothers, ?_⟩
    rw [hcontributions]
    exact ⟨rfl, rfl⟩
  · rw [length_contributions, List.length_filterMap_eq_countP]
  · rw [← one_lt_portions_iff]
    exact Option.isSome_ite

end Estimates

/-- A source that knows flour. -/
def millSource : IngredientSource where
  byKey? key :=
    if key = "flour" then
      some { density := none, pieceWeight := none, macros := some ⟨364.0, 10.0, 76.0, 1.0⟩ }
    else none

/-- Half a kilogram of flour. -/
def sackOfFlour : Usage :=
  .ingredient { ItemUsage.named "flour" "flour" with mass := some (.of 500.0 .physical) }

/-- Salt, to taste. -/
def pinchOfSalt : Usage :=
  .ingredient (.named "salt" "salt")

/-- A recipe for four. -/
def forFour : Meta :=
  .ofList [("servings", .number 4.0)]

/-- Salt of which nothing is known halves the coverage, and changes nothing else. -/
theorem estimate_salted :
    ∃ n m, estimate? millSource forFour [pinchOfSalt, sackOfFlour] = some n
      ∧ estimate? millSource forFour [sackOfFlour] = some m
      ∧ m.total = n.total ∧ m.perPortion = n.perPortion ∧ n.perPortion.isSome
      ∧ n.coverage = 0.5 := by
  rcases estimate_by_contributing millSource forFour [pinchOfSalt, sackOfFlour] with ⟨hnone, hsome⟩
  have hcounts : estimate? millSource forFour [pinchOfSalt, sackOfFlour] ≠ none := fun h =>
    Option.some_ne_none _ (hnone.1 h pinchOfSalt (.head _))
  rcases Option.ne_none_iff_exists'.1 hcounts with ⟨n, hn⟩
  rcases hsome n hn with ⟨-, -, hsame, hcoverage, -, hportion⟩
  rcases hsame [sackOfFlour] rfl ⟨sackOfFlour, .head _, Option.some_ne_none _⟩ with
    ⟨m, hm, htotal, hperPortion⟩
  exact ⟨n, m, hn, hm, htotal, hperPortion,
    hportion.2 ⟨4.0, by decide +kernel, .inl (by decide +kernel)⟩,
    hcoverage.trans (by decide +kernel)⟩

end Nutrition

end Mise
