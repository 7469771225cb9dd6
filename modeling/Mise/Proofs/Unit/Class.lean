import Mise.Proofs.Ledger.Group
import Mise.Unit

/-!
# What a Unit Measures

A unit is judged by its canonical spelling alone, and that is looked for in three tables: the words
for pieces, the units of mass and the units of volume. Which table is asked first does not matter,
because no spelling is in two of them. So what a unit measures can be read off the one table that
has its spelling, and it measures neither mass nor volume if none of the two has it.

## Main definitions

* `Unit.HasNoFactor`: A unit of neither mass nor volume.

## Theorems

* `lookup_eq_some_iff_mem`: Looking up what has no repeated keys.
* `classify_eq_mass_iff`, `classify_eq_volume_iff`: Units of mass and of volume are those in the
  tables.
* `hasNoFactor_iff`: Everything else counts pieces, known or not.
-/

namespace Mise

/-- Where no key is repeated, what is found under a key is what is there. -/
theorem lookup_eq_some_iff_mem {α : Type} {l : List (String × α)} (h : (l.map Prod.fst).Nodup)
    (key : String) (value : α) : l.lookup key = some value ↔ (key, value) ∈ l := by
  constructor
  · intro hlookup
    rcases List.lookup_eq_some_iff.1 hlookup with ⟨before, after, rfl, -⟩
    exact List.mem_append_right _ List.mem_cons_self
  · exact Ledger.get?_of_mem h

namespace Unit

/-- A unit of neither mass nor volume: a word for pieces, no unit at all, or an unknown one. -/
def HasNoFactor (unit : String) : Prop :=
  ∀ factor, (canonical unit, factor) ∉ massFactors ∧ (canonical unit, factor) ∉ volumeFactors

section Tables

theorem massFactors_nodup : (massFactors.map Prod.fst).Nodup := by decide

theorem volumeFactors_nodup : (volumeFactors.map Prod.fst).Nodup := by decide

-- No spelling is in two tables, and none of those with a factor is blank.
theorem massFactors_apart :
    ∀ e ∈ massFactors, ¬(e.1 = "" ∨ e.1 ∈ countWords) ∧ e.1 ∉ volumeFactors.map Prod.fst := by
  decide

theorem volumeFactors_apart :
    ∀ e ∈ volumeFactors, ¬(e.1 = "" ∨ e.1 ∈ countWords) ∧ e.1 ∉ massFactors.map Prod.fst := by
  decide

theorem lookup_eq_none_of_apart {α : Type} {s : String} {table : List (String × α)}
    (h : s ∉ table.map Prod.fst) : table.lookup s = none := by
  refine List.lookup_eq_none_iff.2 fun e he => ?_
  rw [bne_iff_ne]
  rintro rfl
  exact h (List.mem_map_of_mem he)

end Tables

/-- Units of mass are those whose spelling is in the table of mass. -/
theorem classify_eq_mass_iff (unit : String) (factor : Float) :
    classify unit = .mass factor ↔ (canonical unit, factor) ∈ massFactors := by
  rw [← lookup_eq_some_iff_mem massFactors_nodup, classify]
  constructor
  · intro h
    split at h
    · cases h
    · split at h
      · next hmass => rw [hmass, UnitClass.mass.inj h]
      · split at h <;> cases h
  · intro h
    have hmem := (lookup_eq_some_iff_mem massFactors_nodup _ _).1 h
    rw [if_neg (massFactors_apart _ hmem).1, h]

/-- Units of volume are those whose spelling is in the table of volume. -/
theorem classify_eq_volume_iff (unit : String) (factor : Float) :
    classify unit = .volume factor ↔ (canonical unit, factor) ∈ volumeFactors := by
  rw [← lookup_eq_some_iff_mem volumeFactors_nodup, classify]
  constructor
  · intro h
    split at h
    · cases h
    · split at h
      · cases h
      · split at h
        · next hvolume => rw [hvolume, UnitClass.volume.inj h]
        · cases h
  · intro h
    have hmem := (lookup_eq_some_iff_mem volumeFactors_nodup _ _).1 h
    rcases volumeFactors_apart _ hmem with ⟨hcount, hmass⟩
    rw [if_neg hcount, lookup_eq_none_of_apart hmass, h]

/-- A unit without a factor counts pieces, whether it is known or not. -/
theorem hasNoFactor_iff (unit : String) :
    HasNoFactor unit ↔ classify unit = .count ∨ classify unit = .other := by
  simp only [HasNoFactor, ← classify_eq_mass_iff, ← classify_eq_volume_iff]
  cases classify unit with
  | mass factor =>
      simp only [reduceCtorEq, or_self, iff_false]
      exact fun h => (h factor).1 rfl
  | volume factor =>
      simp only [reduceCtorEq, or_self, iff_false]
      exact fun h => (h factor).2 rfl
  | _ => simp only [reduceCtorEq, not_false_eq_true, and_self, implies_true, or_true, true_or]

end Unit

end Mise
