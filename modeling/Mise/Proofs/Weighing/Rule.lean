import Mise.Mass
import Mise.Proofs.Unit.Class

/-!
# The Rules of Weighing

How heavy a quantity is depends on its unit first, and for most units on what is stated or known of
the ingredient. Stated figures come before known ones. A volume can always be weighed, because in
the end anything is taken to be as dense as water; what is counted cannot be weighed without a
figure for one piece.

The rules stand here as a relation, each with the conditions under which it applies, so that their
order does not matter: the tables of units have no spelling in common, and the rules for one kind of
unit exclude each other. Statements and knowledge are found under different keys. What is stated is
found under the identity of a name, and what is known under its key, or under that without a
final `s`.

## Main definitions

* `Weighing.stated?`, `Weighing.density?`, `Weighing.pieceWeight?`: What there is to weigh with.
* `Weighing.WeighsTo`: The rules.

## Theorems

* `massOf?_of_mass`, `massOf?_of_volume`, `massOf?_of_pieces`: Weighing by the three kinds of units.
* `massOf?_eq_some_iff`, `massOf?_eq_none_iff`: A quantity has the mass that a rule gives it, and
  none if there is no rule.
* `weighed_by_rules`: How quantities are weighed.
-/

namespace Mise

namespace Weighing

/-- What is stated of an ingredient: grams per millilitre or per piece. -/
def stated? (w : Weighing) (name : Option String) : Option Float :=
  name.bind fun name => w.overrides.get? (slugify name)

/-- The density that is known of an ingredient. -/
def density? (w : Weighing) (name : Option String) : Option Float :=
  (name.bind w.source.lookup?).bind Properties.density

/-- The weight of a piece that is known of an ingredient. -/
def pieceWeight? (w : Weighing) (name : Option String) : Option Float :=
  (name.bind w.source.lookup?).bind Properties.pieceWeight

/-- The rules by which a quantity of something, or of something without a name, has a mass. -/
inductive WeighsTo (w : Weighing) (amount : Float) (unit : String) (name : Option String) :
    MassFigure → Prop
  | mass {factor : Float} (hunit : (Unit.canonical unit, factor) ∈ Unit.massFactors) :
      WeighsTo w amount unit name ⟨amount * factor, .physical, false⟩
  | statedDensity {factor density : Float}
      (hunit : (Unit.canonical unit, factor) ∈ Unit.volumeFactors)
      (hstated : w.stated? name = some density) :
      WeighsTo w amount unit name ⟨amount * factor * density, .explicit, false⟩
  | knownDensity {factor density : Float}
      (hunit : (Unit.canonical unit, factor) ∈ Unit.volumeFactors)
      (hstated : w.stated? name = none) (hknown : w.density? name = some density) :
      WeighsTo w amount unit name ⟨amount * factor * density, .density, true⟩
  | water {factor : Float} (hunit : (Unit.canonical unit, factor) ∈ Unit.volumeFactors)
      (hstated : w.stated? name = none) (hknown : w.density? name = none) :
      WeighsTo w amount unit name ⟨amount * factor * 1.0, .water, true⟩
  | statedWeight {grams : Float} (hunit : Unit.HasNoFactor unit)
      (hstated : w.stated? name = some grams) :
      WeighsTo w amount unit name ⟨amount * grams, .explicit, false⟩
  | knownWeight {grams : Float} (hunit : Unit.HasNoFactor unit)
      (hstated : w.stated? name = none) (hknown : w.pieceWeight? name = some grams) :
      WeighsTo w amount unit name ⟨amount * grams, .pieceWeight, true⟩

variable (w : Weighing) (amount : Float) {unit : String} (name : Option String)

section Kinds

variable {factor : Float}

/-- A unit of mass is all that it takes to weigh. -/
theorem massOf?_of_mass (h : (Unit.canonical unit, factor) ∈ Unit.massFactors) :
    w.massOf? amount unit name = some ⟨amount * factor, .physical, false⟩ := by
  unfold massOf? convert?
  rw [(Unit.classify_eq_mass_iff unit factor).2 h]
  rfl

/-- A volume is weighed by a density, which is that of water in the end. -/
theorem massOf?_of_volume (h : (Unit.canonical unit, factor) ∈ Unit.volumeFactors) :
    w.massOf? amount unit name
      = match w.stated? name with
        | some density => some ⟨amount * factor * density, .explicit, false⟩
        | none =>
          match w.density? name with
          | some density => some ⟨amount * factor * density, .density, true⟩
          | none => some ⟨amount * factor * 1.0, .water, true⟩ := by
  unfold massOf? convert?
  rw [(Unit.classify_eq_volume_iff unit factor).2 h]
  rfl

/-- Pieces are weighed by the weight of one. -/
theorem massOf?_of_pieces (h : Unit.HasNoFactor unit) :
    w.massOf? amount unit name
      = match w.stated? name with
        | some grams => some ⟨amount * grams, .explicit, false⟩
        | none => (w.pieceWeight? name).map fun grams => ⟨amount * grams, .pieceWeight, true⟩ := by
  unfold massOf? convert?
  rcases (Unit.hasNoFactor_iff unit).1 h with hclass | hclass <;> rw [hclass] <;> rfl

end Kinds

/-- A unit is one of mass, one of volume, or one without a factor. -/
theorem unit_cases (unit : String) :
    (∃ factor, (Unit.canonical unit, factor) ∈ Unit.massFactors)
      ∨ (∃ factor, (Unit.canonical unit, factor) ∈ Unit.volumeFactors)
      ∨ Unit.HasNoFactor unit := by
  by_cases hmass : ∃ factor, (Unit.canonical unit, factor) ∈ Unit.massFactors
  · exact Or.inl hmass
  · by_cases hvolume : ∃ factor, (Unit.canonical unit, factor) ∈ Unit.volumeFactors
    · exact Or.inr (Or.inl hvolume)
    · exact Or.inr (Or.inr fun factor =>
        ⟨fun h => hmass ⟨factor, h⟩, fun h => hvolume ⟨factor, h⟩⟩)

/-- A quantity has the mass that a rule gives it. -/
theorem massOf?_eq_some_iff (m : MassFigure) :
    w.massOf? amount unit name = some m ↔ w.WeighsTo amount unit name m := by
  constructor
  · intro h
    rcases unit_cases unit with ⟨factor, hunit⟩ | ⟨factor, hunit⟩ | hunit
    · rw [massOf?_of_mass w amount name hunit, Option.some.injEq] at h
      exact h ▸ .mass hunit
    · rw [massOf?_of_volume w amount name hunit] at h
      cases hstated : w.stated? name with
      | some density =>
          rw [hstated] at h
          exact Option.some.inj h ▸ .statedDensity hunit hstated
      | none =>
          rw [hstated] at h
          cases hknown : w.density? name with
          | some density =>
              rw [hknown] at h
              exact Option.some.inj h ▸ .knownDensity hunit hstated hknown
          | none =>
              rw [hknown] at h
              exact Option.some.inj h ▸ .water hunit hstated hknown
    · rw [massOf?_of_pieces w amount name hunit] at h
      cases hstated : w.stated? name with
      | some grams =>
          rw [hstated] at h
          exact Option.some.inj h ▸ .statedWeight hunit hstated
      | none =>
          rw [hstated] at h
          rcases Option.map_eq_some_iff.1 h with ⟨grams, hknown, rfl⟩
          exact .knownWeight hunit hstated hknown
  · -- Each rule says by its conditions which way the unit is weighed.
    rintro (hunit | ⟨hunit, hstated⟩ | ⟨hunit, hstated, hknown⟩ | ⟨hunit, hstated, hknown⟩
      | ⟨hunit, hstated⟩ | ⟨hunit, hstated, hknown⟩)
    · rw [massOf?_of_mass w amount name hunit]
    · rw [massOf?_of_volume w amount name hunit, hstated]
    · rw [massOf?_of_volume w amount name hunit, hstated, hknown]
    · rw [massOf?_of_volume w amount name hunit, hstated, hknown]
    · rw [massOf?_of_pieces w amount name hunit, hstated]
    · rw [massOf?_of_pieces w amount name hunit, hstated, hknown, Option.map_some]

/-- A quantity has no mass if it counts pieces of which no weight is stated or known. -/
theorem massOf?_eq_none_iff (unit : String) :
    w.massOf? amount unit name = none
      ↔ Unit.HasNoFactor unit ∧ w.stated? name = none ∧ w.pieceWeight? name = none := by
  rcases unit_cases unit with ⟨factor, hunit⟩ | ⟨factor, hunit⟩ | hunit
  · rw [massOf?_of_mass w amount name hunit]
    exact ⟨nofun, fun h => absurd hunit (h.1 factor).1⟩
  · rw [massOf?_of_volume w amount name hunit]
    refine ⟨fun h => ?_, fun h => absurd hunit (h.1 factor).2⟩
    split at h
    · cases h
    · split at h <;> cases h
  · rw [massOf?_of_pieces w amount name hunit]
    cases w.stated? name with
    | some grams => exact ⟨nofun, fun h => nomatch h.2.1⟩
    | none => rw [Option.map_eq_none_iff, and_iff_right hunit, and_iff_right rfl]

/-- A mass is an estimate if it relies on a typical figure, and none is that of a preparation. -/
theorem WeighsTo.estimated_iff {m : MassFigure} (h : w.WeighsTo amount unit name m) :
    (m.estimated ↔ m.method = .density ∨ m.method = .water ∨ m.method = .pieceWeight)
      ∧ m.method ≠ .preparation := by
  cases h <;> simp only [reduceCtorEq, or_self, or_true, true_or, Bool.false_eq_true, ne_eq,
    not_false_eq_true, and_self]

end Weighing

/-- How quantities are weighed. It depends on the canonical spelling of the unit only, and a mass is
    what one of the rules gives. Without a mass are quantities whose unit has no factor, of things
    of which no weight is stated or known, and no others: so masses and volumes always have one. A
    mass is an estimate if it comes from a known density, from the density of water or from a known
    weight, and it never comes from a preparation. -/
theorem weighed_by_rules (w : Weighing) (amount : Float) (unit : String) (name : Option String) :
    (∀ other, Unit.canonical other = Unit.canonical unit →
        w.massOf? amount other name = w.massOf? amount unit name)
      ∧ (∀ m, w.massOf? amount unit name = some m ↔ w.WeighsTo amount unit name m)
      ∧ (w.massOf? amount unit name = none
          ↔ Unit.HasNoFactor unit ∧ w.stated? name = none ∧ w.pieceWeight? name = none)
      ∧ ∀ m, w.massOf? amount unit name = some m →
          (m.estimated ↔ m.method = .density ∨ m.method = .water ∨ m.method = .pieceWeight)
            ∧ m.method ≠ .preparation := by
  refine ⟨fun other h => ?_, w.massOf?_eq_some_iff amount name, w.massOf?_eq_none_iff amount name _,
    fun m h => ((w.massOf?_eq_some_iff amount name m).1 h).estimated_iff⟩
  have hclass : Unit.classify other = Unit.classify unit := by
    rw [Unit.classify, Unit.classify, h]
  unfold Weighing.massOf? convert?
  rw [hclass]

end Mise
