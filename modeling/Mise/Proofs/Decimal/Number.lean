import Mathlib
import Mise.Decimal.Reader

/-!
# Texts That Are No Numbers

The word `nan` is the only text that is read as something else than a number. Whatever digits spell
is a number: it is computed by dividing or multiplying finite doubles, or by rounding one, and then
packed, and none of these steps starts from what is not a number or gets to it. Infinity is a number
here, it can be compared.

A number is greater than zero, or it is zero or less. What is not a number is neither, so a check
for zero and less does not stop it.

## Main definitions

* `SpellsNaN`: A text is the word for what is not a number.

## Theorems

* `isNaN_pack`: Packing keeps what is not a number apart.
* `isNaN_ofScientific`, `isNaN_nearestDouble`: Decimals are numbers.
* `isNaN_parseNumber?`: The texts that are read as what is not a number.
* `pos_iff`: What is greater than zero is a number that is not zero or less.
-/

namespace Mise

/-- A text is the word for what is not a number, in any case and with any sign. -/
def SpellsNaN (text : String) : Prop :=
  ∃ sign word, (sign = [] ∨ sign = ['+'] ∨ sign = ['-']) ∧ text.toList = sign ++ word
    ∧ word.map Char.toLower = ['n', 'a', 'n']

section Operations

open Float.Model Float.Model.UnpackedFloat

/-- A finite double that is not zero. -/
def IsProper : UnpackedFloat → Bool
  | .finite .. => true
  | _ => false

variable (spec : Format)

theorem isNaN_roundWithAccuracy (s : Sign) (m : Nat) (e : Int) (a : Accuracy) :
    (roundWithAccuracy spec s m e a).isNaN = false := by
  rw [roundWithAccuracy]
  dsimp only
  split <;> rfl

theorem isNaN_round (s : Sign) (m : Nat) (e : Int) :
    (UnpackedFloat.round spec s m e).isNaN = false := by
  rw [UnpackedFloat.round]
  exact isNaN_roundWithAccuracy spec s _ _ _

theorem isNaN_normalize (m e : Int) (s : Sign) :
    (UnpackedFloat.normalize spec m e s).isNaN = false := by
  rw [UnpackedFloat.normalize]
  split
  · exact isNaN_round spec _ _ _
  · rfl
  · exact isNaN_round spec _ _ _

theorem isNaN_mul {u v : UnpackedFloat} (hu : u.isNaN = false) (hv : IsProper v) :
    (UnpackedFloat.mul spec u v).isNaN = false := by
  cases v with
  | finite s m e hm =>
      cases u with
      | notANumber => cases hu
      | finite t n f hn => exact isNaN_roundWithAccuracy spec _ _ _ _
      | _ => rfl
  | _ => cases hv

theorem isNaN_div {u v : UnpackedFloat} (hu : u.isNaN = false) (hv : IsProper v) :
    (UnpackedFloat.div spec u v).isNaN = false := by
  cases v with
  | finite s m e hm =>
      cases u with
      | notANumber => cases hu
      | finite t n f hn => exact isNaN_roundWithAccuracy spec _ _ _ _
      | _ => rfl
  | _ => cases hv

theorem isNaN_neg_unpacked (u : UnpackedFloat) : u.neg.isNaN = u.isNaN := by
  cases u <;> rfl

theorem isNaN_ofScientific_unpacked (m : Nat) (e : Int) :
    (UnpackedFloat.ofScientific spec m e).isNaN = false := by
  rw [UnpackedFloat.ofScientific]
  split_ifs
  · rfl
  · rfl
  · rfl
  · exact isNaN_mul spec rfl rfl
  · exact isNaN_div spec rfl rfl

end Operations

section Packing

open Float.Model Float.Model.UnpackedFloat

-- The exponent of what is not a number is all ones, and finite doubles are packed with another one.
theorem pack_finite_ne_nan (s : Sign) (m : Nat) (e : Int) (h : 0 < m) :
    UnpackedFloat.pack Format.binary64 (.finite s m e h) ≠ packedNaN Format.binary64 := by
  rw [UnpackedFloat.pack]
  dsimp only
  split
  · cases s <;> decide
  · next hfinite =>
    intro heq
    have hexponent := congrArg unpackExponent heq
    rw [packedNaN, unpackExponent_packComponents] at hexponent
    split at hexponent
    · rw [unpackExponent_packComponents] at hexponent
      have hbits := congrArg BitVec.toNat hexponent
      have hones : (-BitVec.ofNat Format.binary64.exponentBits 1).toNat = 2 ^ 11 - 1 := by decide
      rw [hones, BitVec.toNat_ofNat] at hbits
      omega
    · rw [unpackExponent_packComponents] at hexponent
      exact absurd hexponent (by decide)

/-- Packing keeps what is not a number apart. -/
theorem isNaN_pack (u : UnpackedFloat) : (Float.Model.pack u).unpack.isNaN = u.isNaN := by
  cases u with
  | notANumber => decide
  | infinity s => cases s <;> decide
  | zero s => cases s <;> decide
  | finite s m e h =>
      rw [Bool.eq_iff_iff]
      exact (isNaN_unpack_iff_of_valid valid_pack).trans
        (iff_of_false (pack_finite_ne_nan s m e h) Bool.false_ne_true)

end Packing

section Doubles

theorem isNaN_neg (x : Float) : (-x).isNaN = x.isNaN :=
  (isNaN_pack _).trans (isNaN_neg_unpacked _)

theorem isProper_powerOfTen :
    ∀ x ∈ Float.exactlyRepresentablePowersOfTen.toList, IsProper x.toModel.unpack := by
  decide +kernel

theorem isNaN_toFloat (n : UInt64) : n.toFloat.isNaN = false :=
  (isNaN_pack _).trans (isNaN_normalize _ _ _ _)

/-- Decimals are numbers, whether they are computed from two doubles or rounded. -/
theorem isNaN_ofScientific (m : Nat) (negative : Bool) (e : Nat) :
    (OfScientific.ofScientific m negative e : Float).isNaN = false := by
  change (Float.ofScientific m negative e).isNaN = false
  rw [Float.ofScientific]
  split
  · next h =>
    have hpower := isProper_powerOfTen _
      (Array.getElem_mem_toList (Nat.lt_succ_of_le h.2 : e < 23))
    split
    · exact (isNaN_pack _).trans (isNaN_div _ (isNaN_toFloat _) hpower)
    · exact (isNaN_pack _).trans (isNaN_mul _ (isNaN_toFloat _) hpower)
  · exact (isNaN_pack _).trans (isNaN_ofScientific_unpacked _ _ _)

theorem isNaN_nearestDouble (m : Nat) (e : Int) : (nearestDouble m e).isNaN = false := by
  rw [nearestDouble]
  split_ifs
  · decide
  · decide
  · decide
  · exact isNaN_ofScientific _ _ _

theorem isNaN_withSign (negative : Bool) (x : Float) : (withSign negative x).isNaN = x.isNaN := by
  cases negative with
  | false => rfl
  | true => exact isNaN_neg x

end Doubles

section Texts

/-- A sign is taken off the front of a text. -/
theorem splitSign_cases (cs : List Char) :
    ∃ sign, (sign = [] ∨ sign = ['+'] ∨ sign = ['-']) ∧ cs = sign ++ (Decimal.splitSign cs).2 := by
  unfold Decimal.splitSign
  split
  · exact ⟨['-'], Or.inr (Or.inr rfl), rfl⟩
  · exact ⟨['+'], Or.inr (Or.inl rfl), rfl⟩
  · exact ⟨[], Or.inl rfl, rfl⟩

theorem spellsNaN_iff (text : String) :
    SpellsNaN text ↔ (Decimal.splitSign text.toList).2.map Char.toLower = ['n', 'a', 'n'] := by
  constructor
  · rintro ⟨sign, word, hsign, htext, hword⟩
    rw [htext]
    rcases hsign with rfl | rfl | rfl
    · -- No sign has the lower case of a letter.
      have hrest : Decimal.splitSign word = (false, word) := by
        unfold Decimal.splitSign
        split
        · cases hword
        · cases hword
        · rfl
      rw [List.nil_append, hrest, hword]
    · exact hword
    · exact hword
  · intro h
    rcases splitSign_cases text.toList with ⟨sign, hsign, htext⟩
    exact ⟨sign, _, hsign, htext, h⟩

/-- The texts that are read as what is not a number. -/
theorem isNaN_parseNumber? {text : String} {x : Float} (h : parseNumber? text.toList = some x) :
    x.isNaN ↔ SpellsNaN text := by
  rw [spellsNaN_iff, ← String.ofList_inj]
  rw [parseNumber?] at h
  dsimp only at h
  split at h
  · next hword =>
    have hne : String.ofList ((Decimal.splitSign text.toList).2.map Char.toLower)
        ≠ String.ofList ['n', 'a', 'n'] := by
      rcases hword with hword | hword <;> rw [hword] <;> decide
    rw [← Option.some.inj h, isNaN_withSign]
    exact iff_of_false (by decide) hne
  · split at h
    · next hword =>
      rw [← Option.some.inj h, isNaN_withSign]
      exact iff_of_true (by decide) hword
    · next hword =>
      rcases Option.map_eq_some_iff.1 h with ⟨⟨m, e⟩, -, rfl⟩
      rw [isNaN_withSign, isNaN_nearestDouble]
      exact iff_of_false Bool.false_ne_true hword

end Texts

section Zero

open Float.Model Float.Model.UnpackedFloat

theorem compare_zero_eq_lt_iff (u : UnpackedFloat) :
    UnpackedFloat.compare (.zero .positive) u = some .lt
      ↔ u.isNaN = false ∧ ¬ (UnpackedFloat.compare u (.zero .positive)).any Ordering.isLE := by
  rcases u with (_ | _) | _ | (_ | _) | ⟨_ | _, m, e, hm⟩ <;>
  simp [UnpackedFloat.compare, UnpackedFloat.isNaN]

/-- What is greater than zero is a number that is not zero or less. -/
theorem pos_iff (x : Float) : 0.0 < x ↔ x.isNaN = false ∧ ¬ x ≤ 0.0 := by
  have hzero : (0.0 : Float).toModel.unpack = .zero .positive := rfl
  have hlt : 0.0 < x ↔ (0.0 : Float).toModel.unpack.lt x.toModel.unpack = true :=
    decide_eq_true_iff
  have hle : x ≤ 0.0 ↔ x.toModel.unpack.le (0.0 : Float).toModel.unpack = true :=
    decide_eq_true_iff
  rw [hlt, hle, hzero, UnpackedFloat.lt, beq_iff_eq]
  exact compare_zero_eq_lt_iff _

end Zero

end Mise
