import Mathlib

/-!
# Sums of Doubles

Numbers are added up one after another, starting from zero, and where a number is missing a zero is
added in its place. That makes no difference, although doubles have two zeros: adding zero to the
negative one gives the positive one, and leaves every other double as it is. A sum that starts from
the positive zero never becomes the negative one. Two doubles that cancel each other give the
positive zero, and no sum of doubles is too small to be represented, so none is rounded to zero.

The last point is where the format comes in. Mantissas have 53 bits at most and exponents are not
below -1074. What two numbers add up to has the lower one of their exponents, before it is rounded,
and rounding only raises it.

## Main definitions

* `sumInOrder`: The sum of numbers.
* `Ranged`, `Clear`: Unpacked doubles with a mantissa and an exponent of the format, and those of
  them that are not the negative zero.

## Theorems

* `add_zero_of_clear`: Adding zero to anything but the negative zero.
* `clear_round`: What is not too small is not rounded to zero.
* `clear_add`: A sum is the negative zero only if its first part is.
* `sumInOrder_zeros`: Zeros make no difference to a sum.
-/

namespace Mise

/-- The sum of numbers in their order, starting from zero. -/
def sumInOrder (xs : List Float) : Float :=
  xs.foldl (· + ·) 0.0

theorem sumInOrder_concat (xs : List Float) (x : Float) :
    sumInOrder (xs ++ [x]) = sumInOrder xs + x :=
  List.foldl_concat _ _ _ _

section Format

open Float.Model Float.Model.UnpackedFloat

/-- A finite double has a mantissa of 53 bits at most, and no exponent below the lowest. -/
def Ranged : UnpackedFloat → Prop
  | .finite _ m e _ => m < 2 ^ 53 ∧ -1074 ≤ e
  | _ => True

/-- A double that is not the negative zero, with a mantissa and an exponent of the format. -/
def Clear (u : UnpackedFloat) : Prop :=
  Ranged u ∧ u ≠ .zero .negative

theorem ranged_unpack (x : Float) : Ranged x.toModel.unpack := by
  rw [Float.Model.unpack, UnpackedFloat.unpack]
  split
  · split <;> trivial
  · split
    · next hexponent =>
      split
      · trivial
      · -- Below the normal numbers all exponents are the lowest one.
        refine ⟨lt_trans (BitVec.isLt _) (by decide), ?_⟩
        rw [hexponent]
        decide
    · next hexponent =>
      refine ⟨BitVec.isLt _, ?_⟩
      have hpos : 0 < (@unpackExponent .binary64 x.toModel.toBits.toBitVec).toNat :=
        Nat.pos_iff_ne_zero.2 fun h => hexponent (BitVec.eq_of_toNat_eq h)
      simp only [Format.exponentBias]
      omega

section Rounding

theorem mantissa_shiftRight (em : ExtendedMantissa) (n : Nat) :
    (em >>> n).mantissa = em.mantissa / 2 ^ n := by
  change (n.repeat ExtendedMantissa.shiftRightOne em).mantissa = _
  induction n with
  | zero => rw [Nat.repeat, pow_zero, Nat.div_one]
  | succ n ih =>
      rw [Nat.repeat, ExtendedMantissa.shiftRightOne, ih, Nat.div_div_eq_div_mul, pow_succ]

theorem mantissa_ofMantissaAndAccuracy (m : Nat) (a : Accuracy) :
    (ExtendedMantissa.ofMantissaAndAccuracy m a).mantissa = m := by
  rcases a with _ | _ | _ | _ <;> rfl

theorem mantissa_le_roundedMantissa (em : ExtendedMantissa) :
    em.mantissa ≤ em.roundedMantissa := by
  rcases em with ⟨m, _ | _, _ | _⟩ <;>
    simp only [ExtendedMantissa.roundedMantissa, ExtendedMantissa.accuracy,
      Accuracy.roundToNearestEven] <;>
    omega

/-- The leading 53 bits of a positive number are a positive number. -/
theorem leadingBits_pos {m : Nat} (h : 0 < m) :
    0 < m / 2 ^ (m.log2 - 52) ∧ m / 2 ^ (m.log2 - 52) < 2 ^ 53 := by
  have hlow : 2 ^ m.log2 ≤ m := Nat.log2_self_le h.ne'
  have hhigh : m < 2 ^ (m.log2 + 1) := Nat.lt_log2_self
  constructor
  · exact Nat.div_pos ((Nat.pow_le_pow_right two_pos (Nat.sub_le _ _)).trans hlow) (by positivity)
  · refine Nat.div_lt_of_lt_mul (hhigh.trans_le ?_)
    rw [← pow_add]
    exact Nat.pow_le_pow_right two_pos (by omega)

/-- Shifting to the format keeps the leading 53 bits, if the exponent is not below the lowest. -/
theorem shiftToTargetExponent_eq {m : Nat} {e : Int} (he : -1074 ≤ e) (a : Accuracy) :
    shiftToTargetExponent Format.binary64 m e a
      = (ExtendedMantissa.ofMantissaAndAccuracy m a >>> (m.log2 - 52),
          e + (m.log2 - 52 : Nat)) := by
  have hshift : (Format.binary64.targetExponent (totalExponent m e) - e).toNat = m.log2 - 52 := by
    simp only [Format.targetExponent, Format.minExponent, Format.mantissaBits, totalExponent]
    omega
  rw [shiftToTargetExponent, shiftToExponent, hshift]

theorem mantissa_shifted {m : Nat} (h : 0 < m) (a : Accuracy) :
    0 < (ExtendedMantissa.ofMantissaAndAccuracy m a >>> (m.log2 - 52)).mantissa
      ∧ (ExtendedMantissa.ofMantissaAndAccuracy m a >>> (m.log2 - 52)).mantissa < 2 ^ 53 := by
  rw [mantissa_shiftRight, mantissa_ofMantissaAndAccuracy]
  exact leadingBits_pos h

-- Rounding shifts twice, because rounding up may take one more bit.
theorem clear_roundWithAccuracy (s : Sign) {m : Nat} {e : Int} (hm : 0 < m) (he : -1074 ≤ e)
    (a : Accuracy) : Clear (roundWithAccuracy Format.binary64 s m e a) := by
  have hfirst := (mantissa_shifted hm a).1.trans_le (mantissa_le_roundedMantissa _)
  have hsecond := mantissa_shifted hfirst .exact
  have hexponent : -1074 ≤ e + (m.log2 - 52 : Nat) := by omega
  rw [roundWithAccuracy]
  simp only [shiftToTargetExponent_eq he, shiftToTargetExponent_eq hexponent]
  rw [dif_neg hsecond.1.ne']
  exact ⟨⟨hsecond.2, by omega⟩, nofun⟩

/-- What is positive and has no exponent below the lowest is not rounded to zero. -/
theorem clear_round (s : Sign) {m : Nat} {e : Int} (hm : 0 < m) (he : -1074 ≤ e) :
    Clear (UnpackedFloat.round Format.binary64 s m e) := by
  rw [UnpackedFloat.round]
  refine clear_roundWithAccuracy s ?_ ?_ .exact
  · rw [Nat.shiftLeft_eq]
    positivity
  · simp only [Format.targetExponent, Format.minExponent, Format.mantissaBits]
    omega

end Rounding

/-- A sum is the negative zero only if its first part is. -/
theorem clear_add {u v : UnpackedFloat} (hu : Clear u) (hv : Ranged v) :
    Clear (UnpackedFloat.add Format.binary64 u v) := by
  rcases hu with ⟨hrange, hne⟩
  cases u with
  | notANumber => exact ⟨trivial, nofun⟩
  | infinity s =>
      cases v with
      | infinity t =>
          rw [UnpackedFloat.add]
          split <;> exact ⟨trivial, nofun⟩
      | _ => exact ⟨trivial, nofun⟩
  | zero s =>
      cases s with
      | negative => exact absurd rfl hne
      | positive =>
          cases v with
          | zero t => cases t <;> exact ⟨trivial, nofun⟩
          | finite t m e h => exact ⟨hv, nofun⟩
          | _ => exact ⟨trivial, nofun⟩
  | finite s m e h =>
      cases v with
      | finite t n f k =>
          -- The sum is exact before it is rounded, and has the lower one of the exponents.
          have hexponent : -1074 ≤ min e f := le_min hrange.2 hv.2
          simp only [UnpackedFloat.add, UnpackedFloat.normalize]
          split
          · next hsign =>
            rw [compare_lt_iff_lt] at hsign
            exact clear_round _ (by omega) hexponent
          · exact ⟨trivial, nofun⟩
          · next hsign =>
            rw [compare_gt_iff_gt] at hsign
            exact clear_round _ (by omega) hexponent
      | zero t => exact ⟨hrange, nofun⟩
      | _ => exact ⟨trivial, nofun⟩

section Packing

theorem pack_finite_ne {s : Sign} {m : Nat} {e : Int} {h : 0 < m}
    (hrange : Ranged (.finite s m e h)) (sign : Sign) :
    UnpackedFloat.pack Format.binary64 (.finite s m e h) ≠ packedZero Format.binary64 sign := by
  intro heq
  have hexponent := congrArg unpackExponent heq
  have hmantissa := congrArg unpackMantissa heq
  rw [UnpackedFloat.pack] at hexponent hmantissa
  rw [packedZero, unpackExponent_packComponents] at hexponent
  rw [packedZero, unpackMantissa_packComponents] at hmantissa
  split at hexponent
  · rw [packedInfinity, unpackExponent_packComponents] at hexponent
    exact absurd hexponent (by decide)
  · next hfinite =>
    rw [if_neg hfinite] at hmantissa
    split at hexponent
    · -- The exponent of a normal number is not zero.
      have hlow := hrange.2
      rw [unpackExponent_packComponents] at hexponent
      have hbits := congrArg BitVec.toNat hexponent
      simp only [BitVec.toNat_ofNat, BitVec.ofNat_eq_ofNat, Nat.zero_mod, Format.exponentBias]
        at hbits hfinite
      omega
    · next hsubnormal =>
      -- Below the normal numbers all of the mantissa is there.
      rw [if_neg hsubnormal, unpackMantissa_packComponents] at hmantissa
      have hbits := congrArg BitVec.toNat hmantissa
      simp only [BitVec.toNat_ofNat, BitVec.ofNat_eq_ofNat, Nat.zero_mod, Format.mantissaBits]
        at hbits hsubnormal
      have hlog : m.log2 < 53 := (Nat.log2_lt h.ne').2 hrange.1
      have hlt : m < 2 ^ 52 := (Nat.log2_lt h.ne').1 (by omega)
      omega

/-- Only the negative zero is packed as such. -/
theorem unpack_pack_of_clear {u : UnpackedFloat} (h : Clear u) :
    (Float.Model.pack u).unpack ≠ .zero .negative := by
  intro hzero
  have hpack : UnpackedFloat.pack Format.binary64 u = packedZero Format.binary64 .negative :=
    (unpack_eq_zero_iff_of_valid valid_pack).1 hzero
  cases u with
  | notANumber => exact absurd hpack (by decide)
  | infinity s => cases s <;> exact absurd hpack (by decide)
  | zero s =>
      cases s with
      | positive => exact absurd hpack (by decide)
      | negative => exact h.2 rfl
  | finite s m e hm => exact pack_finite_ne h.1 .negative hpack

end Packing

end Format

section Zeros

open Float.Model

theorem clear_zero : Clear (0.0 : Float).toModel.unpack :=
  ⟨ranged_unpack _, nofun⟩

theorem clear_sum {x : Float} (h : Clear x.toModel.unpack) (y : Float) :
    Clear (x + y).toModel.unpack :=
  ⟨ranged_unpack _, unpack_pack_of_clear (clear_add h (ranged_unpack y))⟩

/-- Adding zero leaves everything but the negative zero as it is. -/
theorem add_zero_of_clear {x : Float} (h : Clear x.toModel.unpack) : x + 0.0 = x := by
  have hadd : UnpackedFloat.add Format.binary64 x.toModel.unpack (.zero .positive)
      = x.toModel.unpack := by
    cases hx : x.toModel.unpack with
    | zero s =>
        cases s with
        | positive => rfl
        | negative => exact absurd hx h.2
    | _ => rfl
  have hpack : Float.Model.pack x.toModel.unpack = x.toModel := by
    rcases x with ⟨⟨bits, valid⟩⟩
    simp only [Float.Model.pack, Float.Model.unpack, UnpackedFloat.pack_unpack_of_valid valid]
  calc x + 0.0
      = Float.ofModel (Float.Model.pack
          (UnpackedFloat.add Format.binary64 x.toModel.unpack (.zero .positive))) := rfl
    _ = x := by rw [hadd, hpack]

/-- Zeros in the place of missing numbers make no difference to a sum. -/
theorem sumInOrder_zeros (xs : List (Option Float)) :
    sumInOrder (xs.map fun x => x.getD 0.0) = sumInOrder (xs.filterMap id) := by
  have hfrom : ∀ start : Float, Clear start.toModel.unpack →
      (xs.map fun x => x.getD 0.0).foldl (· + ·) start = (xs.filterMap id).foldl (· + ·) start := by
    induction xs with
    | nil => exact fun _ _ => rfl
    | cons x xs ih =>
        intro start hstart
        cases x with
        | none =>
            rw [List.map_cons, List.foldl_cons, Option.getD_none, add_zero_of_clear hstart,
              ih start hstart]
            rfl
        | some x => exact ih (start + x) (clear_sum hstart x)
  exact hfrom 0.0 clear_zero

end Zeros

end Mise
