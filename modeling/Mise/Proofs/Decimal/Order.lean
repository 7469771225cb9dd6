import Mathlib
import Mise.Decimal.Binary

/-!
# The Order of Doubles

What is not a number cannot be compared. All other doubles are ordered like their ranks: by sign
first, and then by exponent and mantissa, in reverse for negative ones. Ranks are in a linear order,
so `¬ x < y` can be chained over a number.

The largest of some doubles is found by looking at one after another. What is not a number is passed
over, so the search has to start from a number. It then ends with one of the doubles or with the
start, and none of them is larger.

## Main definitions

* `rank`: Where a double stands.

## Theorems

* `lt_iff_rank`: Doubles are ordered like their ranks.
* `not_lt_trans`: What is not less can be chained over a number.
* `foldl_max_mem`: The largest of some doubles is one of them, or the start.
* `foldl_max_bound`: None of them is larger.
-/

namespace Mise

section Ranks

open Float.Model Float.Model.UnpackedFloat

/-- Where a double stands among others. -/
def rank : UnpackedFloat → ℤ ×ₗ ℤ ×ₗ ℤ
  | .notANumber => toLex (0, toLex (0, 0))
  | .zero _ => toLex (0, toLex (0, 0))
  | .infinity .positive => toLex (2, toLex (0, 0))
  | .infinity .negative => toLex (-2, toLex (0, 0))
  | .finite .positive m e _ => toLex (1, toLex (e, m))
  | .finite .negative m e _ => toLex (-1, toLex (-e, -m))

theorem then_eq_lt_iff (e f : ℤ) (m n : ℕ) :
    (compare e f).then (compare m n) = .lt ↔ e < f ∨ e = f ∧ m < n := by
  rw [Ordering.then_eq_lt, compare_lt_iff_lt, compare_eq_iff_eq, compare_lt_iff_lt]

theorem then_eq_gt_iff (e f : ℤ) (m n : ℕ) :
    (compare e f).then (compare m n) = .gt ↔ f < e ∨ e = f ∧ n < m := by
  rw [Ordering.then_eq_gt, compare_gt_iff_gt, compare_eq_iff_eq, compare_gt_iff_gt]

-- Only two finite doubles of one sign have to be looked at closer than by their kind.
theorem compare_eq_lt_iff (u v : UnpackedFloat) :
    u.compare v = some .lt ↔ u.isNaN = false ∧ v.isNaN = false ∧ rank u < rank v := by
  have hsigns : compare Sign.negative Sign.positive = .lt := rfl
  rcases u with (_ | _) | _ | (_ | _) | ⟨_ | _, m, e, hm⟩ <;>
  rcases v with (_ | _) | _ | (_ | _) | ⟨_ | _, n, f, hn⟩ <;>
  simp [UnpackedFloat.compare, UnpackedFloat.isNaN, rank, Prod.Lex.toLex_lt_toLex, hsigns,
    then_eq_lt_iff, then_eq_gt_iff]

/-- Doubles are ordered like their ranks. -/
theorem lt_iff_rank (x y : Float) :
    x < y ↔ x.isNaN = false ∧ y.isNaN = false ∧ rank x.toModel.unpack < rank y.toModel.unpack := by
  have hmodel : x < y ↔ x.toModel.unpack.lt y.toModel.unpack = true := decide_eq_true_iff
  have hcompare : x.toModel.unpack.lt y.toModel.unpack = true
      ↔ x.toModel.unpack.compare y.toModel.unpack = some .lt := beq_iff_eq
  exact hmodel.trans (hcompare.trans (compare_eq_lt_iff _ _))

end Ranks

/-- What is not less can be chained over a number. -/
theorem not_lt_trans {x y z : Float} (hy : y.isNaN = false) (hxy : ¬ x < y) (hyz : ¬ y < z) :
    ¬ x < z := by
  intro hxz
  rcases (lt_iff_rank x z).1 hxz with ⟨hx, hz, hrank⟩
  have hfirst : rank y.toModel.unpack ≤ rank x.toModel.unpack :=
    not_lt.1 fun h => hxy ((lt_iff_rank x y).2 ⟨hx, hy, h⟩)
  have hsecond : rank z.toModel.unpack ≤ rank y.toModel.unpack :=
    not_lt.1 fun h => hyz ((lt_iff_rank y z).2 ⟨hy, hz, h⟩)
  exact absurd hrank (not_lt.2 (hsecond.trans hfirst))

theorem not_lt_self (x : Float) : ¬ x < x :=
  fun h => absurd ((lt_iff_rank x x).1 h).2.2 (lt_irrefl _)

theorem not_lt_of_lt {x y : Float} (h : x < y) : ¬ y < x :=
  fun hback => absurd ((lt_iff_rank x y).1 h).2.2 ((lt_iff_rank y x).1 hback).2.2.asymm

section Maximum

/-- The larger of a number and something else is one of them. It is a number, and neither of them is
    larger. -/
theorem maxNumber_spec {x : Float} (hx : x.isNaN = false) (y : Float) :
    (maxNumber x y = x ∨ maxNumber x y = y) ∧ (maxNumber x y).isNaN = false
      ∧ ¬ maxNumber x y < x ∧ ¬ maxNumber x y < y := by
  rw [maxNumber, hx, if_neg Bool.false_ne_true]
  by_cases hy : y.isNaN
  · rw [if_pos hy]
    refine ⟨Or.inl rfl, hx, not_lt_self x, fun h => ?_⟩
    exact absurd hy (Bool.eq_false_iff.1 ((lt_iff_rank x y).1 h).2.1)
  · rw [if_neg hy]
    by_cases hlt : x < y
    · rw [if_pos hlt]
      exact ⟨Or.inr rfl, Bool.eq_false_iff.2 hy, not_lt_of_lt hlt, not_lt_self y⟩
    · rw [if_neg hlt]
      exact ⟨Or.inl rfl, hx, not_lt_self x, hlt⟩

variable {start : Float} (hstart : start.isNaN = false)

include hstart

theorem isNaN_foldl_max (xs : List Float) : (xs.foldl maxNumber start).isNaN = false := by
  induction xs using List.reverseRecOn with
  | nil => exact hstart
  | append_singleton xs x ih =>
      rw [List.foldl_concat]
      exact (maxNumber_spec ih x).2.1

/-- The largest of some doubles is one of them, or the start. -/
theorem foldl_max_mem (xs : List Float) :
    xs.foldl maxNumber start = start ∨ xs.foldl maxNumber start ∈ xs := by
  induction xs using List.reverseRecOn with
  | nil => exact Or.inl rfl
  | append_singleton xs x ih =>
      rw [List.foldl_concat, List.mem_append, List.mem_singleton]
      rcases (maxNumber_spec (isNaN_foldl_max hstart xs) x).1 with hsame | hnew
      · rw [hsame]
        exact ih.imp_right Or.inl
      · exact Or.inr (Or.inr hnew)

/-- None of some doubles is larger than the largest. -/
theorem foldl_max_bound (xs : List Float) : ∀ x ∈ xs, ¬ xs.foldl maxNumber start < x := by
  induction xs using List.reverseRecOn with
  | nil => exact fun x hx => absurd hx List.not_mem_nil
  | append_singleton xs last ih =>
      have hbefore := isNaN_foldl_max hstart xs
      rcases maxNumber_spec hbefore last with ⟨_, _, hgrown, hlast⟩
      intro x hx
      rw [List.foldl_concat]
      rcases List.mem_append.1 hx with hold | hnew
      · exact not_lt_trans hbefore hgrown (ih x hold)
      · rw [List.mem_singleton.1 hnew]
        exact hlast

end Maximum

end Mise
