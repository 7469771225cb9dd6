/-!
# Doubles Taken Apart

A finite double is a sign and `m * 2 ^ e`. Everything that has to be exact about a double, its
shortest decimal text and its rounding, is computed on `m` and `e` in whole numbers.

## Main definitions

* `Binary`: A double as sign, mantissa and exponent, or one of the values that are not finite.
* `Binary.ofFloat`: Taking a double apart.
* `roundHalfAway`: The nearest whole number, halves away from zero.
* `round2`: The nearest hundredth.
* `maxNumber`: The larger of two numbers, where one that is not a number yields to the other.
-/

namespace Mise

/-- A double: a finite one is `m * 2 ^ e` with a sign. -/
inductive Binary where
  | finite (negative : Bool) (m : Nat) (e : Int)
  | infinite (negative : Bool)
  | notANumber

namespace Binary

/-- Take a double apart. The lowest exponent is shared by the numbers without the leading bit. -/
def ofFloat (x : Float) : Binary :=
  let bits := x.toBits.toNat
  let negative := bits / Nat.pow 2 63 == 1
  let exponent : Nat := bits / Nat.pow 2 52 % 2048
  let fraction := bits % Nat.pow 2 52
  if exponent = 2047 then
    if fraction = 0 then .infinite negative else .notANumber
  else if exponent = 0 then .finite negative fraction (-1074)
  else .finite negative (fraction + Nat.pow 2 52) ((exponent : Int) - 1075)

end Binary

/-- A double that is neither infinite nor undefined. -/
def isFiniteNumber (x : Float) : Bool :=
  match Binary.ofFloat x with
  | .finite .. => true
  | _ => false

/-- The nearest whole number; a half goes away from zero. The sign is kept, also of a zero. -/
def roundHalfAway (x : Float) : Float :=
  match Binary.ofFloat x with
  | .finite negative m e =>
    if 0 ≤ e then x
    else
      let unit := Nat.pow 2 e.natAbs
      let whole := Float.ofNat ((2 * m + unit) / (2 * unit))
      if negative then -whole else whole
  | _ => x

/-- The nearest hundredth, computed in doubles. -/
def round2 (x : Float) : Float :=
  roundHalfAway (x * 100.0) / 100.0

/-- The larger of two numbers; one that is not a number yields to the other. -/
def maxNumber (x y : Float) : Float :=
  if x.isNaN then y else if y.isNaN then x else if x < y then y else x

end Mise
