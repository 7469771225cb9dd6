import Mise.Decimal.Binary

/-!
# Shortest Decimals

A double stands for every real number that rounds to it. Its decimal text is the shortest decimal
among these, and of two equally short ones the nearer.

The reals that round to `m * 2 ^ e` form an interval around it that reaches half way to either
neighbour, with the ends inside exactly if `m` is even. If a decimal with a given number of digits
lies in the interval, then so does one of the two such decimals next to the double itself. It is
therefore enough to try these two for one digit, two digits and so on; seventeen always suffice.
Both can be in the interval at the same distance, and then the format that is being written has to
choose.

All comparisons are between whole numbers: the double is `num / den`, the ends of its interval are
`(num - below) / den` and `(num + above) / den`.

## Main definitions

* `Tie`: Which of two equally near decimals is written.
* `Interval`: The reals that round to a double.
* `shortest`: The digits and the power of ten of the shortest decimal.
-/

namespace Mise

namespace Decimal

/-- Which of two equally near decimals is taken. -/
inductive Tie where
  | up
  | even
  deriving DecidableEq

/-- A positive double `num / den` with its distances to the ends of its interval, in units of
    `1 / den`. -/
structure Interval where
  num : Nat
  den : Nat
  below : Nat
  above : Nat
  closed : Bool

/-- The interval of the double `m * 2 ^ e`. Below a power of two the neighbours are half as far
    apart, except where the exponent is the lowest. -/
def Interval.ofBinary (m : Nat) (e : Int) : Interval :=
  let scale := if 0 ≤ e then 4 * Nat.pow 2 e.toNat else 4
  let near := m == Nat.pow 2 52 && e > -1074
  { num := m * scale
    den := 4 * if 0 ≤ e then 1 else Nat.pow 2 e.natAbs
    below := if near then scale / 4 else scale / 2
    above := scale / 2
    closed := m % 2 == 0 }

/-- Whether the decimal `d * 10 ^ p`, given as `d * up / down`, rounds to the double. -/
def Interval.contains (i : Interval) (d up down : Nat) : Bool :=
  let x := d * up * i.den
  let lo := (i.num - i.below) * down
  let hi := (i.num + i.above) * down
  if i.closed then lo ≤ x && x ≤ hi else lo < x && x < hi

/-- The number of decimal digits of a natural number, at least one. -/
def digitCount (n : Nat) : Nat :=
  (Nat.toDigits 10 n).length

/-- The least `p` with `num / den < 10 ^ p`, found upwards from a guess that is not above it. -/
def leadingPower (num den : Nat) (guess : Int) : Nat → Int
  | 0 => guess
  | fuel + 1 =>
    let bound := if 0 ≤ guess then den * Nat.pow 10 guess.toNat else den
    let value := if 0 ≤ guess then num else num * Nat.pow 10 guess.natAbs
    if value < bound then guess else leadingPower num den (guess + 1) fuel

/-- The decimal on the grid `10 ^ p` that stands for the double, if one does: the neighbour below
    or above it, the nearer one if both are in the interval. -/
def onGrid? (tie : Tie) (i : Interval) (p : Int) : Option Nat :=
  let up := if 0 ≤ p then Nat.pow 10 p.toNat else 1
  let down := if 0 ≤ p then 1 else Nat.pow 10 p.natAbs
  let d := i.num * down / (i.den * up)
  match d != 0 && i.contains d up down, i.contains (d + 1) up down with
  | false, false => none
  | true, false => some d
  | false, true => some (d + 1)
  | true, true =>
    let twice := 2 * (i.num * down)
    let middle := (2 * d + 1) * (i.den * up)
    if twice < middle then some d
    else if middle < twice then some (d + 1)
    else match tie with
      | .up => some (d + 1)
      | .even => some (if d % 2 == 0 then d else d + 1)

/-- The first of the grids `10 ^ p`, `10 ^ (p - 1)`, … that holds a decimal for the double. -/
def firstGrid (tie : Tie) (i : Interval) (p : Int) : Nat → Nat × Int
  | 0 => (i.num / i.den, 0)
  | fuel + 1 =>
    match onGrid? tie i p with
    | some d => (d, p)
    | none => firstGrid tie i (p - 1) fuel

/-- A decimal without the zeros its digits end with. -/
def dropZeros (d : Nat) (p : Int) : Nat → Nat × Int
  | 0 => (d, p)
  | fuel + 1 => if d % 10 = 0 then dropZeros (d / 10) (p + 1) fuel else (d, p)

/-- The shortest decimal `d * 10 ^ p` of the positive double `m * 2 ^ e`, as `(d, p)`. -/
def shortest (tie : Tie) (m : Nat) (e : Int) : Nat × Int :=
  let i := Interval.ofBinary m e
  let guess : Int := digitCount i.num - digitCount i.den
  let p := leadingPower i.num i.den guess 2
  let (d, p) := firstGrid tie i (p - 1) 18
  dropZeros d p 20

end Decimal

end Mise
