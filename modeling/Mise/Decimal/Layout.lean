import Mise.Decimal.Shortest

/-!
# Number Texts

Numbers are written in two ways. Within sentences they appear as a cook would write them, without
an exponent and without a fraction that is zero. In data they appear so that they cannot be taken
for whole numbers, and very large and very small ones have an exponent.

## Main definitions

* `positional`: Digits with a decimal point and no exponent.
* `scientific`: One digit before the point, and an exponent.
* `displayNumber`: A number within a sentence.
* `dataNumber`: A finite number in data.
* `specialNumber`: The words for what is no finite number.
-/

namespace Mise

namespace Decimal

/-- A number of zeros. -/
def zeros (n : Nat) : String :=
  String.ofList (List.replicate n '0')

/-- The decimal `d * 10 ^ p` without an exponent. -/
def positional (d : Nat) (p : Int) : String :=
  let digits := Nat.toDigits 10 d
  if 0 ≤ p then String.ofList digits ++ zeros p.toNat
  else
    let point := (digits.length : Int) + p
    if point ≤ 0 then "0." ++ zeros point.natAbs ++ String.ofList digits
    else
      String.ofList (digits.take point.toNat) ++ "." ++ String.ofList (digits.drop point.toNat)

/-- The decimal `d * 10 ^ p` with one digit before the point and a signed exponent. -/
def scientific (d : Nat) (p : Int) : String :=
  let digits := Nat.toDigits 10 d
  let exponent := (digits.length : Int) + p - 1
  let fraction := digits.drop 1
  String.ofList (digits.take 1)
    ++ (if fraction.isEmpty then "" else "." ++ String.ofList fraction)
    ++ (if exponent < 0 then "e-" else "e+") ++ toString exponent.natAbs

/-- A positive decimal in data: between a hundred-thousandth and ten thousand billions with a
    point and at least one digit after it, otherwise with an exponent. -/
def inData (d : Nat) (p : Int) : String :=
  let exponent := (digitCount d : Int) + p - 1
  if -5 ≤ exponent ∧ exponent < 16 then
    positional d p ++ (if 0 ≤ p then ".0" else "")
  else scientific d p

end Decimal

/-- The sign of a negative number. -/
def signText (negative : Bool) : String :=
  if negative then "-" else ""

/-- The words for the values that are not finite numbers. -/
def specialNumber (x : Float) : Option String :=
  match Binary.ofFloat x with
  | .finite .. => none
  | .infinite negative => some (signText negative ++ "inf")
  | .notANumber => some "NaN"

/-- A number within a sentence: the shortest decimal without an exponent. -/
def displayNumber (x : Float) : String :=
  match Binary.ofFloat x with
  | .finite negative m e =>
    signText negative ++
      if m = 0 then "0" else
        let (d, p) := Decimal.shortest .up m e
        Decimal.positional d p
  | _ => (specialNumber x).getD ""

/-- A finite number in data: the shortest decimal with a point or an exponent. -/
def dataNumber (x : Float) : String :=
  match Binary.ofFloat x with
  | .finite negative m e =>
    signText negative ++
      if m = 0 then "0.0" else
        let (d, p) := Decimal.shortest .even m e
        Decimal.inData d p
  | _ => "null"

end Mise
