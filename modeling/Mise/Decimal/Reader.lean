import Mise.Decimal.Binary

/-!
# Reading Decimals

A decimal is read as the double nearest to it. Besides digits with an optional point and an
optional exponent, the words for infinity and for what is not a number are accepted, in any
letter case.

## Main definitions

* `digitsValue`: The natural number that a list of digits spells.
* `nearestDouble`: The double nearest to `m * 10 ^ e`.
* `Decimal.split?`: Sign, digits and exponent of a decimal.
* `parseNumber?`: The double a text spells.
-/

namespace Mise

/-- The natural number that ASCII digits spell. -/
def digitsValue (ds : List Char) : Nat :=
  ds.foldl (fun n d => 10 * n + (d.toNat - '0'.toNat)) 0

/-- Positive infinity. -/
def infinity : Float := 1.0 / 0.0

/-- A value that is not a number. -/
def notANumber : Float := 0.0 / 0.0

/-- The double nearest to `m * 10 ^ e`. Exponents far beyond the range of doubles are settled
    without computing the power. -/
def nearestDouble (m : Nat) (e : Int) : Float :=
  let magnitude := (Nat.toDigits 10 m).length + e
  if m = 0 then 0.0
  else if magnitude > 400 then infinity
  else if magnitude < -400 then 0.0
  else OfScientific.ofScientific m (decide (e < 0)) e.natAbs

/-- The negation of a number if `negative` holds. -/
def withSign (negative : Bool) (x : Float) : Float :=
  if negative then -x else x

namespace Decimal

/-- A sign in front of a text, and the rest of the text. -/
def splitSign : List Char → Bool × List Char
  | '-' :: cs => (true, cs)
  | '+' :: cs => (false, cs)
  | cs => (false, cs)

/-- The exponent that ends a decimal; without one it is zero. -/
def exponent? : List Char → Option Int
  | [] => some 0
  | c :: cs =>
    if c = 'e' ∨ c = 'E' then
      let (negative, ds) := splitSign cs
      if ds.isEmpty || !ds.all Char.isDigit then none
      else
        let n : Int := digitsValue ds
        some (if negative then -n else n)
    else none

/-- An unsigned decimal as `(m, e)`, standing for `m * 10 ^ e`: digits with an optional point
    among or around them, at least one, and an optional exponent. -/
def split? (cs : List Char) : Option (Nat × Int) :=
  let whole := cs.takeWhile Char.isDigit
  let rest := cs.dropWhile Char.isDigit
  let (fraction, rest) := match rest with
    | '.' :: rest => (rest.takeWhile Char.isDigit, rest.dropWhile Char.isDigit)
    | _ => ([], rest)
  if (whole ++ fraction).isEmpty then none
  else (exponent? rest).map fun e => (digitsValue (whole ++ fraction), e - fraction.length)

end Decimal

/-- The double that a text spells: a decimal, infinity or not a number, each with an optional
    sign. -/
def parseNumber? (cs : List Char) : Option Float :=
  let (negative, body) := Decimal.splitSign cs
  let word := String.ofList (body.map Char.toLower)
  if word = "inf" ∨ word = "infinity" then some (withSign negative infinity)
  else if word = "nan" then some (withSign negative notANumber)
  else (Decimal.split? body).map fun (m, e) => withSign negative (nearestDouble m e)

end Mise
