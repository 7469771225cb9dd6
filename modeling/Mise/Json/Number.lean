import Mise.Data
import Mise.Decimal.Reader

/-!
# Numbers in JSON

A number without a point and an exponent that fits a machine word is a whole number. Any other
number is read quickly rather than exactly: its digits are gathered into a 64-bit word for as long
as they fit, and that word is scaled by a power of ten with one multiplication or division of
doubles. A number beyond the range of doubles is refused.

## Main definitions

* `Numeral`: The parts of a written number.
* `Numeral.split?`: The numeral at the start of a text, and the rest of the text.
* `absorb`: Gathering digits into a word.
* `scaled?`: Scaling by a power of ten.
* `Numeral.value?`: The value of a numeral.
-/

namespace Mise

namespace Json

/-- The parts of a written number: its sign, its whole digits, the digits after its point, and the
    sign and digits of its exponent. -/
structure Numeral where
  negative : Bool
  whole : List Char
  fraction : Option (List Char)
  exponent : Option (Bool × List Char)

/-- The digits at the start of a text, and the rest. -/
def digits (cs : List Char) : List Char × List Char :=
  (cs.takeWhile Char.isDigit, cs.dropWhile Char.isDigit)

/-- The point and the digits after it at the start of a text, if there is a point. A point without
    digits is malformed. -/
def fraction? : List Char → Option (Option (List Char) × List Char)
  | '.' :: cs =>
    let (ds, rest) := digits cs
    if ds.isEmpty then none else some (some ds, rest)
  | cs => some (none, cs)

/-- The exponent at the start of a text, if there is one. An exponent mark without digits is
    malformed. -/
def exponent? : List Char → Option (Option (Bool × List Char) × List Char)
  | [] => some (none, [])
  | c :: cs =>
    if c = 'e' ∨ c = 'E' then
      let (negative, rest) := Decimal.splitSign cs
      let (ds, rest) := digits rest
      if ds.isEmpty then none else some (some (negative, ds), rest)
    else some (none, c :: cs)

/-- The numeral at the start of a text, and the rest of the text. A leading zero stands alone. -/
def Numeral.split? (cs : List Char) : Option (Numeral × List Char) :=
  let (negative, body) := match cs with
    | '-' :: cs => (true, cs)
    | cs => (false, cs)
  let (whole, rest) := digits body
  match whole with
  | [] => none
  | '0' :: _ :: _ => none
  | whole =>
    match fraction? rest with
    | none => none
    | some (fraction, rest) =>
      match exponent? rest with
      | none => none
      | some (exponent, rest) => some (⟨negative, whole, fraction, exponent⟩, rest)

/-- The least number that does not fit a 64-bit word. -/
def wordSize : Nat := Nat.pow 2 64

/-- Gather digits into a word until the next one would overflow it. Returns the word, the number
    of digits gathered, and the number of digits left over. -/
def absorb (word : Nat) : List Char → Nat × Nat × Nat
  | [] => (word, 0, 0)
  | d :: ds =>
    let next := 10 * word + (d.toNat - '0'.toNat)
    if next < wordSize then
      let (word, count, left) := absorb next ds
      (word, count + 1, left)
    else (word, 0, ds.length + 1)

/-- A word scaled by `10 ^ e`, in one step of double arithmetic. Powers too small for a double are
    divided out in two steps. A result too large for a double is refused. -/
def scaled? (word : Nat) (e : Int) : Option Float :=
  let x := Float.ofNat word
  if e > 308 then
    if word = 0 then some x else none
  else if 0 ≤ e then
    let y := x * nearestDouble 1 e
    if isFiniteNumber y then some y else none
  else if -308 ≤ e then some (x / nearestDouble 1 (-e))
  else if -616 ≤ e then some (x / 1e308 / nearestDouble 1 (-(e + 308)))
  else some 0.0

/-- The value of a numeral with a point or an exponent, or too long for a word. An exponent beyond
    the machine's integers leaves zero, or a number that is refused. -/
def Numeral.fractional? (n : Numeral) : Option Float :=
  let (word, _, left) := absorb 0 n.whole
  let (word, count, _) := absorb word (n.fraction.getD [])
  let e : Int := (left : Int) - count
  match n.exponent with
  | none => scaled? word e
  | some (negative, ds) =>
    let k := digitsValue ds
    if k ≥ Nat.pow 2 31 then
      if negative || word == 0 then some 0.0 else none
    else scaled? word (if negative then e - k else e + k)

/-- The value of a numeral: a whole number if it is written like one and fits a word, with or
    without its sign, and otherwise a double. A negative zero is a double. -/
def Numeral.value? (n : Numeral) : Option Data :=
  let k := digitsValue n.whole
  let plain := n.fraction.isNone && n.exponent.isNone
  if plain && !n.negative && k < wordSize then some (.int k)
  else if plain && n.negative && 0 < k && k ≤ Nat.pow 2 63 then some (.int (-k))
  else n.fractional?.map fun x => .number (withSign n.negative x)

end Json

end Mise
