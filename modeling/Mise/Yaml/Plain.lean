import Mise.Data
import Mise.Decimal.Reader

/-!
# Values of Plain Scalars

A plain scalar is read as `null`, a truth value or a number where it has the form of one, and as a
text otherwise. Whole numbers may have a base, and other numbers may be infinite or undefined.
Digits that start with a zero are a text, and so are numbers too large to be finite.

A whole number that does not fit into 64 bits, but into 128, has no value that data could hold.

## Main definitions

* `Plain.isNull`, `Plain.bool?`, `Plain.float?`: Scalars of one kind.
* `Plain.integer?`: A whole number with an optional sign and base.
* `Plain.value?`: The value of a plain scalar.
-/

namespace Mise

namespace Yaml

namespace Plain

/-- The words for `null`. -/
def isNull (s : String) : Bool :=
  s == "null" || s == "Null" || s == "NULL" || s == "~"

/-- A truth value. -/
def bool? (s : String) : Option Bool :=
  if s == "true" || s == "True" || s == "TRUE" then some true
  else if s == "false" || s == "False" || s == "FALSE" then some false
  else none

/-- The value of a digit in bases up to sixteen. -/
def digit? (base : Nat) (c : Char) : Option Nat :=
  let n := if c.isDigit then c.toNat - '0'.toNat
    else if 'a' ≤ c ∧ c ≤ 'f' then c.toNat - 'a'.toNat + 10
    else if 'A' ≤ c ∧ c ≤ 'F' then c.toNat - 'A'.toNat + 10
    else base
  if n < base then some n else none

/-- The number that digits of a base spell, of which there has to be one. -/
def digits? (base : Nat) (cs : List Char) : Option Nat :=
  if cs.isEmpty then none
  else cs.foldlM (fun n c => (digit? base c).map (base * n + ·)) 0

/-- Whether a text consists of more than one digit and starts with a zero, after a sign. -/
def isZeroLed (cs : List Char) : Bool :=
  let body := match cs with
    | '-' :: cs => cs
    | '+' :: cs => cs
    | cs => cs
  match body with
  | '0' :: rest => !rest.isEmpty && rest.all Char.isDigit
  | _ => false

/-- A whole number with a base or without one. -/
def unsigned? : List Char → Option Nat
  | '0' :: 'x' :: cs => digits? 16 cs
  | '0' :: 'o' :: cs => digits? 8 cs
  | '0' :: 'b' :: cs => digits? 2 cs
  | cs => digits? 10 cs

/-- A whole number with an optional sign. -/
def integer? (cs : List Char) : Option Int :=
  if isZeroLed cs then none
  else match cs with
    | '-' :: rest => (unsigned? rest).map fun n => -(n : Int)
    | '+' :: rest => (unsigned? rest).map Int.ofNat
    | cs => (unsigned? cs).map Int.ofNat

/-- A number of any kind, which is finite unless it is written as one of the special words. -/
def float? (s : String) : Option Float :=
  let (positive, body) := match s.toList with
    | '+' :: cs => (true, cs)
    | cs => (false, cs)
  let word := String.ofList body
  if word = ".inf" ∨ word = ".Inf" ∨ word = ".INF" then some infinity
  else if s = "-.inf" ∨ s = "-.Inf" ∨ s = "-.INF" then some (-infinity)
  else if s = ".nan" ∨ s = ".NaN" ∨ s = ".NAN" then some notANumber
  else if positive ∧ (body.head? = some '+' ∨ body.head? = some '-') then none
  else (parseNumber? body).filter isFiniteNumber

/-- A whole number as data, if data can hold it. -/
def integerData? (n : Int) : Option Data :=
  if -Int.ofNat (Nat.pow 2 63) ≤ n ∧ n < Int.ofNat (Nat.pow 2 64) then some (.int n) else none

/-- Whether a whole number fits into 128 bits. -/
def isWide (n : Int) : Bool :=
  -Int.ofNat (Nat.pow 2 127) ≤ n && n < Int.ofNat (Nat.pow 2 128)

/-- A scalar that is neither `null` nor a truth value nor a whole number. -/
def otherValue (s : String) : Data :=
  if isZeroLed s.toList then .text s
  else match float? s with
    | some x => .number x
    | none => .text s

/-- The value of a plain scalar. -/
def value? (s : String) : Option Data :=
  if s.isEmpty || isNull s then some .null
  else match bool? s with
    | some b => some (.bool b)
    | none =>
      match integer? s.toList with
      | some n => if isWide n then integerData? n else some (otherValue s)
      | none => some (otherValue s)

end Plain

end Yaml

end Mise
