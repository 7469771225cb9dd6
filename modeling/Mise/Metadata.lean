import Mise.Decimal.Layout
import Mise.Decimal.Reader
import Mise.Document
import Mise.Text.Digit

/-!
# Metadata

What the metadata of a recipe say beyond its title: lists of entries, of which a single value is
the shortest kind, and numbers, which may be followed by words as in `4 people`.

Digits of every script are recognised as such, but only the ASCII ones can be read as a number. A
number in other digits is therefore found and refused, not passed over.

## Main definitions

* `MetaValue.entries`: The texts of a value.
* `digitsAt`: The digits at the start of a text.
* `leadingNumber?`: The number that a text starts with.
* `Meta.number?`: The number of a key.
-/

namespace Mise

/-- The texts of a metadata value, of which a single value has one. -/
def MetaValue.entries : MetaValue → List String
  | .text s => [s]
  | .list items => items
  | .number x => [displayNumber x]

/-- The digits at the start of a text, and the rest of the text. -/
def digitsAt (digits : Text.DigitClass) (cs : List Char) : List Char × List Char :=
  (cs.takeWhile digits.has, cs.dropWhile digits.has)

/-- The number that a text starts with after white space: digits, and if a point or comma and
    more digits follow, those too. A comma is read as a point. -/
def leadingNumber? (cs : List Char) : Option Float :=
  let (whole, rest) := digitsAt .unicode (Text.trimStart cs)
  if whole.isEmpty then none
  else
    let fraction := match rest with
      | c :: rest => if c = '.' ∨ c = ',' then (digitsAt .unicode rest).1 else []
      | [] => []
    parseNumber? (if fraction.isEmpty then whole else whole ++ '.' :: fraction)

/-- The number of a metadata key: a number itself or the number that a text starts with. -/
def Meta.number? (info : Meta) (key : String) : Option Float :=
  match info.get? key with
  | some (.number x) => some x
  | some (.text s) => leadingNumber? s.toList
  | _ => none

end Mise
