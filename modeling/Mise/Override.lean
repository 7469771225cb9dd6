import Mise.Metadata
import Mise.Slug

/-!
# Overrides

A cook may state how heavy an ingredient is: grams per millilitre where it is measured by volume,
grams per piece where it is counted. Overrides are stored under the identity of the ingredient, so
every spelling of a name finds them.

A recipe states its overrides in the metadata, as entries such as `flour: 0.55`. Words after the
number are ignored, and an entry that is not of this form is passed over. Entries are read with a
class of digits, and those of a recipe with the digits of all scripts.

## Main definitions

* `Overrides`: One number per identity.
* `Overrides.put`, `Overrides.of?`: Stating an override and finding it, by name.
* `overrideIn?`, `overrideEntry?`: The name and the number of an entry, with a class of digits and
  with the digits of all scripts.
* `Overrides.ofEntries`, `Overrides.ofMeta`: The overrides of a list of entries and of a recipe.
-/

namespace Mise

/-- One number per identity. -/
abbrev Overrides := Dictionary Float

namespace Overrides

/-- State the override of a name. -/
def put (o : Overrides) (name : String) (value : Float) : Overrides :=
  o.insert (slugify name) value

/-- The override of a name. -/
def of? (o : Overrides) (name : String) : Option Float :=
  o.get? (slugify name)

end Overrides

/-- The decimal at the start of a text, as long as possible: an optional sign, then digits with an
    optional point and digits, or a point and digits. -/
def decimalAt? (digits : Text.DigitClass) (cs : List Char) : Option (List Char) :=
  let (sign, rest) := match cs with
    | c :: rest => if c = '+' ∨ c = '-' then ([c], rest) else ([], cs)
    | [] => ([], [])
  let (whole, rest) := digitsAt digits rest
  match rest with
  | '.' :: rest =>
    let (fraction, _) := digitsAt digits rest
    if whole.isEmpty ∧ fraction.isEmpty then none
    else some (sign ++ whole ++ '.' :: fraction)
  | _ => if whole.isEmpty then none else some (sign ++ whole)

/-- The name and the number of an entry: a name, its only colon, and a text that starts with a
    decimal after white space. -/
def overrideIn? (digits : Text.DigitClass) (entry : String) : Option (String × Float) :=
  match Text.partsAt (· == ':') (Text.trim entry.toList) with
  | [name, value] =>
    let name := Text.trim name
    if name.isEmpty then none
    else
      ((decimalAt? digits (Text.trimStart value)).bind parseNumber?).map fun x =>
        (String.ofList name, x)
  | _ => none

/-- The name and the number of an entry, which may have digits of every script. -/
def overrideEntry? (entry : String) : Option (String × Float) :=
  overrideIn? .unicode entry

namespace Overrides

/-- Lay the override of an entry over others, if the entry has the right form. -/
def putEntry (o : Overrides) (entry : String) : Overrides :=
  match overrideEntry? entry with
  | some (name, value) => o.put name value
  | none => o

/-- The overrides of a list of entries, later ones replacing earlier ones. -/
def ofEntries (entries : List String) : Overrides :=
  entries.foldl putEntry Dictionary.empty

/-- The metadata key of the overrides. -/
def metaKey : String := "densities"

/-- The overrides in the metadata of a recipe. -/
def ofMeta (info : Meta) : Overrides :=
  match info.get? metaKey with
  | some value => ofEntries value.entries
  | none => Dictionary.empty

/-- The overrides of a list of names with their numbers, later ones replacing earlier ones. -/
def ofList (pairs : List (String × Float)) : Overrides :=
  pairs.foldl (fun o p => o.put p.1 p.2) Dictionary.empty

end Overrides

end Mise
