import Mise.Text.Transliteration

/-!
# Slugs

The identity of an ingredient, a piece of cookware or a preparation is the slug of its display
name: two names mean the same thing exactly when their slugs are equal.

A slug keeps the letters and digits of the transliterated name, in lower case, and puts one dash
for whatever separates two of them. A name without any letter or digit is `unknown`.

The characters are consumed one by one. A separator is not written when it is met but only before
the next letter or digit, so no dash can stand at either end and no two dashes can meet.

## Main definitions

* `slugLetter?`: The slug character of an ASCII letter or digit.
* `slugChars`: The slug of a transliterated text.
* `slugify`: The identity of a display name.
-/

namespace Mise

/-- The slug character of an ASCII letter or digit, and nothing for other characters. -/
def slugLetter? (c : Char) : Option Char :=
  if c.isAlphanum then some c.toLower else none

/-- The slug of a text. `started` holds once a character has been kept, `pending` once something
    has been passed over since then. -/
def slugChars : List Char → (started pending : Bool) → List Char
  | [], _, _ => []
  | c :: cs, started, pending =>
    match slugLetter? c with
    | some k => (if started && pending then ['-', k] else [k]) ++ slugChars cs true false
    | none => slugChars cs started true

/-- The identity of a name that has no letters or digits. -/
def unknownIdentity : String := "unknown"

/-- The identity of a display name. -/
def slugify (name : String) : String :=
  match slugChars (name.toList.flatMap fun c => (Transliteration.transliterate c).toList)
      false false with
  | [] => unknownIdentity
  | cs => String.ofList cs

end Mise
