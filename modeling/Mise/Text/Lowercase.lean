import Mise.Text.CaseTable

/-!
# Lower Case

Every capital has one lower case, whatever its alphabet, with two exceptions. The dotted capital i
becomes two characters, a small i and the dot. And the capital sigma has two lower cases, one of
them for the end of a word: a sigma ends a word if a letter stands before it and none after it,
marks that words carry along not counted.

## Main definitions

* `lowerChar`: The lower case of a character by itself.
* `endsWord`: The condition for the final form of sigma.
* `lower`: The lower case of a text.
-/

namespace Mise

namespace Text

/-- Whether a code point lies in one of the stretches of a table. -/
def inStretches (table : List (Nat × Nat)) (c : Char) : Bool :=
  table.any fun (first, last) => first ≤ c.toNat && c.toNat ≤ last

/-- The lower case that a stretch of capitals gives a code point, if it covers it. -/
def CapitalRun.lower? (run : CapitalRun) (n : Nat) : Option Nat :=
  if run.first ≤ n ∧ n ≤ run.last ∧ (n - run.first) % run.stride = 0 then
    some (run.image + (n - run.first))
  else none

/-- The one-character lower case of a character, itself if it has none. -/
def lowerSingle (c : Char) : Char :=
  match capitals.findSome? (·.lower? c.toNat) with
  | some n => Char.ofNat n
  | none => c

/-- The lower case of a character by itself. -/
def lowerChar (c : Char) : List Char :=
  if c = 'İ' then ['i', '\u0307'] else [lowerSingle c]

/-- Whether the first character that is not ignorable has case. -/
def meetsCased (cs : List Char) : Bool :=
  match cs.dropWhile (inStretches ignorableStretches) with
  | [] => false
  | c :: _ => inStretches casedStretches c

/-- Whether a sigma between the two texts ends a word; the text before it is given in reverse. -/
def endsWord (before after : List Char) : Bool :=
  meetsCased before && !meetsCased after

/-- The lower case of a text that continues another one, which is given in reverse. -/
def lowerAfter (before : List Char) : List Char → List Char
  | [] => []
  | c :: cs =>
    (if c = 'Σ' then [if endsWord before cs then 'ς' else 'σ'] else lowerChar c)
      ++ lowerAfter (c :: before) cs

/-- The lower case of a text. -/
def lower (cs : List Char) : List Char :=
  lowerAfter [] cs

/-- The lower case of a string. -/
def lowered (s : String) : String :=
  String.ofList (lower s.toList)

end Text

end Mise
