/-!
# White Space

What counts as white space, and the two things done with it: cutting it off the ends of a text and
splitting a text into words.

Texts are handled as lists of characters here, so that every fact about them is a fact about
lists. `trimmed` and `isBlankText` are the same operations on strings.

## Main definitions

* `isBlank`: The characters with the white-space property.
* `trim`: A text without white space at its ends.
* `words`: The maximal stretches without white space.
-/

namespace Mise

namespace Text

/-- White space: tabs and line ends, the blanks of all widths, and the line and paragraph
    separators. The zero-width space is not among them. -/
def isBlank (c : Char) : Bool :=
  let n := c.toNat
  (9 ≤ n && n ≤ 13) || n == 0x20 || n == 0x85 || n == 0xA0 || n == 0x1680
    || (0x2000 ≤ n && n ≤ 0x200A) || n == 0x2028 || n == 0x2029 || n == 0x202F || n == 0x205F
    || n == 0x3000

/-- A text without the white space it starts with. -/
def trimStart (cs : List Char) : List Char :=
  cs.dropWhile isBlank

/-- A text without the characters of a kind that it ends with. -/
def dropEndWhile (p : Char → Bool) (cs : List Char) : List Char :=
  (cs.reverse.dropWhile p).reverse

/-- A text without the white space it ends with. -/
def trimEnd (cs : List Char) : List Char :=
  dropEndWhile isBlank cs

/-- A text without white space at either end. -/
def trim (cs : List Char) : List Char :=
  trimEnd (trimStart cs)

/-- The parts between the characters that satisfy `p`, empty parts included. -/
def partsAt (p : Char → Bool) : List Char → List (List Char)
  | [] => [[]]
  | c :: cs =>
    if p c then [] :: partsAt p cs
    else match partsAt p cs with
      | [] => [[c]]
      | part :: parts => (c :: part) :: parts

/-- The maximal stretches of a text that hold no white space, in order. -/
def words (cs : List Char) : List (List Char) :=
  (partsAt isBlank cs).filter fun part => !part.isEmpty

/-- A string without white space at either end. -/
def trimmed (s : String) : String :=
  String.ofList (trim s.toList)

/-- A string of white space only, such as the empty one. -/
def isBlankText (s : String) : Bool :=
  s.toList.all isBlank

end Text

end Mise
