/-!
# Positions in a YAML Text

In YAML the column of a character carries meaning, so a text is read through a `Cursor` that knows
its line and column next to the text that remains.

## Main definitions

* `Cursor`: The remaining text with its position.
* `Cursor.skip`, `Cursor.skipWhile`, `Cursor.skipLine`: Moving on within a line and past its end.
* `Cursor.atDocumentMark`: Whether a line starts with the mark of a new document or of its end.
-/

namespace Mise

namespace Yaml

/-- The blanks within a line. -/
def isBlank (c : Char) : Bool :=
  c == ' ' || c == '\t'

/-- The characters that end a line. -/
def isBreak (c : Char) : Bool :=
  c == '\n' || c == '\r' || c == '\u0085' || c == '\u2028' || c == '\u2029'

/-- Blanks and line ends. -/
def isBlankOrBreak (c : Char) : Bool :=
  isBlank c || isBreak c

/-- The characters of names: letters, digits, underscore and dash. -/
def isNameChar (c : Char) : Bool :=
  c.isAlphanum || c == '_' || c == '-'

/-- The characters that a text may consist of. -/
def isAllowed (c : Char) : Bool :=
  let n := c.toNat
  n == 9 || n == 10 || n == 13 || (0x20 ≤ n && n ≤ 0x7E) || n == 0x85
    || (0xA0 ≤ n && n ≤ 0xFFFD) || 0x10000 ≤ n

/-- The remaining text, with the line, the column and the number of characters before it. -/
structure Cursor where
  rest : List Char
  line : Nat
  column : Nat
  index : Nat

namespace Cursor

/-- The start of a text. -/
def start (text : List Char) : Cursor := ⟨text, 0, 0, 0⟩

/-- The next character. -/
def peek? (c : Cursor) : Option Char :=
  c.rest.head?

/-- The character at a distance from the next one. -/
def peekAt? (c : Cursor) (n : Nat) : Option Char :=
  c.rest[n]?

/-- Whether the next character is the given one. -/
def isAt (c : Cursor) (ch : Char) : Bool :=
  c.peek? == some ch

/-- Whether the text ends at a distance from here, or has a blank or line end there. -/
def gapAt (c : Cursor) (n : Nat) : Bool :=
  match c.peekAt? n with
  | none => true
  | some ch => isBlankOrBreak ch

/-- Whether a line ends here. -/
def atBreak (c : Cursor) : Bool :=
  c.peek?.any isBreak

/-- Whether a line or the text ends here. -/
def atLineEnd (c : Cursor) : Bool :=
  c.rest.isEmpty || c.atBreak

/-- Move on by a number of characters of one line. -/
def skip (c : Cursor) (n : Nat) : Cursor :=
  { c with rest := c.rest.drop n, column := c.column + n, index := c.index + n }

/-- The characters of one line that satisfy `p`, up to the first that does not. -/
def takeWhile (c : Cursor) (p : Char → Bool) : List Char :=
  c.rest.takeWhile p

/-- Move on past the characters of one line that satisfy `p`. -/
def skipWhile (c : Cursor) (p : Char → Bool) : Cursor :=
  c.skip (c.takeWhile p).length

/-- Move on past a line end, if there is one. -/
def skipLine (c : Cursor) : Cursor :=
  match c.rest with
  | '\r' :: '\n' :: rest => ⟨rest, c.line + 1, 0, c.index + 2⟩
  | ch :: rest => if isBreak ch then ⟨rest, c.line + 1, 0, c.index + 1⟩ else c
  | [] => c

/-- The line end as it stands in a value: the separators of lines and paragraphs stay what they
    are, and any other is one newline. -/
def breakText (c : Cursor) : List Char :=
  match c.peek? with
  | some '\u2028' => ['\u2028']
  | some '\u2029' => ['\u2029']
  | some ch => if isBreak ch then ['\n'] else []
  | none => []

/-- Whether a line starts here with three dashes or three points that stand alone. -/
def atDocumentMark (c : Cursor) : Bool :=
  c.column == 0
    && (match c.rest with
      | '-' :: '-' :: '-' :: _ => true
      | '.' :: '.' :: '.' :: _ => true
      | _ => false)
    && c.gapAt 3

end Cursor

end Yaml

end Mise
