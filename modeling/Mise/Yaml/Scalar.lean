import Mise.Yaml.Cursor

/-!
# Scalar Texts in YAML

A scalar is written plain, in single or double quotes, or as a block of lines. Each way has its own
rule for what becomes of line ends. In plain and quoted scalars a single line end is folded into a
blank and of several the first is dropped; a block keeps its line ends or folds them, and says what
happens to those at its end.

## Main definitions

* `Gap`: The blanks and line ends between two words, and what is left of them.
* `quoted?`: The rest of a scalar in quotes.
* `plain?`: A scalar without quotes.
* `block?`: A scalar that is a block of lines.
-/

namespace Mise

namespace Yaml

/-- Blanks and line ends between two words: the blanks before the first line end, the first line
    end, and the others. -/
structure Gap where
  blanks : List Char
  first : List Char
  others : List Char
  broken : Bool

namespace Gap

/-- No gap. -/
def none : Gap := ⟨[], [], [], false⟩

/-- What is left of a gap in a value. -/
def folded (g : Gap) : List Char :=
  if g.broken then
    if g.first = ['\n'] then
      if g.others.isEmpty then [' '] else g.others
    else g.first ++ g.others
  else g.blanks

/-- The gap that starts here, continuing the given one. A tab that stands in for indentation, left
    of column `indent`, is refused. -/
def read? (indent : Nat) : (fuel : Nat) → Gap → Cursor → Option (Gap × Cursor)
  | 0, _, _ => Option.none
  | fuel + 1, g, c =>
    match c.peek? with
    | Option.none => some (g, c)
    | some ch =>
      if isBlank ch then
        if g.broken && c.column < indent && ch == '\t' then Option.none
        else read? indent fuel (if g.broken then g else { g with blanks := g.blanks ++ [ch] })
          (c.skip 1)
      else if isBreak ch then
        let g := if g.broken then { g with others := g.others ++ c.breakText }
          else { g with blanks := [], first := c.breakText, broken := true }
        read? indent fuel g c.skipLine
      else some (g, c)

end Gap

/-- The value of a hexadecimal digit. -/
def hexValue? (c : Char) : Option Nat :=
  if c.isDigit then some (c.toNat - '0'.toNat)
  else if 'a' ≤ c ∧ c ≤ 'f' then some (c.toNat - 'a'.toNat + 10)
  else if 'A' ≤ c ∧ c ≤ 'F' then some (c.toNat - 'A'.toNat + 10)
  else none

/-- The value of hexadecimal digits. -/
def hexNumber? (ds : List Char) : Option Nat :=
  ds.foldlM (fun n d => (hexValue? d).map (16 * n + ·)) 0

/-- The characters that one letter after a backslash stands for. -/
def namedEscapes : List (Char × Char) :=
  [('0', '\x00'), ('a', '\x07'), ('b', '\x08'), ('t', '\t'), ('\t', '\t'), ('n', '\n'),
    ('v', '\x0b'), ('f', '\x0c'), ('r', '\r'), ('e', '\x1b'), (' ', ' '), ('"', '"'), ('/', '/'),
    ('\\', '\\'), ('N', '\u0085'), ('_', '\u00a0'), ('L', '\u2028'), ('P', '\u2029')]

/-- The letters that announce a hexadecimal code, with the number of its digits. -/
def codedEscapes : List (Char × Nat) :=
  [('x', 2), ('u', 4), ('U', 8)]

/-- The character that an escape stands for, given the text after the backslash, and the length of
    that escape. -/
def escape? : List Char → Option (Char × Nat)
  | [] => none
  | c :: cs =>
    match namedEscapes.lookup c with
    | some named => some (named, 1)
    | none =>
      match codedEscapes.lookup c with
      | none => none
      | some count =>
        let ds := cs.take count
        match hexNumber? ds with
        | none => none
        | some n =>
          if ds.length < count ∨ (0xD800 ≤ n ∧ n ≤ 0xDFFF) ∨ 0x10FFFF < n then none
          else some (Char.ofNat n, count + 1)

/-- The rest of a scalar in quotes, from behind the opening quote. What has been read of it is
    given in reverse. -/
def quotedFrom? (single : Bool) :
    (fuel : Nat) → (read : List Char) → Cursor → Option (List Char × Cursor)
  | 0, _, _ => none
  | fuel + 1, read, c =>
    if c.atDocumentMark then none
    else match c.rest with
      | [] => none
      | ch :: rest =>
        if isBlankOrBreak ch then
          match Gap.read? 0 (c.rest.length + 1) Gap.none c with
          | none => none
          | some (gap, c) => quotedFrom? single fuel (gap.folded.reverse ++ read) c
        else if single && ch == '\'' then
          if rest.head? = some '\'' then quotedFrom? single fuel ('\'' :: read) (c.skip 2)
          else some (read.reverse, c.skip 1)
        else if !single && ch == '"' then some (read.reverse, c.skip 1)
        else if !single && ch == '\\' then
          if rest.head?.any isBreak then
            match Gap.read? 0 (rest.length + 1) { Gap.none with broken := true }
                (c.skip 1).skipLine with
            | none => none
            | some (gap, c) => quotedFrom? single fuel (gap.folded.reverse ++ read) c
          else match escape? rest with
            | none => none
            | some (escaped, length) =>
              quotedFrom? single fuel (escaped :: read) (c.skip (length + 1))
        else quotedFrom? single fuel (ch :: read) (c.skip 1)

/-- The rest of a scalar in quotes, from behind the opening quote, and the text after it. -/
def quoted? (single : Bool) (c : Cursor) : Option (List Char × Cursor) :=
  quotedFrom? single (c.rest.length + 1) [] c

/-- The brackets and commas that structure a flow collection. -/
def isFlowIndicator (c : Char) : Bool :=
  c == ',' || c == '[' || c == ']' || c == '\x7b' || c == '\x7d'

/-- The length of the word of a plain scalar at the start of a text. A colon ends the scalar if a
    gap follows; in a flow collection a colon right before an indicator is refused. -/
def wordLength? (flow : Bool) : List Char → Option Nat
  | [] => some 0
  | c :: cs =>
    if isBlankOrBreak c then some 0
    else if flow && c == ':' && cs.head?.any (fun n => isFlowIndicator n || n == '?') then none
    else if c == ':' && (cs.head?.all isBlankOrBreak) then some 0
    else if flow && isFlowIndicator c then some 0
    else (wordLength? flow cs).map (· + 1)

/-- The words of a plain scalar from here on, after what has been read and a gap that is still to
    be folded in. The flag tells whether the scalar ended after a line end. -/
def plainFrom? (flow : Bool) (indent : Nat) :
    (fuel : Nat) → (read : List Char) → Gap → Cursor → Option (List Char × Bool × Cursor)
  | 0, _, _, _ => none
  | fuel + 1, read, gap, c =>
    if c.atDocumentMark || c.isAt '#' then some (read, gap.broken, c)
    else match wordLength? flow c.rest with
      | none => none
      | some n =>
        let word := c.rest.take n
        let (read, gap) := if n = 0 then (read, gap) else (read ++ gap.folded ++ word, Gap.none)
        let c := c.skip n
        if !c.peek?.any isBlankOrBreak then some (read, gap.broken, c)
        else match Gap.read? indent (c.rest.length + 1) gap c with
          | none => none
          | some (gap, c) =>
            if !flow && c.column < indent then some (read, gap.broken, c)
            else plainFrom? flow indent fuel read gap c

/-- A plain scalar, which in a block has to stay at column `indent` or right of it; whether it
    ended after a line end; and the text after it. -/
def plain? (flow : Bool) (indent : Nat) (c : Cursor) : Option (List Char × Bool × Cursor) :=
  plainFrom? flow indent (c.rest.length + 1) [] Gap.none c

/-- What happens to the line ends at the end of a block. -/
inductive Chomping where
  | strip
  | clip
  | keep
  deriving DecidableEq

/-- The header of a block: its chomping and its indentation, if they are given, in either order. -/
def blockHeader? (c : Cursor) : Option (Chomping × Option Nat × Cursor) :=
  let chomping? (c : Cursor) : Option Chomping :=
    if c.isAt '+' then some .keep else if c.isAt '-' then some .strip else none
  let indent? (c : Cursor) : Option Nat :=
    c.peek?.bind fun ch => if ch.isDigit then some (ch.toNat - '0'.toNat) else none
  let (chomping, indent, c) := match chomping? c, indent? c with
    | some chomping, _ =>
      match indent? (c.skip 1) with
      | some n => (chomping, some n, c.skip 2)
      | none => (chomping, none, c.skip 1)
    | none, some n =>
      match chomping? (c.skip 1) with
      | some chomping => (chomping, some n, c.skip 2)
      | none => (.clip, some n, c.skip 1)
    | none, none => (.clip, none, c)
  if indent = some 0 then none
  else
    let c := c.skipWhile isBlank
    let c := if c.isAt '#' then c.skipWhile fun ch => !isBreak ch else c
    if c.atLineEnd then some (chomping, indent, c.skipLine) else none

/-- The empty lines from here on, of which `breaks` are the line ends read so far. Without a known
    indentation, `widest` is the widest of them. A tab in the indentation is refused. -/
def emptyLines? (indent : Option Nat) :
    (fuel : Nat) → (breaks : List Char) → (widest : Nat) → Cursor →
      Option (List Char × Nat × Cursor)
  | 0, _, _, _ => none
  | fuel + 1, breaks, widest, c =>
    let spaces := (c.takeWhile (· == ' ')).length
    let c := c.skip (match indent with
      | none => spaces
      | some n => min spaces (n - c.column))
    let widest := max widest c.column
    if (indent.all fun n => c.column < n) && c.isAt '\t' then none
    else if c.atBreak then emptyLines? indent fuel (breaks ++ c.breakText) widest c.skipLine
    else some (breaks, widest, c)

/-- The lines of a block from here on: after what has been read come the line end `first` and the
    empty lines `others`, still to be folded in. `indented` tells whether the line before started
    with a blank. The result keeps the line ends at the end of the block apart. -/
def blockLines? (literal : Bool) (indent : Nat) :
    (fuel : Nat) → (read first others : List Char) → (indented : Bool) → Cursor →
      Option (List Char × List Char × List Char × Cursor)
  | 0, _, _, _, _, _ => none
  | fuel + 1, read, first, others, indented, c =>
    if c.column = indent ∧ ¬ c.rest.isEmpty then
      let blank := c.peek?.any isBlank
      let ends := if !literal && first == ['\n'] && !indented && !blank then
          if others.isEmpty then [' '] else []
        else first
      let line := c.takeWhile fun ch => !isBreak ch
      let c := c.skip line.length
      let read := read ++ ends ++ others ++ line
      match emptyLines? (some indent) (c.rest.length + 1) [] 0 c.skipLine with
      | none => none
      | some (others, _, next) => blockLines? literal indent fuel read c.breakText others blank next
    else some (read, first, others, c)

/-- A scalar that is a block of lines, from behind its indicator, inside a collection at column
    `parent`, or at no column if it is not inside one. -/
def block? (literal : Bool) (parent : Int) (c : Cursor) : Option (List Char × Cursor) :=
  match blockHeader? c with
  | none => none
  | some (chomping, increment, c) =>
    let given := increment.map fun n => (if 0 ≤ parent then parent.toNat else 0) + n
    match emptyLines? given (c.rest.length + 1) [] 0 c with
    | none => none
    | some (others, widest, c) =>
      let indent := given.getD (max (max widest (parent + 1).toNat) 1)
      match blockLines? literal indent (c.rest.length + 1) [] [] others false c with
      | none => none
      | some (read, first, others, c) =>
        let ends := match chomping with
          | .strip => []
          | .clip => first
          | .keep => first ++ others
        some (read ++ ends, c)

end Yaml

end Mise
