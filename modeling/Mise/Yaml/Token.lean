import Mise.Yaml.Scalar

/-!
# Tokens of YAML

A YAML text is cut into tokens: the indicators of its collections, scalars, and what is attached to
them. Blocks have no closing indicators of their own. Their tokens follow from the columns, so the
scanner keeps the columns at which the open blocks started.

That a scalar is the key of a mapping is only seen at the colon behind it. The scanner remembers
for each open flow collection where a key may have started, and puts the tokens for the key, and
for the mapping if it starts there, in front of what it has read since. Such a key has to stay on
one line, within `keyLength` characters.

## Main definitions

* `Token`: The tokens.
* `KeyStart`: Where a key may have started.
* `Scanner`: The tokens so far, and what is needed to go on.
* `Scanner.next?`: The next token.
* `Token.scan?`: The tokens of a text.
-/

namespace Mise

namespace Yaml

/-- A tag as written: the handle that stands for the first part of its name, and the rest. -/
structure RawTag where
  handle : String
  suffix : String
  deriving DecidableEq

/-- The tokens of a text. -/
inductive Token where
  | version (major minor : Nat)
  | tagHandle (handle names : String)
  | documentStart
  | documentEnd
  | blockSequence
  | blockMapping
  | blockEnd
  | flowSequence
  | flowSequenceEnd
  | flowMapping
  | flowMappingEnd
  | entry
  | comma
  | key
  | value
  | aliasOf (name : String)
  | anchor (name : String)
  | tag (t : RawTag)
  | scalar (text : String) (plain : Bool)
  | textEnd
  deriving DecidableEq

/-- Where a key may have started: the number of tokens before it, and its position. A required key
    has to be followed by a colon, because nothing else can stand at its column. -/
structure KeyStart where
  required : Bool
  tokens : Nat
  line : Nat
  column : Nat
  index : Nat

/-- The number of characters that a key may have. -/
def keyLength : Nat := 1024

/-- The tokens so far, the last one first, and what is needed to go on: the position, where a key
    may have started in each open flow collection and outside of them, the columns of the open
    blocks, and whether a key may start here. -/
structure Scanner where
  cursor : Cursor
  tokens : List Token
  count : Nat
  keys : List (Option KeyStart)
  indents : List Int
  keyAllowed : Bool

namespace Scanner

/-- The scanner at the start of a text. -/
def start (text : List Char) : Scanner :=
  ⟨.start text, [], 0, [none], [], true⟩

/-- Whether the scanner is inside a flow collection. -/
def inFlow (s : Scanner) : Bool :=
  1 < s.keys.length

/-- The column of the innermost open block, before the first column if there is none. -/
def indent (s : Scanner) : Int :=
  s.indents.headD (-1)

/-- Add a token. -/
def add (s : Scanner) (t : Token) : Scanner :=
  { s with tokens := t :: s.tokens, count := s.count + 1 }

/-- Add a token in front of those that were read after the first `n`. -/
def addAfter (s : Scanner) (n : Nat) (t : Token) : Scanner :=
  let later := s.count - n
  { s with
    tokens := s.tokens.take later ++ t :: s.tokens.drop later
    count := s.count + 1 }

/-- Move on by a number of characters. -/
def skip (s : Scanner) (n : Nat) : Scanner :=
  { s with cursor := s.cursor.skip n }

/-- Say whether a key may start behind what has just been read. -/
def allowKey (s : Scanner) (allowed : Bool) : Scanner :=
  { s with keyAllowed := allowed }

/-- Forget where a key may have started here, unless it is required. -/
def dropKey? (s : Scanner) : Option Scanner :=
  match s.keys with
  | some key :: rest => if key.required then none else some { s with keys := none :: rest }
  | _ => some s

/-- Forget the keys that have become too long. -/
def dropStale? (s : Scanner) : Option Scanner :=
  let stale (key : KeyStart) : Bool :=
    key.line < s.cursor.line || key.index + keyLength < s.cursor.index
  if s.keys.any fun k => k.any fun key => stale key && key.required then none
  else some { s with keys := s.keys.map fun k => k.filter fun key => !stale key }

/-- Remember that a key may start here. -/
def saveKey? (s : Scanner) : Option Scanner :=
  if s.keyAllowed then
    let required := !s.inFlow && s.indent == s.cursor.column
    (dropKey? s).map fun s =>
      { s with
        keys := some ⟨required, s.count, s.cursor.line, s.cursor.column, s.cursor.index⟩
          :: s.keys.drop 1 }
  else some s

/-- Close the blocks that start right of a column. -/
def closeBlocks (s : Scanner) (column : Int) : Scanner :=
  if s.inFlow then s
  else
    let closed := s.indents.takeWhile (column < ·)
    { s with
      tokens := List.replicate closed.length Token.blockEnd ++ s.tokens
      count := s.count + closed.length
      indents := s.indents.drop closed.length }

/-- Open a block at a column, unless one is open there, with its token after the first `n`. -/
def openBlock (s : Scanner) (column : Nat) (n : Nat) (t : Token) : Scanner :=
  if s.inFlow || column ≤ s.indent then s
  else { s.addAfter n t with indents := column :: s.indents }

/-- Close all blocks, at a point where no key may be waiting. -/
def closeAll? (s : Scanner) : Option Scanner :=
  (dropKey? (s.closeBlocks (-1))).map fun s => s.allowKey false

/-- Move on past a byte order mark at the start of a text. It takes up a column like any other
    character. -/
def skipOrderMark (c : Cursor) : Cursor :=
  if c.index == 0 && c.isAt '\uFEFF' then c.skip 1 else c

/-- Move on to the next token: past blanks, comments and line ends. Tabs are no blanks where a
    block may start. -/
def toNext : (fuel : Nat) → Scanner → Scanner
  | 0, s => s
  | fuel + 1, s =>
    let blank (c : Char) : Bool := c == ' ' || (c == '\t' && (s.inFlow || !s.keyAllowed))
    let c := (skipOrderMark s.cursor).skipWhile blank
    let c := if c.isAt '#' then c.skipWhile fun ch => !isBreak ch else c
    if c.atBreak then
      toNext fuel { s with cursor := c.skipLine, keyAllowed := s.keyAllowed || !s.inFlow }
    else { s with cursor := c }

/-- An anchor or alias, whose name has to end where a name may end. -/
def name? (c : Cursor) : Option (String × Cursor) :=
  let name := c.takeWhile isNameChar
  let after := c.skip name.length
  let ends := after.gapAt 0 || after.peek?.any fun ch => "?:,]\x7d%@`".toList.contains ch
  if name.isEmpty || !ends then none else some (String.ofList name, after)

/-- The characters of a tag besides those of names. -/
def isTagChar (full : Bool) (c : Char) : Bool :=
  isNameChar c || ";/?:@&=+$.!~*'()%".toList.contains c || (full && ",[]".toList.contains c)

/-- The bytes that percent signs stand for, as long as they continue. -/
def percentBytes : List Char → Option (List UInt8 × List Char)
  | '%' :: a :: b :: cs =>
    match hexNumber? [a, b], percentBytes cs with
    | some n, some (bytes, rest) => some (UInt8.ofNat n :: bytes, rest)
    | _, _ => none
  | '%' :: _ => none
  | cs => some ([], cs)

/-- A tag with percent signs replaced. -/
def unescaped? : (fuel : Nat) → List Char → Option (List Char)
  | 0, _ => none
  | fuel + 1, cs =>
    match cs with
    | [] => some []
    | '%' :: _ =>
      match percentBytes cs with
      | none => none
      | some (bytes, rest) =>
        match String.fromUTF8? ⟨bytes.toArray⟩, unescaped? fuel rest with
        | some text, some rest => some (text.toList ++ rest)
        | _, _ => none
    | c :: cs => (unescaped? fuel cs).map (c :: ·)

/-- The name of a tag, or a part of it, and the text after it. -/
def tagText? (full : Bool) (c : Cursor) : Option (List Char × Cursor) :=
  let text := c.takeWhile (isTagChar full)
  (unescaped? (text.length + 1) text).map fun t => (t, c.skip text.length)

/-- The handle of a tag: an exclamation mark, or a name between two of them. What looks like a
    handle but is not closed is only the start of the tag. -/
def tagHandle (c : Cursor) : List Char × Cursor :=
  let name := (c.skip 1).takeWhile isNameChar
  let after := c.skip (1 + name.length)
  if after.isAt '!' then ('!' :: name ++ ['!'], after.skip 1) else ('!' :: name, after)

/-- A tag without regard to what follows it. -/
def rawTag? (c : Cursor) : Option (RawTag × Cursor) :=
  if c.peekAt? 1 == some '<' then
    match tagText? true (c.skip 2) with
    | none => none
    | some (text, c) =>
      if text.isEmpty || !c.isAt '>' then none
      else some (⟨"", String.ofList text⟩, c.skip 1)
  else
    let (handle, after) := tagHandle c
    if 2 ≤ handle.length && handle.getLast? == some '!' then
      match tagText? false after with
      | none => none
      | some (text, c) =>
        if text.isEmpty then none
        else some (⟨String.ofList handle, String.ofList text⟩, c)
    else
      (tagText? false after).map fun (text, c) =>
        let suffix := handle.drop 1 ++ text
        (if suffix.isEmpty then ⟨"", "!"⟩ else ⟨"!", String.ofList suffix⟩, c)

/-- A tag, after which a gap or, in a flow collection, a comma has to follow. -/
def tag? (flow : Bool) (c : Cursor) : Option (RawTag × Cursor) :=
  match rawTag? c with
  | none => none
  | some (t, c) => if c.gapAt 0 || (flow && c.isAt ',') then some (t, c) else none

/-- A number in a version. -/
def versionNumber? (c : Cursor) : Option (Nat × Cursor) :=
  let ds := c.takeWhile Char.isDigit
  if ds.isEmpty || 9 < ds.length then none
  else some (ds.foldl (fun n d => 10 * n + (d.toNat - '0'.toNat)) 0, c.skip ds.length)

/-- The version that a directive gives. -/
def version? (c : Cursor) : Option (Token × Cursor) :=
  match versionNumber? (c.skipWhile isBlank) with
  | none => none
  | some (major, c) =>
    if c.isAt '.' then
      (versionNumber? (c.skip 1)).map fun (minor, c) => (.version major minor, c)
    else none

/-- The tag handle that a directive declares. -/
def handleDirective? (c : Cursor) : Option (Token × Cursor) :=
  let c := c.skipWhile isBlank
  if !c.isAt '!' then none
  else
    let (handle, c) := tagHandle c
    if (handle != ['!'] && handle.getLast? != some '!') || !c.peek?.any isBlank then none
    else
      match tagText? true (c.skipWhile isBlank) with
      | none => none
      | some (names, c) =>
        if names.isEmpty || !c.gapAt 0 then none
        else some (.tagHandle (String.ofList handle) (String.ofList names), c)

/-- A directive, which takes up the rest of its line. -/
def directive? (c : Cursor) : Option (Token × Cursor) :=
  let name := (c.skip 1).takeWhile isNameChar
  let after := c.skip (1 + name.length)
  let content := if !after.gapAt 0 then none
    else if name = "YAML".toList then version? after
    else if name = "TAG".toList then handleDirective? after
    else none
  match content with
  | none => none
  | some (t, c) =>
    let c := c.skipWhile isBlank
    let c := if c.isAt '#' then c.skipWhile fun ch => !isBreak ch else c
    if c.atLineEnd then some (t, c.skipLine) else none

/-- Open a flow collection. -/
def openFlow? (s : Scanner) (t : Token) : Option Scanner :=
  (saveKey? s).map fun s =>
    (({ s with keys := none :: s.keys }.allowKey true).skip 1).add t

/-- Close a flow collection. -/
def closeFlow? (s : Scanner) (t : Token) : Option Scanner :=
  (dropKey? s).map fun s =>
    let keys := if s.inFlow then s.keys.drop 1 else s.keys
    (({ s with keys }.allowKey false).skip 1).add t

/-- An entry of a block sequence. -/
def blockEntry? (s : Scanner) : Option Scanner :=
  if !s.inFlow && !s.keyAllowed then none
  else
    (dropKey? (s.openBlock s.cursor.column s.count .blockSequence)).map fun s =>
      ((s.allowKey true).skip 1).add .entry

/-- A key that is announced by a question mark. -/
def explicitKey? (s : Scanner) : Option Scanner :=
  if !s.inFlow && !s.keyAllowed then none
  else
    (dropKey? (s.openBlock s.cursor.column s.count .blockMapping)).map fun s =>
      ((s.allowKey (!s.inFlow)).skip 1).add .key

/-- A value. If a key may have started before it, that is its key. -/
def value? (s : Scanner) : Option Scanner :=
  match s.keys with
  | some key :: rest =>
    let s := { s.addAfter key.tokens .key with keys := none :: rest }
    let s := s.openBlock key.column key.tokens .blockMapping
    some (((s.allowKey false).skip 1).add .value)
  | _ =>
    if !s.inFlow && !s.keyAllowed then none
    else
      let s := s.openBlock s.cursor.column s.count .blockMapping
      some (((s.allowKey (!s.inFlow)).skip 1).add .value)

/-- Something that may be a key: what `read` makes of the text. -/
def node? (s : Scanner) (read : Cursor → Option (Token × Cursor)) : Option Scanner :=
  match saveKey? s with
  | none => none
  | some s =>
    (read s.cursor).map fun (t, c) => ({ s.allowKey false with cursor := c }).add t

/-- A scalar in quotes. -/
def quotedScalar? (single : Bool) (c : Cursor) : Option (Token × Cursor) :=
  (quoted? single (c.skip 1)).map fun (text, c) => (.scalar (String.ofList text) false, c)

/-- A scalar that is a block of lines. -/
def blockScalar? (s : Scanner) (literal : Bool) : Option Scanner :=
  match dropKey? s with
  | none => none
  | some s =>
    (block? literal s.indent (s.cursor.skip 1)).map fun (text, c) =>
      ({ s.allowKey true with cursor := c }).add (.scalar (String.ofList text) false)

/-- A plain scalar. Behind one that ended after a line end, a key may start. -/
def plainScalar? (s : Scanner) : Option Scanner :=
  match saveKey? s with
  | none => none
  | some s =>
    (plain? s.inFlow (s.indent + 1).toNat s.cursor).map fun (text, broken, c) =>
      ({ s.allowKey broken with cursor := c }).add (.scalar (String.ofList text) true)

/-- The characters that no plain scalar starts with, blanks and line ends aside. -/
def indicators : List Char := "-?:,[]\x7b\x7d#&*!|>'\"%@`".toList

/-- Whether a plain scalar starts here. -/
def atPlain (s : Scanner) (c : Char) : Bool :=
  (!isBlankOrBreak c && !indicators.contains c)
    || (c == '-' && !(s.cursor.peekAt? 1).any isBlank)
    || (!s.inFlow && (c == '?' || c == ':') && !s.cursor.gapAt 1)

/-- The next token, from a character that is no blank. -/
def token? (s : Scanner) (c : Char) : Option Scanner :=
  if s.cursor.column = 0 ∧ c = '%' then
    match s.closeAll? with
    | none => none
    | some s => (directive? s.cursor).map fun (t, c) => { s with cursor := c }.add t
  else if s.cursor.atDocumentMark then
    s.closeAll?.map fun s => (s.skip 3).add (if c = '-' then .documentStart else .documentEnd)
  else if c = '[' then s.openFlow? .flowSequence
  else if c = '\x7b' then s.openFlow? .flowMapping
  else if c = ']' then s.closeFlow? .flowSequenceEnd
  else if c = '\x7d' then s.closeFlow? .flowMappingEnd
  else if c = ',' then (dropKey? s).map fun s => ((s.allowKey true).skip 1).add .comma
  else if c = '-' ∧ s.cursor.gapAt 1 then s.blockEntry?
  else if c = '?' ∧ (s.inFlow ∨ s.cursor.gapAt 1) then s.explicitKey?
  else if c = ':' ∧ (s.inFlow ∨ s.cursor.gapAt 1) then s.value?
  else if c = '*' then
    s.node? fun cursor => (name? (cursor.skip 1)).map fun (name, rest) => (.aliasOf name, rest)
  else if c = '&' then
    s.node? fun cursor => (name? (cursor.skip 1)).map fun (name, rest) => (.anchor name, rest)
  else if c = '!' then
    s.node? fun cursor => (tag? s.inFlow cursor).map fun (t, rest) => (.tag t, rest)
  else if c = '|' ∧ !s.inFlow then s.blockScalar? true
  else if c = '>' ∧ !s.inFlow then s.blockScalar? false
  else if c = '\'' then s.node? (quotedScalar? true)
  else if c = '"' then s.node? (quotedScalar? false)
  else if s.atPlain c then s.plainScalar?
  else none

/-- The next token, and whether it is the last one. -/
def next? (s : Scanner) : Option (Scanner × Bool) :=
  match dropStale? (s.toNext (s.cursor.rest.length + 1)) with
  | none => none
  | some s =>
    let s := s.closeBlocks s.cursor.column
    match s.cursor.peek? with
    | none => s.closeAll?.map fun s => (s.add .textEnd, true)
    | some c => (s.token? c).map fun s => (s, false)

/-- The tokens of the text from here on. Every token but the last takes up a character. -/
def run? : (fuel : Nat) → Scanner → Option (List Token)
  | 0, _ => none
  | fuel + 1, s =>
    match s.next? with
    | none => none
    | some (s, true) => some s.tokens.reverse
    | some (s, false) => run? fuel s

end Scanner

/-- The tokens of a text, all characters of which have to be allowed. -/
def Token.scan? (text : String) : Option (List Token) :=
  let cs := text.toList
  if cs.all isAllowed then (Scanner.start cs).run? (cs.length + 2) else none

end Yaml

end Mise
