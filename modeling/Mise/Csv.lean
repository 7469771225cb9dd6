import Mise.Text.Blank

/-!
# Comma-Separated Values

A table is written as records of fields. A field that starts with a quote extends to the next quote
that stands alone, two quotes in it meaning one; whatever follows the closing quote before the next
comma is added to it. In a field that does not start with a quote, quotes mean nothing.

Records end with a line end, and lines without any character are no records. A byte order mark at
the start is passed over. White space at the ends of a field does not belong to it.

## Main definitions

* `Csv.field`: The field at the start of a text.
* `Csv.record`: The record at the start of a text.
* `Csv.records`: All records.
-/

namespace Mise

namespace Csv

/-- The characters that end a record. -/
def isRecordEnd (c : Char) : Bool :=
  c == '\n' || c == '\r'

/-- The characters that end a field without quotes. -/
def isFieldEnd (c : Char) : Bool :=
  c == ',' || isRecordEnd c

/-- The rest of a field in quotes up to its closing quote, and the text after it. The end of the
    text closes it too. -/
def quotedTail : List Char → List Char × List Char
  | [] => ([], [])
  | '"' :: '"' :: cs => let (field, rest) := quotedTail cs; ('"' :: field, rest)
  | c :: cs =>
    if c = '"' then ([], cs) else let (field, rest) := quotedTail cs; (c :: field, rest)

/-- The field at the start of a text, and the text after it. -/
def field (cs : List Char) : List Char × List Char :=
  let (quoted, rest) := match cs with
    | '"' :: cs => quotedTail cs
    | cs => ([], cs)
  (quoted ++ rest.takeWhile (!isFieldEnd ·), rest.dropWhile (!isFieldEnd ·))

/-- The fields of the record at the start of a text, and the text after it. Every field but the
    first uses up a comma, so the length of the text is enough fuel. -/
def record : (fuel : Nat) → List Char → List (List Char) × List Char
  | 0, _ => ([], [])
  | fuel + 1, cs =>
    match field cs with
    | (f, ',' :: rest) => let (fs, rest) := record fuel rest; (f :: fs, rest)
    | (f, rest) => ([f], rest)

/-- All records of a text, empty lines passed over. Every record uses up a character. -/
def recordsFrom : (fuel : Nat) → List Char → List (List (List Char))
  | 0, _ => []
  | fuel + 1, cs =>
    match cs.dropWhile isRecordEnd with
    | [] => []
    | cs => let (r, rest) := record (cs.length + 1) cs; r :: recordsFrom fuel rest

/-- The text after a byte order mark. -/
def skipMark : List Char → List Char
  | '\uFEFF' :: cs => cs
  | cs => cs

/-- All records of a text, with fields trimmed. -/
def records (text : String) : List (List String) :=
  let cs := skipMark text.toList
  (recordsFrom (cs.length + 1) cs).map (·.map fun f => String.ofList (Text.trim f))

end Csv

end Mise
