import Mise.Data
import Mise.Decimal.Layout

/-!
# Writing JSON

JSON texts come in two layouts. The compact one has no blanks at all. The pretty one puts every
item and field on a line of its own, two blanks deeper than what contains it; an empty list or
record stays on its line.

Only quotes, backslashes and control characters are escaped.

## Main definitions

* `Json.quoted`: A string in quotes.
* `Json.compact`: The compact layout.
* `Json.pretty`: The pretty layout.
-/

namespace Mise

namespace Json

/-- The hexadecimal digit of a number below sixteen. -/
def hexDigit (n : Nat) : Char :=
  (Nat.toDigits 16 n).headD '0'

/-- A character inside quotes. -/
def escaped (c : Char) : List Char :=
  if c = '"' then ['\\', '"']
  else if c = '\\' then ['\\', '\\']
  else if c = '\n' then ['\\', 'n']
  else if c = '\r' then ['\\', 'r']
  else if c = '\t' then ['\\', 't']
  else if c.toNat = 8 then ['\\', 'b']
  else if c.toNat = 12 then ['\\', 'f']
  else if c.toNat < 32 then
    ['\\', 'u', '0', '0', hexDigit (c.toNat / 16), hexDigit (c.toNat % 16)]
  else [c]

/-- A string in quotes. -/
def quoted (s : String) : String :=
  String.ofList ('"' :: s.toList.flatMap escaped ++ ['"'])

/-- The texts of a list's items with a separator between them. -/
def joined (separator : String) : List String → String
  | [] => ""
  | [s] => s
  | s :: rest => s ++ separator ++ joined separator rest

mutual

/-- Data as JSON without blanks. -/
def compact : Data → String
  | .null => "null"
  | .bool b => if b then "true" else "false"
  | .int n => toString n
  | .number x => dataNumber x
  | .text s => quoted s
  | .list items => "[" ++ joined "," (compactItems items) ++ "]"
  | .record fields => "\x7b" ++ joined "," (compactFields fields) ++ "\x7d"

/-- The compact texts of the items of a list. -/
def compactItems : List Data → List String
  | [] => []
  | d :: ds => compact d :: compactItems ds

/-- The compact texts of the fields of a record. -/
def compactFields : List (String × Data) → List String
  | [] => []
  | f :: fs => compactField f :: compactFields fs

/-- The compact text of a field. -/
def compactField : String × Data → String
  | (name, d) => quoted name ++ ":" ++ compact d

end

/-- A line end and the indentation of a depth. -/
def newline (depth : Nat) : String :=
  String.ofList ('\n' :: List.replicate (2 * depth) ' ')

/-- Parts on lines of their own between two brackets, one deeper than the brackets. -/
def bracketed (openText closeText : String) (depth : Nat) (parts : List String) : String :=
  if parts.isEmpty then openText ++ closeText
  else
    openText ++ newline (depth + 1) ++ joined ("," ++ newline (depth + 1)) parts
      ++ newline depth ++ closeText

mutual

/-- Data as JSON with every item and field on a line of its own, inside `depth` brackets. -/
def prettyAt (depth : Nat) : Data → String
  | .list items => bracketed "[" "]" depth (prettyItems (depth + 1) items)
  | .record fields => bracketed "\x7b" "\x7d" depth (prettyFields (depth + 1) fields)
  | .null => "null"
  | .bool b => if b then "true" else "false"
  | .int n => toString n
  | .number x => dataNumber x
  | .text s => quoted s

/-- The pretty texts of the items of a list. -/
def prettyItems (depth : Nat) : List Data → List String
  | [] => []
  | d :: ds => prettyAt depth d :: prettyItems depth ds

/-- The pretty texts of the fields of a record. -/
def prettyFields (depth : Nat) : List (String × Data) → List String
  | [] => []
  | f :: fs => prettyField depth f :: prettyFields depth fs

/-- The pretty text of a field. -/
def prettyField (depth : Nat) : String × Data → String
  | (name, d) => quoted name ++ ": " ++ prettyAt depth d

end

/-- Data as JSON with every item and field on a line of its own. -/
def pretty (d : Data) : String :=
  prettyAt 0 d

end Json

end Mise
