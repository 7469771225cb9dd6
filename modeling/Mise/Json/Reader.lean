import Mise.Json.Number

/-!
# Reading JSON

The reader is strict: no comments, no trailing commas, no text after the value, no control
characters inside quotes, no half of a surrogate pair, at most `maxDepth` lists and records inside
one another.

A member that nobody asks for is only skimmed. Its brackets, quotes and numerals have to be well
formed, but it may nest to any depth, and its numbers and escapes are not looked at.

## Main definitions

* `stringTail?`: The rest of a quoted string.
* `value?`: The value at the start of a text, and the rest of the text.
* `read?`: The value that a whole text is.
* `readMembers?`: The same for a text whose members other than the named ones are skimmed.
-/

namespace Mise

namespace Json

/-- How many lists and records may stand inside one another. -/
def maxDepth : Nat := 127

/-- The blanks of JSON. -/
def isSpace (c : Char) : Bool :=
  c == ' ' || c == '\n' || c == '\t' || c == '\r'

/-- A text without the blanks it starts with. -/
def skipSpace (cs : List Char) : List Char :=
  cs.dropWhile isSpace

/-- The value of a hexadecimal digit. -/
def hexValue? (c : Char) : Option Nat :=
  if c.isDigit then some (c.toNat - '0'.toNat)
  else if 'a' ≤ c ∧ c ≤ 'f' then some (c.toNat - 'a'.toNat + 10)
  else if 'A' ≤ c ∧ c ≤ 'F' then some (c.toNat - 'A'.toNat + 10)
  else none

/-- The value of four hexadecimal digits. -/
def hex4? (a b c d : Char) : Option Nat :=
  match hexValue? a, hexValue? b, hexValue? c, hexValue? d with
  | some a, some b, some c, some d => some (4096 * a + 256 * b + 16 * c + d)
  | _, _, _, _ => none

/-- The character that a one-letter escape stands for. -/
def simpleEscape? (c : Char) : Option Char :=
  if c = '"' ∨ c = '\\' ∨ c = '/' then some c
  else if c = 'b' then some '\x08'
  else if c = 'f' then some '\x0c'
  else if c = 'n' then some '\n'
  else if c = 'r' then some '\r'
  else if c = 't' then some '\t'
  else none

/-- The rest of a quoted string up to its closing quote, and the text after it. -/
def stringTail? (skim : Bool) : List Char → Option (List Char × List Char)
  | [] => none
  | '"' :: cs => some ([], cs)
  | '\\' :: 'u' :: a :: b :: c :: d :: cs =>
    match hex4? a b c d with
    | none => none
    | some n =>
      if n < 0xD800 ∨ 0xDFFF < n then
        (stringTail? skim cs).map fun (s, rest) => (Char.ofNat n :: s, rest)
      else if skim then (stringTail? skim cs).map fun (s, rest) => ('\uFFFD' :: s, rest)
      else match cs with
        | '\\' :: 'u' :: a :: b :: c :: d :: cs =>
          match hex4? a b c d with
          | none => none
          | some k =>
            if n ≤ 0xDBFF ∧ 0xDC00 ≤ k ∧ k ≤ 0xDFFF then
              let code := 0x10000 + 1024 * (n - 0xD800) + (k - 0xDC00)
              (stringTail? skim cs).map fun (s, rest) => (Char.ofNat code :: s, rest)
            else none
        | _ => none
  | '\\' :: c :: cs =>
    match simpleEscape? c with
    | none => none
    | some c => (stringTail? skim cs).map fun (s, rest) => (c :: s, rest)
  | c :: cs =>
    if c.toNat < 0x20 ∨ c = '\\' then none
    else (stringTail? skim cs).map fun (s, rest) => (c :: s, rest)

/-- The number at the start of a text, and the rest of the text. -/
def numberValue? (skim : Bool) (cs : List Char) : Option (Data × List Char) :=
  match Numeral.split? cs with
  | none => none
  | some (n, rest) =>
    if skim then some (.null, rest) else n.value?.map fun d => (d, rest)

/-- One level deeper, if the depth allows it. Skimming goes to any depth. -/
def deeper? (skim : Bool) : Nat → Option Nat
  | 0 => if skim then some 0 else none
  | depth + 1 => some depth

mutual

/-- The value at the start of a text, and the rest of the text. At most `depth` lists and records
    may stand inside one another. Every call uses up fuel, of which twice the length of the text
    is always enough. -/
def value? (skim : Bool) : (fuel depth : Nat) → List Char → Option (Data × List Char)
  | 0, _, _ => none
  | fuel + 1, depth, cs =>
    match skipSpace cs with
    | 'n' :: 'u' :: 'l' :: 'l' :: rest => some (.null, rest)
    | 't' :: 'r' :: 'u' :: 'e' :: rest => some (.bool true, rest)
    | 'f' :: 'a' :: 'l' :: 's' :: 'e' :: rest => some (.bool false, rest)
    | '"' :: rest => (stringTail? skim rest).map fun (s, rest) => (.text (String.ofList s), rest)
    | '[' :: rest =>
      match deeper? skim depth with
      | none => none
      | some depth =>
        match skipSpace rest with
        | ']' :: rest => some (.list [], rest)
        | rest => (items? skim fuel depth rest).map fun (ds, rest) => (.list ds, rest)
    | '\x7b' :: rest =>
      match deeper? skim depth with
      | none => none
      | some depth =>
        match skipSpace rest with
        | '\x7d' :: rest => some (.record [], rest)
        | rest =>
          (members? skim (fun _ => skim) fuel depth rest).map fun (fs, rest) => (.record fs, rest)
    | rest => numberValue? skim rest

/-- The items of a list that has at least one, up to and including its closing bracket. -/
def items? (skim : Bool) : (fuel depth : Nat) → List Char → Option (List Data × List Char)
  | 0, _, _ => none
  | fuel + 1, depth, cs =>
    match value? skim fuel depth cs with
    | none => none
    | some (d, rest) =>
      match skipSpace rest with
      | ',' :: rest => (items? skim fuel depth rest).map fun (ds, rest) => (d :: ds, rest)
      | ']' :: rest => some ([d], rest)
      | _ => none

/-- The members of a record that has at least one, up to and including its closing brace. The
    members whose names satisfy `skims` are skimmed, and all names are if `skimNames` holds. -/
def members? (skimNames : Bool) (skims : String → Bool) :
    (fuel depth : Nat) → List Char → Option (List (String × Data) × List Char)
  | 0, _, _ => none
  | fuel + 1, depth, cs =>
    match skipSpace cs with
    | '"' :: rest =>
      match stringTail? skimNames rest with
      | none => none
      | some (name, rest) =>
        let name := String.ofList name
        match skipSpace rest with
        | ':' :: rest =>
          match value? (skims name) fuel depth rest with
          | none => none
          | some (d, rest) =>
            match skipSpace rest with
            | ',' :: rest =>
              (members? skimNames skims fuel depth rest).map fun (fs, rest) =>
                ((name, d) :: fs, rest)
            | '\x7d' :: rest => some ([(name, d)], rest)
            | _ => none
        | _ => none
    | _ => none

end

/-- A value that nothing but blanks follows. -/
def alone? : Option (Data × List Char) → Option Data
  | some (d, rest) => if (skipSpace rest).isEmpty then some d else none
  | none => none

/-- The value that a whole text is. -/
def read? (text : String) : Option Data :=
  let cs := text.toList
  alone? (value? false (2 * cs.length + 2) maxDepth cs)

/-- The value that a whole text is; if it is a record, members other than the named ones are
    skimmed. -/
def readMembers? (names : List String) (text : String) : Option Data :=
  match skipSpace text.toList with
  | '\x7b' :: rest =>
    match skipSpace rest with
    | '\x7d' :: rest => alone? (some (.record [], rest))
    | cs =>
      alone? ((members? false (fun name => !names.contains name) (2 * cs.length + 2)
        (maxDepth - 1) cs).map fun (fs, rest) => (.record fs, rest))
  | _ => read? text

end Json

end Mise
