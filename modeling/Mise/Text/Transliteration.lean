import Mise.Text.Transliteration.Latin
import Mise.Text.Transliteration.Alphabet
import Mise.Text.Transliteration.Kana
import Mise.Text.Transliteration.Han
import Mise.Text.Transliteration.Symbol
import Mise.Text.Transliteration.Pictograph

/-!
# Transliteration

Every character has an ASCII spelling. ASCII characters spell themselves, marks that combine with
their neighbours spell nothing, and a character without a known spelling is spelled as a dash.

Spellings are known of what recipes are written in: Latin, Greek, Cyrillic, Armenian, Georgian,
Hebrew, Arabic, Devanagari, Thai, kana, Hangul, the Han characters in common use, and common symbols
and pictographs. Other scripts, rare Han characters and rare symbols have ASCII spellings as well,
but none of them is listed here. A name in such a script comes out as dashes and nothing else.

## Main definitions

* `isSilent`: The characters that spell nothing.
* `transliterate`: The ASCII spelling of a character.
-/

namespace Mise

namespace Transliteration

/-- Control characters, combining marks, joiners, direction marks and variation selectors. -/
def isSilent (n : Nat) : Bool :=
  (0x80 ≤ n && n ≤ 0x9F) || (0x300 ≤ n && n ≤ 0x36F) || (0x200C ≤ n && n ≤ 0x200F)
    || (0x202A ≤ n && n ≤ 0x202E) || (0x2060 ≤ n && n ≤ 0x206F) || (0x3099 ≤ n && n ≤ 0x309A)
    || (0x20D0 ≤ n && n ≤ 0x20F0) || (0xFE00 ≤ n && n ≤ 0xFE0F) || (0xFE20 ≤ n && n ≤ 0xFE2F)
    || n == 0xFEFF

/-- The tables of alphabets and symbols, in the order in which they are consulted. -/
def tables : List (List Run) :=
  [latin, greek, cyrillic, punctuation, letterlike, latinAdditional, kana, presentation, enclosed,
    semitic, indic, caucasian]

/-- The spelling that some table gives a character. The tables do not cover every script. -/
def spelling? (c : Char) : Option String :=
  tables.findSome? (spellingIn? · c.toNat)
    <|> pictograph? c.toNat
    <|> hangul? c.toNat
    <|> han? c

/-- The ASCII spelling of a character, a dash if no table has it. -/
def transliterate (c : Char) : String :=
  if c.toNat < 0x80 then c.toString
  else if isSilent c.toNat then ""
  else (spelling? c).getD "-"

theorem transliterate_ascii {c : Char} (h : c.toNat < 0x80) : transliterate c = c.toString := by
  simp only [transliterate, h, if_true]

end Transliteration

end Mise
