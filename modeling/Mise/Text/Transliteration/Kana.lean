import Mise.Text.Transliteration.Run

/-!
# Spellings of Kana and Hangul

Kana are spelled by the row and column they stand in. A Hangul syllable block is composed of an
initial, a vowel and a final, so its spelling is computed rather than listed.

## Main definitions

* `kana`: Hiragana, katakana and halfwidth katakana.
* `hangul?`: The spelling of a syllable block.
-/

namespace Mise

namespace Transliteration

/-- Hiragana, katakana and halfwidth katakana. -/
def kana : List Run := [
  (0x3041, [
     "a", "a", "i", "i", "u", "u", "e", "e", "o", "o", "ka", "ga", "ki", "gi", "ku", "gu", "ke",
     "ge", "ko", "go", "sa", "za", "si", "zi", "su", "zu", "se", "ze", "so", "zo", "ta", "da",
     "ti", "di", "tu", "tu", "du", "te", "de", "to", "do", "na", "ni", "nu", "ne", "no", "ha",
     "ba", "pa", "hi", "bi", "pi", "hu", "bu", "pu", "he", "be", "pe", "ho", "bo", "po", "ma",
     "mi", "mu", "me", "mo", "ya", "ya", "yu", "yu", "yo", "yo", "ra", "ri", "ru", "re", "ro",
     "wa", "wa", "wi", "we", "wo", "n", "vu", "ka", "ke"]),
  (0x309B, [
     "", ""]),
  (0x30A1, [
     "a", "a", "i", "i", "u", "u", "e", "e", "o", "o", "ka", "ga", "ki", "gi", "ku", "gu", "ke",
     "ge", "ko", "go", "sa", "za", "si", "zi", "su", "zu", "se", "ze", "so", "zo", "ta", "da",
     "ti", "di", "tu", "tu", "du", "te", "de", "to", "do", "na", "ni", "nu", "ne", "no", "ha",
     "ba", "pa", "hi", "bi", "pi", "hu", "bu", "pu", "he", "be", "pe", "ho", "bo", "po", "ma",
     "mi", "mu", "me", "mo", "ya", "ya", "yu", "yu", "yo", "yo", "ra", "ri", "ru", "re", "ro",
     "wa", "wa", "wi", "we", "wo", "n", "vu", "ka", "ke", "va", "vi", "ve", "vo", "", ""]),
  (0xFF66, [
     "wo", "a", "i", "u", "e", "o", "ya", "yu", "yo", "tu", "", "a", "i", "u", "e", "o", "ka",
     "ki", "ku", "ke", "ko", "sa", "si", "su", "se", "so", "ta", "ti", "tu", "te", "to", "na",
     "ni", "nu", "ne", "no", "ha", "hi", "hu", "he", "ho", "ma", "mi", "mu", "me", "mo", "ya",
     "yu", "yo", "ra", "ri", "ru", "re", "ro", "wa", "n"])]

/-- The spellings of the nineteen initials. -/
def hangulInitials : List String := [
  "g", "gg", "n", "d", "dd", "r", "m", "b", "bb", "s", "ss", "", "j", "jj", "c", "k", "t", "p", "h"]

/-- The spellings of the twenty-one vowels. -/
def hangulVowels : List String := [
  "a", "ae", "ya", "yae", "eo", "e", "yeo", "ye", "o", "wa", "wae", "oe", "yo", "u", "weo", "we",
  "wi", "yu", "eu", "yi", "i"]

/-- The spellings of the twenty-eight finals, the first of which is no final at all. -/
def hangulFinals : List String := [
  "", "g", "gg", "gs", "n", "nj", "nh", "d", "l", "lg", "lm", "lb", "ls", "lt", "lp", "lh", "m",
  "b", "bs", "s", "ss", "ng", "j", "c", "k", "t", "p", "h"]

/-- The spelling of a Hangul syllable block. Blocks are numbered by initial, then vowel, then
    final, so the three parts are the digits of the block's number. -/
def hangul? (n : Nat) : Option String :=
  if 0xAC00 ≤ n ∧ n ≤ 0xD7A3 then
    let k := n - 0xAC00
    some (hangulInitials.getD (k / 588) "" ++ hangulVowels.getD (k % 588 / 28) ""
      ++ hangulFinals.getD (k % 28) "")
  else none

end Transliteration

end Mise
