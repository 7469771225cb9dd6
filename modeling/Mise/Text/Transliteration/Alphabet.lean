import Mise.Text.Transliteration.Run

/-!
# Spellings of Other Alphabets

Greek, Cyrillic, Armenian, Hebrew, Arabic, Devanagari, Thai and Georgian, each letter by its usual
ASCII spelling.
-/

namespace Mise

namespace Transliteration

/-- Greek letters, with and without accents and breathings. -/
def greek : List Run := [
  (0x386, [
     "A"]),
  (0x388, [
     "E", "E", "I"]),
  (0x38C, [
     "O"]),
  (0x38E, [
     "U", "O", "I", "A", "B", "G", "D", "E", "Z", "E", "Th", "I", "K", "L", "M", "N", "X", "O",
     "P", "R"]),
  (0x3A3, [
     "S", "T", "U", "Ph", "Kh", "Ps", "O", "I", "U", "a", "e", "e", "i", "u", "a", "b", "g", "d",
     "e", "z", "e", "th", "i", "k", "l", "m", "n", "x", "o", "p", "r", "s", "s", "t", "u", "ph",
     "kh", "ps", "o", "i", "u", "o", "u", "o"]),
  (0x1F00, [
     "a", "a", "a", "a", "a", "a", "a", "a", "A", "A", "A", "A", "A", "A", "A", "A", "e", "e",
     "e", "e", "e", "e"]),
  (0x1F18, [
     "E", "E", "E", "E", "E", "E"]),
  (0x1F20, [
     "e", "e", "e", "e", "e", "e", "e", "e", "E", "E", "E", "E", "E", "E", "E", "E", "i", "i",
     "i", "i", "i", "i", "i", "i", "I", "I", "I", "I", "I", "I", "I", "I", "o", "o", "o", "o",
     "o", "o"]),
  (0x1F48, [
     "O", "O", "O", "O", "O", "O"]),
  (0x1F50, [
     "u", "u", "u", "u", "u", "u", "u", "u"]),
  (0x1F59, [
     "U"]),
  (0x1F5B, [
     "U"]),
  (0x1F5D, [
     "U"]),
  (0x1F5F, [
     "U", "o", "o", "o", "o", "o", "o", "o", "o", "O", "O", "O", "O", "O", "O", "O", "O", "a",
     "a", "e", "e", "e", "e", "i", "i", "o", "o", "u", "u", "o", "o"]),
  (0x1F80, [
     "a", "a", "a", "a", "a", "a", "a", "a", "A", "A", "A", "A", "A", "A", "A", "A", "e", "e",
     "e", "e", "e", "e", "e", "e", "E", "E", "E", "E", "E", "E", "E", "E", "o", "o", "o", "o",
     "o", "o", "o", "o", "O", "O", "O", "O", "O", "O", "O", "O", "a", "a", "a", "a", "a"]),
  (0x1FB6, [
     "a", "a", "A", "A", "A", "A", "A"]),
  (0x1FBE, [
     "i"]),
  (0x1FC2, [
     "e", "e", "e"]),
  (0x1FC6, [
     "e", "e", "E", "E", "E", "E", "E"]),
  (0x1FD0, [
     "i", "i", "i", "i"]),
  (0x1FD6, [
     "i", "i", "I", "I", "I", "I"]),
  (0x1FE0, [
     "u", "u", "u", "u", "r", "r", "u", "u", "U", "U", "U", "U", "R"]),
  (0x1FF2, [
     "o", "o", "o"]),
  (0x1FF6, [
     "o", "o", "O", "O", "O", "O", "O"])]

/-- Cyrillic letters. -/
def cyrillic : List Run := [
  (0x400, [
     "Ie", "Io", "Dj", "Gj", "Ie", "Dz", "I", "Yi", "J", "Lj", "Nj", "Tsh", "Kj", "I", "U",
     "Dzh", "A", "B", "V", "G", "D", "E", "Zh", "Z", "I", "I", "K", "L", "M", "N", "O", "P", "R",
     "S", "T", "U", "F", "Kh", "Ts", "Ch", "Sh", "Shch", "\"", "Y", "'", "E", "Iu", "Ia", "a",
     "b", "v", "g", "d", "e", "zh", "z", "i", "i", "k", "l", "m", "n", "o", "p", "r", "s", "t",
     "u", "f", "kh", "ts", "ch", "sh", "shch", "\"", "y", "'", "e", "iu", "ia", "ie", "io", "dj",
     "gj", "ie", "dz", "i", "yi", "j", "lj", "nj", "tsh", "kj", "i", "u", "dzh"]),
  (0x490, [
     "G'", "g'", "G'", "g'", "G'", "g'", "Zh'", "zh'", "Z'", "z'", "K'", "k'"]),
  (0x4AE, [
     "U", "u", "U'", "u'"]),
  (0x4D8, [
     "@", "@"]),
  (0x4E8, [
     "O'", "o'"])]

/-- Armenian and Georgian letters. -/
def caucasian : List Run := [
  (0x531, [
     "A", "B", "G", "D", "E", "Z", "E", "E", "T`", "Zh", "I", "L", "Kh", "Ts", "K", "H", "Dz",
     "Gh", "Ch", "M", "Y", "N", "Sh", "O", "Ch`", "P", "J", "Rh", "S", "V", "T", "R", "Ts`", "W",
     "P`", "K`", "O", "F"]),
  (0x561, [
     "a", "b", "g", "d", "e", "z", "e", "e", "t`", "zh", "i", "l", "kh", "ts", "k", "h", "dz",
     "gh", "ch", "m", "y", "n", "sh", "o", "ch`", "p", "j", "rh", "s", "v", "t", "r", "ts`", "w",
     "p`", "k`", "o", "f", "ew"]),
  (0x10D0, [
     "a", "b", "g", "d", "e", "v", "z", "t`", "i", "k", "l", "m", "n", "o", "p", "zh", "r", "s",
     "t", "u", "p`", "k`", "g'", "q", "sh", "ch`", "c`", "z'", "c", "ch", "x", "j", "h", "e",
     "y", "w", "xh", "oe", "f"])]

/-- Hebrew and Arabic letters and digits. -/
def semitic : List Run := [
  (0x5D0, [
     "A", "b", "g", "d", "h", "v", "z", "kh", "t", "y", "k", "k", "l", "m", "m", "n", "n", "s",
     "`", "p", "p", "ts", "ts", "q", "r", "sh", "t"]),
  (0x60C, [
     ","]),
  (0x61B, [
     ";"]),
  (0x61F, [
     "?"]),
  (0x621, [
     "", "a", "'", "w'", "", "y'", "", "b", "@", "t", "th", "j", "H", "kh", "d", "dh", "r", "z",
     "s", "sh", "S", "D", "T", "Z", "`", "G"]),
  (0x640, [
     "", "f", "q", "k", "l", "m", "n", "h", "w", "~", "y", "an", "un", "in", "a", "u", "i", "W",
     ""]),
  (0x660, [
     "0", "1", "2", "3", "4", "5", "6", "7", "8", "9"]),
  (0x67E, [
     "p"]),
  (0x686, [
     "ch"]),
  (0x698, [
     "j"]),
  (0x6A9, [
     "k"]),
  (0x6AF, [
     "g"]),
  (0x6C1, [
     "h"]),
  (0x6CC, [
     "y"]),
  (0x6F0, [
     "0", "1", "2", "3", "4", "5", "6", "7", "8", "9"])]

/-- Devanagari and Thai letters and digits. -/
def indic : List Run := [
  (0x901, [
     "N", "N", "H"]),
  (0x905, [
     "a", "aa", "i", "ii", "u", "uu", "R", "L", "eN", "e", "e", "ai", "oN", "o", "o", "au", "k",
     "kh", "g", "gh", "ng", "c", "ch", "j", "jh", "ny", "tt", "tth", "dd", "ddh", "nn", "t",
     "th", "d", "dh", "n", "nnn", "p", "ph", "b", "bh", "m", "y", "r", "rr", "l", "l", "lll",
     "v", "sh", "ss", "s", "h"]),
  (0x93C, [
     "'", "'", "aa", "i", "ii", "u", "uu", "R", "RR", "eN", "e", "e", "ai", "oN", "o", "o", "au",
     ""]),
  (0x966, [
     "0", "1", "2", "3", "4", "5", "6", "7", "8", "9"]),
  (0xE01, [
     "k", "kh", "kh", "kh", "kh", "kh", "ng", "cch", "ch", "ch", "ch", "ch", "y", "d", "t", "th",
     "th", "th", "n", "d", "t", "th", "th", "th", "n", "b", "p", "ph", "f", "ph", "f", "ph", "m",
     "y", "r", "R", "l", "L", "w", "s", "s", "s", "h", "l", "`", "h", "~", "a", "a", "aa", "am",
     "i", "ii", "ue", "uue", "u", "uu", "'"]),
  (0xE3F, [
     "Bh.", "e", "ae", "o", "ai", "ai", "ao", "+", "", "", "", "", "", "", "M"]),
  (0xE50, [
     "0", "1", "2", "3", "4", "5", "6", "7", "8", "9"])]

end Transliteration

end Mise
