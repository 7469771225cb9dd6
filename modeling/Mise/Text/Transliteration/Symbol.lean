import Mise.Text.Transliteration.Run

/-!
# Spellings of Symbols

Punctuation, currency signs, fractions, enclosed and squared forms, ligatures and fullwidth forms.
Most punctuation has an ASCII relative; the rest is spelled by what it stands for.
-/

namespace Mise

namespace Transliteration

/-- General punctuation and currency signs. -/
def punctuation : List Run := [
  (0x2000, [
     " ", " ", " ", " ", " ", " ", " ", " ", " ", " ", " ", " "]),
  (0x2010, [
     "-", "-", "-", "-", "--", "-", "||", "=", "'", "'", ",", "'", "\"", "\"", ",,", "\"", "+",
     "++", "*", "*>"]),
  (0x2025, [
     "..", "..."]),
  (0x2028, [
     " ", " "]),
  (0x2030, [
     "%0", "%00", "'", "''"]),
  (0x2039, [
     "<", ">"]),
  (0x2044, [
     "/"]),
  (0x2070, [
     "0", "i"]),
  (0x2074, [
     "4", "5", "6", "7", "8", "9", "+"]),
  (0x207C, [
     "=", "(", ")", "n", "0", "1", "2", "3", "4", "5", "6", "7", "8", "9", "+"]),
  (0x208C, [
     "=", "(", ")"]),
  (0x2090, [
     "a", "e", "o", "x"]),
  (0x2095, [
     "h", "k", "l", "m", "n", "p", "s", "t"]),
  (0x20A0, [
     "ECU", "CL", "Cr", "FF", "L", "mil", "N", "Pts", "Rs", "W", "NS", "D", "EUR", "K", "T", "Dr"])]

/-- Letterlike symbols, fractions and Roman numerals. -/
def letterlike : List Run := [
  (0x2100, [
     "a/c", "a/s", "C", "degC"]),
  (0x2105, [
     "c/o", "c/u"]),
  (0x2109, [
     "degF", "g", "H", "H", "H", "h"]),
  (0x2110, [
     "I", "I", "L", "l"]),
  (0x2115, [
     "N", "No", "(p)"]),
  (0x2119, [
     "P", "Q", "R", "R", "R"]),
  (0x2120, [
     "SM", "TEL", "tm"]),
  (0x2124, [
     "Z"]),
  (0x2126, [
     "ohm"]),
  (0x2128, [
     "Z"]),
  (0x212A, [
     "K", "A", "B", "C"]),
  (0x212F, [
     "e", "E", "F"]),
  (0x2133, [
     "M", "o"]),
  (0x2139, [
     "i"]),
  (0x213B, [
     "FAX"]),
  (0x2145, [
     "D", "d", "e", "i", "j"]),
  (0x2150, [
     " 1/7", " 1/9", " 1/10", " 1/3", " 2/3", " 1/5", " 2/5", " 3/5", " 4/5", " 1/6", " 5/6",
     " 1/8", " 3/8", " 5/8", " 7/8", " 1/", "I", "II", "III", "IV", "V", "VI", "VII", "VIII",
     "IX", "X", "XI", "XII", "L", "C", "D", "M", "i", "ii", "iii", "iv", "v", "vi", "vii",
     "viii", "ix", "x", "xi", "xii", "l", "c", "d", "m"]),
  (0x2212, [
     "-"]),
  (0x221E, [
     "infinity"])]

/-- Enclosed and squared letters and digits. -/
def enclosed : List Run := [
  (0x2460, [
     "1", "2", "3", "4", "5", "6", "7", "8", "9", "10", "11", "12", "13", "14", "15", "16", "17",
     "18", "19", "20", "(1)", "(2)", "(3)", "(4)", "(5)", "(6)", "(7)", "(8)", "(9)", "(10)",
     "(11)", "(12)", "(13)", "(14)", "(15)", "(16)", "(17)", "(18)", "(19)", "(20)", "1.", "2.",
     "3.", "4.", "5.", "6.", "7.", "8.", "9.", "10.", "11.", "12.", "13.", "14.", "15.", "16.",
     "17.", "18.", "19.", "20.", "(a)", "(b)", "(c)", "(d)", "(e)", "(f)", "(g)", "(h)", "(i)",
     "(j)", "(k)", "(l)", "(m)", "(n)", "(o)", "(p)", "(q)", "(r)", "(s)", "(t)", "(u)", "(v)",
     "(w)", "(x)", "(y)", "(z)", "A", "B", "C", "D", "E", "F", "G", "H", "I", "J", "K", "L", "M",
     "N", "O", "P", "Q", "R", "S", "T", "U", "V", "W", "X", "Y", "Z", "a", "b", "c", "d", "e",
     "f", "g", "h", "i", "j", "k", "l", "m", "n", "o", "p", "q", "r", "s", "t", "u", "v", "w",
     "x", "y", "z", "0"]),
  (0x3250, [
     "PTE", "21", "22", "23", "24", "25", "26", "27", "28", "29", "30", "31", "32", "33", "34",
     "35"]),
  (0x32B1, [
     "36", "37", "38", "39", "40", "41", "42", "43", "44", "45", "46", "47", "48", "49", "50"]),
  (0x32CC, [
     "Hg", "erg", "eV", "LTD"]),
  (0x3371, [
     "hPa", "da", "AU", "bar", "oV", "pc", "dm", "dm2", "dm3", "IU"]),
  (0x3380, [
     "pA", "nA"]),
  (0x3383, [
     "mA", "kA", "KB", "MB", "GB", "cal", "kcal", "pF", "nF"]),
  (0x338E, [
     "mg", "kg", "Hz", "kHz", "MHz", "GHz", "THz"]),
  (0x3396, [
     "ml", "dl", "kl", "fm", "nm"]),
  (0x339C, [
     "mm", "cm", "km", "mm2", "cm2", "m2", "km2", "mm3", "cm3", "m3", "km3"]),
  (0x33A9, [
     "Pa", "kPa", "MPa", "GPa", "rad"]),
  (0x33B0, [
     "ps", "ns"]),
  (0x33B3, [
     "ms", "pV", "nV"]),
  (0x33B7, [
     "mV", "kV", "MV", "pW", "nW"]),
  (0x33BD, [
     "mW", "kW", "MW"]),
  (0x33C2, [
     "a.m.", "Bq", "cc", "cd"]),
  (0x33C7, [
     "Co.", "dB", "Gy", "ha", "HP", "in", "KK", "KM", "kt", "lm", "ln", "log", "lx", "mb", "mil",
     "mol", "PH", "p.m.", "PPM", "PR", "sr", "Sv", "Wb"]),
  (0x33FF, [
     "gal"]),
  (0x1F100, [
     "0.", "0,", "1,", "2,", "3,", "4,", "5,", "6,", "7,", "8,", "9,"])]

/-- Latin ligatures and fullwidth forms. -/
def presentation : List Run := [
  (0xFB00, [
     "ff", "fi", "fl", "ffi", "ffl", "st", "st"]),
  (0xFF01, [
     "!", "\"", "#", "$", "%", "&", "'", "(", ")", "*", "+", ",", "-", ".", "/", "0", "1", "2",
     "3", "4", "5", "6", "7", "8", "9", ":", ";", "<", "=", ">", "?", "@", "A", "B", "C", "D",
     "E", "F", "G", "H", "I", "J", "K", "L", "M", "N", "O", "P", "Q", "R", "S", "T", "U", "V",
     "W", "X", "Y", "Z", "[", "\\", "]", "^", "_", "`", "a", "b", "c", "d", "e", "f", "g", "h",
     "i", "j", "k", "l", "m", "n", "o", "p", "q", "r", "s", "t", "u", "v", "w", "x", "y", "z",
     "\x7b", "|", "\x7d", "~"])]

end Transliteration

end Mise
