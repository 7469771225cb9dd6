import Mise.Text.Blank

/-!
# Decimal Digits

The decimal digits of every script come in stretches of ten, zero to nine. A number in a recipe's
metadata is recognised in any of them; only the ASCII ones are then read as a number.

Which scripts there are depends on the version of Unicode, and every version adds some. So a class
of digits is a choice, of which only this much is certain: in ASCII there are the ten well-known
digits and no others, and no digit is white space.

## Main definitions

* `DigitClass`: A choice of characters that are decimal digits.
* `isDecimalDigit`: A decimal digit of any script.
* `DigitClass.unicode`: The decimal digits of all scripts.
-/

namespace Mise

namespace Text

/-- A choice of characters that are decimal digits. -/
structure DigitClass where
  has : Char → Bool
  ascii : ∀ c, c.toNat < 0x80 → has c = c.isDigit
  not_blank : ∀ c, has c → isBlank c = false

/-- The zeros of all scripts with decimal digits, as of Unicode 17. -/
def decimalZeros : List Nat := [
  0x30, 0x660, 0x6F0, 0x7C0, 0x966, 0x9E6, 0xA66, 0xAE6, 0xB66, 0xBE6, 0xC66, 0xCE6, 0xD66,
  0xDE6, 0xE50, 0xED0, 0xF20, 0x1040, 0x1090, 0x17E0, 0x1810, 0x1946, 0x19D0, 0x1A80, 0x1A90,
  0x1B50, 0x1BB0, 0x1C40, 0x1C50, 0xA620, 0xA8D0, 0xA900, 0xA9D0, 0xA9F0, 0xAA50, 0xABF0, 0xFF10,
  0x104A0, 0x10D30, 0x10D40, 0x11066, 0x110F0, 0x11136, 0x111D0, 0x112F0, 0x11450, 0x114D0,
  0x11650, 0x116C0, 0x116D0, 0x116DA, 0x11730, 0x118E0, 0x11950, 0x11BF0, 0x11C50, 0x11D50,
  0x11DA0, 0x11DE0, 0x11F50, 0x16130, 0x16A60, 0x16AC0, 0x16B50, 0x16D70, 0x1CCF0, 0x1D7CE,
  0x1D7D8, 0x1D7E2, 0x1D7EC, 0x1D7F6, 0x1E140, 0x1E2F0, 0x1E4F0, 0x1E5F1, 0x1E950, 0x1FBF0]

/-- A decimal digit of any script. -/
def isDecimalDigit (c : Char) : Bool :=
  decimalZeros.any fun z => z ≤ c.toNat && c.toNat < z + 10

theorem isDecimalDigit_iff (c : Char) :
    isDecimalDigit c ↔ ∃ z ∈ decimalZeros, z ≤ c.toNat ∧ c.toNat < z + 10 := by
  simp only [isDecimalDigit, List.any_eq_true, Bool.and_eq_true, decide_eq_true_eq]

theorem isDecimalDigit_ascii (c : Char) (h : c.toNat < 0x80) : isDecimalDigit c = c.isDigit := by
  have hdigit : c.isDigit ↔ 0x30 ≤ c.toNat ∧ c.toNat ≤ 0x39 := by
    simp only [Char.isDigit, Bool.and_eq_true, decide_eq_true_eq]
    exact Iff.rfl
  rw [Bool.eq_iff_iff, isDecimalDigit_iff, hdigit]
  constructor
  · rintro ⟨z, hz, hlow, hhigh⟩
    have hzeros : ∀ z ∈ decimalZeros, z = 0x30 ∨ 0x80 ≤ z := by decide
    have hz := hzeros z hz
    omega
  · rintro ⟨hlow, hhigh⟩
    exact ⟨0x30, List.mem_cons_self, hlow, by omega⟩

/-- No digit is white space. -/
theorem not_isBlank_of_isDecimalDigit (c : Char) (h : isDecimalDigit c) : isBlank c = false := by
  rcases (isDecimalDigit_iff c).1 h with ⟨z, hz, hlow, hhigh⟩
  have hzeros : ∀ z ∈ decimalZeros, (0x20 < z ∧ z + 9 < 0x85) ∨ (0xA0 < z ∧ z + 9 < 0x1680)
      ∨ (0x1680 < z ∧ z + 9 < 0x2000) ∨ 0x3000 < z := by decide
  have hz := hzeros z hz
  simp only [isBlank, Bool.or_eq_false_iff, Bool.and_eq_false_iff, decide_eq_false_iff_not,
    beq_eq_false_iff_ne]
  omega

/-- The decimal digits of all scripts. -/
def DigitClass.unicode : DigitClass :=
  ⟨isDecimalDigit, isDecimalDigit_ascii, not_isBlank_of_isDecimalDigit⟩

end Text

end Mise
