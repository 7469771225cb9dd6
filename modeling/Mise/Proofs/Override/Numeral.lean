import Mathlib.Data.List.TakeWhile
import Mise.Override

/-!
# Decimals in Entries

The number of an override is a decimal in front of other text. What follows the decimal is ignored,
so one has to say where the decimal ends: it goes on as long as it can. That is a statement about
all decimals that a text starts with, and here it stands without the search for one. The search
takes a text apart into a sign, digits, and a point with more digits. Whatever decimal the text
starts with has the same sign, and its point can only stand after all of the digits.

Digits of every script make a decimal, but only those of ASCII can be read. So a decimal that goes
on with other digits cannot be read, though a shorter one could have been. Which characters are
digits depends on the version of Unicode, so nothing is said of them here but what holds of every
class of digits.

## Main definitions

* `Numeral`: The decimals that entries may have.
* `Numeral.value`: What a decimal is read as.
* `Numeral.IsLongestIn`: A text starts with a decimal, and with no longer one.

## Theorems

* `decimalAt?_eq`: A decimal is taken from a text part by part.
* `longest_of_decimalAt?`, `no_numeral_of_decimalAt?`: It is the longest one in front of the text.
* `decimalAt?_of_longest`: The longest one is what is taken.
* `parseNumber?_text`: What decimals are read as.
-/

namespace Mise

namespace Text.DigitClass

variable (known : DigitClass)

/-- In ASCII there are no digits but the well-known ones. -/
theorem has_eq_false {c : Char} (h : c.toNat < 0x80) (hdigit : c.isDigit = false) :
    known.has c = false :=
  (known.ascii c h).trans hdigit

theorem has_point : known.has '.' = false := known.has_eq_false (by decide) rfl

-- No digit is a capital of ASCII.
theorem toLower_of_has {c : Char} (h : known.has c) : c.toLower = c := by
  have hcapital : ¬ (c.val ≥ 'A'.val ∧ c.val ≤ 'Z'.val) := by
    rintro ⟨hlow, hhigh⟩
    have hlow : 65 ≤ c.toNat := UInt32.le_iff_toNat_le.1 hlow
    have hhigh : c.toNat ≤ 90 := UInt32.le_iff_toNat_le.1 hhigh
    have hdigit : c.isDigit = true := known.ascii c (by omega) ▸ h
    have hnine : c.toNat ≤ 57 := of_decide_eq_true (Bool.and_eq_true_iff.1 hdigit).2
    omega
  exact dif_neg hcapital

end Text.DigitClass

/-- A decimal as entries may have it: an optional sign, and then digits with an optional point and
    more digits, or a point and digits. The digits are those of a class, which may have more than
    the ones of ASCII. -/
structure Numeral (known : Text.DigitClass) where
  sign : List Char
  whole : List Char
  fraction : Option (List Char)
  sign_mem : sign ∈ [[], ['+'], ['-']]
  whole_digits : ∀ c ∈ whole, known.has c
  fraction_digits : ∀ c ∈ fraction.getD [], known.has c
  not_empty : whole ++ fraction.getD [] ≠ []

variable {known : Text.DigitClass}

/-- The point and the digits after it, if there are any. -/
def pointed (fraction : Option (List Char)) : List Char :=
  fraction.elim [] ('.' :: ·)

namespace Numeral

/-- A decimal without its sign. -/
def body (n : Numeral known) : List Char :=
  n.whole ++ pointed n.fraction

/-- How a decimal is written. -/
def text (n : Numeral known) : List Char :=
  n.sign ++ n.body

/-- The digits of a decimal. -/
def digits (n : Numeral known) : List Char :=
  n.whole ++ n.fraction.getD []

/-- All digits of a decimal are those of ASCII. -/
def IsAscii (n : Numeral known) : Prop :=
  ∀ c ∈ n.digits, c.isDigit

/-- The natural number that the digits of a decimal spell, the point left out. -/
def mantissa (n : Numeral known) : Nat :=
  n.digits.foldl (fun m c => 10 * m + (c.toNat - '0'.toNat)) 0

/-- What a decimal is read as, if all its digits can be read: the double nearest to the number that
    its digits spell, with as many of them behind the point as are written there. -/
def value (n : Numeral known) : Float :=
  let unsigned := nearestDouble n.mantissa (-((n.fraction.getD []).length : ℤ))
  if n.sign = ['-'] then -unsigned else unsigned

/-- A text starts with a decimal, and it starts with none that goes on any longer. -/
def IsLongestIn (n : Numeral known) (cs : List Char) : Prop :=
  n.text <+: cs ∧ ∀ other : Numeral known, other.text <+: cs → other.text <+: n.text

end Numeral

section Search

/-- The sign in front of a text, and the rest of the text. -/
def signAt : List Char → List Char × List Char
  | [] => ([], [])
  | c :: cs => if c = '+' ∨ c = '-' then ([c], cs) else ([], c :: cs)

/-- The digits after the point that a text has after the digits it starts with. -/
def fractionAt (known : Text.DigitClass) (cs : List Char) : Option (List Char) :=
  match cs.dropWhile known.has with
  | '.' :: rest => some (rest.takeWhile known.has)
  | _ => none

/-- A decimal is taken from a text part by part. -/
theorem decimalAt?_eq (cs : List Char) :
    let rest := (signAt cs).2
    let whole := rest.takeWhile known.has
    decimalAt? known cs
      = if whole ++ (fractionAt known rest).getD [] = [] then none
        else some ((signAt cs).1 ++ (whole ++ pointed (fractionAt known rest))) := by
  intro rest whole
  have hsplit : decimalAt? known cs = match rest.dropWhile known.has with
      | '.' :: after =>
        let fraction := after.takeWhile known.has
        if whole.isEmpty ∧ fraction.isEmpty then none
        else some ((signAt cs).1 ++ whole ++ '.' :: fraction)
      | _ => if whole.isEmpty then none else some ((signAt cs).1 ++ whole) := by
    unfold decimalAt? digitsAt
    cases cs with
    | nil => rfl
    | cons c cs => rfl
  rw [hsplit]
  unfold fractionAt
  split
  · simp only [Option.getD_some, pointed, Option.elim_some, List.append_eq_nil_iff,
      List.isEmpty_iff, List.append_assoc]
  · simp only [Option.getD_none, pointed, Option.elim_none, List.append_nil, List.isEmpty_iff]

theorem signAt_append (cs : List Char) : (signAt cs).1 ++ (signAt cs).2 = cs := by
  cases cs with
  | nil => rfl
  | cons c cs =>
      simp only [signAt]
      split <;> rfl

theorem signAt_mem (cs : List Char) : (signAt cs).1 ∈ [[], ['+'], ['-']] := by
  cases cs with
  | nil => exact List.mem_cons_self
  | cons c cs =>
      simp only [signAt]
      split
      · next hc =>
        show [c] ∈ _
        rcases hc with rfl | rfl <;> decide
      · exact List.mem_cons_self

theorem fractionAt_digits (cs : List Char) :
    ∀ c ∈ (fractionAt known cs).getD [], known.has c := by
  intro c hc
  unfold fractionAt at hc
  split at hc
  · exact List.mem_takeWhile_imp hc
  · exact absurd hc List.not_mem_nil

theorem isPrefix_parts (known : Text.DigitClass) (cs : List Char) :
    cs.takeWhile known.has ++ pointed (fractionAt known cs) <+: cs := by
  have hcut := List.takeWhile_append_dropWhile (p := known.has) (l := cs)
  unfold fractionAt
  split
  · next after hafter =>
    rw [hafter] at hcut
    have hpoint := (List.prefix_cons_inj '.').2
      (List.takeWhile_prefix known.has (l := after))
    have hparts := (List.prefix_append_right_inj (cs.takeWhile known.has)).2 hpoint
    rwa [hcut] at hparts
  · rw [pointed, Option.elim_none, List.append_nil]
    exact List.takeWhile_prefix _

theorem isPrefix_takeWhile {p : Char → Bool} {as cs : List Char} (h : as <+: cs)
    (hall : ∀ c ∈ as, p c) : as <+: cs.takeWhile p := by
  rcases h with ⟨rest, rfl⟩
  rw [List.takeWhile_append_of_pos hall]
  exact List.prefix_append _ _

variable {cs : List Char} {n : Numeral known}

theorem Numeral.mem_body {c : Char} (h : c ∈ n.body) : known.has c ∨ c = '.' := by
  rcases List.mem_append.1 h with hwhole | hpoint
  · exact Or.inl (n.whole_digits c hwhole)
  · cases hfraction : n.fraction with
    | none =>
        rw [hfraction] at hpoint
        exact absurd hpoint List.not_mem_nil
    | some ds =>
        rw [hfraction] at hpoint
        rcases List.mem_cons.1 hpoint with rfl | hds
        · exact Or.inr rfl
        · exact Or.inl (n.fraction_digits c (hfraction ▸ hds))

theorem Numeral.body_ne_nil (n : Numeral known) : n.body ≠ [] := by
  intro h
  rw [body, List.append_eq_nil_iff] at h
  refine n.not_empty ?_
  rw [h.1, List.nil_append]
  cases hfraction : n.fraction with
  | none => rfl
  | some ds =>
      rw [hfraction] at h
      exact absurd h.2 (List.cons_ne_nil _ _)

/-- What a decimal starts with after its sign is no sign. -/
theorem Numeral.body_eq_cons (n : Numeral known) :
    ∃ c rest, n.body = c :: rest ∧ (known.has c ∨ c = '.') ∧ c ≠ '+' ∧ c ≠ '-' := by
  rcases List.exists_cons_of_ne_nil n.body_ne_nil with ⟨c, rest, hbody⟩
  have hc : known.has c ∨ c = '.' := n.mem_body (hbody ▸ List.mem_cons_self)
  -- Neither sign is a digit or a point.
  have hsign : ∀ sign : Char, sign.toNat < 0x80 → sign.isDigit = false → sign ≠ '.' → c ≠ sign := by
    rintro sign hascii hdigit hpoint rfl
    rw [known.has_eq_false hascii hdigit] at hc
    exact hc.elim (fun h => absurd h Bool.false_ne_true) hpoint
  exact ⟨c, rest, hbody, hc, hsign '+' (by decide) rfl (by decide),
    hsign '-' (by decide) rfl (by decide)⟩

/-- What a decimal starts with is no white space. -/
theorem Numeral.text_eq_cons (n : Numeral known) :
    ∃ c rest, n.text = c :: rest ∧ Text.isBlank c = false := by
  have hsign := n.sign_mem
  simp only [List.mem_cons, List.not_mem_nil, or_false] at hsign
  rcases hsign with hnone | hsome | hsome
  · rcases n.body_eq_cons with ⟨c, rest, hbody, hc, -⟩
    refine ⟨c, rest, by rw [text, hnone, hbody, List.nil_append], ?_⟩
    rcases hc with hdigit | rfl
    · exact known.not_blank c hdigit
    · decide
  · exact ⟨'+', n.body, by rw [text, hsome, List.singleton_append], by decide⟩
  · exact ⟨'-', n.body, by rw [text, hsome, List.singleton_append], by decide⟩

/-- A decimal in front of a text has the sign that stands there. -/
theorem Numeral.sign_of_isPrefix (h : n.text <+: cs) :
    n.sign = (signAt cs).1 ∧ n.body <+: (signAt cs).2 := by
  rcases h with ⟨rest, rfl⟩
  rcases n.body_eq_cons with ⟨c, more, hbody, -, hplus, hminus⟩
  have hsign := n.sign_mem
  rw [text, List.append_assoc]
  simp only [List.mem_cons, List.not_mem_nil, or_false] at hsign
  rcases hsign with hnone | hsome | hsome
  · have hhead : ¬ (c = '+' ∨ c = '-') := not_or.2 ⟨hplus, hminus⟩
    rw [hnone, hbody, List.nil_append, List.cons_append, signAt, if_neg hhead]
    exact ⟨rfl, List.prefix_append (c :: more) rest⟩
  · rw [hsome, List.singleton_append, signAt, if_pos (Or.inl rfl)]
    exact ⟨rfl, List.prefix_append _ _⟩
  · rw [hsome, List.singleton_append, signAt, if_pos (Or.inr rfl)]
    exact ⟨rfl, List.prefix_append _ _⟩

/-- A decimal without a point goes no further than the digits in front of a text; one with a point
    has all of these digits, and then goes no further than the digits after the point. -/
theorem Numeral.parts_of_isPrefix (h : n.body <+: cs) :
    (n.fraction = none ∧ n.whole <+: cs.takeWhile known.has)
      ∨ ∃ ds more, n.fraction = some ds ∧ n.whole = cs.takeWhile known.has
          ∧ fractionAt known cs = some more ∧ ds <+: more := by
  cases hfraction : n.fraction with
  | none =>
      rw [body, hfraction, pointed, Option.elim_none, List.append_nil] at h
      exact Or.inl ⟨rfl, isPrefix_takeWhile h n.whole_digits⟩
  | some ds =>
      rw [body, hfraction, pointed, Option.elim_some] at h
      rcases h with ⟨rest, rfl⟩
      have hdigits : ∀ c ∈ ds, known.has c := by
        intro c hc
        exact n.fraction_digits c (hfraction ▸ hc)
      have hstop : ¬ known.has '.' = true :=
        Bool.eq_false_iff.1 known.has_point
      refine Or.inr ⟨ds, (ds ++ rest).takeWhile known.has, rfl, ?_, ?_, ?_⟩
      · rw [List.append_assoc, List.takeWhile_append_of_pos n.whole_digits, List.cons_append,
          List.takeWhile_cons_of_neg hstop, List.append_nil]
      · rw [fractionAt, List.append_assoc, List.dropWhile_append_of_pos n.whole_digits,
          List.cons_append, List.dropWhile_cons_of_neg hstop]
        rfl
      · exact isPrefix_takeWhile (List.prefix_append ds rest) hdigits

/-- What is taken from the front of a text is a decimal, and the text starts with no longer one. -/
theorem longest_of_decimalAt? {text : List Char} (h : decimalAt? known cs = some text) :
    ∃ n : Numeral known, n.text = text ∧ n.IsLongestIn cs := by
  rw [decimalAt?_eq] at h
  split at h
  · cases h
  · next hnot_empty =>
    let rest := (signAt cs).2
    let n : Numeral known := ⟨(signAt cs).1, rest.takeWhile known.has, fractionAt known rest,
      signAt_mem cs, fun c hc => List.mem_takeWhile_imp hc, fractionAt_digits rest, hnot_empty⟩
    have htext : n.text <+: cs := by
      have hparts := (List.prefix_append_right_inj (signAt cs).1).2 (isPrefix_parts known rest)
      rwa [signAt_append cs] at hparts
    refine ⟨n, Option.some.inj h, htext, fun other hother => ?_⟩
    rcases Numeral.sign_of_isPrefix hother with ⟨hsign, hbody⟩
    have hbodies : other.body <+: n.body := by
      rcases Numeral.parts_of_isPrefix hbody with
        ⟨hfraction, hwhole⟩ | ⟨ds, more, hfraction, hwhole, hmore, hds⟩
      · rw [Numeral.body, hfraction, pointed, Option.elim_none, List.append_nil]
        exact hwhole.trans (List.prefix_append _ _)
      · have hpoint : '.' :: ds <+: pointed n.fraction := by
          rw [show n.fraction = some more from hmore]
          exact (List.prefix_cons_inj '.').2 hds
        rw [Numeral.body, hfraction, hwhole]
        exact (List.prefix_append_right_inj _).2 hpoint
    rw [Numeral.text, hsign]
    exact (List.prefix_append_right_inj _).2 hbodies

/-- If nothing is taken from the front of a text, the text does not start with a decimal. -/
theorem no_numeral_of_decimalAt? (h : decimalAt? known cs = none) (n : Numeral known) :
    ¬ n.text <+: cs := by
  intro hprefix
  rw [decimalAt?_eq] at h
  split at h
  · next hempty =>
    rw [List.append_eq_nil_iff] at hempty
    rcases Numeral.parts_of_isPrefix (Numeral.sign_of_isPrefix hprefix).2 with
      ⟨hfraction, hwhole⟩ | ⟨ds, more, hfraction, hwhole, hmore, hds⟩
    · rw [hempty.1, List.prefix_nil] at hwhole
      exact n.not_empty (by rw [hwhole, hfraction]; rfl)
    · rw [hmore, Option.getD_some] at hempty
      rw [hempty.2, List.prefix_nil] at hds
      exact n.not_empty (by rw [hwhole, hempty.1, hfraction, hds]; rfl)
  · cases h

theorem Numeral.IsLongestIn.text_eq {other : Numeral known} (h : n.IsLongestIn cs)
    (hother : other.IsLongestIn cs) : n.text = other.text :=
  (hother.2 n h.1).eq_of_length_le (h.2 other hother.1).length_le

theorem decimalAt?_of_longest (h : n.IsLongestIn cs) : decimalAt? known cs = some n.text := by
  cases hdecimal : decimalAt? known cs with
  | none => exact absurd h.1 (no_numeral_of_decimalAt? hdecimal n)
  | some text =>
      rcases longest_of_decimalAt? hdecimal with ⟨other, rfl, hother⟩
      rw [h.text_eq hother]

end Search

section Reading

open Decimal (splitSign split? exponent?)

theorem splitSign_text (n : Numeral known) : splitSign n.text = (n.sign == ['-'], n.body) := by
  have hsign := n.sign_mem
  simp only [List.mem_cons, List.not_mem_nil, or_false] at hsign
  rcases hsign with hnone | hsome | hsome
  · rcases n.body_eq_cons with ⟨c, more, hbody, -, hplus, hminus⟩
    rw [Numeral.text, hnone, hbody, List.nil_append]
    unfold splitSign
    split
    · next heq => exact absurd (List.cons.inj heq).1 hminus
    · next heq => exact absurd (List.cons.inj heq).1 hplus
    · rfl
  · rw [Numeral.text, hsome, List.singleton_append]
    rfl
  · rw [Numeral.text, hsome, List.singleton_append]
    rfl

-- A decimal starts with a digit or a point, and no word does.
theorem ofList_body_ne (n : Numeral known) (word : String)
    (hword : ∃ c ∈ word.toList.head?, c = 'i' ∨ c = 'n') :
    String.ofList (n.body.map Char.toLower) ≠ word := by
  rintro rfl
  rcases hword with ⟨c, hhead, hc⟩
  rcases n.body_eq_cons with ⟨d, more, hbody, hd, -⟩
  have hlower : d.toLower = d := by
    rcases hd with hdigit | rfl
    · exact known.toLower_of_has hdigit
    · rfl
  rw [String.toList_ofList, hbody, List.map_cons, hlower, List.head?_cons, Option.mem_some_iff]
    at hhead
  rw [hhead] at hd
  rcases hc with rfl | rfl <;>
    rw [known.has_eq_false (by decide) rfl] at hd <;> exact absurd hd (by decide)

/-- A decimal is read as a sign and an unsigned decimal, because it is not a word. -/
theorem parseNumber?_eq (n : Numeral known) :
    parseNumber? n.text
      = (split? n.body).map fun p => withSign (n.sign == ['-']) (nearestDouble p.1 p.2) := by
  have hinf := ofList_body_ne n "inf" ⟨'i', rfl, Or.inl rfl⟩
  have hinfinity := ofList_body_ne n "infinity" ⟨'i', rfl, Or.inl rfl⟩
  have hnan := ofList_body_ne n "nan" ⟨'n', rfl, Or.inr rfl⟩
  unfold parseNumber?
  rw [splitSign_text]
  simp only [hinf, hinfinity, hnan, or_self, if_false]

/-- A decimal in ASCII digits is read as its digits, with the point moved behind them. -/
theorem split?_body {n : Numeral known} (h : n.IsAscii) :
    split? n.body = some (digitsValue n.digits, -((n.fraction.getD []).length : ℤ)) := by
  have hwhole : ∀ c ∈ n.whole, c.isDigit := fun c hc => h c (List.mem_append_left _ hc)
  have hdigits := n.not_empty
  unfold split?
  simp only [Numeral.body, Numeral.digits, List.takeWhile_append_of_pos hwhole,
    List.dropWhile_append_of_pos hwhole]
  cases hfraction : n.fraction with
  | none =>
      rw [hfraction] at hdigits
      simp only [Option.getD_none] at hdigits
      simp only [pointed, Option.elim_none, List.takeWhile_nil, List.dropWhile_nil, List.append_nil,
        Option.getD_none, List.isEmpty_iff, if_neg (List.append_nil n.whole ▸ hdigits)]
      rfl
  | some ds =>
      have hds : ∀ c ∈ ds, c.isDigit := by
        intro c hc
        refine h c (List.mem_append_right _ ?_)
        rw [hfraction]
        exact hc
      have hpoint : ¬ Char.isDigit '.' = true := by decide
      rw [hfraction, Option.getD_some] at hdigits
      simp only [pointed, Option.elim_some, List.takeWhile_cons_of_neg hpoint,
        List.dropWhile_cons_of_neg hpoint, List.append_nil, List.takeWhile_eq_self_iff.2 hds,
        List.dropWhile_eq_nil_iff.2 hds, Option.getD_some, List.isEmpty_iff]
      rw [if_neg hdigits]
      simp only [exponent?, Option.map_some, Int.zero_sub]

-- In front of its exponent, what is read as an unsigned decimal has digits and a point.
theorem front_of_split? {cs : List Char} {p : ℕ × ℤ} (h : split? cs = some p) :
    ∃ front rest e, cs = front ++ rest ∧ (∀ c ∈ front, c.isDigit ∨ c = '.')
      ∧ exponent? rest = some e := by
  have hcut := List.takeWhile_append_dropWhile (p := Char.isDigit) (l := cs)
  have hdigits : ∀ {ds : List Char}, ∀ c ∈ ds.takeWhile Char.isDigit, c.isDigit ∨ c = '.' :=
    fun c hc => Or.inl (List.mem_takeWhile_imp hc)
  unfold split? at h
  dsimp only at h
  split at h
  · next after hafter =>
    split at h
    · cases h
    · rcases Option.map_eq_some_iff.1 h with ⟨e, he, -⟩
      rw [hafter, ← List.takeWhile_append_dropWhile (p := Char.isDigit) (l := after)] at hcut
      refine ⟨cs.takeWhile Char.isDigit ++ '.' :: after.takeWhile Char.isDigit,
        after.dropWhile Char.isDigit, e, ?_, ?_, he⟩
      · rw [List.append_assoc, List.cons_append, hcut]
      · intro c hc
        rcases List.mem_append.1 hc with hwhole | hpoint
        · exact hdigits c hwhole
        · rcases List.mem_cons.1 hpoint with rfl | hfraction
          · exact Or.inr rfl
          · exact hdigits c hfraction
  · split at h
    · cases h
    · rcases Option.map_eq_some_iff.1 h with ⟨e, he, -⟩
      exact ⟨_, _, e, hcut.symm, hdigits, he⟩

/-- Only a decimal in ASCII digits is read. -/
theorem isAscii_of_split? {n : Numeral known} {p : ℕ × ℤ} (h : split? n.body = some p) :
    n.IsAscii := by
  rcases front_of_split? h with ⟨front, rest, e, hbody, hfront, he⟩
  -- A decimal has no exponent, so nothing is left of it.
  have hrest : rest = [] := by
    cases rest with
    | nil => rfl
    | cons c cs =>
        have hc := n.mem_body (hbody ▸ List.mem_append_right front List.mem_cons_self)
        have hnone : ¬ (c = 'e' ∨ c = 'E') := by
          rintro (rfl | rfl) <;>
            rw [known.has_eq_false (by decide) rfl] at hc <;> exact absurd hc (by decide)
        rw [exponent?, if_neg hnone] at he
        cases he
  rw [hrest, List.append_nil] at hbody
  have hdigit : ∀ c ∈ n.body, known.has c → c.isDigit := by
    intro c hc hdecimal
    rcases hfront c (hbody ▸ hc) with hascii | rfl
    · exact hascii
    · rw [known.has_point] at hdecimal
      exact absurd hdecimal Bool.false_ne_true
  intro c hc
  rcases List.mem_append.1 hc with hwhole | hfraction
  · exact hdigit c (List.mem_append_left _ hwhole) (n.whole_digits c hwhole)
  · refine hdigit c (List.mem_append_right _ ?_) (n.fraction_digits c hfraction)
    cases hds : n.fraction with
    | none =>
        rw [hds] at hfraction
        exact absurd hfraction List.not_mem_nil
    | some ds =>
        rw [hds] at hfraction
        exact List.mem_cons_of_mem _ hfraction

theorem value_eq (n : Numeral known) :
    n.value = withSign (n.sign == ['-'])
      (nearestDouble (digitsValue n.digits) (-((n.fraction.getD []).length : ℤ))) := by
  simp only [Numeral.value, withSign, beq_iff_eq]
  rfl

/-- What decimals are read as: those in ASCII digits as their value, and others not at all. -/
theorem parseNumber?_text (n : Numeral known) (x : Float) :
    parseNumber? n.text = some x ↔ n.IsAscii ∧ x = n.value := by
  rw [parseNumber?_eq, Option.map_eq_some_iff]
  constructor
  · rintro ⟨p, hp, rfl⟩
    have hascii := isAscii_of_split? hp
    rw [split?_body hascii, Option.some.injEq] at hp
    rw [← hp]
    exact ⟨hascii, (value_eq n).symm⟩
  · rintro ⟨hascii, rfl⟩
    exact ⟨_, split?_body hascii, (value_eq n).symm⟩

end Reading

end Mise
