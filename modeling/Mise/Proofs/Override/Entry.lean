import Mathlib.Tactic.ByContra
import Mise.Proofs.Override.Numeral
import Mise.Proofs.Text.Part

/-!
# Entries of Overrides

An entry has a name, its only colon, and after white space a decimal. Each of these can be missing,
there can be a second colon, and the decimal can have digits that cannot be read. Nothing else is
wrong with an entry: the text after the decimal may be anything without a colon.

## Main definitions

* `Splits`: An entry has one colon.
* `StatesOverride`: An entry states a number for a name.
* `IsNoOverride`: What can be wrong with an entry.

## Theorems

* `startsWithNumeral_iff`: White space in front of a decimal is all that is there.
* `splits_or`: An entry has one colon, or too few, or too many.
* `entries_by_form`: The entries that state a number, and the others.
-/

namespace Mise

variable {known : Text.DigitClass}

/-- A text starts with a decimal after white space, which is no part of it. -/
def StartsWithNumeral (cs : List Char) (n : Numeral known) : Prop :=
  ∃ blanks rest, cs = blanks ++ rest ∧ (∀ c ∈ blanks, Text.isBlank c) ∧ n.IsLongestIn rest

/-- An entry has one colon, with the one text in front of it and the other one after it. -/
def Splits (entry : String) (left right : List Char) : Prop :=
  Text.trim entry.toList = left ++ ':' :: right ∧ ':' ∉ left ++ right

/-- An entry states a number for a name: in front of its only colon stands the name, and after it
    a decimal in ASCII digits. -/
def StatesOverride (known : Text.DigitClass) (entry name : String) (x : Float) : Prop :=
  ∃ left right, ∃ n : Numeral known, Splits entry left right
    ∧ (∃ c ∈ left, Text.isBlank c = false) ∧ name = String.ofList (Text.trim left)
    ∧ StartsWithNumeral right n ∧ n.IsAscii ∧ x = n.value

/-- What can be wrong with an entry. -/
inductive IsNoOverride (known : Text.DigitClass) (entry : String) : Prop
  | noColon (h : ':' ∉ Text.trim entry.toList)
  | moreColons (h : 2 ≤ (Text.trim entry.toList).count ':')
  | noName {left right : List Char} (h : Splits entry left right)
      (hblank : ∀ c ∈ left, Text.isBlank c)
  | noNumber {left right : List Char} (h : Splits entry left right)
      (hnone : ∀ n : Numeral known, ¬ n.text <+: Text.trimStart right)
  | foreignDigit {left right : List Char} {n : Numeral known} (h : Splits entry left right)
      (hstart : StartsWithNumeral right n) (hforeign : ¬ n.IsAscii)

section Entries

variable {entry : String} {left right : List Char}

/-- White space in front of a decimal is all the white space that is there. -/
theorem startsWithNumeral_iff {cs : List Char} {n : Numeral known} :
    StartsWithNumeral cs n ↔ n.IsLongestIn (Text.trimStart cs) := by
  constructor
  · rintro ⟨blanks, rest, rfl, hblanks, hlongest⟩
    have hstart : rest.dropWhile Text.isBlank = rest := by
      rcases hlongest.1 with ⟨after, rfl⟩
      rcases n.text_eq_cons with ⟨c, more, htext, hc⟩
      rw [htext, List.cons_append, List.dropWhile_cons_of_neg (Bool.eq_false_iff.1 hc)]
    rw [Text.trimStart, List.dropWhile_append_of_pos hblanks, hstart]
    exact hlongest
  · intro h
    exact ⟨cs.takeWhile Text.isBlank, Text.trimStart cs, List.takeWhile_append_dropWhile.symm,
      fun c hc => List.mem_takeWhile_imp hc, h⟩

/-- An entry has one colon, or too few, or too many. -/
theorem splits_or (entry : String) :
    (∃ left right, Splits entry left right) ∨ ':' ∉ Text.trim entry.toList
      ∨ 2 ≤ (Text.trim entry.toList).count ':' := by
  by_cases hmem : ':' ∈ Text.trim entry.toList
  · rcases List.append_of_mem hmem with ⟨left, right, hsplit⟩
    by_cases hmore : ':' ∈ left ++ right
    · refine Or.inr (Or.inr ?_)
      have hcount := List.count_pos_iff.2 hmore
      rw [List.count_append] at hcount
      rw [hsplit, List.count_append, List.count_cons_self]
      omega
    · exact Or.inl ⟨left, right, hsplit, hmore⟩
  · exact Or.inr (Or.inl hmem)

theorem Splits.count (h : Splits entry left right) : (Text.trim entry.toList).count ':' = 1 := by
  have hnone := List.count_eq_zero_of_not_mem h.2
  rw [List.count_append] at hnone
  rw [h.1, List.count_append, List.count_cons_self]
  omega

/-- An entry that splits is read in two parts. -/
theorem overrideIn?_of_splits (h : Splits entry left right) :
    overrideIn? known entry
      = if Text.trim left = [] then none
        else ((decimalAt? known (Text.trimStart right)).bind parseNumber?).map fun x =>
          (String.ofList (Text.trim left), x) := by
  unfold overrideIn?
  rw [(Text.partsAt_eq_pair_iff ':' _ left right).2 h]
  simp only [List.isEmpty_iff]

/-- An entry that does not split is refused. -/
theorem overrideIn?_of_not_splits (h : ∀ left right, ¬ Splits entry left right) :
    overrideIn? known entry = none := by
  unfold overrideIn?
  split
  · next left right hparts =>
    exact absurd ((Text.partsAt_eq_pair_iff ':' _ left right).1 hparts) (h left right)
  · rfl

theorem exists_not_blank_iff (cs : List Char) :
    (∃ c ∈ cs, Text.isBlank c = false) ↔ Text.trim cs ≠ [] := by
  rw [Ne, Text.trim_eq_nil_iff]
  simp only [not_forall, Bool.not_eq_true, exists_prop]

/-- The entries that state a number are those of the form that entries have. -/
theorem overrideIn?_eq_some_iff (name : String) (x : Float) :
    overrideIn? known entry = some (name, x) ↔ StatesOverride known entry name x := by
  constructor
  · intro h
    by_cases hsplits : ∃ left right, Splits entry left right
    · rcases hsplits with ⟨left, right, hsplits⟩
      rw [overrideIn?_of_splits hsplits] at h
      split at h
      · cases h
      · next hname =>
        rcases Option.map_eq_some_iff.1 h with ⟨y, hy, hpair⟩
        rcases Option.bind_eq_some_iff.1 hy with ⟨text, htext, hread⟩
        rcases longest_of_decimalAt? htext with ⟨n, rfl, hlongest⟩
        rcases (parseNumber?_text n y).1 hread with ⟨hascii, rfl⟩
        rcases Prod.mk.inj hpair with ⟨rfl, rfl⟩
        exact ⟨left, right, n, hsplits, (exists_not_blank_iff left).2 hname, rfl,
          startsWithNumeral_iff.2 hlongest, hascii, rfl⟩
    · rw [overrideIn?_of_not_splits fun left right h => hsplits ⟨left, right, h⟩] at h
      cases h
  · rintro ⟨left, right, n, hsplits, hname, rfl, hstart, hascii, rfl⟩
    rw [overrideIn?_of_splits hsplits, if_neg ((exists_not_blank_iff left).1 hname),
      decimalAt?_of_longest (startsWithNumeral_iff.1 hstart), Option.bind_some,
      (parseNumber?_text n n.value).2 ⟨hascii, rfl⟩, Option.map_some]

/-- The entries that state nothing are those with which something is wrong. -/
theorem overrideIn?_eq_none_iff :
    overrideIn? known entry = none ↔ IsNoOverride known entry := by
  constructor
  · intro h
    rcases splits_or entry with ⟨left, right, hsplits⟩ | hnone | hmore
    · rw [overrideIn?_of_splits hsplits] at h
      split at h
      · next hname => exact .noName hsplits ((Text.trim_eq_nil_iff left).1 hname)
      · rw [Option.map_eq_none_iff] at h
        cases hdecimal : decimalAt? known (Text.trimStart right) with
        | none => exact .noNumber hsplits (no_numeral_of_decimalAt? hdecimal)
        | some text =>
            rcases longest_of_decimalAt? hdecimal with ⟨n, rfl, hlongest⟩
            refine .foreignDigit hsplits (startsWithNumeral_iff.2 hlongest) fun hascii => ?_
            rw [hdecimal, Option.bind_some, (parseNumber?_text n n.value).2 ⟨hascii, rfl⟩] at h
            cases h
    · exact .noColon hnone
    · exact .moreColons hmore
  · intro h
    cases h with
    | noColon h =>
        refine overrideIn?_of_not_splits fun left right hsplits => h ?_
        rw [hsplits.1]
        exact List.mem_append_right _ List.mem_cons_self
    | moreColons h =>
        refine overrideIn?_of_not_splits fun left right hsplits => ?_
        rw [hsplits.count] at h
        omega
    | noName hsplits hblank =>
        rw [overrideIn?_of_splits hsplits, if_pos ((Text.trim_eq_nil_iff _).2 hblank)]
    | noNumber hsplits hnone =>
        rw [overrideIn?_of_splits hsplits, ite_eq_left_iff]
        intro _
        cases hdecimal : decimalAt? known (Text.trimStart _) with
        | none => rfl
        | some text =>
            rcases longest_of_decimalAt? hdecimal with ⟨n, -, hlongest⟩
            exact absurd hlongest.1 (hnone n)
    | foreignDigit hsplits hstart hforeign =>
        rw [overrideIn?_of_splits hsplits, ite_eq_left_iff]
        intro _
        rw [decimalAt?_of_longest (startsWithNumeral_iff.1 hstart), Option.bind_some,
          Option.map_eq_none_iff, Option.eq_none_iff_forall_ne_some]
        exact fun x hx => hforeign ((parseNumber?_text _ x).1 hx).1

end Entries

/-- Entries are accepted by their form, and refused for what is wrong with it. An entry states a
    number for a name if it has one colon, the name is what stands in front of it, and after it and
    white space comes a decimal, which goes on as long as it can, in ASCII digits. Such a decimal is
    all that is read of the number. Without a colon, with a second one, without a name, without a
    decimal or with a digit of another script in it, an entry states nothing. That is so whichever
    characters are known to be digits, and so for the digits of all scripts, which the entries of a
    recipe may have. -/
theorem entries_by_form (entry : String) :
    (∀ known : Text.DigitClass,
        (∀ name x, overrideIn? known entry = some (name, x) ↔ StatesOverride known entry name x)
          ∧ (IsNoOverride known entry ↔ overrideIn? known entry = none))
      ∧ (∀ name x, overrideEntry? entry = some (name, x) ↔ StatesOverride .unicode entry name x)
      ∧ (IsNoOverride .unicode entry ↔ overrideEntry? entry = none) :=
  ⟨fun _ => ⟨overrideIn?_eq_some_iff, overrideIn?_eq_none_iff.symm⟩, overrideIn?_eq_some_iff,
    overrideIn?_eq_none_iff.symm⟩

example : overrideEntry? " honey :+1.42e3 g/ml" = some ("honey", 1.42) := by decide +kernel

end Mise
