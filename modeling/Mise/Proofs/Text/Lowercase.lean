import Mathlib.Data.List.Basic
import Mise.Text.Blank
import Mise.Text.Lowercase

/-!
# Texts in Lower Case

A text that is in lower case stays as it is when it is brought to lower case once more. For a single
character this is a property of the table of capitals: no lower case of one stretch is a capital of
another. The table is checked stretch by stretch, and capitals that alternate with small letters are
told apart by their parity. A sigma is the one letter whose lower case depends on what stands around
it, but both of its lower cases stay as they are, so the rest follows without looking around.

White space and points are not letters. They are kept, and no letter turns into one of them, though
a letter may turn into two. So a text in lower case ends with the same white space and points as
before.

## Main definitions

* `isSeparator`: White space and points.
* `IsLower`: A character that is its own lower case.
* `LowersTo`: What a character is written as in lower case.

## Theorems

* `isLower_of_mem_lowerAfter`, `lowerAfter_eq_self`: What is in lower case, and what stays as it is.
* `suffix_lower_iff`: The white space and the points that a text in lower case ends with.
-/

namespace Mise

namespace Text

/-- White space and points, which stand between the words of a text and behind them. -/
def isSeparator (c : Char) : Bool :=
  isBlank c || c == '.'

theorem isSeparator_of_isBlank {c : Char} (h : isBlank c) : isSeparator c := by
  rw [isSeparator, h, Bool.true_or]

/-- The stretches of separators. -/
def separatorStretches : List (Nat × Nat) := [
  (0x9, 0xD), (0x20, 0x20), (0x2E, 0x2E), (0x85, 0x85), (0xA0, 0xA0), (0x1680, 0x1680),
  (0x2000, 0x200A), (0x2028, 0x2029), (0x202F, 0x202F), (0x205F, 0x205F), (0x3000, 0x3000)]

/-- A character that is its own lower case. -/
def IsLower (c : Char) : Prop :=
  lowerChar c = [c]

instance (c : Char) : Decidable (IsLower c) :=
  inferInstanceAs (Decidable (lowerChar c = [c]))

namespace CapitalRun

/-- The last lower case of a stretch. -/
def lastImage (run : CapitalRun) : Nat :=
  run.image + (run.last - run.first)

/-- No lower case of a stretch is a capital of another one: the two lie apart, or capitals and
    small letters alternate. -/
def misses (run other : CapitalRun) : Bool :=
  Nat.blt run.lastImage other.first || Nat.blt other.last run.image
    || (other.stride == 2 && (run.stride == 2 || run.first == run.last)
      && run.image % 2 != other.first % 2)

/-- Neither the capitals of a stretch nor their lower cases lie in a stretch of separators. -/
def avoids (run : CapitalRun) (stretch : Nat × Nat) : Bool :=
  (Nat.blt run.last stretch.1 || Nat.blt stretch.2 run.first)
    && (Nat.blt run.lastImage stretch.1 || Nat.blt stretch.2 run.image)

/-- The lower cases of a stretch are code points of characters. -/
def inRange (run : CapitalRun) : Bool :=
  Nat.blt run.lastImage 0xD800 || Nat.blt 0xDFFF run.image && Nat.blt run.lastImage 0x110000

end CapitalRun

section Table

theorem capitals_miss : capitals.all fun run => capitals.all run.misses := by
  decide +kernel

-- The dotted capital i is not among the capitals of the table.
theorem capitals_miss_dotted : capitals.all (·.misses ⟨0x130, 0x130, 1, 0x69⟩) := by
  decide +kernel

theorem capitals_avoid : capitals.all fun run => separatorStretches.all run.avoids := by
  decide +kernel

theorem capitals_inRange : capitals.all CapitalRun.inRange := by
  decide +kernel

-- The capitals lie below the small letters of ASCII, or above them.
theorem capitals_no_letter :
    capitals.all fun run => Nat.blt run.last 97 || Nat.blt 122 run.first := by
  decide +kernel

end Table

theorem inStretches_iff {table : List (Nat × Nat)} {c : Char} :
    inStretches table c ↔ ∃ stretch ∈ table, stretch.1 ≤ c.toNat ∧ c.toNat ≤ stretch.2 := by
  simp only [inStretches, List.any_eq_true, Bool.and_eq_true, decide_eq_true_eq]

theorem isSeparator_iff (c : Char) : isSeparator c ↔ inStretches separatorStretches c := by
  have hpoint : '.'.toNat = 46 := rfl
  rw [inStretches_iff]
  simp only [isSeparator, isBlank, separatorStretches, List.mem_cons, List.not_mem_nil, or_false,
    exists_eq_or_imp, exists_eq_left, Bool.or_eq_true, Bool.and_eq_true, decide_eq_true_eq,
    beq_iff_eq, ← Char.toNat_inj]
  omega

theorem lower?_eq_some {run : CapitalRun} {n m : Nat} (h : run.lower? n = some m) :
    run.first ≤ n ∧ n ≤ run.last ∧ (n - run.first) % run.stride = 0
      ∧ m = run.image + (n - run.first) := by
  rw [CapitalRun.lower?] at h
  split at h
  · next hcovers => exact ⟨hcovers.1, hcovers.2.1, hcovers.2.2, (Option.some.inj h).symm⟩
  · cases h

/-- The lower cases of a stretch are no capitals of one that it misses. -/
theorem lower?_eq_none_of_misses {run other : CapitalRun} (hmisses : run.misses other) {n m : Nat}
    (h : run.lower? n = some m) : other.lower? m = none := by
  rcases lower?_eq_some h with ⟨hfirst, hlast, hstride, rfl⟩
  simp only [CapitalRun.misses, CapitalRun.lastImage, Bool.or_eq_true, Bool.and_eq_true,
    Nat.blt_eq, beq_iff_eq, bne_iff_ne] at hmisses
  rw [CapitalRun.lower?, if_neg]
  rintro ⟨hge, hle, hmod⟩
  rcases hmisses with (happart | happart) | ⟨⟨hother, hrun⟩, hparity⟩
  · omega
  · omega
  · -- The lower cases of the one stretch are odd and the capitals of the other even, or conversely.
    rw [hother] at hmod
    rcases hrun with hrun | hrun
    · rw [hrun] at hstride
      omega
    · omega

/-- A character has no lower case of its own, or it is a capital of a stretch. -/
theorem lowerSingle_or (c : Char) :
    lowerSingle c = c ∧ (∀ run ∈ capitals, run.lower? c.toNat = none)
      ∨ ∃ run ∈ capitals, ∃ m, run.lower? c.toNat = some m ∧ (lowerSingle c).toNat = m := by
  rw [lowerSingle]
  cases hfind : capitals.findSome? (·.lower? c.toNat) with
  | none => exact Or.inl ⟨rfl, List.findSome?_eq_none_iff.1 hfind⟩
  | some m =>
      rcases List.exists_of_findSome?_eq_some hfind with ⟨run, hrun, hm⟩
      refine Or.inr ⟨run, hrun, m, hm, ?_⟩
      have hrange := List.all_eq_true.1 capitals_inRange run hrun
      rcases lower?_eq_some hm with ⟨-, hlast, -, rfl⟩
      simp only [CapitalRun.inRange, CapitalRun.lastImage, Bool.or_eq_true, Bool.and_eq_true,
        Nat.blt_eq] at hrange
      have hvalid : (run.image + (c.toNat - run.first)).isValidChar := by
        rw [Nat.isValidChar]
        omega
      have hchar : Char.ofNat (run.image + (c.toNat - run.first)) = Char.ofNatAux _ hvalid :=
        dif_pos hvalid
      exact congrArg Char.toNat hchar

theorem isLower_of_forall {c : Char} (hdotted : c ≠ 'İ')
    (hnone : ∀ run ∈ capitals, run.lower? c.toNat = none) : IsLower c := by
  rw [IsLower, lowerChar, if_neg hdotted, lowerSingle, List.findSome?_eq_none_iff.2 hnone]

/-- The small letters of ASCII are their own lower cases, and no separators. -/
theorem isLower_of_letter {c : Char} (h : 'a' ≤ c ∧ c ≤ 'z') : IsLower c ∧ isBlank c = false := by
  have hrange : 97 ≤ c.toNat ∧ c.toNat ≤ 122 := h
  constructor
  · refine isLower_of_forall ?_ fun run hrun => ?_
    · rintro rfl
      exact absurd hrange (by decide)
    · refine Option.eq_none_iff_forall_ne_some.2 fun m hm => ?_
      have hapart := List.all_eq_true.1 capitals_no_letter run hrun
      rcases lower?_eq_some hm with ⟨hfirst, hlast, -, -⟩
      simp only [Bool.or_eq_true, Nat.blt_eq] at hapart
      omega
  · rw [← Bool.not_eq_true]
    simp only [isBlank, Bool.or_eq_true, Bool.and_eq_true, decide_eq_true_eq, beq_iff_eq]
    omega

/-- A lower case is its own. -/
theorem isLower_lowerSingle {c : Char} (hdotted : c ≠ 'İ') : IsLower (lowerSingle c) := by
  rcases lowerSingle_or c with ⟨hself, hnone⟩ | ⟨run, hrun, m, hm, hlower⟩
  · rw [hself]
    exact isLower_of_forall hdotted hnone
  · refine isLower_of_forall ?_ fun other hother => ?_
    · intro hdot
      have hmiss := lower?_eq_none_of_misses (List.all_eq_true.1 capitals_miss_dotted run hrun) hm
      rw [← hlower, hdot] at hmiss
      cases hmiss
    · rw [hlower]
      exact lower?_eq_none_of_misses
        (List.all_eq_true.1 (List.all_eq_true.1 capitals_miss run hrun) other hother) hm

/-- Separators are no capitals and no lower cases of any. -/
theorem not_separator_of_lower? {run : CapitalRun} (hrun : run ∈ capitals) {c d : Char}
    (h : run.lower? c.toNat = some d.toNat) :
    isSeparator c = false ∧ isSeparator d = false := by
  rcases lower?_eq_some h with ⟨hfirst, hlast, -, himage⟩
  have havoid := List.all_eq_true.1 capitals_avoid run hrun
  simp only [List.all_eq_true, CapitalRun.avoids, CapitalRun.lastImage, Bool.and_eq_true,
    Bool.or_eq_true, Nat.blt_eq] at havoid
  constructor
  all_goals
    rw [← Bool.not_eq_true, isSeparator_iff, inStretches_iff]
    rintro ⟨stretch, hstretch, hge, hle⟩
    have := havoid stretch hstretch
    omega

/-- What a character is written as in lower case, wherever it stands. -/
structure LowersTo (c : Char) (chunk : List Char) : Prop where
  ne_nil : chunk ≠ []
  lower : ∀ d ∈ chunk, IsLower d
  kept : isSeparator c → chunk = [c]
  letter : isSeparator c = false → ∀ d ∈ chunk, isSeparator d = false

theorem lowersTo_lowerSingle {c : Char} (hdotted : c ≠ 'İ') : LowersTo c [lowerSingle c] where
  ne_nil := List.cons_ne_nil _ _
  lower d hd := by
    rw [List.mem_singleton.1 hd]
    exact isLower_lowerSingle hdotted
  kept hsep := by
    rcases lowerSingle_or c with ⟨hself, -⟩ | ⟨run, hrun, m, hm, rfl⟩
    · rw [hself]
    · rw [(not_separator_of_lower? hrun hm).1] at hsep
      cases hsep
  letter hletter d hd := by
    rw [List.mem_singleton.1 hd]
    rcases lowerSingle_or c with ⟨hself, -⟩ | ⟨run, hrun, m, hm, rfl⟩
    · rwa [hself]
    · exact (not_separator_of_lower? hrun hm).2

/-- A letter that is written as letters which are their own lower cases. -/
theorem lowersTo_of_letter {c : Char} {chunk : List Char} (hc : isSeparator c = false)
    (hne : chunk ≠ []) (hchunk : ∀ d ∈ chunk, IsLower d ∧ isSeparator d = false) :
    LowersTo c chunk where
  ne_nil := hne
  lower d hd := (hchunk d hd).1
  kept hsep := by
    rw [hc] at hsep
    cases hsep
  letter _ d hd := (hchunk d hd).2

theorem lowersTo_lowerChar (c : Char) : LowersTo c (lowerChar c) := by
  rw [lowerChar]
  split
  · next hdotted =>
    rw [hdotted]
    refine lowersTo_of_letter (by decide) (List.cons_ne_nil _ _) (List.forall_mem_cons.2 ⟨?_, ?_⟩)
    · decide +kernel
    · exact List.forall_mem_singleton.2 (by decide +kernel)
  · next hdotted => exact lowersTo_lowerSingle hdotted

/-- The lower case of a text begins with that of its first character. -/
theorem lowerAfter_cons (before : List Char) (c : Char) (cs : List Char) :
    ∃ chunk, LowersTo c chunk
      ∧ lowerAfter before (c :: cs) = chunk ++ lowerAfter (c :: before) cs := by
  rw [lowerAfter]
  refine ⟨_, ?_, rfl⟩
  split
  · next hsigma =>
    rw [hsigma]
    -- Both lower cases of sigma will do.
    refine lowersTo_of_letter (by decide) (List.cons_ne_nil _ _) ?_
    split <;> exact List.forall_mem_singleton.2 (by decide +kernel)
  · exact lowersTo_lowerChar c

/-- What is in lower case is its own lower case. -/
theorem isLower_of_mem_lowerAfter {before cs : List Char} {d : Char}
    (h : d ∈ lowerAfter before cs) : IsLower d := by
  induction cs generalizing before with
  | nil => exact absurd h List.not_mem_nil
  | cons c cs ih =>
      rcases lowerAfter_cons before c cs with ⟨chunk, hchunk, hlower⟩
      rw [hlower, List.mem_append] at h
      exact h.elim (hchunk.lower d) ih

theorem lowerAfter_eq_self {cs : List Char} (h : ∀ c ∈ cs, IsLower c) (before : List Char) :
    lowerAfter before cs = cs := by
  induction cs generalizing before with
  | nil => rfl
  | cons c cs ih =>
      have hc := h c List.mem_cons_self
      have hsigma : c ≠ 'Σ' := by
        rintro rfl
        revert hc
        decide +kernel
      rw [lowerAfter, if_neg hsigma, hc, ih fun d hd => h d (List.mem_cons_of_mem c hd)]
      rfl

theorem isLower_of_isSeparator {c : Char} (h : isSeparator c) : IsLower c :=
  (lowersTo_lowerChar c).kept h

/-- Only a separator has separators in its lower case. -/
theorem LowersTo.isSeparator_of_mem {c d : Char} {chunk : List Char} (h : LowersTo c chunk)
    (hd : d ∈ chunk) (hsep : isSeparator d) : isSeparator c := by
  by_contra hc
  rw [h.letter (Bool.not_eq_true _ ▸ hc) d hd] at hsep
  cases hsep

/-- A text that is nothing but separators in lower case was the same before. -/
theorem lowerAfter_eq_self_of_separators {before cs : List Char}
    (h : ∀ d ∈ lowerAfter before cs, isSeparator d) : lowerAfter before cs = cs := by
  induction cs generalizing before with
  | nil => rfl
  | cons c cs ih =>
      rcases lowerAfter_cons before c cs with ⟨chunk, hchunk, hlower⟩
      rw [hlower] at h ⊢
      rcases List.exists_mem_of_ne_nil chunk hchunk.ne_nil with ⟨d, hd⟩
      have hc := hchunk.isSeparator_of_mem hd (h d (List.mem_append_left _ hd))
      rw [hchunk.kept hc, ih fun e he => h e (List.mem_append_right chunk he)]
      rfl

/-- Separators at the end of a text are at its end in lower case. -/
theorem suffix_lowerAfter {ending : List Char} (hending : ∀ c ∈ ending, isSeparator c)
    (front before : List Char) : ending <:+ lowerAfter before (front ++ ending) := by
  induction front generalizing before with
  | nil =>
      have hself := lowerAfter_eq_self (fun c hc => isLower_of_isSeparator (hending c hc)) before
      exact (List.nil_append ending).symm ▸ hself.symm ▸ List.suffix_rfl
  | cons c front ih =>
      rcases lowerAfter_cons before c (front ++ ending) with ⟨chunk, -, hlower⟩
      rw [List.cons_append, hlower]
      exact (ih _).trans (List.suffix_append chunk _)

/-- Separators at the end of a text in lower case were there before. -/
theorem suffix_of_suffix_lowerAfter {ending : List Char} (hending : ∀ c ∈ ending, isSeparator c)
    {before cs : List Char} (h : ending <:+ lowerAfter before cs) : ending <:+ cs := by
  induction cs generalizing before with
  | nil => exact h
  | cons c cs ih =>
      rcases lowerAfter_cons before c cs with ⟨chunk, hchunk, hlower⟩
      rcases h with ⟨front, hfront⟩
      rw [hlower, List.append_eq_append_iff] at hfront
      rcases hfront with ⟨more, rfl, rfl⟩ | ⟨more, rfl, hrest⟩
      · cases more with
        | nil => exact (ih List.suffix_rfl).trans (List.suffix_cons c cs)
        | cons d more =>
            -- The ending begins in the lower case of the first character, which is one separator.
            have hc := hchunk.isSeparator_of_mem
              (List.mem_append_right front List.mem_cons_self) (hending d List.mem_cons_self)
            have hrest := lowerAfter_eq_self_of_separators fun e he =>
              hending e (List.mem_append_right (d :: more) he)
            rcases List.append_eq_singleton_iff.1 (hchunk.kept hc) with ⟨-, hd⟩ | ⟨-, hd⟩
            · exact hd.symm ▸ hrest.symm ▸ List.suffix_rfl
            · cases hd
      · exact (ih ⟨more, hrest.symm⟩).trans (List.suffix_cons c cs)

/-- A text ends with the same separators in lower case. -/
theorem suffix_lower_iff {ending : List Char} (hending : ∀ c ∈ ending, isSeparator c)
    (cs : List Char) : ending <:+ lower cs ↔ ending <:+ cs := by
  constructor
  · exact suffix_of_suffix_lowerAfter hending
  · rintro ⟨front, rfl⟩
    exact suffix_lowerAfter hending front []

end Text
end Mise
