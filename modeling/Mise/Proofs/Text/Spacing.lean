import Mathlib.Data.List.Chain
import Mathlib.Data.List.DropRight
import Mise.Proofs.Text.Part

/-!
# Texts of Words

White space is cut off the ends of a text, and the words that are left are put together again with
one blank between each two of them. The outcome is tidy, and a tidy text comes out as it is, because
its words are its parts: a part without anything in it could only stand at an end or between two
characters of white space.

What is cut off the end of a text is settled by two conditions: all of it satisfies a test, and what
is left does not end with anything that does. So it need not be computed in a proof.

## Main definitions

* `TrimsTo`: What is left of a text when white space is cut off at both ends.
* `IsTidy`: A text of words with one blank between each two of them.
* `collapse`: The words of a text with a blank between each two of them.

## Theorems

* `dropEndWhile_eq_iff`: What is left of a text when its end is cut off.
* `trimsTo_trim`: What is left of a text without the white space at its ends.
* `suffix_trim_iff`: What a text ends with, white space at its end not counted.
* `collapse_eq_self`, `isTidy_collapse`: The tidy texts are those that stay as they are.
* `getLast?_collapse`: A text ends as before when it is collapsed.
-/

namespace Mise

namespace Text

/-- What is left of a text when white space is cut off at both ends: nothing else is cut off, and
    there is no more of it to cut off. -/
structure TrimsTo (cs kept : List Char) : Prop where
  cut : ∃ front ending, cs = front ++ kept ++ ending ∧ (∀ c ∈ front, isBlank c)
    ∧ ∀ c ∈ ending, isBlank c
  start : ∀ c ∈ kept.head?, isBlank c = false
  finish : ∀ c ∈ kept.getLast?, isBlank c = false

/-- A text of words with one blank between each two of them: it has white space neither at its start
    nor at its end, never twice in a row, and no other than the plain blank. -/
structure IsTidy (cs : List Char) : Prop where
  start : ∀ c ∈ cs.head?, isBlank c = false
  finish : ∀ c ∈ cs.getLast?, isBlank c = false
  apart : cs.IsChain fun c d => ¬ (isBlank c ∧ isBlank d)
  plain : ∀ c ∈ cs, isBlank c → c = ' '

/-- What a tidy text starts with is tidy if no white space ends it. -/
theorem IsTidy.of_prefix {front cs : List Char} (h : IsTidy cs) (hfront : front <+: cs)
    (hfinish : ∀ c ∈ front.getLast?, isBlank c = false) : IsTidy front where
  start c hc := by
    rcases hfront with ⟨rest, rfl⟩
    refine h.start c ?_
    rw [List.head?_append, hc]
    rfl
  finish := hfinish
  apart := h.apart.prefix hfront
  plain c hc := h.plain c (hfront.subset hc)

section Ends

variable {p : Char → Bool}

/-- What is cut off the end of a text satisfies the test, and what the rest ends with does not. -/
theorem dropEndWhile_eq_iff {cs front : List Char} :
    dropEndWhile p cs = front ↔ ∃ ending, cs = front ++ ending ∧ (∀ c ∈ ending, p c)
      ∧ ∀ c ∈ front.getLast?, p c = false := by
  constructor
  · rintro rfl
    refine ⟨cs.rtakeWhile p, List.rdropWhile_append_rtakeWhile.symm,
      fun c hc => List.mem_rtakeWhile_imp hc, fun c hc => ?_⟩
    rcases List.mem_getLast?_eq_getLast hc with ⟨hne, rfl⟩
    exact Bool.eq_false_iff.2 (List.rdropWhile_last_not p cs hne)
  · rintro ⟨ending, rfl, hending, hfront⟩
    have hstop : List.rdropWhile p front = front := by
      rw [List.rdropWhile_eq_self_iff]
      exact fun hne => Bool.eq_false_iff.1 (hfront _ (List.getLast_mem_getLast? hne))
    rw [dropEndWhile, List.reverse_append, List.dropWhile_append_of_pos fun c hc =>
      hending c (List.mem_reverse.1 hc)]
    exact hstop

theorem dropEndWhile_eq_self {cs : List Char} (h : ∀ c ∈ cs.getLast?, p c = false) :
    dropEndWhile p cs = cs :=
  dropEndWhile_eq_iff.2 ⟨[], (List.append_nil cs).symm, fun _ h => absurd h List.not_mem_nil, h⟩

theorem trimStart_append {first : Char} (hfirst : isBlank first = false) (front rest : List Char) :
    trimStart (front ++ first :: rest) = trimStart front ++ first :: rest := by
  induction front with
  | nil => exact List.dropWhile_cons_of_neg (Bool.eq_false_iff.1 hfirst)
  | cons c front ih =>
      rw [List.cons_append, trimStart, trimStart, List.dropWhile_cons, List.dropWhile_cons]
      split
      · exact ih
      · rfl

/-- What starts and ends without white space is at the end of a text without white space at its
    ends, if only white space comes after it in the text itself. -/
theorem suffix_trim_iff {mid : List Char} (hne : mid ≠ [])
    (hstart : ∀ c ∈ mid.head?, isBlank c = false) (hfinish : ∀ c ∈ mid.getLast?, isBlank c = false)
    (cs : List Char) :
    mid <:+ trim cs ↔ ∃ front rest, cs = front ++ mid ++ rest ∧ ∀ c ∈ rest, isBlank c := by
  constructor
  · rintro ⟨front, hfront⟩
    rcases dropEndWhile_eq_iff.1 hfront.symm with ⟨rest, hrest, hblank, -⟩
    refine ⟨cs.takeWhile isBlank ++ front, rest, ?_, hblank⟩
    rw [List.append_assoc, List.append_assoc, ← List.append_assoc front, ← hrest]
    exact List.takeWhile_append_dropWhile.symm
  · rintro ⟨front, rest, rfl, hblank⟩
    refine ⟨trimStart front, (dropEndWhile_eq_iff.2 ⟨rest, ?_, hblank, ?_⟩).symm⟩
    · rcases List.exists_cons_of_ne_nil hne with ⟨first, more, rfl⟩
      rw [List.append_assoc, List.cons_append, trimStart_append (hstart first rfl),
        List.append_assoc, List.cons_append]
    · rw [List.getLast?_append_of_ne_nil _ hne]
      exact hfinish

/-- Without white space at its ends, a text stays as it is. -/
theorem trim_eq_self {cs : List Char} (hstart : ∀ c ∈ cs.head?, isBlank c = false)
    (hfinish : ∀ c ∈ cs.getLast?, isBlank c = false) : trim cs = cs := by
  have htrim : trimStart cs = cs := by
    cases cs with
    | nil => rfl
    | cons c cs => exact List.dropWhile_cons_of_neg (Bool.eq_false_iff.1 (hstart c rfl))
  rw [trim, htrim, trimEnd, dropEndWhile_eq_self hfinish]

/-- A text without the white space at its ends is what is left when it is cut off there. -/
theorem trimsTo_trim (cs : List Char) : TrimsTo cs (trim cs) := by
  rcases dropEndWhile_eq_iff.1 (rfl : trim cs = trim cs) with ⟨ending, hsplit, hending, hlast⟩
  refine ⟨⟨cs.takeWhile isBlank, ending, ?_, fun c hc => List.mem_takeWhile_imp hc, hending⟩, ?_,
    hlast⟩
  · rw [List.append_assoc, ← hsplit]
    exact List.takeWhile_append_dropWhile.symm
  · intro c hc
    -- What is left starts where the white space in front of the text ends.
    have hhead : (cs.dropWhile isBlank).head? = some c := by
      rw [← trimStart, hsplit, List.head?_append, hc]
      rfl
    have hnot := List.head?_dropWhile_not isBlank cs
    rwa [hhead] at hnot

end Ends

section Words

variable {p : Char → Bool}

theorem mem_of_mem_partsAt {cs part : List Char} (hpart : part ∈ partsAt p cs) :
    ∀ c ∈ part, c ∈ cs := by
  induction cs generalizing part with
  | nil =>
      rw [partsAt, List.mem_singleton] at hpart
      rw [hpart]
      exact fun c hc => hc
  | cons a cs ih =>
      simp only [partsAt] at hpart
      split at hpart
      · rcases List.mem_cons.1 hpart with rfl | hmem
        · exact fun c hc => absurd hc List.not_mem_nil
        · exact fun c hc => List.mem_cons_of_mem a (ih hmem c hc)
      · cases hparts : partsAt p cs with
        | nil => exact absurd hparts (partsAt_ne_nil p cs)
        | cons first rest =>
            rw [hparts] at hpart ih
            rcases List.mem_cons.1 hpart with rfl | hmem
            · intro c hc
              exact (List.mem_cons.1 hc).elim (fun h => h ▸ List.mem_cons_self)
                fun h => List.mem_cons_of_mem a (ih List.mem_cons_self c h)
            · exact fun c hc => List.mem_cons_of_mem a (ih (List.mem_cons_of_mem first hmem) c hc)

/-- A text that does not end with a separator ends as its last part does. -/
theorem getLast?_partsAt {cs : List Char} (h : ∀ c ∈ cs.getLast?, p c = false) :
    ∃ last, (partsAt p cs).getLast? = some last ∧ last.getLast? = cs.getLast? := by
  induction cs with
  | nil => exact ⟨[], rfl, rfl⟩
  | cons c cs ih =>
      simp only [partsAt]
      cases cs with
      | nil =>
          simp only [h c rfl, partsAt]
          exact ⟨[c], rfl, rfl⟩
      | cons d cs =>
          rw [List.getLast?_cons_cons] at h ⊢
          rcases ih h with ⟨last, hlast, hend⟩
          cases hparts : partsAt p (d :: cs) with
          | nil => exact absurd hparts (partsAt_ne_nil p _)
          | cons first rest =>
              rw [hparts] at hlast
              split
              · exact ⟨last, by rwa [List.getLast?_cons_cons], hend⟩
              · cases rest with
                | nil =>
                    -- The only part has one more character in front of it.
                    obtain rfl : first = last := Option.some.inj hlast
                    refine ⟨c :: first, rfl, ?_⟩
                    rw [List.getLast?_cons, hend, List.getLast?_cons]
                    rfl
                | cons second rest =>
                    rw [List.getLast?_cons_cons] at hlast
                    exact ⟨last, by rwa [List.getLast?_cons_cons], hend⟩

/-- A text that does not start with a separator starts as its first part does. -/
theorem partsAt_cons_of_not {c : Char} (hc : p c = false) (cs : List Char) :
    ∃ first rest, partsAt p (c :: cs) = (c :: first) :: rest := by
  simp only [partsAt, hc, Bool.false_eq_true, if_false]
  cases partsAt p cs with
  | nil => exact ⟨[], [], rfl⟩
  | cons first rest => exact ⟨first, rest, rfl⟩

/-- In a text that does not end with a separator and where no two of them stand next to each other,
    all parts but the first have something in them. -/
theorem ne_nil_of_mem_tail_partsAt {cs : List Char} (hfinish : ∀ c ∈ cs.getLast?, p c = false)
    (hapart : cs.IsChain fun c d => ¬ (p c ∧ p d)) :
    ∀ part ∈ (partsAt p cs).tail, part ≠ [] := by
  induction cs with
  | nil => exact fun part hpart => absurd hpart List.not_mem_nil
  | cons c cs ih =>
      rw [List.isChain_cons] at hapart
      have htail : ∀ part ∈ (partsAt p cs).tail, part ≠ [] := by
        refine ih (fun d hd => hfinish d ?_) hapart.2
        rw [List.getLast?_cons, hd]
        rfl
      simp only [partsAt]
      cases hparts : partsAt p cs with
      | nil => exact absurd hparts (partsAt_ne_nil p cs)
      | cons first rest =>
          rw [hparts] at htail
          split
          · next hc =>
            intro part hpart
            rcases List.mem_cons.1 hpart with rfl | hmem
            · -- Another character follows the separator, and it is none itself.
              cases cs with
              | nil =>
                  rw [hfinish c rfl] at hc
                  cases hc
              | cons d cs =>
                  have hd : p d = false := Bool.eq_false_iff.2 fun hd => hapart.1 d rfl ⟨hc, hd⟩
                  rcases partsAt_cons_of_not hd cs with ⟨more, others, hsplit⟩
                  rw [hsplit] at hparts
                  rw [← (List.cons.inj hparts).1]
                  exact List.cons_ne_nil d more
            · exact htail part hmem
          · exact htail

end Words

/-- The words of a text with a blank between each two of them. -/
def collapse (cs : List Char) : List Char :=
  [' '].intercalate (words cs)

theorem intercalate_partsAt {cs : List Char} (h : ∀ c ∈ cs, isBlank c → c = ' ') :
    [' '].intercalate (partsAt isBlank cs) = cs := by
  induction cs with
  | nil => rfl
  | cons c cs ih =>
      have hcs := ih fun d hd => h d (List.mem_cons_of_mem c hd)
      simp only [partsAt]
      split
      · next hc =>
        rw [List.intercalate_cons_of_ne_nil (partsAt_ne_nil _ cs), hcs, h c List.mem_cons_self hc]
        rfl
      · cases hparts : partsAt isBlank cs with
        | nil => exact absurd hparts (partsAt_ne_nil _ cs)
        | cons first rest =>
            rw [hparts] at hcs
            cases rest with
            | nil =>
                rw [List.intercalate_singleton] at hcs ⊢
                rw [hcs]
            | cons second rest =>
                rw [List.intercalate_cons_cons] at hcs ⊢
                rw [← hcs]
                rfl

/-- A tidy text is its words with a blank between each two of them. -/
theorem collapse_eq_self {cs : List Char} (h : IsTidy cs) : collapse cs = cs := by
  cases cs with
  | nil => rfl
  | cons c cs =>
      have hparts : words (c :: cs) = partsAt isBlank (c :: cs) := by
        have htail := ne_nil_of_mem_tail_partsAt h.finish h.apart
        rcases partsAt_cons_of_not (h.start c rfl) cs with ⟨first, rest, hsplit⟩
        rw [hsplit] at htail
        rw [words, hsplit]
        refine List.filter_eq_self.2 fun part hpart => ?_
        rw [Bool.not_eq_true', List.isEmpty_eq_false_iff]
        rcases List.mem_cons.1 hpart with rfl | hmem
        · exact List.cons_ne_nil c first
        · exact htail part hmem
      rw [collapse, hparts, intercalate_partsAt h.plain]

theorem isTidy_word {word : List Char} (hword : ∀ c ∈ word, isBlank c = false) : IsTidy word where
  start c hc := hword c (List.mem_of_mem_head? hc)
  finish c hc := hword c (List.mem_of_mem_getLast? hc)
  apart := by
    induction word with
    | nil => exact .nil
    | cons c word ih =>
        refine List.isChain_cons.2
          ⟨fun d _ hboth => ?_, ih fun d hd => hword d (List.mem_cons_of_mem c hd)⟩
        rw [hword c List.mem_cons_self] at hboth
        exact Bool.false_ne_true hboth.1
  plain c hc hblank := by
    rw [hword c hc] at hblank
    cases hblank

/-- One more word in front of a tidy text. -/
theorem isTidy_append {word rest : List Char} (hne : word ≠ [])
    (hword : ∀ c ∈ word, isBlank c = false) (hrestne : rest ≠ []) (hrest : IsTidy rest) :
    IsTidy (word ++ [' '] ++ rest) where
  start c hc := by
    rw [List.append_assoc, List.head?_append_of_ne_nil _ hne] at hc
    exact hword c (List.mem_of_mem_head? hc)
  finish c hc := by
    rw [List.getLast?_append_of_ne_nil _ hrestne] at hc
    exact hrest.finish c hc
  apart := by
    rw [List.append_assoc, List.isChain_append]
    refine ⟨(isTidy_word hword).apart, List.isChain_cons.2 ⟨fun d hd hboth => ?_, hrest.apart⟩,
      fun c hc d _ hboth => ?_⟩
    · rw [hrest.start d hd] at hboth
      exact Bool.false_ne_true hboth.2
    · rw [hword c (List.mem_of_mem_getLast? hc)] at hboth
      exact Bool.false_ne_true hboth.1
  plain c hc hblank := by
    rcases List.mem_append.1 hc with hfront | hmem
    · rcases List.mem_append.1 hfront with hmem | hmem
      · exact (isTidy_word hword).plain c hmem hblank
      · exact List.mem_singleton.1 hmem
    · exact hrest.plain c hmem hblank

theorem intercalate_ne_nil {sep part : List Char} (hne : part ≠ []) (parts : List (List Char)) :
    sep.intercalate (part :: parts) ≠ [] := by
  cases parts with
  | nil => rwa [List.intercalate_singleton]
  | cons next rest =>
      rw [List.intercalate_cons_cons, List.append_assoc]
      exact List.append_ne_nil_of_left_ne_nil hne _

/-- Words with a blank between each two of them are tidy. -/
theorem isTidy_intercalate {ws : List (List Char)}
    (hws : ∀ word ∈ ws, word ≠ [] ∧ ∀ c ∈ word, isBlank c = false) :
    IsTidy ([' '].intercalate ws) := by
  induction ws with
  | nil => exact isTidy_word fun c hc => absurd hc List.not_mem_nil
  | cons word ws ih =>
      rcases hws word List.mem_cons_self with ⟨hne, hword⟩
      cases ws with
      | nil =>
          rw [List.intercalate_singleton]
          exact isTidy_word hword
      | cons next ws =>
          have hrest := fun other hmem => hws other (List.mem_cons_of_mem word hmem)
          rw [List.intercalate_cons_cons]
          exact isTidy_append hne hword
            (intercalate_ne_nil (hrest next List.mem_cons_self).1 ws) (ih hrest)

/-- A word is a part of the text with something in it, and without white space. -/
theorem mem_words {cs word : List Char} (h : word ∈ words cs) :
    word ∈ partsAt isBlank cs ∧ word ≠ [] ∧ ∀ c ∈ word, isBlank c = false := by
  rcases List.mem_filter.1 h with ⟨hpart, hne⟩
  rw [Bool.not_eq_true', List.isEmpty_eq_false_iff] at hne
  exact ⟨hpart, hne, fun c hc => Bool.eq_false_iff.2 (forall_not_of_mem_partsAt hpart c hc)⟩

theorem isTidy_collapse (cs : List Char) : IsTidy (collapse cs) :=
  isTidy_intercalate fun _ hword => (mem_words hword).2

theorem mem_intercalate {sep : List Char} {parts : List (List Char)} {c : Char}
    (h : c ∈ sep.intercalate parts) : c ∈ sep ∨ ∃ part ∈ parts, c ∈ part := by
  induction parts with
  | nil => exact absurd h List.not_mem_nil
  | cons part parts ih =>
      cases parts with
      | nil =>
          rw [List.intercalate_singleton] at h
          exact Or.inr ⟨part, List.mem_cons_self, h⟩
      | cons next rest =>
          rw [List.intercalate_cons_cons, List.mem_append, List.mem_append] at h
          rcases h with (h | h) | h
          · exact Or.inr ⟨part, List.mem_cons_self, h⟩
          · exact Or.inl h
          · exact (ih h).imp id fun ⟨other, hother, hc⟩ =>
              ⟨other, List.mem_cons_of_mem part hother, hc⟩

/-- A collapsed text has nothing in it but what was there before, and blanks. -/
theorem mem_collapse {cs : List Char} {c : Char} (h : c ∈ collapse cs) : c = ' ' ∨ c ∈ cs := by
  rcases mem_intercalate h with hblank | ⟨word, hword, hc⟩
  · exact Or.inl (List.mem_singleton.1 hblank)
  · exact Or.inr (mem_of_mem_partsAt (mem_words hword).1 c hc)

theorem getLast?_intercalate {sep last : List Char} (hne : last ≠ []) (parts : List (List Char)) :
    (sep.intercalate (parts ++ [last])).getLast? = last.getLast? := by
  induction parts with
  | nil => rw [List.nil_append, List.intercalate_singleton]
  | cons part parts ih =>
      rw [List.cons_append, List.intercalate_cons_of_ne_nil (List.append_ne_nil_of_right_ne_nil _
        (List.cons_ne_nil _ _)), List.getLast?_append, ih, List.getLast?_eq_some_getLast hne]
      rfl

/-- A text without white space at its end ends as it does when it is collapsed. -/
theorem getLast?_collapse {cs : List Char} (h : ∀ c ∈ cs.getLast?, isBlank c = false) :
    (collapse cs).getLast? = cs.getLast? := by
  rcases getLast?_partsAt h with ⟨last, hlast, hend⟩
  rcases List.getLast?_eq_some_iff.1 hlast with ⟨init, hinit⟩
  cases last with
  | nil =>
      rw [List.getLast?_eq_none_iff.1 hend.symm]
      rfl
  | cons c last =>
      rw [collapse, words, hinit, List.filter_append, ← hend]
      exact getLast?_intercalate (List.cons_ne_nil c last) _

end Text
end Mise
