import Mathlib.Data.List.TakeWhile
import Mise.Text.Blank

/-!
# Parts of Texts

A text is parted at every separator in it. Between two of them, and at either end, stands a part
without any separator, perhaps an empty one. So the parts can be counted: a text has two of them
exactly if there is one separator in it.

White space is cut off the ends of a text. Nothing is left exactly if there was nothing else in it.

## Theorems

* `partsAt_append`: A separator parts a text in two.
* `partsAt_of_forall_not`: A text without separators is one part.
* `forall_not_of_mem_partsAt`: No part has a separator in it.
* `partsAt_eq_pair_iff`: The texts of two parts.
* `trim_eq_nil_iff`: The texts that are white space.
-/

namespace Mise

namespace Text

theorem partsAt_ne_nil (p : Char → Bool) (cs : List Char) : partsAt p cs ≠ [] := by
  cases cs with
  | nil => exact List.cons_ne_nil _ _
  | cons c cs =>
      simp only [partsAt]
      split
      · exact List.cons_ne_nil _ _
      · cases partsAt p cs <;> exact List.cons_ne_nil _ _

/-- A separator parts a text in two. -/
theorem partsAt_append {p : Char → Bool} {c : Char} (hc : p c) (as bs : List Char) :
    partsAt p (as ++ c :: bs) = partsAt p as ++ partsAt p bs := by
  induction as with
  | nil => simp only [List.nil_append, partsAt, hc, if_true, List.singleton_append]
  | cons a as ih =>
      simp only [List.cons_append, partsAt]
      by_cases ha : p a
      · simp only [ha, if_true, ih, List.cons_append]
      · simp only [ha, Bool.false_eq_true, if_false, ih]
        -- The first part of the text goes on to the left of the separator.
        cases hparts : partsAt p as with
        | nil => exact absurd hparts (partsAt_ne_nil p as)
        | cons part parts => simp only [List.cons_append]

theorem partsAt_of_forall_not {p : Char → Bool} {cs : List Char} (h : ∀ c ∈ cs, ¬ p c) :
    partsAt p cs = [cs] := by
  induction cs with
  | nil => rfl
  | cons c cs ih =>
      have hc := h c List.mem_cons_self
      simp only [partsAt, hc, Bool.false_eq_true, if_false]
      rw [ih fun d hd => h d (List.mem_cons_of_mem c hd)]

theorem forall_not_of_mem_partsAt {p : Char → Bool} {cs part : List Char}
    (hpart : part ∈ partsAt p cs) : ∀ c ∈ part, ¬ p c := by
  induction cs generalizing part with
  | nil =>
      rw [partsAt, List.mem_singleton] at hpart
      rw [hpart]
      intro c hc
      exact absurd hc List.not_mem_nil
  | cons a cs ih =>
      simp only [partsAt] at hpart
      by_cases ha : p a
      · rw [if_pos ha] at hpart
        rcases List.mem_cons.1 hpart with rfl | hmem
        · intro c hc
          exact absurd hc List.not_mem_nil
        · exact ih hmem
      · rw [if_neg ha] at hpart
        cases hparts : partsAt p cs with
        | nil => exact absurd hparts (partsAt_ne_nil p cs)
        | cons first rest =>
            rw [hparts] at hpart ih
            rcases List.mem_cons.1 hpart with rfl | hmem
            · intro c hc
              rcases List.mem_cons.1 hc with rfl | hfirst
              · exact ha
              · exact ih List.mem_cons_self c hfirst
            · exact ih (List.mem_cons_of_mem first hmem)

/-- A text has two parts if it has one separator, which stands between them. -/
theorem partsAt_eq_pair_iff (sep : Char) (cs as bs : List Char) :
    partsAt (· == sep) cs = [as, bs] ↔ cs = as ++ sep :: bs ∧ sep ∉ as ++ bs := by
  have hone : ∀ ds : List Char, sep ∉ ds → partsAt (· == sep) ds = [ds] := by
    intro ds hds
    refine partsAt_of_forall_not fun c hc hsep => hds ?_
    rw [beq_iff_eq] at hsep
    exact hsep ▸ hc
  have hapart : ∀ first rest : List Char, partsAt (· == sep) (first ++ sep :: rest)
      = partsAt (· == sep) first ++ partsAt (· == sep) rest :=
    partsAt_append (p := (· == sep)) BEq.rfl
  constructor
  · intro h
    by_cases hmem : sep ∈ cs
    · rcases List.eq_append_cons_of_mem hmem with ⟨first, rest, rfl, hfirst⟩
      rw [hapart, hone first hfirst, List.singleton_append, List.cons.injEq] at h
      rcases h with ⟨rfl, hrest⟩
      by_cases hmore : sep ∈ rest
      · -- With one more separator there would be two more parts.
        rcases List.append_of_mem hmore with ⟨second, third, rfl⟩
        rw [hapart] at hrest
        have hsecond := List.length_pos_iff.2 (partsAt_ne_nil (· == sep) second)
        have hthird := List.length_pos_iff.2 (partsAt_ne_nil (· == sep) third)
        have hlength := congrArg List.length hrest
        rw [List.length_append, List.length_singleton] at hlength
        omega
      · rw [hone rest hmore, List.cons.injEq] at hrest
        rw [← hrest.1]
        exact ⟨rfl, fun h => (List.mem_append.1 h).elim hfirst hmore⟩
    · rw [hone cs hmem, List.cons.injEq] at h
      exact absurd h.2 (List.cons_ne_nil _ _).symm
  · rintro ⟨rfl, hsep⟩
    rw [List.mem_append, not_or] at hsep
    rw [hapart, hone as hsep.1, hone bs hsep.2, List.singleton_append]

/-- Nothing is left of a text without white space at its ends if there is nothing else in it. -/
theorem trim_eq_nil_iff (cs : List Char) : trim cs = [] ↔ ∀ c ∈ cs, isBlank c := by
  rw [trim, trimEnd, dropEndWhile, List.reverse_eq_nil_iff, List.dropWhile_eq_nil_iff]
  constructor
  · intro h
    have hstart : trimStart cs = [] := by
      by_contra hne
      -- What a text without leading white space starts with is not white space.
      have hhead := h _ (List.mem_reverse.2 (List.head_mem hne))
      exact Bool.false_ne_true ((List.head_dropWhile_not isBlank hne).symm.trans hhead)
    exact List.dropWhile_eq_nil_iff.1 hstart
  · intro h c hc
    exact h c (List.dropWhile_sublist isBlank |>.mem (List.mem_reverse.1 hc))

end Text

end Mise
