import Mise.Proofs.Shopping.Partition
import Mise.Proofs.Usage.Figure

/-!
# The Line of One Ingredient

Whatever mixture of usages one line is made of, it tells everything about them and nothing twice.
Each usage is looked at by itself: it may add grams, or a number in its unit, or something in words,
and apart from that it may have a mass that is known and may lie on a cycle. What the line tells is
made of these parts in the order of the usages.

The numbers share one place. Grams have it if there are any, and otherwise the first of the other
units. All numbers that are left are told in words, in front of everything else that is told so.

A tally is therefore a function of the list of its usages, which is shown by adding one more at the
end, part by part.

## Main definitions

* `unitAfter`: The unit of a quantity as it is told.
* `ItemUsage.measured?`, `ItemUsage.unmeasured?`: The number that a usage adds.
* `ItemUsage.remarks`: What a usage adds in words.
* `unitTotals`: The numbers per unit.
* `Shows`: Which number has the place of the main quantity.
* `ShoppingEntry.Tells`: What a line tells of its usages.
* `Tally.ofUsages`: A tally as a function of its usages.

## Theorems

* `add_ofUsages`: What one more usage adds.
* `foldl_tally`: A tally is what its usages make it.
* `tells_entry`: The line of a tally tells its usages.
* `entries_tell_usages`: So does every line of a shopping list.
-/

namespace Mise

/-- What follows a quantity that is told: a blank and the unit, unless that is empty. -/
def unitAfter (unit : String) : String :=
  if unit = "" then "" else " " ++ unit

namespace ItemUsage

/-- The number that counts. A ghost has none. -/
def amount? (u : ItemUsage) : Option Float :=
  if u.isGhost then none else u.value?

/-- The mass of a usage, if it was measured as such. -/
def physical? (u : ItemUsage) : Option MassFigure :=
  u.mass.filter fun m => m.method == .physical

/-- The grams that a usage adds: it has a number, and was measured as mass. -/
def measured? (u : ItemUsage) : Option Float :=
  u.amount?.bind fun _ => u.physical?.map MassFigure.grams

/-- The unit and the number that a usage adds: it has a number, and was not measured as mass. -/
def unmeasured? (u : ItemUsage) : Option (String × Float) :=
  if u.physical?.isSome then none else u.amount?.map fun x => (u.unit.getD "", x)

/-- What is said instead of a number: the quantity as it is shown and its unit. A ghost has its
    formula. -/
def words? (u : ItemUsage) : Option String :=
  match u.formula.filter Formula.ghost with
  | some f => some ("(" ++ f.raw ++ " ❓)")
  | none =>
    if u.value?.isSome then none
    else u.quantity.map fun a => a.display ++ unitAfter (u.unit.getD "")

/-- What is said of a usage on a cycle, unless it is a ghost. -/
def marker? (u : ItemUsage) : Option String :=
  if u.circular && !u.isGhost then some circularRemark else none

/-- What a usage adds in words, its own ones first. -/
def remarks (u : ItemUsage) : List String :=
  u.words?.toList ++ u.marker?.toList

end ItemUsage

/-- The numbers of usages that were not measured as mass, one for each unit, in the order in which
    the units first come up. No unit is the empty one. -/
def unitTotals (us : List ItemUsage) : List (String × Float) :=
  let numbers := us.filterMap ItemUsage.unmeasured?
  (numbers.map Prod.fst).eraseDups.map fun unit =>
    (unit, round2 (sumInOrder ((numbers.filter fun p => p.1 = unit).map Prod.snd)))

/-- Which of the numbers are the main quantity, and which are left: grams if they are positive, else
    the first of the other units. -/
inductive Shows (grams : Float) :
    List (String × Float) → Option Float → Option String → List (String × Float) → Prop
  | mass {totals} (h : 0.0 < grams) : Shows grams totals (some (round2 grams)) (some "g") totals
  | first {unit x rest} (h : ¬ 0.0 < grams) :
      Shows grams ((unit, x) :: rest) (some x) (if unit = "" then none else some unit) rest
  | nothing (h : ¬ 0.0 < grams) : Shows grams [] none none []

/-- What a line tells of the usages it is made of. -/
structure ShoppingEntry.Tells (us : List ItemUsage) (e : ShoppingEntry) : Prop where
  mass : e.mass = if ∀ u ∈ us, u.knownGrams? = none then none
    else some (round2 (sumInOrder (us.filterMap ItemUsage.knownGrams?)))
  estimated : e.estimated ↔ ∃ u ∈ us, u.isGhost = false ∧ ∃ m, u.mass = some m ∧ m.estimated
  circular : e.circular ↔ ∃ u ∈ us, u.circular
  numbers : ∃ rest,
    Shows (sumInOrder (us.filterMap ItemUsage.measured?)) (unitTotals us) e.quantity e.unit rest
      ∧ e.remarks = rest.map (fun p => displayNumber p.2 ++ unitAfter p.1)
          ++ us.flatMap ItemUsage.remarks

namespace Tally

/-- A tally as a function of the usages in it. -/
def ofUsages (name : String) (us : List ItemUsage) : Tally where
  name := name
  sureGrams := sumInOrder (us.filterMap ItemUsage.measured?)
  otherUnits := Ledger.collect Prod.fst (fun _ => 0.0) (fun p x => x + p.2)
    (us.filterMap ItemUsage.unmeasured?)
  remarks := us.flatMap ItemUsage.remarks
  mass := sumInOrder (us.filterMap ItemUsage.knownGrams?)
  weighed := us.any fun u => u.knownMass?.isSome
  estimated := us.any fun u => u.knownMass?.any MassFigure.estimated
  circular := us.any ItemUsage.circular

end Tally

section Parts

theorem ItemUsage.isGhost_eq (u : ItemUsage) :
    u.isGhost = (u.formula.filter Formula.ghost).isSome := by
  rw [isGhost]
  cases u.formula with
  | none => rfl
  | some f => cases hghost : f.ghost <;> simp only [Option.any_some, Option.filter_some, hghost,
      if_true, Bool.false_eq_true, if_false, Option.isSome_some, Option.isSome_none]

theorem withUnit_eq (quantity : String) (unit : Option String) :
    withUnit quantity unit = quantity ++ unitAfter (unit.getD "") := by
  cases unit with
  | none => exact String.append_empty.symm
  | some unit =>
      rw [withUnit, Option.getD_some, unitAfter]
      split
      · exact String.append_empty.symm
      · exact String.append_assoc

variable (t : Tally) (u : ItemUsage)

/-- A quantity adds grams, a number in its unit, or words. -/
theorem addQuantity_eq :
    t.addQuantity u = { t with
      sureGrams := u.measured?.elim t.sureGrams (t.sureGrams + ·)
      otherUnits := u.unmeasured?.elim t.otherUnits fun p => t.otherUnits.alter p.1 0.0 (· + p.2)
      remarks := t.remarks ++ u.words?.toList } := by
  have hghost := u.isGhost_eq
  cases hformula : u.formula.filter Formula.ghost with
  | some f =>
      rw [hformula, Option.isSome_some] at hghost
      simp only [Tally.addQuantity, Tally.remark, ItemUsage.measured?, ItemUsage.unmeasured?,
        ItemUsage.words?, ItemUsage.amount?, hformula, hghost, if_true, Option.bind_none,
        Option.map_none, ite_self, Option.elim_none, Option.toList_some]
  | none =>
      rw [hformula, Option.isSome_none] at hghost
      have hnumber := u.value?_eq
      cases hvalue : u.value? with
      | none =>
          rw [hvalue] at hnumber
          simp only [Tally.addQuantity, ItemUsage.measured?, ItemUsage.unmeasured?,
            ItemUsage.words?, ItemUsage.amount?, hformula, hghost, hvalue, ← hnumber,
            Bool.false_eq_true, if_false, Option.bind_none, Option.map_none, ite_self,
            Option.elim_none, Option.isSome_none]
          cases u.quantity with
          | none => simp only [Option.map_none, Option.toList_none, List.append_nil]
          | some a =>
              simp only [Option.map_some, Option.toList_some, withUnit_eq, Tally.remark]
      | some x =>
          rw [hvalue] at hnumber
          simp only [Tally.addQuantity, Tally.addNumber, ItemUsage.measured?,
            ItemUsage.unmeasured?, ItemUsage.words?, ItemUsage.amount?, hformula, hghost, hvalue,
            ← hnumber, Bool.false_eq_true, if_false, if_true, Option.bind_some, Option.map_some,
            Option.isSome_some, Option.toList_none, List.append_nil, ItemUsage.physical?]
          cases u.mass.filter fun m => m.method == .physical <;> rfl

theorem addCircular_eq :
    t.addCircular u = { t with
      circular := t.circular || u.circular
      remarks := t.remarks ++ u.marker?.toList } := by
  cases hcircular : u.circular with
  | false =>
      simp only [Tally.addCircular, ItemUsage.marker?, hcircular, Bool.false_eq_true, if_false,
        Bool.false_and, Bool.or_false, Option.toList_none, List.append_nil]
  | true =>
      cases hghost : u.isGhost <;>
        simp only [Tally.addCircular, Tally.remark, ItemUsage.marker?, hcircular, hghost, if_true,
          Bool.false_eq_true, if_false, Bool.not_true, Bool.not_false, Bool.and_true,
          Bool.and_false, Bool.or_true, Option.toList_none, Option.toList_some, List.append_nil]

theorem addMass_eq :
    t.addMass u = { t with
      mass := u.knownGrams?.elim t.mass (t.mass + ·)
      weighed := t.weighed || u.knownMass?.isSome
      estimated := t.estimated || u.knownMass?.any MassFigure.estimated } := by
  rw [Tally.addMass, ItemUsage.knownGrams?_eq]
  cases u.knownMass? with
  | none => simp only [Option.map_none, Option.elim_none, Option.isSome_none, Option.any_none,
      Bool.or_false]
  | some m => simp only [Option.map_some, Option.elim_some, Option.isSome_some, Option.any_some,
      Bool.or_true]

theorem add_eq :
    t.add u = {
      name := t.name
      sureGrams := u.measured?.elim t.sureGrams (t.sureGrams + ·)
      otherUnits := u.unmeasured?.elim t.otherUnits fun p => t.otherUnits.alter p.1 0.0 (· + p.2)
      remarks := t.remarks ++ u.remarks
      mass := u.knownGrams?.elim t.mass (t.mass + ·)
      weighed := t.weighed || u.knownMass?.isSome
      estimated := t.estimated || u.knownMass?.any MassFigure.estimated
      circular := t.circular || u.circular } := by
  rw [Tally.add, addMass_eq, addCircular_eq, addQuantity_eq, ItemUsage.remarks]
  simp only [List.append_assoc]

end Parts

section Runs

/-- One more part, if there is one. -/
theorem sumInOrder_filterMap_concat (part? : ItemUsage → Option Float) (us : List ItemUsage)
    (u : ItemUsage) :
    sumInOrder ((us ++ [u]).filterMap part?)
      = (part? u).elim (sumInOrder (us.filterMap part?))
          (sumInOrder (us.filterMap part?) + ·) := by
  rw [List.filterMap_append, List.filterMap_cons, List.filterMap_nil]
  cases part? u with
  | none => rw [List.append_nil, Option.elim_none]
  | some x => rw [sumInOrder_concat, Option.elim_some]

/-- What one more usage adds. -/
theorem add_ofUsages (name : String) (us : List ItemUsage) (u : ItemUsage) :
    (Tally.ofUsages name us).add u = .ofUsages name (us ++ [u]) := by
  have hunits : (u.unmeasured?.elim (Tally.ofUsages name us).otherUnits fun p =>
        (Tally.ofUsages name us).otherUnits.alter p.1 0.0 (· + p.2))
      = (Tally.ofUsages name (us ++ [u])).otherUnits := by
    simp only [Tally.ofUsages, List.filterMap_append, List.filterMap_cons, List.filterMap_nil]
    cases u.unmeasured? with
    | none => rw [List.append_nil, Option.elim_none]
    | some p => rw [Ledger.collect_concat, Option.elim_some]
  rw [add_eq, hunits]
  simp only [Tally.ofUsages, sumInOrder_filterMap_concat, List.flatMap_append,
    List.flatMap_singleton, List.any_append, List.any_cons, List.any_nil, Bool.or_false]

/-- A tally is what its usages make it. -/
theorem foldl_tally (name : String) (us : List ItemUsage) :
    us.foldl Tally.add (.empty name) = .ofUsages name us := by
  induction us using List.reverseRecOn with
  | nil => rfl
  | append_singleton us u ih => rw [List.foldl_concat, ih, add_ofUsages]

end Runs

/-- The numbers per unit of a tally. -/
theorem others_ofUsages (name : String) (us : List ItemUsage) :
    (Tally.ofUsages name us).others = unitTotals us := by
  simp only [Tally.others, Tally.ofUsages, unitTotals, Ledger.collect_eq_map, List.map_map,
    sumInOrder, List.foldl_map]
  rfl

theorem shows_mainQuantity (t : Tally) :
    Shows t.sureGrams t.others t.mainQuantity.1 t.mainQuantity.2.1 t.mainQuantity.2.2 := by
  rw [Tally.mainQuantity]
  by_cases hgrams : 0.0 < t.sureGrams
  · rw [if_pos hgrams]
    exact .mass hgrams
  · rw [if_neg hgrams]
    cases t.others with
    | nil => exact .nothing hgrams
    | cons first rest => exact .first hgrams

/-- The line of a tally tells its usages. -/
theorem tells_entry (name id : String) (us : List ItemUsage) :
    ((Tally.ofUsages name us).entry id).Tells us where
  mass := by
    simp only [ItemUsage.knownGrams?_eq_none_iff]
    by_cases hknown : ∀ u ∈ us, u.knownMass? = none
    · have hweighed : (us.any fun u => u.knownMass?.isSome) = false := by
        rw [List.any_eq_false]
        intro u hu
        rw [hknown u hu]
        exact Bool.false_ne_true
      simp only [Tally.entry, Tally.ofUsages, hweighed, Bool.false_eq_true, if_false, if_pos hknown]
    · have hweighed : (us.any fun u => u.knownMass?.isSome) = true := by
        push Not at hknown
        rcases hknown with ⟨u, hu, hmass⟩
        exact List.any_eq_true.2 ⟨u, hu, Option.isSome_iff_ne_none.2 hmass⟩
      simp only [Tally.entry, Tally.ofUsages, hweighed, if_true, if_neg hknown]
  estimated := by
    simp only [Tally.entry, Tally.ofUsages, List.any_eq_true, Option.any_eq_true]
    refine exists_congr fun u => and_congr_right fun _ => ?_
    rw [ItemUsage.knownMass?]
    cases u.isGhost with
    | true => simp only [if_true, reduceCtorEq, false_and, exists_false]
    | false => simp only [Bool.false_eq_true, if_false, true_and]
  circular := List.any_eq_true
  numbers := by
    have hshows := shows_mainQuantity (Tally.ofUsages name us)
    rw [others_ofUsages] at hshows
    refine ⟨_, hshows, ?_⟩
    simp only [Tally.entry, withUnit_eq, Option.getD_some]
    rfl

/-- The ingredient that a line is for. -/
def ShoppingItem.ingredient? : ShoppingItem → Option ShoppingEntry
  | .ingredient e => some e
  | _ => none

section Lists

variable (weighing : Weighing) (registry : Registry)

theorem ingredients_mergedList (sections : List Section) :
    (mergedList weighing registry sections).filterMap ShoppingItem.ingredient?
      = (ownTallies registry ((listedUsages sections).filterMap Usage.own?)).map
          fun e => e.2.entry e.1 := by
  simp only [mergedList_eq, ownLines, parentLines, List.filterMap_append, List.filterMap_map,
    Function.comp_def, ShoppingItem.ingredient?, List.filterMap_eq_map', List.filterMap_none,
    List.append_nil]

/-- Every line of an ingredient tells the usages of that ingredient. -/
theorem forall₂_ownTallies (us : List ItemUsage) :
    List.Forall₂ (fun id entry => entry.1 = id
        ∧ (entry.2.entry entry.1).Tells (us.filter fun u => u.id = id))
      (us.map ItemUsage.id).eraseDups (ownTallies registry us) := by
  refine (Ledger.forall₂_collect _ _ _ us).imp fun id entry h => ?_
  rcases h with ⟨hid, htotal⟩
  refine ⟨hid, ?_⟩
  cases hgroup : us.filter fun u => u.id = id with
  | nil =>
      rw [hgroup] at htotal
      cases htotal
  | cons first rest =>
      rw [hgroup, Ledger.total, Option.some.injEq] at htotal
      rw [← htotal, foldl_tally]
      exact tells_entry _ _ _

end Lists

/-- However usages are mixed, the line that is made of them tells their known mass, whether any of
    it is estimated, whether they are on a cycle, each of the numbers once and all that is said
    without a number. And the lines of ingredients in a shopping list are one for each identity, in
    the order in which the identities first come up, made of the usages with that identity. -/
theorem entries_tell_usages (weighing : Weighing) (registry : Registry) (sections : List Section) :
    let list := shoppingList weighing registry sections
    let own := (listedUsages list.2).filterMap Usage.own?
    (∀ (name id : String) (us : List ItemUsage),
        ((us.foldl Tally.add (.empty name)).entry id).Tells us)
      ∧ List.Forall₂ (fun id e => e.id = id ∧ e.Tells (own.filter fun u => u.id = id))
          (own.map ItemUsage.id).eraseDups (list.1.filterMap ShoppingItem.ingredient?) := by
  intro list own
  refine ⟨fun name id us => ?_, ?_⟩
  · rw [foldl_tally]
    exact tells_entry name id us
  · change List.Forall₂ _ _ ((mergedList weighing registry (markCircular sections)).filterMap _)
    rw [ingredients_mergedList, List.forall₂_map_right_iff]
    exact forall₂_ownTallies registry own

end Mise
