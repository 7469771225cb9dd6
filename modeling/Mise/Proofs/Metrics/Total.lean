import Mise.Proofs.Ledger.Group
import Mise.Proofs.Shopping.Marking

/-!
# Totals of Sections and of a Recipe

A compiled recipe tells twice what is not weighed: for each section, and once for all of it. Each of
these totals is a fold of its own. The one for the recipe leaves out the ingredients that stand for
others listed before, and it is taken when the sections have been marked, while the sections are
weighed before that.

They agree because a total depends on its ingredients one by one. Its status is the worst of theirs,
where an ingredient without a mass is incomplete, and the names that are missing are those of such
ingredients, each where it comes first. Marks change neither. So leaving out ingredients can only
make the total better, and if none is left out the total is that of the sections taken together.

## Main definitions

* `MassStatus.rank`, `MassStatus.worst`: The worst of several statuses.
* `ItemUsage.massStatus`, `ItemUsage.missingName?`: What a single ingredient does to a total.

## Theorems

* `rank_worst_le_iff`: The worst status is no worse than a bound if none is.
* `status_ofUsages`, `missing_ofUsages`: A total depends on its ingredients one by one.
* `eraseDups_flatMap`: First occurrences among first occurrences.
* `ofUsages_mark`: Marks do not change a total.
* `worst_sections`, `missing_sections`: The totals of sections, taken together.
* `totals_agree`: The total of a recipe agrees with those of its sections.
-/

namespace Mise

section FirstOccurrences

variable {κ : Type} [DecidableEq κ]

theorem eraseDups_eraseDups (keys : List κ) : keys.eraseDups.eraseDups = keys.eraseDups := by
  induction keys using List.reverseRecOn with
  | nil => rfl
  | append_singleton keys key ih =>
      rw [eraseDups_concat]
      by_cases h : key ∈ keys
      · rw [if_pos h, ih]
      · rw [if_neg h, eraseDups_concat, if_neg fun hmem => h (List.mem_eraseDups.1 hmem), ih]

/-- What comes first among some of the keys is what comes first among all of them, and is one of
    these. -/
theorem eraseDups_filter (p : κ → Bool) (keys : List κ) :
    (keys.filter p).eraseDups = keys.eraseDups.filter p := by
  induction keys using List.reverseRecOn with
  | nil => rfl
  | append_singleton keys key ih =>
      rw [List.filter_append, eraseDups_concat]
      by_cases hp : p key = true
      · rw [List.filter_cons_of_pos hp, List.filter_nil, eraseDups_concat, ih]
        by_cases h : key ∈ keys
        · rw [if_pos h, if_pos (List.mem_filter.2 ⟨h, hp⟩)]
        · rw [if_neg h, if_neg fun hmem => h (List.mem_filter.1 hmem).1, List.filter_append,
            List.filter_cons_of_pos hp, List.filter_nil]
      · rw [List.filter_cons_of_neg hp, List.filter_nil, List.append_nil, ih]
        by_cases h : key ∈ keys
        · rw [if_pos h]
        · rw [if_neg h, List.filter_append, List.filter_cons_of_neg hp, List.filter_nil,
            List.append_nil]

theorem eraseDups_append_congr {keys keys' more more' : List κ}
    (h : keys.eraseDups = keys'.eraseDups) (hmore : more.eraseDups = more'.eraseDups) :
    (keys ++ more).eraseDups = (keys' ++ more').eraseDups := by
  have hmem : ∀ key, keys.elem key = keys'.elem key := fun key => by
    rw [Bool.eq_iff_iff, List.elem_iff, List.elem_iff, ← List.mem_eraseDups, h, List.mem_eraseDups]
  rw [List.eraseDups_append, List.eraseDups_append, List.removeAll, List.removeAll,
    eraseDups_filter, eraseDups_filter, h, hmore]
  simp only [hmem]

/-- First occurrences among first occurrences. -/
theorem eraseDups_flatMap {α : Type} (f : α → List κ) (xs : List α) :
    (xs.flatMap fun x => (f x).eraseDups).eraseDups = (xs.flatMap f).eraseDups := by
  induction xs with
  | nil => rfl
  | cons x xs ih =>
      rw [List.flatMap_cons, List.flatMap_cons]
      exact eraseDups_append_congr (eraseDups_eraseDups (f x)) ih

theorem foldl_addNew (texts : List String) : texts.foldl addNew [] = texts.eraseDups := by
  induction texts using List.reverseRecOn with
  | nil => rfl
  | append_singleton texts s ih =>
      rw [List.foldl_append, ih, List.foldl_cons, List.foldl_nil, addNew, eraseDups_concat]
      by_cases h : s ∈ texts
      · rw [if_pos h, if_pos (List.contains_iff_mem.2 (List.mem_eraseDups.2 h))]
      · rw [if_neg h, if_neg fun hmem => h (List.mem_eraseDups.1 (List.contains_iff_mem.1 hmem))]

end FirstOccurrences

namespace MassStatus

/-- How bad a status is. -/
def rank : MassStatus → Nat
  | .precise => 0
  | .estimated => 1
  | .incomplete => 2

/-- The worse of two statuses. -/
def worse (first second : MassStatus) : MassStatus :=
  if first.rank ≤ second.rank then second else first

/-- The worst of several statuses, precise if there is none. -/
def worst (statuses : List MassStatus) : MassStatus :=
  statuses.foldl worse .precise

theorem eq_of_rank {first second : MassStatus} (h : first.rank = second.rank) : first = second := by
  cases first <;> cases second <;> first | rfl | cases h

theorem rank_worse_le_iff {first second : MassStatus} {bound : Nat} :
    (first.worse second).rank ≤ bound ↔ first.rank ≤ bound ∧ second.rank ≤ bound := by
  unfold worse
  split <;> omega

theorem rank_foldl_le_iff {start : MassStatus} {statuses : List MassStatus} {bound : Nat} :
    (statuses.foldl worse start).rank ≤ bound
      ↔ start.rank ≤ bound ∧ ∀ status ∈ statuses, status.rank ≤ bound := by
  induction statuses generalizing start with
  | nil => simp only [List.foldl_nil, List.not_mem_nil, false_implies, implies_true, and_true]
  | cons first rest ih =>
      rw [List.foldl_cons, ih, rank_worse_le_iff, List.forall_mem_cons, and_assoc]

/-- The worst status is no worse than a bound if none of the statuses is. -/
theorem rank_worst_le_iff {statuses : List MassStatus} {bound : Nat} :
    (worst statuses).rank ≤ bound ↔ ∀ status ∈ statuses, status.rank ≤ bound := by
  rw [worst, rank_foldl_le_iff]
  exact and_iff_right (Nat.zero_le bound)

theorem rank_worst_le_of_subset {statuses more : List MassStatus} (h : statuses ⊆ more) :
    (worst statuses).rank ≤ (worst more).rank :=
  rank_worst_le_iff.2 fun status hmem => rank_worst_le_iff.1 (Nat.le_refl _) status (h hmem)

/-- The worst of what is worst in each part. -/
theorem worst_flatMap {α : Type} (f : α → List MassStatus) (xs : List α) :
    worst (xs.flatMap f) = worst (xs.map fun x => worst (f x)) := by
  have hbound : ∀ bound, (worst (xs.flatMap f)).rank ≤ bound
      ↔ (worst (xs.map fun x => worst (f x))).rank ≤ bound := by
    intro bound
    rw [rank_worst_le_iff, rank_worst_le_iff, List.forall_mem_flatMap, List.forall_mem_map]
    simp only [rank_worst_le_iff]
  exact eq_of_rank (Nat.le_antisymm ((hbound _).2 (Nat.le_refl _)) ((hbound _).1 (Nat.le_refl _)))

end MassStatus

open MassStatus

/-- How reliable a total of one ingredient is. -/
def ItemUsage.massStatus (u : ItemUsage) : MassStatus :=
  match u.knownMass? with
  | none => .incomplete
  | some mass => if mass.estimated then .estimated else .precise

/-- The name under which an ingredient is missing in a total. -/
def ItemUsage.missingName? (u : ItemUsage) : Option String :=
  match u.knownMass? with
  | none => some u.name
  | some _ => none

namespace MassTotal

theorem isEmpty_addNew (texts : List String) (s : String) : (addNew texts s).isEmpty = false := by
  have hmem : s ∈ addNew texts s := (mem_addNew texts s s).2 (.inr rfl)
  exact List.isEmpty_eq_false_iff.2 (List.ne_nil_of_mem hmem)

/-- One more ingredient makes the status worse, or leaves it as it is. -/
theorem status_add (r : Running) (u : ItemUsage) :
    (ofRunning (r.add u)).status = (ofRunning r).status.worse u.massStatus := by
  rw [Running.add, ItemUsage.massStatus, ofRunning, ofRunning]
  cases u.knownMass? with
  | none =>
      simp only [isEmpty_addNew, Bool.not_false, if_true]
      rw [worse, if_pos]
      split_ifs <;> decide
  | some mass =>
      rcases mass with ⟨grams, method, estimated⟩
      dsimp only
      cases r.missing.isEmpty with
      | false => cases estimated <;> rfl
      | true => cases r.estimated <;> cases estimated <;> rfl

/-- The status of a total is the worst of its ingredients. -/
theorem status_ofUsages (us : List Usage) :
    (ofUsages us).status = worst ((us.filterMap Usage.counted?).map ItemUsage.massStatus) := by
  have hfold : ∀ (items : List ItemUsage) (r : Running),
      (ofRunning (items.foldl Running.add r)).status
        = (items.map ItemUsage.massStatus).foldl worse (ofRunning r).status := by
    intro items
    induction items with
    | nil => exact fun r => rfl
    | cons first rest ih =>
        intro r
        rw [List.foldl_cons, ih, status_add, List.map_cons, List.foldl_cons]
  exact hfold _ _

/-- What is missing in a total are the names of ingredients without a mass, each where it comes
    first. -/
theorem missing_ofUsages (us : List Usage) :
    (ofUsages us).missing
      = ((us.filterMap Usage.counted?).filterMap ItemUsage.missingName?).eraseDups := by
  have hfold : ∀ (items : List ItemUsage) (r : Running), (items.foldl Running.add r).missing
      = (items.filterMap ItemUsage.missingName?).foldl addNew r.missing := by
    intro items
    induction items with
    | nil => exact fun r => rfl
    | cons first rest ih =>
        intro r
        rw [List.foldl_cons, ih, List.filterMap_cons, Running.add, ItemUsage.missingName?]
        cases first.knownMass? <;> rfl
  rw [← foldl_addNew]
  exact hfold _ _

end MassTotal

section Marks

variable (ids : Names)

theorem counted?_mark (u : Usage) :
    (u.mark ids).counted? = u.counted?.map (ItemUsage.mark ids) := by
  cases u with
  | ingredient u => rw [mark_ingredient]; rfl
  | alternative options =>
      rw [mark_alternative]
      cases options with
      | nil => rfl
      | cons first rest =>
          cases first with
          | ingredient u => exact congrArg Usage.ingredient? (mark_ingredient ids u)
          | _ => rfl
  | _ => rfl

/-- Marks do not change a total. -/
theorem ofUsages_mark (us : List Usage) :
    MassTotal.ofUsages (us.map (Usage.mark ids)) = MassTotal.ofUsages us := by
  have hadd : ∀ (r : MassTotal.Running) (u : ItemUsage), r.add (u.mark ids) = r.add u := by
    intro r u
    rcases mark_eq ids u with ⟨circular, hmark⟩
    rw [hmark]
    rfl
  have hcounted : (us.map (Usage.mark ids)).filterMap Usage.counted?
      = (us.filterMap Usage.counted?).map (ItemUsage.mark ids) := by
    rw [List.filterMap_map, List.map_filterMap]
    exact congrFun (congrArg List.filterMap (funext (counted?_mark ids))) us
  rw [MassTotal.ofUsages, MassTotal.ofUsages, hcounted, MassTotal.Running.ofItems, List.foldl_map]
  simp only [hadd]
  rfl

end Marks

/-- Every section of a compiled recipe has the total of the ingredients that it lists. -/
theorem mass_of_mem_compileRecipe (o : CompileOptions) (r : Recipe) :
    ∀ s ∈ (compileRecipe o r).sections, s.mass = some (.ofUsages s.ingredients) := by
  rcases sections_compileRecipe o r with ⟨ids, hsections⟩
  rw [hsections, List.forall_mem_map]
  intro s _
  simp only [Section.mark, Section.weighed, Usage.markAll_eq_map, ofUsages_mark]

/-- Whether an ingredient stands for itself and not for one listed before. -/
def ItemUsage.isOwn (u : ItemUsage) : Bool :=
  !u.hasModifier .reference

/-- The ingredients that count for a recipe are those on the lists that stand for themselves. -/
theorem counted_countedUsages (sections : List Section) :
    (countedUsages sections).filterMap Usage.counted?
      = ((sections.flatMap Section.ingredients).filterMap Usage.counted?).filter
        ItemUsage.isOwn := by
  rw [countedUsages, List.filterMap_filter, List.filter_filterMap]
  refine congrFun (congrArg List.filterMap (funext fun u => ?_)) _
  cases u.counted? with
  | none => rfl
  | some item => rfl

/-- The ingredients that the total of a section is made of. -/
def Section.counted (s : Section) : List ItemUsage :=
  s.ingredients.filterMap Usage.counted?

theorem counted_flatMap (sections : List Section) :
    (sections.flatMap Section.ingredients).filterMap Usage.counted?
      = sections.flatMap Section.counted :=
  List.filterMap_flatMap

/-- If all ingredients on the lists stand for themselves, none is left out. -/
theorem filter_isOwn {sections : List Section}
    (h : ∀ s ∈ sections, ∀ u ∈ s.ingredients, ∀ item ∈ u.counted?,
      ¬ item.hasModifier .reference) :
    (sections.flatMap Section.counted).filter ItemUsage.isOwn
      = sections.flatMap Section.counted := by
  refine List.filter_eq_self.2 fun item hitem => ?_
  rcases List.mem_flatMap.1 hitem with ⟨s, hs, hcounted⟩
  rcases List.mem_filterMap.1 hcounted with ⟨u, hu, hitem⟩
  rw [ItemUsage.isOwn, Bool.eq_false_iff.2 (h s hs u hu item hitem), Bool.not_false]

/-- The worst status of the sections is that of all ingredients on their lists. -/
theorem worst_sections (sections : List Section) :
    worst (sections.map fun s => (MassTotal.ofUsages s.ingredients).status)
      = worst ((sections.flatMap Section.counted).map ItemUsage.massStatus) := by
  rw [List.map_flatMap, worst_flatMap]
  exact congrArg worst (List.map_congr_left fun s _ => MassTotal.status_ofUsages s.ingredients)

/-- What the sections miss, one after the other, is missing among all ingredients on their lists. -/
theorem missing_sections (sections : List Section) :
    (sections.flatMap fun s => (MassTotal.ofUsages s.ingredients).missing).eraseDups
      = ((sections.flatMap Section.counted).filterMap ItemUsage.missingName?).eraseDups := by
  simp only [MassTotal.missing_ofUsages]
  rw [List.filterMap_flatMap]
  exact eraseDups_flatMap (fun s => s.counted.filterMap ItemUsage.missingName?) sections

/-- The total of a recipe agrees with those of its sections, of which each has one. What is missing
    in it is missing in one of them, and its status is no worse than the worst of theirs. If all
    ingredients on the lists stand for themselves, it misses what the sections miss, each name where
    it comes first, and its status is the worst of theirs. -/
theorem totals_agree (o : CompileOptions) (r : Recipe) :
    let compiled := compileRecipe o r
    let whole := compiled.metrics.mass
    let totals := compiled.sections.filterMap Section.mass
    (∀ s ∈ compiled.sections, s.mass.isSome)
      ∧ (∀ name ∈ whole.missing, ∃ total ∈ totals, name ∈ total.missing)
      ∧ whole.status.rank ≤ (worst (totals.map MassTotal.status)).rank
      ∧ ((∀ s ∈ compiled.sections, ∀ u ∈ s.ingredients, ∀ item ∈ u.counted?,
            ¬ item.hasModifier .reference) →
          whole.missing = (totals.flatMap MassTotal.missing).eraseDups
            ∧ whole.status = worst (totals.map MassTotal.status)) := by
  intro compiled whole totals
  have hmass := mass_of_mem_compileRecipe o r
  have htotals : totals = compiled.sections.map fun s => .ofUsages s.ingredients :=
    List.filterMap_eq_map_iff_forall_eq_some.2 hmass
  have hworst : worst (totals.map MassTotal.status)
      = worst ((compiled.sections.flatMap Section.counted).map ItemUsage.massStatus) := by
    rw [htotals, List.map_map]
    exact worst_sections compiled.sections
  -- Both kinds of totals are made of the same ingredients.
  have hcounted : (countedUsages compiled.sections).filterMap Usage.counted?
      = (compiled.sections.flatMap Section.counted).filter ItemUsage.isOwn := by
    rw [counted_countedUsages, counted_flatMap]
  have hmissing : whole.missing = (((compiled.sections.flatMap Section.counted).filter
      ItemUsage.isOwn).filterMap ItemUsage.missingName?).eraseDups := by
    rw [← hcounted]
    exact MassTotal.missing_ofUsages _
  have hstatus : whole.status = worst (((compiled.sections.flatMap Section.counted).filter
      ItemUsage.isOwn).map ItemUsage.massStatus) := by
    rw [← hcounted]
    exact MassTotal.status_ofUsages _
  refine ⟨fun s hs => by rw [hmass s hs]; rfl, fun name hname => ?_, ?_, fun hown => ⟨?_, ?_⟩⟩
  · rw [hmissing, List.mem_eraseDups, List.mem_filterMap] at hname
    rcases hname with ⟨item, hitem, hmissingName⟩
    rcases List.mem_flatMap.1 (List.mem_filter.1 hitem).1 with ⟨s, hs, hcounted⟩
    refine ⟨_, htotals ▸ List.mem_map_of_mem hs, ?_⟩
    rw [MassTotal.missing_ofUsages, List.mem_eraseDups]
    exact List.mem_filterMap.2 ⟨item, hcounted, hmissingName⟩
  · -- Ingredients that are left out can only have made it worse.
    rw [hstatus, hworst]
    exact rank_worst_le_of_subset (List.map_subset _ List.filter_sublist.subset)
  · rw [hmissing, filter_isOwn hown, ← missing_sections, htotals, List.flatMap_map]
  · rw [hstatus, filter_isOwn hown, hworst]

end Mise
