import Mise.Proofs.Ledger.Group
import Mise.Shopping

/-!
# The Lines of a Shopping List

A shopping list is put together in one pass over all sections, which adds each listed usage to one
of two ledgers of tallies or to the alternatives. Although the usages of different lines come in any
order, each line is what the list of its own usages alone would show. So the list divides the listed
usages among its lines: first those that are ingredients by themselves, one line per identity, then
those that are parts, one line per parent, then the alternatives, one line each.

What feeds a line is read off a usage, and the lines stand in the order in which they are first fed.
Marking what lies on a cycle changes neither.

## Main definitions

* `Usage.own?`, `Usage.part?`, `Usage.group?`: What a listed usage is to the shopping list.
* `Usage.ownLine?`, `Usage.parentLine?`: The line that a usage feeds.
* `alone`: The shopping list of usages taken alone.

## Theorems

* `foldl_basket`: A pass over usages fills each of the three parts by itself.
* `own_lines`, `parent_lines`: The lines of a list are those of its groups.
* `shoppingList_partitions`: A shopping list divides the listed usages among its lines.
-/

namespace Mise

namespace Usage

/-- The ingredient that a listed usage is, if it is not part of anything. -/
def own? : Usage → Option ItemUsage
  | .ingredient u => if u.parent.isNone then some u else none
  | _ => none

/-- The ingredient that a listed usage is and what it is part of, if it is part of something. -/
def part? : Usage → Option (ParentRef × ItemUsage)
  | .ingredient u => u.parent.map fun p => (p, u)
  | _ => none

/-- The options of an alternative. -/
def group? : Usage → Option (List Usage)
  | .alternative options => some options
  | _ => none

/-- The identity of the line that a usage feeds by itself. -/
def ownLine? (u : Usage) : Option String :=
  u.own?.map ItemUsage.id

/-- The identity of the parent whose line a usage feeds. -/
def parentLine? (u : Usage) : Option String :=
  u.part?.map fun p => slugify p.1.parent

/-- Whether a listed usage is anything to buy. -/
def isBought : Usage → Bool
  | .ingredient _ => true
  | .alternative _ => true
  | _ => false

end Usage

/-- A section that lists usages and has nothing else. -/
def listing (us : List Usage) : Section :=
  ⟨none, us, [], [], none, none, none⟩

/-- The shopping list of usages taken alone. -/
def alone (weighing : Weighing) (registry : Registry) (us : List Usage) : List ShoppingItem :=
  mergedList weighing registry [listing us]

section Ledgers

variable (registry : Registry)

/-- The tallies of ingredients, of which each knows only its own. -/
def ownTallies (us : List ItemUsage) : Ledger String Tally :=
  Ledger.collect ItemUsage.id
    (fun u => .empty ((registry.ingredientName? u.id).getD u.name)) (fun u t => t.add u) us

/-- The tallies of parents, of which each knows only its own parts. -/
def partTallies (us : List (ParentRef × ItemUsage)) : Ledger String PartTally :=
  Ledger.collect (fun p => slugify p.1.parent)
    (fun p => .empty ((registry.ingredientName? (slugify p.1.parent)).getD p.1.parent))
    (fun p t => t.add p.2) us

/-- One more usage goes to one of the three parts of a basket. -/
theorem add_basket (us : List Usage) (u : Usage) :
    (⟨ownTallies registry (us.filterMap Usage.own?),
        partTallies registry (us.filterMap Usage.part?),
        us.filterMap Usage.group?⟩ : Basket).add registry u
      = ⟨ownTallies registry ((us ++ [u]).filterMap Usage.own?),
          partTallies registry ((us ++ [u]).filterMap Usage.part?),
          (us ++ [u]).filterMap Usage.group?⟩ := by
  simp only [List.filterMap_append, List.filterMap_cons, List.filterMap_nil]
  cases u with
  | ingredient u =>
      cases hparent : u.parent with
      | none =>
          simp only [Basket.add, Basket.addItem, hparent, Usage.own?, Usage.part?, Usage.group?,
            Option.isNone_none, if_true, Option.map_none, List.append_nil, ownTallies,
            Ledger.collect_concat]
      | some p =>
          simp only [Basket.add, Basket.addItem, hparent, Usage.own?, Usage.part?, Usage.group?,
            Option.isNone_some, Bool.false_eq_true, if_false, Option.map_some, List.append_nil,
            partTallies, Ledger.collect_concat]
  | alternative options =>
      simp only [Basket.add, Usage.own?, Usage.part?, Usage.group?, List.append_nil]
  | _ => simp only [Basket.add, Usage.own?, Usage.part?, Usage.group?, List.append_nil]

/-- A pass over usages fills each of the three parts by itself. -/
theorem foldl_basket (us : List Usage) :
    us.foldl (Basket.add registry) .empty
      = ⟨ownTallies registry (us.filterMap Usage.own?),
          partTallies registry (us.filterMap Usage.part?),
          us.filterMap Usage.group?⟩ := by
  induction us using List.reverseRecOn with
  | nil => rfl
  | append_singleton us u ih => rw [List.foldl_concat, ih, add_basket]

end Ledgers

section Lines

variable (weighing : Weighing) (registry : Registry)

/-- The lines of ingredients. -/
def ownLines (us : List ItemUsage) : List ShoppingItem :=
  (ownTallies registry us).map fun e => .ingredient (e.2.entry e.1)

/-- The lines of parents. -/
def parentLines (us : List (ParentRef × ItemUsage)) : List ShoppingItem :=
  (partTallies registry us).map fun e => .parent (e.2.entry e.1 weighing)

/-- A list has the lines of its ingredients, then those of parents, then its alternatives. -/
theorem mergedList_eq (sections : List Section) :
    mergedList weighing registry sections
      = ownLines registry ((listedUsages sections).filterMap Usage.own?)
        ++ parentLines weighing registry ((listedUsages sections).filterMap Usage.part?)
        ++ ((listedUsages sections).filterMap Usage.group?).map .alternative := by
  rw [mergedList, foldl_basket]
  rfl

theorem listedUsages_listing (us : List Usage) : listedUsages [listing us] = us :=
  List.append_nil us

/-- What a usage is to the list can be told after the usages of one line are picked. -/
theorem filterMap_filter_line {β : Type} {what? : Usage → Option β} {line : β → String}
    {line? : Usage → Option String} (hline : ∀ u, line? u = (what? u).map line) (id : String)
    (us : List Usage) :
    (us.filter fun u => line? u = some id).filterMap what?
      = (us.filterMap what?).filter fun b => line b = id := by
  rw [List.filterMap_filter, List.filter_filterMap]
  refine List.filterMap_congr fun u _ => ?_
  rw [hline]
  cases what? u with
  | none => rfl
  | some b => simp only [Option.map_some, Option.some.injEq, Option.filter_some]

/-- The usages that feed one line are nothing else to the list. -/
theorem filterMap_filter_other {β γ : Type} {what? : Usage → Option β} {line : β → String}
    {line? : Usage → Option String} (hline : ∀ u, line? u = (what? u).map line)
    {other? : Usage → Option γ} (hother : ∀ u, (what? u).isSome → other? u = none) (id : String)
    (us : List Usage) : (us.filter fun u => line? u = some id).filterMap other? = [] := by
  refine List.filterMap_eq_nil_iff.2 fun u hu => hother u ?_
  have hid : line? u = some id := of_decide_eq_true (List.mem_filter.1 hu).2
  rw [← Option.isSome_map (f := line), ← hline, hid, Option.isSome_some]

theorem not_part_of_own (u : Usage) (h : u.own?.isSome) : u.part? = none ∧ u.group? = none := by
  cases u with
  | ingredient u =>
      cases hparent : u.parent with
      | none => exact ⟨by rw [Usage.part?, hparent, Option.map_none], rfl⟩
      | some p =>
          rw [Usage.own?, hparent, Option.isNone_some, if_neg Bool.false_ne_true] at h
          exact absurd h Bool.false_ne_true
  | _ => exact absurd h Bool.false_ne_true

theorem not_own_of_part (u : Usage) (h : u.part?.isSome) : u.own? = none ∧ u.group? = none := by
  cases u with
  | ingredient u =>
      cases hparent : u.parent with
      | none =>
          rw [Usage.part?, hparent] at h
          exact absurd h Bool.false_ne_true
      | some p =>
          exact ⟨by rw [Usage.own?, hparent, Option.isNone_some, if_neg Bool.false_ne_true], rfl⟩
  | _ => exact absurd h Bool.false_ne_true

/-- The list of the usages that feed one line by themselves has the line of their tally and no
    other. -/
theorem alone_own (us : List Usage) (id : String) :
    alone weighing registry (us.filter fun u => u.ownLine? = some id)
      = ownLines registry ((us.filterMap Usage.own?).filter fun u => u.id = id) := by
  have hline : ∀ u : Usage, u.ownLine? = u.own?.map ItemUsage.id := fun _ => rfl
  rw [alone, mergedList_eq, listedUsages_listing, filterMap_filter_line hline,
    filterMap_filter_other hline fun u hu => (not_part_of_own u hu).1,
    filterMap_filter_other hline fun u hu => (not_part_of_own u hu).2]
  simp only [parentLines, partTallies, Ledger.collect, List.foldl_nil, List.map_nil,
    List.append_nil]

/-- The list of the usages that feed the line of one parent has that line and no other. -/
theorem alone_parts (us : List Usage) (id : String) :
    alone weighing registry (us.filter fun u => u.parentLine? = some id)
      = parentLines weighing registry
          ((us.filterMap Usage.part?).filter fun p => slugify p.1.parent = id) := by
  have hline : ∀ u : Usage, u.parentLine? = u.part?.map fun p => slugify p.1.parent := fun _ => rfl
  rw [alone, mergedList_eq, listedUsages_listing, filterMap_filter_line hline,
    filterMap_filter_other hline fun u hu => (not_own_of_part u hu).1,
    filterMap_filter_other hline fun u hu => (not_own_of_part u hu).2]
  simp only [ownLines, ownTallies, Ledger.collect, List.foldl_nil, List.map_nil, List.append_nil,
    List.nil_append]

/-- The lines of ingredients are those of their groups. -/
theorem own_lines (us : List Usage) :
    ownLines registry (us.filterMap Usage.own?)
      = (us.filterMap Usage.ownLine?).eraseDups.flatMap fun id =>
          alone weighing registry (us.filter fun u => u.ownLine? = some id) := by
  have hids : us.filterMap Usage.ownLine? = (us.filterMap Usage.own?).map ItemUsage.id := by
    rw [List.map_filterMap]
    rfl
  simp only [alone_own]
  rw [hids, ownLines, ownTallies, Ledger.collect_eq_flatMap, List.map_flatMap]
  rfl

/-- The lines of parents are those of their groups. -/
theorem parent_lines (us : List Usage) :
    parentLines weighing registry (us.filterMap Usage.part?)
      = (us.filterMap Usage.parentLine?).eraseDups.flatMap fun id =>
          alone weighing registry (us.filter fun u => u.parentLine? = some id) := by
  have hids : us.filterMap Usage.parentLine?
      = (us.filterMap Usage.part?).map fun p => slugify p.1.parent := by
    rw [List.map_filterMap]
    rfl
  simp only [alone_parts]
  rw [hids, parentLines, partTallies, Ledger.collect_eq_flatMap, List.map_flatMap]
  rfl

/-- Usages that feed one line make one line. -/
theorem ownLines_of_same {us : List ItemUsage} {id : String} (hne : us ≠ [])
    (h : ∀ u ∈ us, u.id = id) :
    ∃ e : ShoppingEntry, ownLines registry us = [.ingredient e] ∧ e.id = id := by
  rcases List.exists_cons_of_ne_nil hne with ⟨first, rest, rfl⟩
  rw [ownLines, ownTallies, Ledger.collect_of_same _ _ _ h]
  exact ⟨_, rfl, rfl⟩

theorem parentLines_of_same {us : List (ParentRef × ItemUsage)} {id : String} (hne : us ≠ [])
    (h : ∀ p ∈ us, slugify p.1.parent = id) :
    ∃ e : ParentEntry, parentLines weighing registry us = [.parent e] ∧ e.id = id := by
  rcases List.exists_cons_of_ne_nil hne with ⟨first, rest, rfl⟩
  rw [parentLines, partTallies, Ledger.collect_of_same _ _ _ h]
  exact ⟨_, rfl, rfl⟩

/-- Each identity of an ingredient has one line, of that identity. -/
theorem alone_own_single {us : List Usage} {id : String} (h : id ∈ us.filterMap Usage.ownLine?) :
    ∃ e : ShoppingEntry,
      alone weighing registry (us.filter fun u => u.ownLine? = some id) = [.ingredient e]
        ∧ e.id = id := by
  rcases List.mem_filterMap.1 h with ⟨u, hu, hline⟩
  rcases Option.map_eq_some_iff.1 hline with ⟨item, hitem, hid⟩
  have hmem : item ∈ (us.filterMap Usage.own?).filter fun u => u.id = id :=
    List.mem_filter.2 ⟨List.mem_filterMap.2 ⟨u, hu, hitem⟩, decide_eq_true hid⟩
  rw [alone_own]
  exact ownLines_of_same registry (List.ne_nil_of_mem hmem) fun other hother =>
    of_decide_eq_true (List.mem_filter.1 hother).2

/-- Each identity of a parent has one line, of that identity. -/
theorem alone_parts_single {us : List Usage} {id : String}
    (h : id ∈ us.filterMap Usage.parentLine?) :
    ∃ e : ParentEntry,
      alone weighing registry (us.filter fun u => u.parentLine? = some id) = [.parent e]
        ∧ e.id = id := by
  rcases List.mem_filterMap.1 h with ⟨u, hu, hline⟩
  rcases Option.map_eq_some_iff.1 hline with ⟨part, hpart, hid⟩
  have hmem : part ∈ (us.filterMap Usage.part?).filter fun p => slugify p.1.parent = id :=
    List.mem_filter.2 ⟨List.mem_filterMap.2 ⟨u, hu, hpart⟩, decide_eq_true hid⟩
  rw [alone_parts]
  exact parentLines_of_same weighing registry (List.ne_nil_of_mem hmem) fun other hother =>
    of_decide_eq_true (List.mem_filter.1 hother).2

end Lines

section Marking

theorem Usage.markAll_eq_map (ids : Names) (us : List Usage) :
    Usage.markAll ids us = us.map (Usage.mark ids) := by
  induction us with
  | nil => rfl
  | cons u us ih => rw [Usage.markAll, List.map_cons, ih]

/-- Marked sections list what they did before, marked. -/
theorem listedUsages_markCircular (sections : List Section) :
    listedUsages (markCircular sections)
      = (listedUsages sections).map (Usage.mark (circularIdentities sections)) := by
  rw [listedUsages, listedUsages, markCircular, List.flatMap_map, List.map_flatMap]
  refine List.flatMap_congr fun s _ => ?_
  rw [Section.mark, Usage.markAll_eq_map]

/-- A mark changes neither the identity of a usage nor what it is part of. -/
theorem lines_mark (ids : Names) (u : Usage) :
    (u.mark ids).ownLine? = u.ownLine? ∧ (u.mark ids).parentLine? = u.parentLine? := by
  cases u with
  | ingredient i =>
      rw [Usage.mark]
      by_cases hmarked : ids.has i.id
      · rw [if_pos hmarked]
        simp only [Usage.ownLine?, Usage.own?, Usage.parentLine?, Usage.part?]
        cases i.parent <;> exact ⟨rfl, rfl⟩
      · rw [if_neg hmarked]
        exact ⟨rfl, rfl⟩
  | _ => exact ⟨rfl, rfl⟩

theorem group?_mark (ids : Names) (u : Usage) :
    (u.mark ids).group? = u.group?.map (Usage.markAll ids) := by
  cases u <;> rfl

/-- What is bought feeds a line by itself, feeds that of a parent, or is an alternative. -/
theorem isBought_eq (u : Usage) :
    u.isBought = (u.ownLine?.isSome || u.parentLine?.isSome || u.group?.isSome) := by
  cases u with
  | ingredient i =>
      simp only [Usage.isBought, Usage.ownLine?, Usage.own?, Usage.parentLine?, Usage.part?]
      cases i.parent <;> rfl
  | _ => rfl

theorem filter_groups (us : List Usage) :
    us.filter (fun u => u.group?.isSome) = (us.filterMap Usage.group?).map .alternative := by
  induction us with
  | nil => rfl
  | cons u us ih =>
      cases u with
      | alternative options => exact congrArg (Usage.alternative options :: ·) ih
      | _ => exact ih

/-- The usages that feed the lines are those that are bought, each of them once. -/
theorem perm_lines (us : List Usage) :
    ((us.filterMap Usage.ownLine?).eraseDups.flatMap
          (fun id => us.filter fun u : Usage => u.ownLine? = some id)
        ++ (us.filterMap Usage.parentLine?).eraseDups.flatMap
          (fun id => us.filter fun u : Usage => u.parentLine? = some id)
        ++ (us.filterMap Usage.group?).map Usage.alternative).Perm
      (us.filter Usage.isBought) := by
  have hown : ∀ u : Usage, u.ownLine?.isSome → u.parentLine?.isSome = false := by
    intro u hu
    rw [Usage.ownLine?, Option.isSome_map] at hu
    rw [Usage.parentLine?, (not_part_of_own u hu).1]
    rfl
  have hsingle : ∀ u : Usage, (u.ownLine?.isSome || u.parentLine?.isSome) → u.group?.isSome = false
      := by
    intro u hu
    cases u with
    | alternative options => exact absurd hu Bool.false_ne_true
    | _ => rfl
  have hlines := ((perm_groups Usage.ownLine? us).append (perm_groups Usage.parentLine? us)).trans
    (perm_filter_or hown us)
  have hall := perm_filter_or hsingle us
  rw [← filter_groups, List.filter_congr fun u _ => isBought_eq u]
  exact (hlines.append_right _).trans hall

end Marking

/-- A shopping list divides the listed usages among its lines. The lines are those of ingredients,
    then those of parents, then the alternatives. Ingredients and parents have one line for each
    identity, in the order of their first occurrence, and the line is what the marked usages that
    feed it show when they are taken alone, in the order of the sections. Alternatives are the
    listed ones in order, marked and otherwise as they are. What feeds the lines is everything that
    is bought, and nothing twice. -/
theorem shoppingList_partitions (weighing : Weighing) (registry : Registry)
    (sections : List Section) :
    let listed := listedUsages sections
    let marked := listed.map (Usage.mark (circularIdentities sections))
    let ownIds := (listed.filterMap Usage.ownLine?).eraseDups
    let parentIds := (listed.filterMap Usage.parentLine?).eraseDups
    let own (id : String) := marked.filter fun u => u.ownLine? = some id
    let parts (id : String) := marked.filter fun u => u.parentLine? = some id
    let groups := (listed.filterMap Usage.group?).map (Usage.markAll (circularIdentities sections))
    (shoppingList weighing registry sections).1
        = ownIds.flatMap (fun id => alone weighing registry (own id))
          ++ parentIds.flatMap (fun id => alone weighing registry (parts id))
          ++ groups.map .alternative
      ∧ (∀ id ∈ ownIds, ∃ e : ShoppingEntry,
          alone weighing registry (own id) = [.ingredient e] ∧ e.id = id)
      ∧ (∀ id ∈ parentIds, ∃ e : ParentEntry,
          alone weighing registry (parts id) = [.parent e] ∧ e.id = id)
      ∧ (ownIds.flatMap own ++ parentIds.flatMap parts ++ groups.map Usage.alternative).Perm
          (marked.filter Usage.isBought)
      ∧ (shoppingList weighing registry sections).2.flatMap Section.ingredients = marked := by
  intro listed marked ownIds parentIds own parts groups
  have hmarked : listedUsages (markCircular sections) = marked := listedUsages_markCircular sections
  -- The lines and their order can be told before anything is marked.
  have hown : marked.filterMap Usage.ownLine? = listed.filterMap Usage.ownLine? := by
    rw [List.filterMap_map]
    exact List.filterMap_congr fun u _ => (lines_mark _ u).1
  have hparent : marked.filterMap Usage.parentLine? = listed.filterMap Usage.parentLine? := by
    rw [List.filterMap_map]
    exact List.filterMap_congr fun u _ => (lines_mark _ u).2
  have hgroups : marked.filterMap Usage.group? = groups := by
    change _ = (listed.filterMap Usage.group?).map (Usage.markAll (circularIdentities sections))
    rw [List.filterMap_map, List.map_filterMap]
    exact List.filterMap_congr fun u _ => group?_mark _ u
  refine ⟨?_, fun id hid => ?_, fun id hid => ?_, ?_, hmarked⟩
  · change mergedList weighing registry (markCircular sections) = _
    rw [mergedList_eq, hmarked, own_lines weighing, parent_lines, hown, hparent, hgroups]
  · rw [List.mem_eraseDups, ← hown] at hid
    exact alone_own_single weighing registry hid
  · rw [List.mem_eraseDups, ← hparent] at hid
    exact alone_parts_single weighing registry hid
  · have hlines := perm_lines marked
    rwa [hown, hparent, hgroups] at hlines

end Mise
