import Mise.Proofs.Shopping.Marking

/-!
# Copies of Usages

A usage that is listed exists more than once: in the list of its section and in the content of its
step, and a piece of cookware in the list of the whole recipe as well. When ingredients on cycles
are marked, the copies are visited one by one, and whether they still say the same afterwards is a
question of which ones are visited.

The ingredients of a section and the content of its steps both are. The list of cookware is not, and
for cookware there would be nothing to mark. But an alternative is listed by its first option alone,
so behind a piece of cookware there may be an ingredient. In the content of the step that ingredient
is marked, and in the list of cookware it stays as it was resolved. The two copies then differ,
unless it had been marked already, as a share of itself is.

## Main definitions

* `CopiesContent`: What the lists of a section with marks say about its content.

## Theorems

* `mark_eq_self_iff`: When marking leaves a usage as it is.
* `test_mark`: What selects the entries of a list does not look at marks.
* `contentPairs_mark`: Marked content comes from the same items.
* `copies_follow_content`: The lists of a compiled recipe against the content of its steps.
* `starterJar_copies_differ`: An entry in a list of cookware that is nowhere in the content.
-/

namespace Mise

section Marks

variable (ids : Names)

/-- Marking leaves a usage as it is exactly if each ingredient inside it that would get the mark has
    it already. -/
theorem mark_eq_self_iff (usage : Usage) :
    usage.mark ids = usage ↔ ∀ u, usage.Contains u → ids.has u.id → u.circular := by
  induction usage using Usage.induction with
  | single usage hsingle =>
      cases usage with
      | alternative options => exact absurd rfl (hsingle options)
      | ingredient u =>
          have hitem : u.mark ids = u ↔ (ids.has u.id → u.circular) := by
            by_cases hreported : ids.has u.id
            · rw [ItemUsage.mark, if_pos hreported]
              constructor
              · intro h _
                rw [← h]
              · intro h
                rw [← h hreported]
            · rw [ItemUsage.mark, if_neg hreported]
              exact ⟨fun _ h => absurd h hreported, fun _ => rfl⟩
          rw [mark_ingredient, Usage.ingredient.injEq, hitem]
          constructor
          · intro h v hv
            cases hv
            exact h
          · exact fun h => h u (.self u)
      | _ =>
          refine ⟨fun _ u hu => ?_, fun _ => rfl⟩
          cases hu
  | alternative options ih =>
      have hoptions : options.map (Usage.mark ids) = options
          ↔ ∀ option ∈ options, option.mark ids = option := by
        conv_lhs => rhs; rw [← List.map_id options]
        exact List.map_inj_left
      rw [mark_alternative, Usage.alternative.injEq, hoptions]
      constructor
      · intro h u hu
        cases hu with
        | option hmem hcontains => exact (ih _ hmem).1 (h _ hmem) u hcontains
      · exact fun h option hmem => (ih option hmem).2 fun u hu => h u (.option hmem hu)

/-- Marked content comes from the same items. -/
theorem contentPairs_mark (children : List Block) (s : Section) :
    contentPairs children (s.mark ids)
      = (contentPairs children s).map (Prod.map id (Usage.mark ids)) := by
  rw [contentPairs, steps_mark, List.zip_map_right, List.flatMap_map, contentPairs,
    List.map_flatMap]
  refine List.flatMap_congr fun pair _ => ?_
  rw [Prod.map_fst, Prod.map_snd, usagePairs, usages_mark, List.zip_map_right, usagePairs]
  rfl

/-- A test that does not look at marks selects the same usages before and after. -/
theorem selected_mark {test : Item → Usage → Bool}
    (htest : ∀ item u, test item (u.mark ids) = test item u) (pairs : List (Item × Usage)) :
    selected test (pairs.map (Prod.map id (Usage.mark ids)))
      = (selected test pairs).map (Usage.mark ids) := by
  rw [selected, List.filter_map, List.map_map, selected, List.map_map]
  have hfilter : pairs.filter ((fun pair => test pair.1 pair.2) ∘ Prod.map id (Usage.mark ids))
      = pairs.filter fun pair => test pair.1 pair.2 :=
    List.filter_congr fun pair _ => htest pair.1 pair.2
  rw [hfilter]
  rfl

/-- A test does not look at marks if it does not look at that of an ingredient, nor at the options
    of an alternative. -/
theorem test_mark {test : Item → Usage → Bool}
    (hingredient : ∀ item u circular,
      test item (.ingredient { u with circular }) = test item (.ingredient u))
    (halternative : ∀ item us us', test item (.alternative us') = test item (.alternative us))
    (item : Item) (usage : Usage) : test item (usage.mark ids) = test item usage := by
  cases usage with
  | ingredient u =>
      rcases mark_eq ids u with ⟨circular, hmark⟩
      rw [mark_ingredient, hmark]
      exact hingredient item u circular
  | alternative us =>
      rw [mark_alternative]
      exact halternative item us _
  | _ => rfl

-- An alternative is listed by the first option of its item, and not by what that was resolved to.
theorem entersIngredients_alternative (item : Item) (us us' : List Usage) :
    entersIngredients item (.alternative us') = entersIngredients item (.alternative us) := by
  cases item with
  | alternative options =>
      rcases options with _ | ⟨first, rest⟩
      · rfl
      · cases first <;> rfl
  | _ => rfl

theorem entersCookware_alternative (item : Item) (us us' : List Usage) :
    entersCookware item (.alternative us') = entersCookware item (.alternative us) := by
  cases item with
  | alternative options =>
      rcases options with _ | ⟨first, rest⟩
      · rfl
      · cases first <;> rfl
  | _ => rfl

theorem entersIngredients_mark (item : Item) (usage : Usage) :
    entersIngredients item (usage.mark ids) = entersIngredients item usage :=
  test_mark ids (fun item _ _ => by cases item <;> rfl) entersIngredients_alternative item usage

theorem entersCookware_mark (item : Item) (usage : Usage) :
    entersCookware item (usage.mark ids) = entersCookware item usage :=
  test_mark ids (fun item _ _ => by cases item <;> rfl) entersCookware_alternative item usage

end Marks

/-- What the lists of a section say about its content after a pass has marked the identities. Each
    usage in the content comes from one item in the steps, in order, and the ingredients are what
    their test selects from these pairs. What the test for cookware selects are the entries in the
    list of cookware, each of them marked, so the list itself is out of step unless there was
    nothing left to mark. -/
structure CopiesContent (ids : Names) (children : List Block) (s : Section) : Prop where
  items : (contentPairs children s).map Prod.fst
    = (directSteps children).flatMap fun node => node.items.filter Item.isUsed
  usages : (contentPairs children s).map Prod.snd = s.contentUsages
  ingredients : s.ingredients = selected entersIngredients (contentPairs children s)
  cookware : s.cookware.map (Usage.mark ids) = selected entersCookware (contentPairs children s)
  inStep : s.cookware = selected entersCookware (contentPairs children s)
    ↔ ∀ entry ∈ s.cookware, ∀ u, entry.Contains u → ids.has u.id → u.circular

/-- Lists that are projections of the content become such copies when the section is marked. -/
theorem ListsContent.copies {children : List Block} {s : Section} (h : ListsContent children s)
    (ids : Names) : CopiesContent ids children (s.weighed.mark ids) := by
  have hpairs : contentPairs children (s.weighed.mark ids)
      = (contentPairs children s).map (Prod.map id (Usage.mark ids)) :=
    contentPairs_mark ids children s.weighed
  have hcookware : s.cookware.map (Usage.mark ids)
      = selected entersCookware (contentPairs children (s.weighed.mark ids)) := by
    rw [hpairs, selected_mark ids (entersCookware_mark ids), ← h.cookware]
  refine ⟨?_, ?_, ?_, hcookware, ?_⟩
  · rw [hpairs, List.map_map, ← h.items]
    rfl
  · rw [hpairs, List.map_map, contentUsages_mark]
    have husages : s.weighed.contentUsages = s.contentUsages := rfl
    rw [husages, ← h.usages, List.map_map]
    rfl
  · rw [hpairs, selected_mark ids (entersIngredients_mark ids), ← h.ingredients, Section.mark,
      Usage.markAll_eq_map]
    rfl
  · -- The list of cookware is the same as before the pass.
    have hlist : (s.weighed.mark ids).cookware = s.cookware := rfl
    rw [← hcookware, hlist]
    conv_lhs => lhs; rw [← List.map_id s.cookware]
    rw [List.map_inj_left]
    refine forall₂_congr fun entry _ => ?_
    rw [← mark_eq_self_iff, id, eq_comm]

/-- In a compiled recipe the lists of ingredients are projections of the content of the steps, marks
    included, and the lists of cookware are projections of it except for marks. An entry for
    cookware differs from its usage in the content exactly if an ingredient inside it lies on a
    cycle that is reported and has no mark yet. The cookware of the whole recipe is taken from those
    lists. -/
theorem copies_follow_content (o : CompileOptions) (r : Recipe) :
    let compiled := compileRecipe o r
    List.Forall₂ (fun node s => CopiesContent (circularIdentities compiled.sections) node.2 s)
        (outerSections (sectioned r.children)) compiled.sections
      ∧ compiled.cookware.Sublist (compiled.sections.flatMap Section.cookware) := by
  intro compiled
  let weighing : Weighing := ⟨o.overridesFor r, o.source⟩
  let weighed := (compileSections weighing r.children).sections.map Section.weighed
  have hsections : compiled.sections = weighed.map (·.mark (circularIdentities weighed)) := rfl
  have hids : circularIdentities compiled.sections = circularIdentities weighed :=
    circularIdentities_markCircular weighed
  refine ⟨?_, List.filter_sublist⟩
  have hcopies := compileSections_forall₂ weighing
    (fun node s => CopiesContent (circularIdentities weighed) node.2
      (s.weighed.mark (circularIdentities weighed)))
    (fun header children walk =>
      (listsContent_compileSection weighing header children walk).copies _)
    r.children
  rw [hids, hsections, List.map_map, List.forall₂_map_right_iff]
  exact hcopies

/-- Bread that is raised with a jar of bought starter or one's own, which is fed with a fifth of
    itself. -/
def starterJar : Recipe where
  kind := recipeKind
  info := Dictionary.empty
  children := [.step ⟨none, [
    .alternative [.cookware ⟨"jar", [], none, none, none⟩,
      .ingredient ⟨"starter", [], none, none, none, none⟩],
    .ingredient ⟨"starter", [], some (.share ⟨20.0, "starter", .ingredient⟩), none, none, none⟩]⟩]

/-- The jar is listed with a starter that has no mark, and in the step the starter has one. -/
theorem starterJar_copies_differ :
    let compiled := compileRecipe .default starterJar
    ∃ s ∈ compiled.sections, ∃ entry ∈ s.cookware,
      entry ∈ compiled.cookware ∧ entry ∉ s.contentUsages := by
  intro compiled
  let o := CompileOptions.default
  let weighing : Weighing := ⟨o.overridesFor starterJar, o.source⟩
  let s := (compileSection weighing noHeader starterJar.children .start).1
  let ids := circularIdentities [s.weighed]
  have hcompiled : compiled.sections = [s.weighed.mark ids] := rfl
  have hresolved : ∃ jar own fed,
      s.cookware = [.alternative [.cookware jar, .ingredient own]]
        ∧ s.contentUsages = [.alternative [.cookware jar, .ingredient own], .ingredient fed]
        ∧ s.ingredients = [.ingredient fed]
        ∧ own.id = slugify "starter" ∧ own.circular = false
        ∧ fed.id = slugify "starter" ∧ fed.dependencies = [slugify "starter"] :=
    ⟨_, _, _, rfl, rfl, rfl, rfl, rfl, rfl, rfl⟩
  rcases hresolved with ⟨jar, own, fed, hcookware, hcontent, hingredients, hown, hplain, hfed, hof⟩
  have hreported : ids.has (slugify "starter") := by
    refine reported_of_dependsOn_self ⟨s.weighed, List.mem_cons_self, .ingredient fed, ?_, fed,
      .self fed, hfed, ?_⟩
    · exact hingredients ▸ List.mem_cons_self
    · exact hof ▸ List.mem_cons_self
  let entry := Usage.alternative [.cookware jar, .ingredient own]
  have hlisted : entry ∈ (s.weighed.mark ids).cookware := by
    change entry ∈ s.cookware
    rw [hcookware]
    exact List.mem_cons_self
  refine ⟨s.weighed.mark ids, hcompiled ▸ List.mem_cons_self, entry, hlisted, ?_, fun hmem => ?_⟩
  · change entry ∈ recipeCookware compiled.sections
    rw [hcompiled, recipeCookware, List.flatMap_singleton]
    exact List.mem_filter.2 ⟨hlisted, rfl⟩
  · have husages : s.weighed.contentUsages = s.contentUsages := rfl
    rw [contentUsages_mark, husages, hcontent, List.map_cons, List.map_singleton, List.mem_cons,
      List.mem_singleton, mark_ingredient] at hmem
    rcases hmem with hsame | hother
    · -- The alternative would not have changed, so its starter would have had the mark before.
      have hmarked := (mark_eq_self_iff ids entry).1 hsame.symm own
        (.option (List.mem_cons_of_mem _ List.mem_cons_self) (.self own)) (hown ▸ hreported)
      rw [hplain] at hmarked
      exact absurd hmarked Bool.false_ne_true
    · exact absurd hother (by simp only [entry, reduceCtorEq, not_false_eq_true])

end Mise
