import Mise.Ingredient.Staple
import Mise.Proofs.Dependency.Cycle
import Mise.Proofs.Resolution.Single
import Mise.Proofs.Schedule.Timeline
import Mise.Proofs.Shopping.Partition
import Mise.Proofs.Usage.Form

/-!
# Marks

Before usages are merged, every ingredient whose identity is reported as lying on a cycle is marked.
This is the only thing that making a shopping list does to the sections. What has been marked is
read again at once, by the tallies, and it would be read by a second pass. The second pass finds
everything as it is: a mark hides neither an identity nor a dependency from the search, so the same
identities are reported, and marking an ingredient twice is marking it once.

A compiled ingredient may carry the mark already, because a share of itself gets it when it is
resolved. Such an ingredient depends on itself, and whatever does so is reported. After the pass the
mark therefore says exactly that an identity has been reported.

## Main definitions

* `Usage.Marked`, `Section.Marked`: What marking may do to a usage and to a section.

## Theorems

* `marked_mark`: Marking does this and nothing else.
* `circularIdentities_markCircular`: Marked sections have the same circular identities.
* `markCircular_markCircular`: Marking twice is marking once.
* `dependsOn_self_of_circular`: What is marked before the pass depends on itself.
* `marks_report_cycles`: What a pass over the sections leaves behind.
-/

namespace Mise

/-- What marking may do to a usage: an ingredient with one of the identities gets the mark, options
    are marked one by one, and everything else stays as it is. -/
inductive Usage.Marked (ids : Names) : Usage → Usage → Prop
  | onCycle {u : ItemUsage} (reported : ids.has u.id) :
      Marked ids (.ingredient u) (.ingredient { u with circular := true })
  | ingredient {u : ItemUsage} (unreported : ¬ ids.has u.id) :
      Marked ids (.ingredient u) (.ingredient u)
  | alternative {us us' : List Usage} (options : List.Forall₂ (Marked ids) us us') :
      Marked ids (.alternative us) (.alternative us')
  | cookware (u : ItemUsage) : Marked ids (.cookware u) (.cookware u)
  | mention (m : MentionUsage) : Marked ids (.mention m) (.mention m)
  | timer (t : TimerUsage) : Marked ids (.timer t) (.timer t)
  | temperature (t : TemperatureUsage) : Marked ids (.temperature t) (.temperature t)
  | comment (c : Comment) : Marked ids (.comment c) (.comment c)

/-- A text is not marked, and a usage in the content is marked as any other. -/
inductive StepContent.Marked (ids : Names) : StepContent → StepContent → Prop
  | text (s : String) : Marked ids (.text s) (.text s)
  | usage {u u' : Usage} (marked : u.Marked ids u') : Marked ids (.usage u) (.usage u')

/-- Of a step only the content is marked, and a comment has none. -/
inductive StepBlock.Marked (ids : Names) : StepBlock → StepBlock → Prop
  | step {s : Step} {content : List StepContent}
      (marked : List.Forall₂ (StepContent.Marked ids) s.content content) :
      Marked ids (.step s) (.step { s with content })
  | comment (c : Comment) : Marked ids (.comment c) (.comment c)

/-- Of a section only the ingredients and the content of steps are marked. -/
inductive Section.Marked (ids : Names) : Section → Section → Prop
  | mk {s : Section} {ingredients : List Usage} {blocks : List StepBlock}
      (listed : List.Forall₂ (Usage.Marked ids) s.ingredients ingredients)
      (content : List.Forall₂ (StepBlock.Marked ids) s.blocks blocks) :
      Marked ids s { s with ingredients, blocks }

/-- An ingredient with the mark, if its identity is one of those given. -/
def ItemUsage.mark (ids : Names) (u : ItemUsage) : ItemUsage :=
  if ids.has u.id then { u with circular := true } else u

section Marks

variable (ids : Names)

theorem mark_ingredient (u : ItemUsage) :
    (Usage.ingredient u).mark ids = .ingredient (u.mark ids) := by
  rw [Usage.mark, ItemUsage.mark]

theorem mark_alternative (options : List Usage) :
    (Usage.alternative options).mark ids = .alternative (options.map (Usage.mark ids)) := by
  rw [Usage.mark, Usage.markAll_eq_map]

-- Nothing of an ingredient is touched but the mark itself.
theorem mark_eq (u : ItemUsage) : ∃ circular, u.mark ids = { u with circular } := by
  unfold ItemUsage.mark
  split
  · exact ⟨true, rfl⟩
  · exact ⟨u.circular, rfl⟩

theorem edges_mark (u : ItemUsage) :
    (u.mark ids).id = u.id ∧ (u.mark ids).dependencies = u.dependencies := by
  rcases mark_eq ids u with ⟨circular, hmark⟩
  rw [hmark]
  exact ⟨rfl, rfl⟩

theorem forall₂_map {α β : Type} {R : α → β → Prop} {f : α → β} {as : List α}
    (h : ∀ a ∈ as, R a (f a)) : List.Forall₂ R as (as.map f) := by
  rw [List.forall₂_map_right_iff, List.forall₂_same]
  exact h

/-- Marking a usage does what it may do. -/
theorem marked_mark (usage : Usage) : usage.Marked ids (usage.mark ids) := by
  induction usage using Usage.induction with
  | single usage hsingle =>
      cases usage with
      | ingredient u =>
          rw [mark_ingredient, ItemUsage.mark]
          by_cases hreported : ids.has u.id
          · rw [if_pos hreported]
            exact .onCycle hreported
          · rw [if_neg hreported]
            exact .ingredient hreported
      | alternative options => exact absurd rfl (hsingle options)
      | cookware u => exact .cookware u
      | mention m => exact .mention m
      | timer t => exact .timer t
      | temperature t => exact .temperature t
      | comment c => exact .comment c
  | alternative options ih =>
      rw [mark_alternative]
      exact .alternative (forall₂_map ih)

theorem marked_mark_block (block : StepBlock) : block.Marked ids (block.mark ids) := by
  cases block with
  | comment c => exact .comment c
  | step s =>
      refine .step (forall₂_map fun content _ => ?_)
      cases content with
      | text s => exact .text s
      | usage u => exact .usage (marked_mark ids u)

theorem marked_mark_section (s : Section) : s.Marked ids (s.mark ids) := by
  rw [Section.mark, Usage.markAll_eq_map]
  exact .mk (forall₂_map fun u _ => marked_mark ids u)
    (forall₂_map fun block _ => marked_mark_block ids block)

/-- Marking a usage twice is marking it once. -/
theorem mark_mark (usage : Usage) : (usage.mark ids).mark ids = usage.mark ids := by
  induction usage using Usage.induction with
  | single usage hsingle =>
      cases usage with
      | ingredient u =>
          rw [mark_ingredient, mark_ingredient]
          have hitem : (u.mark ids).mark ids = u.mark ids := by
            rw [ItemUsage.mark, (edges_mark ids u).1]
            by_cases hreported : ids.has u.id
            · rw [if_pos hreported, ItemUsage.mark, if_pos hreported]
            · rw [if_neg hreported]
          rw [hitem]
      | alternative options => exact absurd rfl (hsingle options)
      | _ => rfl
  | alternative options ih =>
      rw [mark_alternative, mark_alternative, List.map_map]
      exact congrArg Usage.alternative (List.map_congr_left ih)

theorem mark_mark_section (s : Section) : (s.mark ids).mark ids = s.mark ids := by
  have hingredients : (s.ingredients.map (Usage.mark ids)).map (Usage.mark ids)
      = s.ingredients.map (Usage.mark ids) := by
    rw [List.map_map]
    exact List.map_congr_left fun u _ => mark_mark ids u
  have hcontent : ∀ content : StepContent, (content.mark ids).mark ids = content.mark ids := by
    intro content
    cases content with
    | text s => rfl
    | usage u => exact congrArg StepContent.usage (mark_mark ids u)
  have hblock : ∀ block : StepBlock, (block.mark ids).mark ids = block.mark ids := by
    intro block
    cases block with
    | comment c => rfl
    | step step =>
        have hcontents : (step.content.map (·.mark ids)).map (·.mark ids)
            = step.content.map (·.mark ids) := by
          rw [List.map_map]
          exact List.map_congr_left fun content _ => hcontent content
        simp only [StepBlock.mark, Step.mark, hcontents]
  have hblocks : (s.blocks.map (·.mark ids)).map (·.mark ids) = s.blocks.map (·.mark ids) := by
    rw [List.map_map]
    exact List.map_congr_left fun block _ => hblock block
  simp only [Section.mark, Usage.markAll_eq_map, hingredients, hblocks]

/-- The ingredients inside a marked usage are those inside the usage, marked. -/
theorem allIngredients_mark (usage : Usage) :
    (usage.mark ids).allIngredients = usage.allIngredients.map (ItemUsage.mark ids) := by
  induction usage using Usage.induction with
  | single usage hsingle =>
      cases usage with
      | ingredient u => rw [mark_ingredient, Usage.allIngredients, Usage.allIngredients]; rfl
      | alternative options => exact absurd rfl (hsingle options)
      | _ => rfl
  | alternative options ih =>
      rw [mark_alternative, Usage.allIngredients, Usage.allIngredients, Usage.allIngredientsOf_eq,
        Usage.allIngredientsOf_eq, List.flatMap_map, List.map_flatMap]
      exact List.flatMap_congr ih

-- Opening groups and marking what is in them go together.
theorem singles_mark (usage : Usage) :
    (usage.mark ids).singles = usage.singles.map (Usage.mark ids) := by
  induction usage using Usage.induction with
  | single usage hsingle =>
      cases usage with
      | alternative options => exact absurd rfl (hsingle options)
      | _ => rfl
  | alternative options ih =>
      rw [mark_alternative, Usage.singles, Usage.singles, Usage.singlesOf_eq_flatMap,
        Usage.singlesOf_eq_flatMap, List.flatMap_map, List.map_flatMap]
      exact List.flatMap_congr ih

theorem usages_mark (step : Step) : (step.mark ids).usages = step.usages.map (Usage.mark ids) := by
  rw [Step.usages, Step.mark, List.filterMap_map, Step.usages, List.map_filterMap]
  refine List.filterMap_congr fun content _ => ?_
  cases content <;> rfl

theorem contentUsages_mark (s : Section) :
    (s.mark ids).contentUsages = s.contentUsages.map (Usage.mark ids) := by
  rw [Section.contentUsages, steps_mark, List.flatMap_map, Section.contentUsages, List.map_flatMap]
  exact List.flatMap_congr fun step _ => usages_mark ids step

theorem contains_mark {usage : Usage} {v : ItemUsage} (h : (usage.mark ids).Contains v) :
    ∃ u, usage.Contains u ∧ v = u.mark ids := by
  rw [← Usage.mem_allIngredients, allIngredients_mark, List.mem_map] at h
  rcases h with ⟨u, hu, hv⟩
  exact ⟨u, (usage.mem_allIngredients u).1 hu, hv.symm⟩

end Marks

section Passes

theorem listedIngredients_markCircular (sections : List Section) :
    listedIngredients (markCircular sections)
      = (listedIngredients sections).map (ItemUsage.mark (circularIdentities sections)) := by
  rw [listedIngredients, listedIngredients, markCircular, List.flatMap_map, List.map_flatMap]
  refine List.flatMap_congr fun s _ => ?_
  rw [Section.mark, Usage.markAll_eq_map, Usage.allIngredientsOf_eq, Usage.allIngredientsOf_eq,
    List.flatMap_map, List.map_flatMap]
  exact List.flatMap_congr fun u _ => allIngredients_mark _ u

/-- Marked sections have the same circular identities. -/
theorem circularIdentities_markCircular (sections : List Section) :
    circularIdentities (markCircular sections) = circularIdentities sections := by
  -- The graph is made of identities and dependencies, and a mark leaves both alone.
  have hgraph : DependencyGraph.ofSections (markCircular sections)
      = DependencyGraph.ofSections sections := by
    rw [DependencyGraph.ofSections, listedIngredients_markCircular, List.foldl_map,
      DependencyGraph.ofSections]
    congr 1
    funext g u
    rcases edges_mark (circularIdentities sections) u with ⟨hid, hdependencies⟩
    rw [DependencyGraph.addItem, DependencyGraph.addItem, hid, hdependencies]
  rw [circularIdentities, hgraph, circularIdentities]

/-- Marking twice is marking once. -/
theorem markCircular_markCircular (sections : List Section) :
    markCircular (markCircular sections) = markCircular sections := by
  rw [markCircular, circularIdentities_markCircular, markCircular, List.map_map]
  exact List.map_congr_left fun s _ => mark_mark_section _ s

end Passes

section Compiled

theorem wellFormed_ingredients (weighing : Weighing) (blocks : List Block) :
    ∀ s ∈ (compileSections weighing blocks).sections, ∀ u ∈ s.ingredients, u.WellFormed := by
  have hcontent := compileSections_forall weighing (fun s => ∀ u ∈ s.contentUsages, u.WellFormed)
    (wellFormed_contentUsages weighing) blocks
  intro s hs u hu
  exact hcontent s hs u (mem_content_of_listed weighing blocks s hs u hu)

theorem ingredientForm_of_contains {usage : Usage} {u : ItemUsage} (hform : usage.WellFormed)
    (h : usage.Contains u) : u.IngredientForm := by
  induction h with
  | self u =>
      cases hform with
      | ingredient form => exact form
  | option hmem _ ih =>
      cases hform with
      | alternative hoptions => exact ih (hoptions _ hmem)

/-- What is marked before the pass depends on itself. -/
theorem dependsOn_self_of_circular (weighing : Weighing) (blocks : List Block) :
    let sections := (compileSections weighing blocks).sections
    ∀ s ∈ sections, ∀ listed ∈ s.ingredients, ∀ u : ItemUsage, listed.Contains u →
      u.circular → DependsOn sections u.id u.id := by
  intro sections s hs listed hlisted u hu hcircular
  have hlist := wellFormed_ingredients weighing blocks s hs listed hlisted
  have hform := ingredientForm_of_contains hlist hu
  refine ⟨s, hs, listed, hlisted, u, hu, rfl, ?_⟩
  cases hformula : u.formula with
  | none =>
      -- Only a share gets the mark when it is resolved.
      rw [(hform.plain hformula).2] at hcircular
      exact absurd hcircular Bool.false_ne_true
  | some f =>
      have hresolved := hform.resolved f hformula
      rw [hresolved.dependencies, hresolved.circular.1 hcircular]
      exact List.mem_singleton.2 rfl

theorem reported_of_dependsOn_self {sections : List Section} {id : String}
    (h : DependsOn sections id id) : (circularIdentities sections).has id :=
  Search.reported_of_loop ((edge_iff_dependsOn sections id id).2 h)

end Compiled

/-- A pass over sections leaves them as they are, except that ingredients with an identity that is
    reported get the mark, those inside alternatives included. Once more, it leaves everything as it
    is and makes the same list. In compiled sections the listed ingredients with the mark are then
    exactly those with an identity that is reported. -/
theorem marks_report_cycles :
    (∀ (weighing : Weighing) (registry : Registry) (sections : List Section),
      let after := (shoppingList weighing registry sections).2
      List.Forall₂ (Section.Marked (circularIdentities sections)) sections after
        ∧ shoppingList weighing registry after = shoppingList weighing registry sections)
    ∧ ∀ (weighing weighing' : Weighing) (registry : Registry) (blocks : List Block),
      let sections := (compileSections weighing blocks).sections
      ∀ s ∈ (shoppingList weighing' registry sections).2, ∀ listed ∈ s.ingredients,
        ∀ u : ItemUsage, listed.Contains u →
          (u.circular ↔ (circularIdentities sections).has u.id) := by
  constructor
  · intro weighing registry sections after
    refine ⟨forall₂_map fun s _ => marked_mark_section _ s, ?_⟩
    change shoppingList weighing registry (markCircular sections) = _
    rw [shoppingList, markCircular_markCircular, shoppingList]
  · intro weighing weighing' registry blocks sections s hs listed hlisted v hv
    let ids := circularIdentities sections
    -- The section, the listed usage and the ingredient in it are marked versions of others.
    rcases List.mem_map.1 hs with ⟨s', hs', rfl⟩
    have hlisted' : listed ∈ s'.ingredients.map (Usage.mark ids) := by
      rw [← Usage.markAll_eq_map]
      exact hlisted
    rcases List.mem_map.1 hlisted' with ⟨usage, husage, rfl⟩
    rcases contains_mark ids hv with ⟨u, hu, rfl⟩
    rw [(edges_mark ids u).1]
    by_cases hreported : ids.has u.id
    · rw [ItemUsage.mark, if_pos hreported]
      exact ⟨fun _ => hreported, fun _ => rfl⟩
    · rw [ItemUsage.mark, if_neg hreported]
      refine ⟨fun hcircular => ?_, fun h => absurd h hreported⟩
      exact reported_of_dependsOn_self
        (dependsOn_self_of_circular weighing blocks s' hs' usage husage u hu hcircular)

/-- A starter that is fed with a fifth of itself. -/
def fedStarter : List Block :=
  [.step ⟨none, [
    .ingredient ⟨"starter", [], some (.measured ⟨some (.single 100.0 none), some "g", false⟩), none,
      none, none⟩,
    .ingredient ⟨"starter", [], some (.share ⟨20.0, "starter", .ingredient⟩), none, none, none⟩]⟩]

theorem fedStarter_reported :
    let weighing : Weighing := ⟨Dictionary.empty, stapleSource⟩
    let sections := (compileSections weighing fedStarter).sections
    ∃ s ∈ (shoppingList weighing .empty sections).2, ∃ u, .ingredient u ∈ s.ingredients
      ∧ u.id = slugify "starter" ∧ u.circular
      ∧ (circularIdentities sections).has (slugify "starter") := by
  intro weighing sections
  let ids := circularIdentities sections
  let s := (compileSection weighing noHeader fedStarter .start).1
  have hs : s.mark ids ∈ (shoppingList weighing .empty sections).2 :=
    List.mem_map_of_mem (List.mem_singleton.2 rfl)
  -- The share has its mark before the pass, which can only give it once more.
  have hshare : ∃ u, s.ingredients[1]? = some (.ingredient u) ∧ u.id = slugify "starter"
      ∧ u.circular = true := ⟨_, rfl, rfl, rfl⟩
  rcases hshare with ⟨u, hu, hid, hcircular⟩
  have hlisted : Usage.ingredient (u.mark ids) ∈ (s.mark ids).ingredients := by
    rw [← mark_ingredient, Section.mark, Usage.markAll_eq_map]
    exact List.mem_map_of_mem (List.mem_of_getElem? hu)
  have hmarked : (u.mark ids).circular := by
    unfold ItemUsage.mark
    split
    · rfl
    · exact hcircular
  have hid' : (u.mark ids).id = slugify "starter" := (edges_mark ids u).1.trans hid
  have hiff := marks_report_cycles.2 weighing weighing .empty fedStarter (s.mark ids) hs _ hlisted
    (u.mark ids) (.self _)
  exact ⟨_, hs, _, hlisted, hid', hmarked, hid' ▸ hiff.1 hmarked⟩

end Mise
