import Mise.Ingredient.Staple
import Mise.Proofs.Preparation.Tracking

/-!
# Declared and Weighed

A preparation is declared by a step or by a section, and when that is complete the preparation
should have a weight. A section declares one preparation at most, and that one is weighed. A step
may declare several, and it keeps only the last of them in mind: the others are declared, and stay
without a weight however often the step is complete.

A share of a preparation is found if the preparation was weighed before. So a share of one that was
declared first of two is not found, and is warned of as one that nobody has declared. Where no step
declares two preparations there is no difference between the two.

The moments of a document are its history of preparations with the declarations left in: a single
item is resolved, or a step or a section is complete.

## Main definitions

* `Moment`: A single item is resolved, or a step or a section is complete.
* `Moment.declares`, `Moment.weighs?`: The preparations that are declared and weighed then.
* `documentMoments`: The moments of a document, in order.

## Theorems

* `events_documentMoments`: The history of preparations is what is left of the moments.
* `isSome_latestWeight`: A preparation has a weight if one of the moments weighs it.
* `declared_iff_weighed`: What is declared is weighed where no step declares two preparations.
* `shares_found_if_weighed`: A share is found if its preparation was weighed before.
* `shadowedDough_not_found`: A dough that is declared, never weighed and not found.
-/

namespace Mise

/-- What happens on the way through a document: a single item is resolved, or a step or a section is
    complete, with the names of the preparations that it declares and with what it weighs. -/
inductive Moment where
  | resolved (item : Item) (usage : Usage)
  | completed (declared : List String) (weight : PreparationWeight)

namespace Moment

/-- The identities of the preparations that are declared by what is complete. -/
def declares : Moment → List String
  | .resolved .. => []
  | .completed declared _ => declared.map slugify

/-- The identity of the preparation that is weighed. -/
def weighs? : Moment → Option String
  | .resolved .. => none
  | .completed declared _ => declared.getLast?.map slugify

/-- What happens to preparations at a moment: an item uses one, or a weight is recorded. -/
def event? : Moment → Option PreparationEvent
  | .resolved item usage => item.drawsOn?.map fun id => .use id item usage
  | .completed declared weight => declared.getLast?.map fun name => .record (slugify name) weight

/-- The item that uses a preparation at a moment. -/
def user? (moment : Moment) : Option Item :=
  moment.event?.bind PreparationEvent.user?

/-- The warning about a preparation that is not found at a moment: a share that is a ghost is worth
    one. -/
def notFound? (moment : Moment) : Option Warning :=
  moment.event?.bind PreparationEvent.warning?

end Moment

/-- The moments of a step: its single items are resolved, and then it is complete with all that they
    declare. -/
def stepMoments (node : StepNode) (step : Step) : List Moment :=
  (singlePairs node.items step.usages).map (fun pair => .resolved pair.1 pair.2)
    ++ [.completed ((Item.singlesOf node.items).filterMap Item.declared?) (stepWeight step.content)]

/-- The moments of a section: those of its steps, and then it is complete with what it produces. -/
def sectionMoments (header : SectionHeader) (children : List Block) (s : Section) : List Moment :=
  ((directSteps children).zip s.steps).flatMap (fun pair => stepMoments pair.1 pair.2)
    ++ [.completed header.produces.toList (sectionWeight s.ingredients)]

/-- The moments of a document: those of its sections. -/
def documentMoments (weighing : Weighing) (blocks : List Block) : List Moment :=
  (sectionPairs weighing blocks).flatMap fun pair => sectionMoments pair.1.1 pair.1.2 pair.2

theorem events_stepMoments (node : StepNode) (step : Step) :
    (stepMoments node step).filterMap Moment.event? = stepEvents node step := by
  rw [stepMoments, stepEvents, List.filterMap_append, List.filterMap_map, usesIn,
    List.filterMap_cons, lastDeclared]
  cases hlast : ((Item.singlesOf node.items).filterMap Item.declared?).getLast? with
  | none =>
      simp only [Moment.event?, hlast, Option.map_none, Option.toList_none]
      rfl
  | some name =>
      simp only [Moment.event?, hlast, Option.map_some, Option.toList_some]
      rfl

theorem events_sectionMoments (header : SectionHeader) (children : List Block) (s : Section) :
    (sectionMoments header children s).filterMap Moment.event?
      = sectionEvents header children s := by
  rw [sectionMoments, sectionEvents, List.filterMap_append, List.filterMap_flatMap]
  simp only [events_stepMoments]
  cases header.produces <;> rfl

/-- The history of preparations is what is left of the moments. -/
theorem events_documentMoments (weighing : Weighing) (blocks : List Block) :
    (documentMoments weighing blocks).filterMap Moment.event?
      = preparationHistory weighing blocks := by
  rw [documentMoments, preparationHistory, List.filterMap_flatMap]
  simp only [events_sectionMoments]

-- The record of a moment is that of the preparation it weighs.
theorem weight?_event (moment : Moment) (id : String) :
    (moment.event?.bind (PreparationEvent.weight? id)).isSome ↔ moment.weighs? = some id := by
  cases moment with
  | resolved item usage =>
      simp only [Moment.event?, Moment.weighs?, reduceCtorEq, iff_false]
      cases item.drawsOn? with
      | none => exact Bool.false_ne_true
      | some used => exact Bool.false_ne_true
  | completed declared weight =>
      simp only [Moment.event?, Moment.weighs?]
      cases declared.getLast? with
      | none => exact iff_of_false Bool.false_ne_true (Option.some_ne_none id).symm
      | some name =>
          simp only [Option.map_some, Option.bind_some, PreparationEvent.weight?,
            Option.some.injEq]
          by_cases h : id = slugify name
          · rw [if_pos h, h]
            exact iff_of_true rfl rfl
          · rw [if_neg h]
            exact iff_of_false Bool.false_ne_true fun hsame => h hsame.symm

/-- A preparation has a weight if one of the moments so far weighs it. -/
theorem isSome_latestWeight (id : String) (moments : List Moment) :
    (latestWeight id (moments.filterMap Moment.event?)).isSome
      ↔ id ∈ moments.filterMap Moment.weighs? := by
  rw [latestWeight, List.filterMap_filterMap, List.getLast?_isSome, List.mem_filterMap]
  constructor
  · intro hne
    rcases List.exists_mem_of_ne_nil _ hne with ⟨weight, hmem⟩
    rcases List.mem_filterMap.1 hmem with ⟨moment, hmoment, hweight⟩
    exact ⟨moment, hmoment, (weight?_event moment id).1 (Option.isSome_of_eq_some hweight)⟩
  · rintro ⟨moment, hmoment, hweighs⟩
    rcases Option.isSome_iff_exists.1 ((weight?_event moment id).2 hweighs) with ⟨weight, hweight⟩
    exact List.ne_nil_of_mem (List.mem_filterMap.2 ⟨moment, hmoment, hweight⟩)

theorem mem_declares_of_weighs {moment : Moment} {id : String} (h : moment.weighs? = some id) :
    id ∈ moment.declares := by
  cases moment with
  | resolved item usage => exact absurd h.symm (Option.some_ne_none id)
  | completed declared weight =>
      rcases Option.map_eq_some_iff.1 h with ⟨name, hlast, rfl⟩
      exact List.mem_map_of_mem (List.mem_of_getLast? hlast)

-- What declares something weighs something.
theorem exists_weighs_of_declares {moment : Moment} {id : String} (h : id ∈ moment.declares) :
    ∃ weighed, moment.weighs? = some weighed := by
  cases moment with
  | resolved item usage => exact absurd h List.not_mem_nil
  | completed declared weight =>
      have hsome : declared.getLast?.isSome :=
        List.getLast?_isSome.2 fun hnil => absurd (hnil ▸ h) List.not_mem_nil
      rcases Option.isSome_iff_exists.1 hsome with ⟨name, hlast⟩
      exact ⟨slugify name, by rw [Moment.weighs?, hlast, Option.map_some]⟩

/-- What is declared is weighed, and nothing else is, where no step and no section declares two
    preparations. -/
theorem declared_iff_weighed {moments : List Moment}
    (h : ∀ moment ∈ moments, ∀ id ∈ moment.declares, ∀ other ∈ moment.declares, id = other)
    (id : String) :
    id ∈ moments.flatMap Moment.declares ↔ id ∈ moments.filterMap Moment.weighs? := by
  rw [List.mem_flatMap, List.mem_filterMap]
  constructor
  · rintro ⟨moment, hmoment, hdeclares⟩
    rcases exists_weighs_of_declares hdeclares with ⟨weighed, hweighs⟩
    have hsame := h moment hmoment id hdeclares weighed (mem_declares_of_weighs hweighs)
    exact ⟨moment, hmoment, hsame ▸ hweighs⟩
  · rintro ⟨moment, hmoment, hweighs⟩
    exact ⟨moment, hmoment, mem_declares_of_weighs hweighs⟩

-- What a share of a preparation shows is whether there was a weight.
theorem Draws.isGhost_iff {i : IngredientItem} {u : ItemUsage} {weight : Option PreparationWeight}
    (h : Draws (.ingredient i) (.ingredient u) weight) : u.isGhost ↔ ¬ weight.isSome := by
  cases h with
  | share _ _ _ known => simp only [known, Option.isSome_some, Bool.false_eq_true, not_true]
  | ghost _ _ ghost => simp only [ghost, Option.isSome_none, Bool.false_eq_true, not_false_eq_true]

theorem isGhost_iff_not_weighed (weighing : Weighing) (blocks : List Block)
    {before after : List Moment} {i : IngredientItem} {s : Share} {u : ItemUsage}
    (hsplit : documentMoments weighing blocks
      = before ++ .resolved (.ingredient i) (.ingredient u) :: after)
    (hquantity : i.quantity = some (.share s)) (hof : s.of = .preparation) :
    u.isGhost ↔ slugify s.target ∉ before.filterMap Moment.weighs? := by
  have hdraws : (Item.ingredient i).drawsOn? = some (slugify s.target) := by
    rcases s with ⟨percent, target, kind⟩
    cases hof
    rw [Item.drawsOn?, hquantity]
  have hevent : (Moment.resolved (.ingredient i) (.ingredient u)).event?
      = some (.use (slugify s.target) (.ingredient i) (.ingredient u)) := by
    rw [Moment.event?, hdraws, Option.map_some]
  have hhistory : preparationHistory weighing blocks = before.filterMap Moment.event?
      ++ .use (slugify s.target) (.ingredient i) (.ingredient u)
        :: after.filterMap Moment.event? := by
    rw [← events_documentMoments, hsplit, List.filterMap_append,
      List.filterMap_cons_some hevent]
  have htracks := tracks_compileSections weighing blocks
  rw [(htracks.faithful _ _ _ _ _ hhistory).isGhost_iff, isSome_latestWeight]

/-- A share of a preparation is found if a step or a section that is complete has weighed the
    preparation, and is a ghost with a warning otherwise. A section weighs what it produces, and a
    step the last of the preparations that it declares. So if none declares two, a share is found
    just if its preparation was declared by what is complete, and what was declared has a weight
    from then on. -/
theorem shares_found_if_weighed (weighing : Weighing) (blocks : List Block) :
    let moments := documentMoments weighing blocks
    moments.filterMap Moment.user? = preparationUsers blocks
      ∧ preparationWarnings (compileSections weighing blocks).warnings
        = moments.filterMap Moment.notFound?
      ∧ (∀ (before after : List Moment) (i : IngredientItem) (s : Share) (u : ItemUsage),
          moments = before ++ .resolved (.ingredient i) (.ingredient u) :: after →
          i.quantity = some (.share s) → s.of = .preparation →
          (u.isGhost ↔ slugify s.target ∉ before.filterMap Moment.weighs?))
      ∧ (∀ id, ((finalWalk weighing blocks).scope.weight? id).isSome
          ↔ id ∈ moments.filterMap Moment.weighs?)
      ∧ ((∀ moment ∈ moments, ∀ id ∈ moment.declares, ∀ other ∈ moment.declares, id = other) →
          ∀ before : List Moment, before <+: moments → ∀ id,
            id ∈ before.flatMap Moment.declares ↔ id ∈ before.filterMap Moment.weighs?) := by
  intro moments
  have htracks := tracks_compileSections weighing blocks
  have hevents := events_documentMoments weighing blocks
  refine ⟨?_, ?_, fun _ _ _ _ _ => isGhost_iff_not_weighed weighing blocks, fun id => ?_,
    fun hone before hstart => ?_⟩
  · rw [← users_preparationHistory weighing blocks, ← hevents, List.filterMap_filterMap]
    rfl
  · rw [← hevents] at htracks
    have hwarnings := htracks.warnings
    rw [List.filterMap_filterMap] at hwarnings
    exact hwarnings
  · rw [htracks.weights, ← hevents, isSome_latestWeight]
  · exact declared_iff_weighed fun moment hmem => hone moment (hstart.subset hmem)

/-- Bread whose first step declares its dough and then a sponge. The salt is half of the dough. -/
def shadowedDough : List Block :=
  [.step ⟨none, [
    .ingredient ⟨"flour", [], some (.measured ⟨some (.single 100.0 none), some "g", false⟩), none,
      none, none⟩,
    .declaration "dough", .declaration "sponge"]⟩,
  .step ⟨none, [
    .ingredient ⟨"salt", [], some (.share ⟨50.0, "dough", .preparation⟩), none, none, none⟩]⟩]

/-- The step that declares the dough is complete when the salt is resolved, and yet the dough is not
    found. -/
theorem shadowedDough_not_found :
    let weighing : Weighing := ⟨Dictionary.empty, stapleSource⟩
    ∃ before salt after, documentMoments weighing shadowedDough = before ++ salt :: after
      ∧ slugify "dough" ∈ before.flatMap Moment.declares
      ∧ salt.notFound? = some (.preparationNotFound "dough" "salt")
      ∧ (compileSections weighing shadowedDough).warnings
        = [.preparationNotFound "dough" "salt"] := by
  intro weighing
  have hmoments : ∃ flour salt firstWeight secondWeight wholeWeight,
      documentMoments weighing shadowedDough
        = [flour, .completed ["dough", "sponge"] firstWeight]
          ++ salt :: [.completed [] secondWeight, .completed [] wholeWeight]
        ∧ salt.notFound? = some (.preparationNotFound "dough" "salt") :=
    ⟨_, _, _, _, _, rfl, rfl⟩
  rcases hmoments with ⟨flour, salt, firstWeight, secondWeight, wholeWeight, hmoments, hsalt⟩
  have hdeclared : slugify "dough"
      ∈ (Moment.completed ["dough", "sponge"] firstWeight).declares :=
    List.mem_map_of_mem List.mem_cons_self
  have hcomplete : Moment.completed ["dough", "sponge"] firstWeight
      ∈ [flour, .completed ["dough", "sponge"] firstWeight] :=
    List.mem_cons_of_mem _ List.mem_cons_self
  exact ⟨_, salt, _, hmoments, List.mem_flatMap.2 ⟨_, hcomplete, hdeclared⟩, hsalt, rfl⟩

end Mise
