import Mise.Compilation
import Mise.Proofs.Thinning.Walk

/-!
# Compilations of Thinned Documents

What is made of the compiled sections of a recipe, its lists and its figures, is made of what the
sections list and of the usages in their steps. Nothing that a reader alone sees goes into it. So
texts, comments and whatever is passed over can be taken out of a document, and its compilation
changes nowhere except in the places where they are shown.

This is for documents that start with a section. In any other document all blocks make one section,
and taking out the first of them may make the document one that does.

## Main definitions

* `Compilation.bare`: A compilation without text, content that is inert, and comments.

## Theorems

* `shoppingList_bare`: Bare sections make the same shopping list.
* `preparationTime_bare`: Bare sections take the same time to prepare.
* `finishRecipe_bare`: Nothing that a reader alone sees goes into a compilation.
* `compile_thinned`: Compiling a document that has been thinned.
-/

namespace Mise

/-- A compilation without the text of its steps, texts and comments in their content, and comments
    between them. -/
def Compilation.bare (c : Compilation) : Compilation :=
  { c with sections := c.sections.map Section.bare }

section Lists

variable (sections : List Section)

-- Lists are copied as they are.
theorem listedUsages_bare : listedUsages (sections.map Section.bare) = listedUsages sections := by
  rw [listedUsages, List.flatMap_map]
  rfl

theorem circularIdentities_bare :
    circularIdentities (sections.map Section.bare) = circularIdentities sections := by
  have hlisted : listedIngredients (sections.map Section.bare) = listedIngredients sections := by
    rw [listedIngredients, List.flatMap_map]
    rfl
  rw [circularIdentities, DependencyGraph.ofSections, hlisted, ← DependencyGraph.ofSections,
    ← circularIdentities]

theorem recipeCookware_bare :
    recipeCookware (sections.map Section.bare) = recipeCookware sections := by
  rw [recipeCookware, List.flatMap_map]
  rfl

theorem countedUsages_bare :
    countedUsages (sections.map Section.bare) = countedUsages sections := by
  rw [countedUsages, List.flatMap_map]
  rfl

end Lists

section Marks

variable (ids : Names)

-- A mark does not make a usage a comment, nor a comment anything else.
theorem isInert_mark (content : StepContent) : (content.mark ids).isInert = content.isInert := by
  cases content with
  | text s => rfl
  | usage u => cases u <;> rfl

theorem bare_mark_step (step : Step) : (step.mark ids).bare = step.bare.mark ids := by
  have hcontent : bareContent (step.content.map (·.mark ids))
      = (bareContent step.content).map (·.mark ids) := by
    rw [bareContent, List.filter_map, bareContent]
    simp only [Function.comp_def, isInert_mark]
  simp only [Step.mark, Step.bare, hcontent]

theorem bare_mark (s : Section) : (s.mark ids).bare = s.bare.mark ids := by
  have hsteps : bareSteps (s.blocks.map (·.mark ids))
      = (bareSteps s.blocks).map (·.mark ids) := by
    rw [bareSteps, List.filterMap_map, bareSteps]
    induction s.blocks with
    | nil => rfl
    | cons block blocks ih =>
        cases block with
        | comment c => exact ih
        | step step => exact congrArg₂ List.cons (bare_mark_step ids step) ih
  simp only [Section.mark, Section.bare, hsteps, List.map_map]
  rfl

end Marks

/-- Bare sections make the same shopping list, and marking comes to the same before and after. -/
theorem shoppingList_bare (weighing : Weighing) (registry : Registry) (sections : List Section) :
    shoppingList weighing registry (sections.map Section.bare)
      = ((shoppingList weighing registry sections).1,
          (shoppingList weighing registry sections).2.map Section.bare) := by
  have hmarked : markCircular (sections.map Section.bare)
      = (markCircular sections).map Section.bare := by
    rw [markCircular, circularIdentities_bare, markCircular, List.map_map, List.map_map]
    exact List.map_congr_left fun s _ => (bare_mark _ s).symm
  simp only [shoppingList, hmarked, mergedList, listedUsages_bare]

theorem usages_bare_step (step : Step) :
    step.bare.usages = step.usages.filter fun u => !u.isComment := by
  rw [Step.usages, Step.usages, Step.bare]
  induction step.content with
  | nil => rfl
  | cons c content ih =>
      cases c with
      | text s => exact ih
      | usage u =>
          cases u with
          | comment c => exact ih
          | _ => exact congrArg _ ih

theorem contentUsages_bare (s : Section) :
    s.bare.contentUsages = s.contentUsages.filter fun u => !u.isComment := by
  have hsteps : s.bare.steps = s.steps.map Step.bare := by
    rw [Section.steps, Section.bare, List.filterMap_map]
    exact List.filterMap_some
  rw [Section.contentUsages, hsteps, List.flatMap_map, Section.contentUsages, List.filter_flatMap]
  exact List.flatMap_congr fun step _ => usages_bare_step step

-- Comments take no time.
theorem minutes_without_comments (usages : List Usage) (start : Nat) :
    ((usages.filter fun u => !u.isComment).map Usage.preparationMinutes).foldl (· + ·) start
      = (usages.map Usage.preparationMinutes).foldl (· + ·) start := by
  induction usages generalizing start with
  | nil => rfl
  | cons u usages ih =>
      cases u with
      | comment c => exact ih start
      | _ => exact ih _

/-- Bare sections take the same time to prepare. -/
theorem preparationTime_bare (registry : Registry) (sections : List Section) :
    preparationTime registry (sections.map Section.bare) = preparationTime registry sections := by
  have hcontent : (sections.map Section.bare).flatMap Section.contentUsages
      = (sections.flatMap Section.contentUsages).filter fun u => !u.isComment := by
    rw [List.flatMap_map, List.filter_flatMap]
    exact List.flatMap_congr fun s _ => contentUsages_bare s
  rw [preparationTime, hcontent, minutes_without_comments, preparationTime]

/-- What is left to compare of compiled sections. -/
def CompiledSections.bare (c : CompiledSections) : CompiledSections :=
  { c with sections := c.sections.map Section.bare }

/-- The compilation of a recipe can be compared if its compiled sections can. -/
theorem finishRecipe_bare (o : CompileOptions) (r : Recipe) (compiled : CompiledSections) :
    finishRecipe o r compiled.bare = (finishRecipe o r compiled).bare := by
  have hweighed : (compiled.sections.map Section.bare).map Section.weighed
      = (compiled.sections.map Section.weighed).map Section.bare := by
    rw [List.map_map, List.map_map]
    rfl
  simp only [finishRecipe, CompiledSections.bare, Compilation.bare, hweighed, shoppingList_bare,
    recipeCookware_bare, preparationTime_bare, countedUsages_bare]

-- A document that starts with a section does so still, and both are walked through as they are.
theorem sectioned_thinned {header : SectionHeader} {children blocks thinned : List Block}
    (h : Thinned Block.BesideSections Block.Thins (.section header children :: blocks) thinned) :
    sectioned thinned = thinned := by
  cases h with
  | keep first _ =>
      cases first with
      | «section» _ => rfl
  | drop mayGo _ => simp only [Block.BesideSections, Block.section?, reduceCtorEq] at mayGo

theorem compileSections_thinned (weighing : Weighing) {header : SectionHeader}
    {children blocks thinned : List Block}
    (h : Thinned Block.BesideSections Block.Thins (.section header children :: blocks) thinned) :
    (compileSections weighing thinned).bare
      = (compileSections weighing (.section header children :: blocks)).bare := by
  have hblocks : sectioned (.section header children :: blocks)
      = .section header children :: blocks := rfl
  rcases compileSectionsFrom_thinned weighing h .start with ⟨hsections, hwalk⟩
  simp only [compileSections, CompiledSections.bare, sectioned_thinned h, hblocks, hsections, hwalk]

/-- A recipe that starts with a section, and the same recipe after any texts and comments in its
    steps, comments and sections inside its sections, and blocks beside its sections have been taken
    out of it: the compilations are the same except for the text of steps, the texts and comments in
    their content, and the comments between them. -/
theorem compile_thinned (o : CompileOptions) (r : Recipe) (header : SectionHeader)
    (children blocks thinned : List Block)
    (hfirst : r.children = .section header children :: blocks)
    (h : Thinned Block.BesideSections Block.Thins r.children thinned) :
    (compile? o { r with children := thinned }).map Compilation.bare
      = (compile? o r).map Compilation.bare := by
  have hcompiled : (compileRecipe o { r with children := thinned }).bare
      = (compileRecipe o r).bare := by
    rw [hfirst] at h
    have hsections := compileSections_thinned ⟨o.overridesFor r, o.source⟩ h
    rw [← hfirst] at hsections
    rw [compileRecipe, compileRecipe, ← finishRecipe_bare, ← finishRecipe_bare]
    -- The compilation is finished with what the thinning has left alone.
    exact congrArg (finishRecipe o r) hsections
  by_cases hrecipe : r.isRecipe
  · have hrecipe' : { r with children := thinned }.isRecipe := hrecipe
    rw [compile?, if_pos hrecipe', compile?, if_pos hrecipe]
    exact congrArg some hcompiled
  · have hrecipe' : ¬ { r with children := thinned }.isRecipe := hrecipe
    rw [compile?, if_neg hrecipe', compile?, if_neg hrecipe]

/-- Flatbread, told with more words than it takes, and a note on how to serve it. -/
def flatbread : Recipe where
  kind := recipeKind
  info := Dictionary.empty
  children := [
    .section noHeader [.comment ⟨"rests overnight", .line⟩, .step ⟨none, [
      .text "Mix ",
      .ingredient ⟨"flour", [], some (.measured ⟨some (.single 200.0 none), some "g", false⟩), none,
        none, none⟩,
      .comment ⟨"sifted", .block⟩]⟩,
      .section noHeader []],
    .step ⟨none, [.text "Serve warm."]⟩]

/-- All that flatbread takes. -/
def flatbreadBlocks : List Block :=
  [.section noHeader [.step ⟨none, [
    .ingredient ⟨"flour", [], some (.measured ⟨some (.single 200.0 none), some "g", false⟩), none,
      none, none⟩]⟩]]

theorem flatbread_thinned :
    let compiled := compileRecipe .default flatbread
    let thinned := compileRecipe .default { flatbread with children := flatbreadBlocks }
    thinned.bare = compiled.bare
      ∧ (compiled.sections.flatMap Section.steps).map Step.text = ["Mix @flour"]
      ∧ (thinned.sections.flatMap Section.steps).map Step.text = ["@flour"] := by
  intro compiled thinned
  have hitems : ∀ flour : Item,
      Thinned Item.Inert Eq [.text "Mix ", flour, .comment ⟨"sifted", .block⟩] [flour] :=
    fun flour => .drop (.text _) (.keep rfl (.drop (.comment _) .nil))
  have hblocks : Thinned Block.BesideSections Block.Thins flatbread.children flatbreadBlocks :=
    .keep (.section (.drop rfl (.keep (.step (hitems _)) (.drop rfl .nil)))) (.drop rfl .nil)
  have hsame := compile_thinned .default flatbread _ _ _ flatbreadBlocks rfl hblocks
  exact ⟨Option.some.inj hsame, rfl, rfl⟩

end Mise
