import Mathlib.Data.List.Flatten
import Mise.Proofs.Resolution.Visit
import Mise.Proofs.Shopping.Marking
import Mise.Proofs.Thinning.Compilation

/-!
# Which Steps Are Compiled

An author may put a step into a section or directly under the root. Both are compiled, but not both
in one document: what the first block is decides. If it is a section, then only sections count, and
blocks beside them are passed over. If it is not, then all blocks make one section, and sections
among them are passed over as any section inside another.

So the steps of a document are those in the blocks that are of one kind with the first. Each of them
is compiled once, in order, to a step with its action and its content. What is passed over leaves no
trace in the compilation, not even a warning.

## Main definitions

* `Item.Shows`, `StepNode.CompiledTo`: A piece of content shows an item, and a step is what a node
  of the document is compiled to.
* `stepNodes`: The steps at the two levels where they may stand.
* `likeFirst`: The blocks that are of one kind with the first.
* `documentParts`, `Section.CompiledFrom`: The sections that a document is compiled to, and what
  each of them has of the document.

## Theorems

* `compiledTo_compileStep`: What a step is compiled to.
* `compileSections_likeFirst`: The other blocks leave no trace.
* `sections_compileRecipe_forall₂`, `compileRecipe_forall₂`: What holds of each section or step
  holds of all of a compiled recipe.
* `steps_like_first`: Which sections and steps of a document are compiled.
-/

namespace Mise

/-- Whether an item leaves something in the content of its step. A declaration does not. -/
def Item.isShown : Item → Bool
  | .declaration _ => false
  | _ => true

/-- A piece of content shows an item: a text is copied, and any other item has turned into a usage
    of its kind and name. -/
inductive Item.Shows : Item → StepContent → Prop
  | text (s : String) : Shows (.text s) (.text s)
  | usage {item : Item} {u : Usage} (yields : item.Yields u) : Shows item (.usage u)

/-- A step is what a node of the document is compiled to: it has its action, its content item by
    item, and the preparation that is declared last. -/
structure StepNode.CompiledTo (node : StepNode) (step : Step) : Prop where
  action : step.action = node.action
  content : List.Forall₂ Item.Shows (node.items.filter Item.isShown) step.content
  produces : step.produces = (lastDeclared node.items).map slugify

/-- The steps of a block: itself, or the steps directly in it if it is a section. -/
def Block.stepNodes : Block → List StepNode
  | .step node => [node]
  | .comment _ => []
  | .section _ children => directSteps children

/-- The steps that stand directly under the root or directly in a section under the root. -/
def stepNodes (blocks : List Block) : List StepNode :=
  blocks.flatMap Block.stepNodes

/-- Whether a block is a section. -/
def Block.isSection (block : Block) : Bool :=
  block.section?.isSome

/-- Whether a block is a section exactly if the first one is. -/
def Block.isLikeFirst (blocks : List Block) (block : Block) : Bool :=
  block.isSection == blocks.head?.any Block.isSection

/-- The blocks that are of one kind with the first: the sections, or else all other blocks. -/
def likeFirst (blocks : List Block) : List Block :=
  blocks.filter (Block.isLikeFirst blocks)

/-- The blocks that are not of one kind with the first. -/
def unlikeFirst (blocks : List Block) : List Block :=
  blocks.filter fun block => !block.isLikeFirst blocks

/-- The sections that a document is compiled to, each with its header and its blocks: the ones that
    it has if it starts with one, and otherwise a single one without a header for all blocks. -/
def documentParts : List Block → List (SectionHeader × List Block)
  | [] => []
  | first :: blocks =>
    if first.isSection then outerSections (first :: blocks)
    else [(⟨none, none, none⟩, first :: blocks)]

/-- A section is what a part of the document is compiled to: it has what the header says, and its
    steps are those that stand directly in the part. -/
structure Section.CompiledFrom (part : SectionHeader × List Block) (s : Section) : Prop where
  title : s.title = part.1.title
  retroPlanning : s.retroPlanning = part.1.retroPlanning
  produces : s.produces = part.1.produces
  steps : List.Forall₂ StepNode.CompiledTo (directSteps part.2) s.steps

section Steps

variable (weighing : Weighing)

/-- The content that an item contributes to its step. -/
def Resolved.contents : Resolved → List StepContent
  | .usage u => [.usage u]
  | .text s => [.text s]
  | .nothing => []

theorem content_takeIn (resolved : Resolved) (p : StepProgress) (walk : Walk) :
    (takeIn resolved p walk).1.content = p.content ++ resolved.contents := by
  cases resolved with
  | text s => rfl
  | nothing => exact (List.append_nil p.content).symm
  | usage u =>
      simp only [takeIn, passTime]
      -- Time passes beside the content.
      split
      · rfl
      · split <;> rfl

theorem shows_resolveItem (item : Item) (listed : Listed) (walk : Walk) :
    List.Forall₂ Item.Shows ([item].filter Item.isShown)
      (resolveItem weighing item listed walk).1.contents := by
  by_cases hused : item.isUsed
  · rcases usage_of_isUsed weighing hused listed walk with ⟨u, hresolved, hyields⟩
    have hshown : item.isShown := by
      cases item with
      | declaration name => exact hused
      | _ => rfl
    rw [hresolved, List.filter_cons, if_pos hshown]
    exact .cons (.usage hyields) .nil
  · cases item with
    | text s => exact .cons (.text s) .nil
    | declaration name => exact .nil
    | _ => exact absurd rfl hused

/-- What a step is compiled to. -/
theorem compiledTo_compileStep (node : StepNode) (listed : Listed) (walk : Walk) :
    node.CompiledTo (compileStep weighing node listed walk).1 := by
  have hitems := compileItems_keeps weighing
    (fun done p _ w => List.Forall₂ Item.Shows (done.filter Item.isShown) p.content
      ∧ w.scope.openPreparation = (lastDeclared done).map slugify)
    (fun done item p l w h => by
      refine ⟨?_, ?_⟩
      · rw [content_takeIn, List.filter_append]
        exact List.rel_append h.1 (shows_resolveItem weighing item l w)
      · rw [(scope_takeIn _ p _).1, openPreparation_resolveItem, h.2, lastDeclared_append,
          Option.map_or])
    node.items [] .empty listed (openStep walk) ⟨.nil, rfl⟩
  exact ⟨rfl, hitems.1, hitems.2⟩

end Steps

section Blocks

theorem likeFirst_of_section {first : Block} (h : first.isSection = true) (blocks : List Block) :
    likeFirst (first :: blocks) = (first :: blocks).filter Block.isSection := by
  refine List.filter_congr fun block _ => ?_
  rw [Block.isLikeFirst, List.head?_cons, Option.any_some, h, beq_true]

theorem likeFirst_of_other {first : Block} (h : first.isSection = false) (blocks : List Block) :
    likeFirst (first :: blocks) = (first :: blocks).filter fun block => !block.isSection := by
  refine List.filter_congr fun block _ => ?_
  rw [Block.isLikeFirst, List.head?_cons, Option.any_some, h, beq_false]

-- A document that starts with a section is taken as it is, and any other as one section.
theorem sectioned_of_section {first : Block} (h : first.isSection = true) (blocks : List Block) :
    sectioned (first :: blocks) = first :: blocks := by
  cases first with
  | «section» header children => rfl
  | _ => exact absurd h Bool.false_ne_true

theorem sectioned_of_other {first : Block} (h : first.isSection = false) (blocks : List Block) :
    sectioned (first :: blocks) = [.section noHeader (first :: blocks)] := by
  cases first with
  | «section» header children => exact absurd h.symm Bool.false_ne_true
  | _ => rfl

/-- The sections that a document is compiled to are those that it is taken as. -/
theorem documentParts_eq (blocks : List Block) :
    documentParts blocks = outerSections (sectioned blocks) := by
  cases blocks with
  | nil => rfl
  | cons first blocks =>
      by_cases hfirst : first.isSection
      · rw [documentParts, if_pos hfirst, sectioned_of_section hfirst]
      · rw [documentParts, if_neg hfirst, sectioned_of_other (Bool.not_eq_true _ ▸ hfirst)]
        rfl

theorem stepNodes_sections (blocks : List Block) :
    stepNodes (blocks.filter Block.isSection)
      = (outerSections blocks).flatMap fun part => directSteps part.2 := by
  induction blocks with
  | nil => rfl
  | cons block blocks ih =>
      cases block with
      | step node => exact ih
      | comment c => exact ih
      | «section» header children => exact congrArg (directSteps children ++ ·) ih

theorem stepNodes_others (blocks : List Block) :
    stepNodes (blocks.filter fun block => !block.isSection) = directSteps blocks := by
  induction blocks with
  | nil => rfl
  | cons block blocks ih =>
      cases block with
      | step node => exact congrArg (node :: ·) ih
      | comment c => exact ih
      | «section» header children => exact ih

/-- The steps in blocks that are of one kind with the first are those of the sections that a
    document is taken as. -/
theorem stepNodes_likeFirst (blocks : List Block) :
    stepNodes (likeFirst blocks)
      = (outerSections (sectioned blocks)).flatMap fun part => directSteps part.2 := by
  cases blocks with
  | nil => rfl
  | cons first blocks =>
      by_cases hfirst : first.isSection
      · rw [likeFirst_of_section hfirst, sectioned_of_section hfirst, stepNodes_sections]
      · rw [Bool.not_eq_true] at hfirst
        rw [likeFirst_of_other hfirst, sectioned_of_other hfirst, stepNodes_others]
        exact (List.append_nil _).symm

variable (weighing : Weighing)

theorem compileSectionsFrom_filter (blocks : List Block) (walk : Walk) :
    compileSectionsFrom weighing (blocks.filter Block.isSection) walk
      = compileSectionsFrom weighing blocks walk := by
  induction blocks generalizing walk with
  | nil => rfl
  | cons block blocks ih =>
      cases block with
      | step node => exact ih walk
      | comment c => exact ih walk
      | «section» header children =>
          have hkept : (Block.section header children :: blocks).filter Block.isSection
              = .section header children :: blocks.filter Block.isSection := rfl
          rw [hkept, compileSectionsFrom_section, compileSectionsFrom_section, ih]

theorem compileBlocks_filter (blocks : List Block) (listed : Listed) (walk : Walk) :
    compileBlocks weighing (blocks.filter fun block => !block.isSection) listed walk
      = compileBlocks weighing blocks listed walk := by
  induction blocks generalizing listed walk with
  | nil => rfl
  | cons block blocks ih =>
      cases block with
      | «section» header children => exact ih listed walk
      | comment c =>
          have hkept : (Block.comment c :: blocks).filter (fun block => !block.isSection)
              = .comment c :: blocks.filter fun block => !block.isSection := rfl
          rw [hkept, compileBlocks, compileBlocks, ih]
      | step node =>
          have hkept : (Block.step node :: blocks).filter (fun block => !block.isSection)
              = .step node :: blocks.filter fun block => !block.isSection := rfl
          rw [hkept, compileBlocks_step, compileBlocks_step, ih]

/-- Blocks that are not of one kind with the first leave no trace. -/
theorem compileSections_likeFirst (blocks : List Block) :
    compileSections weighing (likeFirst blocks) = compileSections weighing blocks := by
  cases blocks with
  | nil => rfl
  | cons first blocks =>
      by_cases hfirst : first.isSection
      · have hkept : (first :: blocks).filter Block.isSection
            = first :: blocks.filter Block.isSection := List.filter_cons_of_pos hfirst
        have hwalk := compileSectionsFrom_filter weighing (first :: blocks) .start
        rw [likeFirst_of_section hfirst, compileSections, compileSections,
          sectioned_of_section hfirst, ← hwalk, hkept, sectioned_of_section hfirst]
      · rw [Bool.not_eq_true] at hfirst
        have hkept : (first :: blocks).filter (fun block => !block.isSection)
            = first :: blocks.filter fun block => !block.isSection :=
          List.filter_cons_of_pos (by rw [hfirst]; rfl)
        have hsection : ∀ walk,
            compileSection weighing noHeader
                ((first :: blocks).filter fun block => !block.isSection) walk
              = compileSection weighing noHeader (first :: blocks) walk := by
          intro walk
          rw [compileSection, compileSection, compileBlocks_filter]
        rw [likeFirst_of_other hfirst, compileSections, compileSections,
          sectioned_of_other hfirst, hkept, sectioned_of_other hfirst, ← hkept,
          compileSectionsFrom_section, compileSectionsFrom_section, hsection]

end Blocks

section Marks

variable (ids : Names)

theorem yields_map_mark {items : List Item} {us : List Usage}
    (hmark : ∀ u ∈ us, ∀ item : Item, item.Yields u → item.Yields (u.mark ids))
    (h : List.Forall₂ Item.Yields items us) :
    List.Forall₂ Item.Yields items (us.map (Usage.mark ids)) := by
  induction h with
  | nil => exact .nil
  | @cons item u items us hfirst _ ih =>
      have hrest := ih fun other hmem => hmark other (List.mem_cons_of_mem u hmem)
      exact .cons (hmark u List.mem_cons_self item hfirst) hrest

-- A mark changes neither the kind nor the name of a usage.
theorem yields_mark {item : Item} {u : Usage} (h : item.Yields u) : item.Yields (u.mark ids) := by
  induction u using Usage.induction generalizing item with
  | single u hsingle =>
      cases h with
      | alternative _ => exact absurd rfl (hsingle _)
      | @ingredient i u id name =>
          rcases mark_eq ids u with ⟨circular, hmark⟩
          rw [mark_ingredient, hmark]
          exact .ingredient id name
      | cookware id name => exact .cookware id name
      | mention id name => exact .mention id name
      | timer name background => exact .timer name background
      | temperature name => exact .temperature name
      | comment c => exact .comment c
  | alternative options ih =>
      cases h with
      | alternative hoptions =>
          rw [mark_alternative]
          exact .alternative (yields_map_mark ids (fun option hmem _ => ih option hmem) hoptions)

theorem compiledTo_mark {node : StepNode} {step : Step} (h : node.CompiledTo step) :
    node.CompiledTo (step.mark ids) where
  action := h.action
  content := by
    refine List.forall₂_map_right_iff.2 (h.content.imp fun item content hshows => ?_)
    cases hshows with
    | text s => exact .text s
    | usage hyields => exact .usage (yields_mark ids hyields)
  produces := h.produces

end Marks

/-- What holds of each section, whatever the walk has found out before it, and is not changed by
    marks and totals, holds of all sections of a compiled recipe. -/
theorem sections_compileRecipe_forall₂ (P : SectionHeader × List Block → Section → Prop)
    (hsection : ∀ weighing header children walk,
      P (header, children) (compileSection weighing header children walk).1)
    (hmark : ∀ ids part s, P part s → P part (s.weighed.mark ids)) (o : CompileOptions)
    (r : Recipe) : List.Forall₂ P (documentParts r.children) (compileRecipe o r).sections := by
  have hsections := compileSections_forall₂ ⟨o.overridesFor r, o.source⟩ P (hsection _) r.children
  rcases sections_compileRecipe o r with ⟨ids, hmarked⟩
  rw [documentParts_eq, hmarked]
  exact List.forall₂_map_right_iff.2 (hsections.imp fun part s h => hmark ids part s h)

/-- What holds of each step, whatever the walk has found out before it, and is not changed by marks,
    holds of all steps of a compiled recipe. -/
theorem compileRecipe_forall₂ (P : StepNode → Step → Prop)
    (hstep : ∀ weighing node listed walk, P node (compileStep weighing node listed walk).1)
    (hmark : ∀ ids node step, P node step → P node (step.mark ids)) (o : CompileOptions)
    (r : Recipe) :
    List.Forall₂ P (stepNodes (likeFirst r.children))
      ((compileRecipe o r).sections.flatMap Section.steps) := by
  have hsections := sections_compileRecipe_forall₂
    (fun part s => List.Forall₂ P (directSteps part.2) s.steps)
    (fun weighing header children walk => compileBlocks_forall₂ weighing P (hstep weighing) children
      .empty (openSection header walk))
    (fun ids part s h => by
      rw [steps_mark]
      exact List.forall₂_map_right_iff.2 (h.imp fun _ _ h => hmark ids _ _ h)) o r
  rw [stepNodes_likeFirst, ← documentParts_eq]
  exact List.rel_flatMap hsections fun _ _ h => h

/-- The steps of a document are compiled one by one. -/
theorem compiledTo_compileRecipe (o : CompileOptions) (r : Recipe) :
    List.Forall₂ StepNode.CompiledTo (stepNodes (likeFirst r.children))
      ((compileRecipe o r).sections.flatMap Section.steps) :=
  compileRecipe_forall₂ StepNode.CompiledTo compiledTo_compileStep
    (fun ids _ _ h => compiledTo_mark ids h) o r

/-- The sections of a document are compiled one by one, each to one with its header and its
    steps. -/
theorem compiledFrom_compileRecipe (o : CompileOptions) (r : Recipe) :
    List.Forall₂ Section.CompiledFrom (documentParts r.children) (compileRecipe o r).sections :=
  sections_compileRecipe_forall₂ Section.CompiledFrom
    (fun weighing header children walk => ⟨rfl, rfl, rfl,
      compileBlocks_forall₂ weighing _ (compiledTo_compileStep weighing) children .empty
        (openSection header walk)⟩)
    (fun ids part s h => ⟨h.title, h.retroPlanning, h.produces, by
      rw [steps_mark]
      exact List.forall₂_map_right_iff.2 (h.steps.imp fun _ _ h => compiledTo_mark ids h)⟩) o r

/-- The sections of a compiled recipe are the outer ones of the document, or one for the whole of it
    if it does not start with a section. Their steps are those in the blocks that are of one kind
    with the first block, one by one and in the order of the document, and each is what the document
    says. These are some of the steps that stand directly under the root or in a section under it;
    the others are in the other blocks, which leave no trace, not even a warning: without them the
    recipe is compiled to the same. -/
theorem steps_like_first (o : CompileOptions) (r : Recipe) :
    let compiled := compileRecipe o r
    List.Forall₂ Section.CompiledFrom (documentParts r.children) compiled.sections
      ∧ List.Forall₂ StepNode.CompiledTo (stepNodes (likeFirst r.children))
        (compiled.sections.flatMap Section.steps)
      ∧ (stepNodes (likeFirst r.children)).Sublist (stepNodes r.children)
      ∧ (stepNodes (likeFirst r.children) ++ stepNodes (unlikeFirst r.children)).Perm
          (stepNodes r.children)
      ∧ compileRecipe o { r with children := likeFirst r.children } = compiled := by
  intro compiled
  refine ⟨compiledFrom_compileRecipe o r, compiledTo_compileRecipe o r, ?_, ?_, ?_⟩
  · exact List.filter_sublist.flatMap _
  · rw [stepNodes, stepNodes, ← List.flatMap_append]
    exact (List.filter_append_perm _ r.children).flatMap_right _
  · have hcompiled := compileSections_likeFirst ⟨o.overridesFor r, o.source⟩ r.children
    exact congrArg (finishRecipe o r) hcompiled

/-- Soup with a step beside its only section. -/
def servedSoup : Recipe where
  kind := recipeKind
  info := Dictionary.empty
  children := [
    .section noHeader [.step ⟨none, [.text "Boil."]⟩],
    .step ⟨none, [.text "Serve."]⟩]

/-- The steps of the soup are not all compiled, and nothing is warned of, let alone the one that is
    missing. -/
theorem servedSoup_loses_step :
    let compiled := compileRecipe .default servedSoup
    ¬ ∃ kept : List StepNode, kept.Sublist (stepNodes servedSoup.children)
      ∧ List.Forall₂ StepNode.CompiledTo kept (compiled.sections.flatMap Section.steps)
      ∧ (kept = stepNodes servedSoup.children ∨ compiled.warnings ≠ []) := by
  intro compiled
  rintro ⟨kept, -, hcompiled, hall | hwarned⟩
  · have hlength := hcompiled.length_eq
    have hnodes : kept.length = 2 := by
      rw [hall]
      rfl
    have hsteps : (compiled.sections.flatMap Section.steps).length = 1 := rfl
    rw [hnodes, hsteps] at hlength
    exact absurd hlength (by decide)
  · exact hwarned rfl

end Mise
