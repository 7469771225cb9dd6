import Mathlib.Data.List.Forall2
import Mise.Proofs.Resolution.Item
import Mise.Resolution.Section

/-!
# Walks through Documents

The walk through a recipe is three nested loops: over the outermost sections, over the steps of a
section, and over the items of a step. For each loop there is one induction here, and it is done
once: what a single turn keeps is kept by the loop. The property that is kept may speak of what has
been passed so far, paired with what it was compiled to, so a statement about a whole document
becomes one about a single turn.

What a document contains is read off it by `outerSections` and `directSteps`, which know nothing of
the walk. That the loops pass over exactly these, in this order, is part of the inductions.

## Main definitions

* `directSteps`, `outerSections`: The steps of a section and the sections of a document.
* `openStep`: The walk before the first item of a step.
* `takeIn`: A step after one more item.
* `finalWalk`: The walk at the end of a document.

## Theorems

* `compileItems_keeps`, `compileBlocks_keeps`, `compileSections_keeps`: The three inductions.
* `compileBlocks_forall₂`, `compileSections_forall₂`: The same for what does not depend on the walk.
* `compileBlocks_forall`, `compileSections_forall`: The same for what is said of the outcome alone.
* `length_steps_compileBlocks`, `length_compileSections`: Each step and each section is compiled
  once.
-/

namespace Mise

/-- The step that a block is. -/
def Block.step? : Block → Option StepNode
  | .step node => some node
  | _ => none

/-- The section that a block is, as its header and its blocks. -/
def Block.section? : Block → Option (SectionHeader × List Block)
  | .section header children => some (header, children)
  | _ => none

/-- The steps among blocks, without those in sections further inside. -/
def directSteps (blocks : List Block) : List StepNode :=
  blocks.filterMap Block.step?

/-- The sections among blocks, without those further inside. -/
def outerSections (blocks : List Block) : List (SectionHeader × List Block) :=
  blocks.filterMap Block.section?

/-- The walk before the first item of a step. The step has not declared a preparation yet. -/
def openStep (walk : Walk) : Walk :=
  walk.inScope fun scope => { scope with openPreparation := none }

variable (weighing : Weighing)

/-- A step and its walk after one more item. -/
def takeIn (resolved : Resolved) (p : StepProgress) (walk : Walk) : StepProgress × Walk :=
  match resolved with
  | .usage u => passTime u (p.addUsage u) walk
  | .text s => (p.addText s, walk)
  | .nothing => (p, walk)

/-- The time of a usage passes beside the scope and the warnings. -/
theorem scope_takeIn (resolved : Resolved) (p : StepProgress) (walk : Walk) :
    (takeIn resolved p walk).2.scope = walk.scope
      ∧ (takeIn resolved p walk).2.warnings = walk.warnings := by
  cases resolved with
  | text s => exact ⟨rfl, rfl⟩
  | nothing => exact ⟨rfl, rfl⟩
  | usage u =>
      simp only [takeIn, passTime]
      split
      · exact ⟨rfl, rfl⟩
      · split <;> exact ⟨rfl, rfl⟩

theorem forall_of_forall₂ {α β : Type} {P : β → Prop} {xs : List α} {ys : List β}
    (h : List.Forall₂ (fun _ y => P y) xs ys) : ∀ y ∈ ys, P y := by
  induction h with
  | nil => exact fun y hy => absurd hy List.not_mem_nil
  | cons hfirst _ ih => exact List.forall_mem_cons.2 ⟨hfirst, ih⟩

theorem compileItems_cons (item : Item) (items : List Item) (p : StepProgress) (listed : Listed)
    (walk : Walk) :
    compileItems weighing (item :: items) p listed walk
      = compileItems weighing items
          (takeIn (resolveItem weighing item listed walk).1 p
            (resolveItem weighing item listed walk).2.2).1
          (resolveItem weighing item listed walk).2.1
          (takeIn (resolveItem weighing item listed walk).1 p
            (resolveItem weighing item listed walk).2.2).2 := by
  rw [compileItems]
  rcases resolveItem weighing item listed walk with ⟨resolved, listed', walk'⟩
  cases resolved <;> rfl

/-- What each item keeps is kept by all items of a step. -/
theorem compileItems_keeps (P : List Item → StepProgress → Listed → Walk → Prop)
    (hitem : ∀ done item p listed walk, P done p listed walk →
      P (done ++ [item])
        (takeIn (resolveItem weighing item listed walk).1 p
          (resolveItem weighing item listed walk).2.2).1
        (resolveItem weighing item listed walk).2.1
        (takeIn (resolveItem weighing item listed walk).1 p
          (resolveItem weighing item listed walk).2.2).2)
    (items done : List Item) (p : StepProgress) (listed : Listed) (walk : Walk)
    (h : P done p listed walk) :
    P (done ++ items) (compileItems weighing items p listed walk).1
      (compileItems weighing items p listed walk).2.1
      (compileItems weighing items p listed walk).2.2 := by
  induction items generalizing done p listed walk with
  | nil => simpa only [compileItems, List.append_nil] using h
  | cons item items ih =>
      have hrest := ih _ _ _ _ (hitem done item p listed walk h)
      rw [compileItems_cons]
      simpa only [List.append_assoc, List.singleton_append] using hrest

theorem compileBlocks_step (node : StepNode) (blocks : List Block) (listed : Listed)
    (walk : Walk) :
    compileBlocks weighing (.step node :: blocks) listed walk
      = (.step (compileStep weighing node listed walk).1
            :: (compileBlocks weighing blocks (compileStep weighing node listed walk).2.1
                (compileStep weighing node listed walk).2.2).1,
          (compileBlocks weighing blocks (compileStep weighing node listed walk).2.1
            (compileStep weighing node listed walk).2.2).2) := rfl

/-- What holds of each step, whatever the walk has found out before it, holds of all steps of a
    section. -/
theorem compileBlocks_forall₂ (P : StepNode → Step → Prop)
    (hstep : ∀ node listed walk, P node (compileStep weighing node listed walk).1)
    (blocks : List Block) (listed : Listed) (walk : Walk) :
    List.Forall₂ P (directSteps blocks)
      ((compileBlocks weighing blocks listed walk).1.filterMap StepBlock.step?) := by
  induction blocks generalizing listed walk with
  | nil => exact .nil
  | cons block blocks ih =>
      cases block with
      | step node => exact .cons (hstep node listed walk) (ih _ _)
      | comment c => exact ih listed walk
      | «section» header children => exact ih listed walk

theorem compileBlocks_forall (P : Step → Prop)
    (hstep : ∀ node listed walk, P (compileStep weighing node listed walk).1)
    (blocks : List Block) (listed : Listed) (walk : Walk) :
    ∀ step ∈ (compileBlocks weighing blocks listed walk).1.filterMap StepBlock.step?, P step :=
  forall_of_forall₂ (compileBlocks_forall₂ weighing (fun _ => P) hstep blocks listed walk)

/-- Each step of a section is compiled once. -/
theorem length_steps_compileBlocks (blocks : List Block) (listed : Listed) (walk : Walk) :
    ((compileBlocks weighing blocks listed walk).1.filterMap StepBlock.step?).length
      = (directSteps blocks).length := by
  have hsteps := compileBlocks_forall₂ weighing (fun _ _ => True) (fun _ _ _ => trivial) blocks
    listed walk
  exact hsteps.length_eq.symm

/-- What each step keeps is kept by all blocks of a section. -/
theorem compileBlocks_keeps (P : List (StepNode × Step) → Listed → Walk → Prop)
    (hstep : ∀ done node listed walk, P done listed walk →
      P (done ++ [(node, (compileStep weighing node listed walk).1)])
        (compileStep weighing node listed walk).2.1 (compileStep weighing node listed walk).2.2)
    (blocks : List Block) (done : List (StepNode × Step)) (listed : Listed) (walk : Walk)
    (h : P done listed walk) :
    P (done ++ (directSteps blocks).zip
        ((compileBlocks weighing blocks listed walk).1.filterMap StepBlock.step?))
      (compileBlocks weighing blocks listed walk).2.1
      (compileBlocks weighing blocks listed walk).2.2 := by
  induction blocks generalizing done listed walk with
  | nil =>
      simpa only [compileBlocks, directSteps, List.filterMap_nil, List.zip_nil_left,
        List.append_nil] using h
  | cons block blocks ih =>
      cases block with
      | step node =>
          have hrest := ih _ _ _ (hstep done node listed walk h)
          rw [compileBlocks_step]
          simpa only [directSteps, List.filterMap_cons, StepBlock.step?, Block.step?,
            List.zip_cons_cons, List.append_assoc, List.singleton_append] using hrest
      -- Comments are copied and sections further inside are left out; neither is a turn.
      | comment c => exact ih done listed walk h
      | «section» header children => exact ih done listed walk h

theorem compileSectionsFrom_section (header : SectionHeader) (children : List Block)
    (blocks : List Block) (walk : Walk) :
    compileSectionsFrom weighing (.section header children :: blocks) walk
      = ((compileSection weighing header children walk).1
            :: (compileSectionsFrom weighing blocks
                (compileSection weighing header children walk).2).1,
          (compileSectionsFrom weighing blocks
            (compileSection weighing header children walk).2).2) := rfl

theorem compileSectionsFrom_forall₂ (P : SectionHeader × List Block → Section → Prop)
    (hsection : ∀ header children walk,
      P (header, children) (compileSection weighing header children walk).1)
    (blocks : List Block) (walk : Walk) :
    List.Forall₂ P (outerSections blocks) (compileSectionsFrom weighing blocks walk).1 := by
  induction blocks generalizing walk with
  | nil => exact .nil
  | cons block blocks ih =>
      cases block with
      | step node => exact ih walk
      | comment c => exact ih walk
      | «section» header children => exact .cons (hsection header children walk) (ih _)

theorem compileSectionsFrom_keeps (P : List ((SectionHeader × List Block) × Section) → Walk → Prop)
    (hsection : ∀ done header children walk, P done walk →
      P (done ++ [((header, children), (compileSection weighing header children walk).1)])
        (compileSection weighing header children walk).2)
    (blocks : List Block) (done : List ((SectionHeader × List Block) × Section)) (walk : Walk)
    (h : P done walk) :
    P (done ++ (outerSections blocks).zip (compileSectionsFrom weighing blocks walk).1)
      (compileSectionsFrom weighing blocks walk).2 := by
  induction blocks generalizing done walk with
  | nil =>
      simpa only [compileSectionsFrom, outerSections, List.filterMap_nil, List.zip_nil_left,
        List.append_nil] using h
  | cons block blocks ih =>
      cases block with
      | step node => exact ih done walk h
      | comment c => exact ih done walk h
      | «section» header children =>
          have hrest := ih _ _ (hsection done header children walk h)
          rw [compileSectionsFrom_section]
          simpa only [outerSections, List.filterMap_cons, Block.section?, List.zip_cons_cons,
            List.append_assoc, List.singleton_append] using hrest

/-- The walk at the end of a document. -/
def finalWalk (blocks : List Block) : Walk :=
  (compileSectionsFrom weighing (sectioned blocks) .start).2

/-- The sections of a document, each with what it is compiled to. -/
def sectionPairs (blocks : List Block) : List ((SectionHeader × List Block) × Section) :=
  (outerSections (sectioned blocks)).zip (compileSections weighing blocks).sections

/-- What holds of each section, whatever the walk has found out before it, holds of all sections of
    a document. -/
theorem compileSections_forall₂ (P : SectionHeader × List Block → Section → Prop)
    (hsection : ∀ header children walk,
      P (header, children) (compileSection weighing header children walk).1)
    (blocks : List Block) :
    List.Forall₂ P (outerSections (sectioned blocks)) (compileSections weighing blocks).sections :=
  compileSectionsFrom_forall₂ weighing P hsection (sectioned blocks) .start

/-- What holds of each compiled section by itself holds of all of them. -/
theorem compileSections_forall (P : Section → Prop)
    (hsection : ∀ header children walk, P (compileSection weighing header children walk).1)
    (blocks : List Block) : ∀ s ∈ (compileSections weighing blocks).sections, P s :=
  forall_of_forall₂ (compileSections_forall₂ weighing (fun _ => P) hsection blocks)

/-- Each section of a document is compiled once. -/
theorem length_compileSections (blocks : List Block) :
    (compileSections weighing blocks).sections.length
      = (outerSections (sectioned blocks)).length := by
  have hsections := compileSections_forall₂ weighing (fun _ _ => True) (fun _ _ _ => trivial) blocks
  exact hsections.length_eq.symm

/-- What each section keeps holds at the end of a document. -/
theorem compileSections_keeps (P : List ((SectionHeader × List Block) × Section) → Walk → Prop)
    (hstart : P [] .start)
    (hsection : ∀ done header children walk, P done walk →
      P (done ++ [((header, children), (compileSection weighing header children walk).1)])
        (compileSection weighing header children walk).2)
    (blocks : List Block) : P (sectionPairs weighing blocks) (finalWalk weighing blocks) :=
  compileSectionsFrom_keeps weighing P hsection (sectioned blocks) [] .start hstart

end Mise
