import Mise.Proofs.Resolution.Walk

/-!
# Thinned Documents

Texts and comments are there for the reader. Nothing is found out from them on the walk through a
document, nor from a section inside another one or from a block beside the sections, which are
passed over. Here some of all these are taken out of a document, any of them and at any depth, and
the walk is compared with the one through what is left.

Both walks find out exactly the same: entries, references, timeline and warnings. What the steps
look like to a reader is another matter, so two steps are compared without it, and of sections only
the steps are compared.

## Main definitions

* `Thinned`: A list from which some of what may go has been taken.
* `Block.Thins`: Taking texts, comments and inner sections out of a block.
* `StepProgress.bare`, `Step.bare`, `Section.bare`: What is left to compare.

## Theorems

* `compileItems_thinned`, `compileStep_thinned`, `compileBlocks_thinned`,
  `compileSectionsFrom_thinned`: The walk through the parts of a document that has been thinned.
-/

namespace Mise

/-- A list from which some elements have been taken that may go, while the others have been replaced
    by related ones. -/
inductive Thinned {α : Type} (MayGo : α → Prop) (R : α → α → Prop) : List α → List α → Prop
  | nil : Thinned MayGo R [] []
  | keep {a b : α} {as bs : List α} (first : R a b) (rest : Thinned MayGo R as bs) :
      Thinned MayGo R (a :: as) (b :: bs)
  | drop {a : α} {as bs : List α} (mayGo : MayGo a) (rest : Thinned MayGo R as bs) :
      Thinned MayGo R (a :: as) bs

/-- Texts and comments in a step. -/
inductive Item.Inert : Item → Prop
  | text (s : String) : Inert (.text s)
  | comment (c : Comment) : Inert (.comment c)

/-- What may go from the blocks of a section: comments, and sections inside it. -/
def Block.BesideSteps (block : Block) : Prop :=
  block.step? = none

/-- What may go from the blocks of a document: whatever stands beside the sections. -/
def Block.BesideSections (block : Block) : Prop :=
  block.section? = none

/-- A block from whose steps texts and comments have been taken, and from whose sections comments
    and sections inside, at every depth. -/
inductive Block.Thins : Block → Block → Prop
  | step {node : StepNode} {items : List Item} (thinned : Thinned Item.Inert Eq node.items items) :
      Thins (.step node) (.step { node with items })
  | comment (c : Comment) : Thins (.comment c) (.comment c)
  | «section» {header : SectionHeader} {children children' : List Block}
      (thinned : Thinned Block.BesideSteps Thins children children') :
      Thins (.section header children) (.section header children')

/-- Whether a usage is that of a comment. -/
def Usage.isComment : Usage → Bool
  | .comment _ => true
  | _ => false

/-- Whether a piece of content is a text or a comment. -/
def StepContent.isInert : StepContent → Bool
  | .text _ => true
  | .usage u => u.isComment

/-- The content of a step without texts and comments. -/
def bareContent (content : List StepContent) : List StepContent :=
  content.filter fun c => !c.isInert

/-- A step in progress without text and without what is inert in its content. -/
def StepProgress.bare (p : StepProgress) : StepProgress :=
  { p with text := "", content := bareContent p.content }

/-- A step without text and without what is inert in its content. -/
def Step.bare (s : Step) : Step :=
  { s with text := "", content := bareContent s.content }

/-- The steps among compiled blocks, as far as they can be compared. -/
def bareSteps (blocks : List StepBlock) : List Step :=
  (blocks.filterMap StepBlock.step?).map Step.bare

/-- A section of bare steps, without comments between them. -/
def Section.bare (s : Section) : Section :=
  { s with blocks := (bareSteps s.blocks).map .step }

theorem bareContent_append (xs ys : List StepContent) :
    bareContent (xs ++ ys) = bareContent xs ++ bareContent ys :=
  List.filter_append xs ys

-- Nothing that is inert weighs anything.
theorem stepWeight_bareContent (content : List StepContent) :
    stepWeight (bareContent content) = stepWeight content := by
  have hcontributions :
      ((bareContent content).filterMap StepContent.usage?).filterMap Contribution.ofUsage?
        = (content.filterMap StepContent.usage?).filterMap Contribution.ofUsage? := by
    induction content with
    | nil => rfl
    | cons c content ih =>
        by_cases hinert : c.isInert
        · rw [bareContent, List.filter_cons_of_neg (by simp only [hinert]; decide)]
          cases c with
          | text s => exact ih
          | usage u =>
              cases u with
              | comment c => exact ih
              | _ => exact absurd hinert Bool.false_ne_true
        · rw [bareContent, List.filter_cons_of_pos (by simp only [hinert]; decide),
            List.filterMap_cons, List.filterMap_cons]
          cases c with
          | text s => exact absurd rfl hinert
          | usage u =>
              simp only [StepContent.usage?, List.filterMap_cons]
              rw [← bareContent, ih]
  rw [stepWeight, stepWeight, hcontributions]

/-- A step and what is left of the walk, given the step after its last item. -/
def closeStep (node : StepNode) (last : StepProgress × Listed × Walk) : Step × Listed × Walk :=
  let (p, listed, walk) := last
  let hasBackground := !p.background.isEmpty
  ({ text := Text.trimmed p.text
     action := node.action
     content := p.content
     timing := walk.schedule.timing p.busy hasBackground
     background := p.background
     produces := walk.scope.openPreparation },
   listed,
   { walk with
     schedule := walk.schedule.finishStep p.busy hasBackground
     scope := recordStep p.content walk.scope })

variable (weighing : Weighing)

-- An inert item leaves the walk and the lists as they are, and adds nothing but inert content.
theorem takeIn_inert {item : Item} (h : item.Inert) (p : StepProgress) (listed : Listed)
    (walk : Walk) :
    let resolved := resolveItem weighing item listed walk
    (takeIn resolved.1 p resolved.2.2).1.bare = p.bare
      ∧ resolved.2.1 = listed ∧ (takeIn resolved.1 p resolved.2.2).2 = walk := by
  have hcontent : ∀ c : StepContent, c.isInert → bareContent (p.content ++ [c])
      = bareContent p.content := by
    intro c hc
    have hnone : bareContent [c] = [] := List.filter_cons_of_neg (by simp only [hc]; decide)
    rw [bareContent_append, hnone, List.append_nil]
  cases h with
  | text s =>
      refine ⟨?_, rfl, rfl⟩
      simp only [resolveItem, takeIn, StepProgress.bare, StepProgress.addText]
      rw [hcontent _ rfl]
  | comment c =>
      refine ⟨?_, rfl, rfl⟩
      simp only [resolveItem, takeIn, passTime, Usage.timed?, StepProgress.bare,
        StepProgress.addUsage]
      rw [hcontent _ rfl]

-- What passes with an item does not depend on the text and the inert content before it.
theorem takeIn_congr (resolved : Resolved) {p q : StepProgress} (h : p.bare = q.bare)
    (walk : Walk) :
    (takeIn resolved p walk).1.bare = (takeIn resolved q walk).1.bare
      ∧ (takeIn resolved p walk).2 = (takeIn resolved q walk).2 := by
  rcases p with ⟨text, content, busy, background⟩
  rcases q with ⟨text', content', busy', background'⟩
  simp only [StepProgress.bare, StepProgress.mk.injEq, true_and] at h
  rcases h with ⟨hcontent, rfl, rfl⟩
  cases resolved with
  | nothing =>
      refine ⟨?_, rfl⟩
      simp only [takeIn, StepProgress.bare, hcontent]
  | text s =>
      refine ⟨?_, rfl⟩
      simp only [takeIn, StepProgress.addText, StepProgress.bare, bareContent_append, hcontent]
  | usage u =>
      simp only [takeIn, passTime, StepProgress.addUsage]
      cases u.timed? with
      | none =>
          refine ⟨?_, rfl⟩
          simp only [StepProgress.bare, bareContent_append, hcontent]
      | some timer =>
          by_cases hbackground : timer.1.background = true
          · simp only [if_pos hbackground, StepProgress.bare, bareContent_append, hcontent,
              and_self]
          · simp only [if_neg hbackground, StepProgress.bare, bareContent_append, hcontent,
              and_self]

theorem compileItems_thinned {items items' : List Item} (h : Thinned Item.Inert Eq items items')
    {p q : StepProgress} (hbare : p.bare = q.bare) (listed : Listed) (walk : Walk) :
    (compileItems weighing items p listed walk).1.bare
        = (compileItems weighing items' q listed walk).1.bare
      ∧ (compileItems weighing items p listed walk).2
        = (compileItems weighing items' q listed walk).2 := by
  induction h generalizing p q listed walk with
  | nil => exact ⟨hbare, rfl⟩
  | @keep item _ _ _ first _ ih =>
      subst first
      rw [compileItems_cons, compileItems_cons]
      rcases takeIn_congr (resolveItem weighing item listed walk).1 hbare
        (resolveItem weighing item listed walk).2.2 with ⟨hprogress, hwalk⟩
      rw [hwalk]
      exact ih hprogress _ _
  | @drop item _ _ inert _ ih =>
      rw [compileItems_cons]
      rcases takeIn_inert weighing inert p listed walk with ⟨hprogress, hlisted, hwalk⟩
      rw [hlisted, hwalk]
      exact ih (hprogress.trans hbare) listed walk

-- What a step and its walk are after the last item, as far as it can be compared.
theorem closeStep_congr (node : StepNode) {last last' : StepProgress × Listed × Walk}
    (hprogress : last.1.bare = last'.1.bare) (hrest : last.2 = last'.2) :
    (closeStep node last).1.bare = (closeStep node last').1.bare
      ∧ (closeStep node last).2 = (closeStep node last').2 := by
  rcases last with ⟨⟨text, content, busy, background⟩, rest⟩
  rcases last' with ⟨⟨text', content', busy', background'⟩, rest'⟩
  simp only [StepProgress.bare, StepProgress.mk.injEq, true_and] at hprogress
  rcases hprogress with ⟨hcontent, rfl, rfl⟩
  cases hrest
  have hweight : stepWeight content = stepWeight content' := by
    rw [← stepWeight_bareContent, hcontent, stepWeight_bareContent]
  constructor
  · simp only [closeStep, Step.bare, hcontent]
  · simp only [closeStep, recordStep, hweight]

theorem compileStep_eq (node : StepNode) (listed : Listed) (walk : Walk) :
    compileStep weighing node listed walk
      = closeStep node (compileItems weighing node.items .empty listed (openStep walk)) := rfl

theorem compileStep_thinned {node : StepNode} {items : List Item}
    (h : Thinned Item.Inert Eq node.items items) (listed : Listed) (walk : Walk) :
    (compileStep weighing node listed walk).1.bare
        = (compileStep weighing { node with items } listed walk).1.bare
      ∧ (compileStep weighing node listed walk).2
        = (compileStep weighing { node with items } listed walk).2 := by
  have hstart : StepProgress.empty.bare = StepProgress.empty.bare := rfl
  have hlast := compileItems_thinned weighing h hstart listed (openStep walk)
  rw [compileStep_eq, compileStep_eq]
  exact closeStep_congr node hlast.1 hlast.2

theorem compileBlocks_thinned {blocks blocks' : List Block}
    (h : Thinned Block.BesideSteps Block.Thins blocks blocks') (listed : Listed) (walk : Walk) :
    bareSteps (compileBlocks weighing blocks listed walk).1
        = bareSteps (compileBlocks weighing blocks' listed walk).1
      ∧ (compileBlocks weighing blocks listed walk).2
        = (compileBlocks weighing blocks' listed walk).2 := by
  induction h generalizing listed walk with
  | nil => exact ⟨rfl, rfl⟩
  | keep first _ ih =>
      cases first with
      | comment c => exact ih listed walk
      | «section» inside => exact ih listed walk
      | @step node items thinned =>
          rcases compileStep_thinned weighing thinned listed walk with ⟨hstep, hrest⟩
          rw [compileBlocks_step, compileBlocks_step, hrest]
          rcases ih (compileStep weighing { node with items } listed walk).2.1
            (compileStep weighing { node with items } listed walk).2.2 with ⟨hsteps, hwalk⟩
          exact ⟨congrArg₂ List.cons hstep hsteps, hwalk⟩
  | @drop block _ _ mayGo _ ih =>
      cases block with
      | comment c => exact ih listed walk
      | «section» header children => exact ih listed walk
      | step node => simp only [Block.BesideSteps, Block.step?, reduceCtorEq] at mayGo

theorem compileSection_thinned {children children' : List Block}
    (h : Thinned Block.BesideSteps Block.Thins children children') (header : SectionHeader)
    (walk : Walk) :
    (compileSection weighing header children walk).1.bare
        = (compileSection weighing header children' walk).1.bare
      ∧ (compileSection weighing header children walk).2
        = (compileSection weighing header children' walk).2 := by
  rcases compileBlocks_thinned weighing h .empty (openSection header walk) with ⟨hsteps, hrest⟩
  simp only [compileSection, hrest, Section.bare, hsteps, and_self]

theorem compileSectionsFrom_thinned {blocks blocks' : List Block}
    (h : Thinned Block.BesideSections Block.Thins blocks blocks') (walk : Walk) :
    (compileSectionsFrom weighing blocks walk).1.map Section.bare
        = (compileSectionsFrom weighing blocks' walk).1.map Section.bare
      ∧ (compileSectionsFrom weighing blocks walk).2
        = (compileSectionsFrom weighing blocks' walk).2 := by
  induction h generalizing walk with
  | nil => exact ⟨rfl, rfl⟩
  | keep first _ ih =>
      cases first with
      | comment c => exact ih walk
      | step inside => exact ih walk
      | @«section» header children children' inside =>
          rcases compileSection_thinned weighing inside header walk with ⟨hsection, hwalk⟩
          rw [compileSectionsFrom_section, compileSectionsFrom_section, hwalk]
          rcases ih (compileSection weighing header children' walk).2 with ⟨hsections, hlast⟩
          exact ⟨congrArg₂ List.cons hsection hsections, hlast⟩
  | @drop block _ _ mayGo _ ih =>
      cases block with
      | comment c => exact ih walk
      | step node => exact ih walk
      | «section» header children =>
          simp only [Block.BesideSections, Block.section?, reduceCtorEq] at mayGo

end Mise
