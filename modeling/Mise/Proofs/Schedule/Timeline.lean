import Mise.Compilation
import Mise.Proofs.Resolution.Walk

/-!
# The Timeline of the Steps

The walk keeps three running figures: the minute the cook has reached, the minutes spent working,
and the ends of the background tasks. Compiled steps carry a copy of the same information. Nothing
can pull the two apart, because the figures are what the steps say, at every point of the walk: the
minute reached is where the last step ends, the minutes worked are the same number, and the ends are
those of the background tasks in the steps.

Inside a step the invariant is a different one. Its background tasks are already registered while
the minute reached is still that of its start, which is what their offsets are counted from.

All equations are between doubles, so they hold because the same additions are made in the same
order, not because of any law of addition.

## Main definitions

* `Tiles`: Steps follow one another without a gap.
* `Step.backgroundEnds`: When the background tasks of a step end.
* `lastFinish`: When the last of several steps ends.
* `OnTimeline`: The running figures are what the steps say.

## Theorems

* `schedule_compileItems`: What the items of a step do to the timeline.
* `onTimeline_compileStep`: A step keeps the figures true.
* `schedule_of_steps`: The timeline of a document, and the times of a compiled recipe, are read off
  the compiled steps.
-/

namespace Mise

/-- Steps follow one another from one minute to another: each starts where the one before has
    ended, and ends after the minutes that the cook is busy. -/
def Tiles : (start : Float) → List Step → (finish : Float) → Prop
  | start, [], finish => finish = start
  | start, step :: steps, finish =>
    step.timing.start = start
      ∧ step.timing.finish = step.timing.start + step.timing.active
      ∧ Tiles step.timing.finish steps finish

/-- When the background tasks of a step end. -/
def Step.backgroundEnds (s : Step) : List Float :=
  s.background.map fun task => s.timing.start + task.offset + task.duration

/-- When the last of several steps ends; without a step nothing takes any time. -/
def lastFinish (steps : List Step) : Float :=
  (steps.getLast?.map fun step => step.timing.finish).getD 0.0

theorem tiles_concat {start middle : Float} {steps : List Step} {step : Step}
    (h : Tiles start steps middle) (hstart : step.timing.start = middle)
    (hfinish : step.timing.finish = step.timing.start + step.timing.active) :
    Tiles start (steps ++ [step]) step.timing.finish := by
  induction steps generalizing start with
  | nil =>
      simp only [Tiles] at h
      exact ⟨hstart.trans h, hfinish, rfl⟩
  | cons first rest ih => exact ⟨h.1, h.2.1, ih h.2.2⟩

theorem finish_of_tiles {start finish : Float} {steps : List Step} (h : Tiles start steps finish) :
    finish = (steps.getLast?.map fun step => step.timing.finish).getD start := by
  induction steps generalizing start with
  | nil => exact h
  | cons first rest ih =>
      rw [ih h.2.2, List.getLast?_cons]
      cases rest.getLast? with
      | none => rfl
      | some last => rfl

/-- Steps that follow one another can be parted anywhere: the second part starts at the minute at
    which the first one ends. -/
theorem tiles_of_append {start middle finish : Float} {steps steps' : List Step}
    (h : Tiles start steps middle) (hall : Tiles start (steps ++ steps') finish) :
    Tiles middle steps' finish := by
  induction steps generalizing start with
  | nil =>
      have hmiddle : middle = start := h
      rw [hmiddle]
      exact hall
  | cons first rest ih => exact ih h.2.2 hall.2.2

theorem start_of_tiles {start finish : Float} {steps : List Step} (h : Tiles start steps finish)
    {step : Step} (hfirst : steps.head? = some step) : step.timing.start = start := by
  cases steps with
  | nil => cases hfirst
  | cons first rest =>
      cases hfirst
      exact h.1

/-- The running figures of a timeline are what the steps say. -/
structure OnTimeline (steps : List Step) (s : Schedule) : Prop where
  tiles : Tiles 0.0 steps s.cursor
  active : s.activeTime = s.cursor
  background : s.backgroundEnds = steps.flatMap Step.backgroundEnds

theorem onTimeline_empty : OnTimeline [] .empty :=
  ⟨rfl, rfl, rfl⟩

variable (weighing : Weighing)

/-- Resolving an item takes no time. -/
theorem schedule_resolveItem (item : Item) (listed : Listed) (walk : Walk) :
    (resolveItem weighing item listed walk).2.2.schedule = walk.schedule := by
  induction item using Item.induction generalizing listed walk with
  | single item hsingle =>
      rw [walk_resolveItem weighing hsingle]
      rfl
  | alternative options ih =>
      have hkeeps := resolveOptions_keeps weighing (fun _ _ _ w => w.schedule = walk.schedule)
        options (fun option hmem _ _ l w hw => (ih option hmem l w).trans hw) [] [] listed walk rfl
      rcases hkeeps with ⟨-, hschedule⟩
      exact hschedule

/-- A timeline with the background tasks that the current step has started. -/
def Schedule.withBackground (s : Schedule) (tasks : List BackgroundTask) : Schedule :=
  { s with backgroundEnds :=
      s.backgroundEnds ++ tasks.map fun task => s.cursor + task.offset + task.duration }

/-- One more item of a step keeps apart from the timeline whatever is not a background task. -/
theorem schedule_takeIn {s : Schedule} (resolved : Resolved) {p : StepProgress} {walk : Walk}
    (h : walk.schedule = s.withBackground p.background) :
    (takeIn resolved p walk).2.schedule
      = s.withBackground (takeIn resolved p walk).1.background := by
  cases resolved with
  | text t => exact h
  | nothing => exact h
  | usage u =>
      simp only [takeIn, passTime]
      cases u.timed? with
      | none => exact h
      | some timed =>
          rcases timed with ⟨t, minutes⟩
          simp only
          -- A background timer is registered at once, counted from where the step starts; any
          -- other only makes the step longer.
          by_cases hbackground : t.background
          · rw [if_pos hbackground]
            simp only [h, Schedule.startBackground, Schedule.withBackground,
              StepProgress.addUsage, List.map_append, List.map_cons, List.map_nil,
              List.append_assoc]
          · rw [if_neg hbackground]
            exact h

/-- The items of a step move neither the minute reached nor the minutes worked. They register its
    background tasks, counted from where the step starts. -/
theorem schedule_compileItems (items : List Item) (listed : Listed) (walk : Walk) :
    (compileItems weighing items .empty listed walk).2.2.schedule
      = walk.schedule.withBackground
          (compileItems weighing items .empty listed walk).1.background := by
  refine compileItems_keeps weighing
    (fun _ p _ w => w.schedule = walk.schedule.withBackground p.background)
    (fun _ item p l w h => ?_) items [] .empty listed walk ?_
  · exact schedule_takeIn _ ((schedule_resolveItem weighing item l w).trans h)
  · simp only [Schedule.withBackground, StepProgress.empty, List.map_nil, List.append_nil]

/-- A step keeps the running figures true. -/
theorem onTimeline_compileStep {steps : List Step} (node : StepNode) (listed : Listed)
    {walk : Walk} (h : OnTimeline steps walk.schedule) :
    OnTimeline (steps ++ [(compileStep weighing node listed walk).1])
      (compileStep weighing node listed walk).2.2.schedule := by
  have hitems := schedule_compileItems weighing node.items listed (openStep walk)
  -- The step is timed and closed on the timeline that its items leave.
  simp only [compileStep, ← openStep.eq_def]
  generalize compileItems weighing node.items .empty listed (openStep walk) = result at hitems
  rcases result with ⟨p, listed', walk'⟩
  simp only at hitems ⊢
  have hcursor : walk'.schedule.cursor = walk.schedule.cursor := by rw [hitems]; rfl
  refine ⟨?_, ?_, ?_⟩
  · exact tiles_concat h.tiles hcursor rfl
  · have hactive : walk'.schedule.activeTime = walk'.schedule.cursor := by
      rw [hitems]
      exact h.active
    simp only [Schedule.finishStep, hactive]
  · -- The ends were registered while the items were resolved, before the step was timed.
    rw [List.flatMap_append, ← h.background]
    simp only [Schedule.finishStep, hitems, Schedule.withBackground, Step.backgroundEnds,
      Schedule.timing, List.flatMap_cons, List.flatMap_nil, List.append_nil]
    rfl

theorem schedule_openSection (header : SectionHeader) (walk : Walk) :
    (openSection header walk).schedule = walk.schedule := by
  cases hproduces : header.produces with
  | none => simp only [openSection, hproduces]
  | some name =>
      simp only [openSection, hproduces, Walk.warnIf_eq, Walk.inRegistry, Walk.inScope]

theorem schedule_closeSection (header : SectionHeader) (ingredients : List Usage) (walk : Walk) :
    (closeSection header ingredients walk).schedule = walk.schedule := by
  cases hproduces : header.produces with
  | none => simp only [closeSection, hproduces]
  | some name => simp only [closeSection, hproduces, Walk.inScope]

/-- A section keeps the running figures true. -/
theorem onTimeline_compileSection {steps : List Step} (header : SectionHeader)
    (children : List Block) {walk : Walk} (h : OnTimeline steps walk.schedule) :
    OnTimeline (steps ++ (compileSection weighing header children walk).1.steps)
      (compileSection weighing header children walk).2.schedule := by
  have hopen : OnTimeline (steps ++ ([] : List (StepNode × Step)).map Prod.snd)
      (openSection header walk).schedule := by
    rw [schedule_openSection, List.map_nil, List.append_nil]
    exact h
  have hblocks := compileBlocks_keeps weighing
    (fun done _ w => OnTimeline (steps ++ done.map Prod.snd) w.schedule)
    (fun done node l w hw => by
      rw [List.map_append, ← List.append_assoc]
      exact onTimeline_compileStep weighing node l hw)
    children [] .empty (openSection header walk) hopen
  rw [List.nil_append, List.map_snd_zip
    (Nat.le_of_eq (length_steps_compileBlocks weighing children _ _))] at hblocks
  simp only [compileSection, schedule_closeSection, Section.steps]
  exact hblocks

/-- The running figures are true at the end of a document. -/
theorem onTimeline_compileSections (blocks : List Block) :
    OnTimeline ((compileSections weighing blocks).sections.flatMap Section.steps)
      (compileSections weighing blocks).schedule := by
  have hsections := compileSections_keeps weighing
    (fun done w => OnTimeline (done.flatMap fun pair => pair.2.steps) w.schedule)
    onTimeline_empty
    (fun done header children w hw => by
      rw [List.flatMap_append, List.flatMap_singleton]
      exact onTimeline_compileSection weighing header children hw)
    blocks
  rw [← List.flatMap_map Prod.snd Section.steps, sectionPairs,
    List.map_snd_zip (Nat.le_of_eq (length_compileSections weighing blocks))] at hsections
  exact hsections

theorem steps_mark (ids : Names) (s : Section) :
    (s.mark ids).steps = s.steps.map fun step => step.mark ids := by
  rw [Section.steps, Section.mark, Section.steps]
  simp only
  induction s.blocks with
  | nil => rfl
  | cons block blocks ih =>
      cases block with
      | step step => exact congrArg (step.mark ids :: ·) ih
      | comment c => exact ih

/-- The sections of a compiled recipe are those of its document with a total and with marks. -/
theorem sections_compileRecipe (o : CompileOptions) (r : Recipe) :
    ∃ ids, (compileRecipe o r).sections
      = (compileSections ⟨o.overridesFor r, o.source⟩ r.children).sections.map
          fun s => s.weighed.mark ids :=
  ⟨_, List.map_map⟩

/-- The times of the steps of a compiled recipe are those of its sections before anything was
    marked. -/
theorem times_compileRecipe (o : CompileOptions) (r : Recipe) :
    lastFinish ((compileRecipe o r).sections.flatMap Section.steps)
        = lastFinish ((compileSections ⟨o.overridesFor r, o.source⟩ r.children).sections.flatMap
            Section.steps)
      ∧ ((compileRecipe o r).sections.flatMap Section.steps).flatMap Step.backgroundEnds
        = ((compileSections ⟨o.overridesFor r, o.source⟩ r.children).sections.flatMap
            Section.steps).flatMap Step.backgroundEnds := by
  let sections := (compileSections ⟨o.overridesFor r, o.source⟩ r.children).sections
  rcases sections_compileRecipe o r with ⟨ids, hsections⟩
  have hsteps : (compileRecipe o r).sections.flatMap Section.steps
      = (sections.flatMap Section.steps).map fun step => step.mark ids := by
    rw [hsections, List.flatMap_map, List.map_flatMap]
    exact List.flatMap_congr fun s _ => steps_mark ids s.weighed
  rw [hsteps]
  constructor
  · rw [lastFinish, lastFinish, List.getLast?_map, Option.map_map]
    rfl
  · rw [List.flatMap_map]
    rfl

/-- The timeline of a document is read off the compiled steps, taken over all sections in order.
    They tile it from zero to the minute the cook has reached, which is also the number of minutes
    worked; the ends of the background tasks are those that the steps tell; and the whole takes
    until the last of these. The times of a compiled recipe are therefore functions of its steps
    alone. -/
theorem schedule_of_steps :
    (∀ (weighing : Weighing) (blocks : List Block),
      let compiled := compileSections weighing blocks
      let steps := compiled.sections.flatMap Section.steps
      Tiles 0.0 steps compiled.schedule.cursor
        ∧ compiled.schedule.cursor = lastFinish steps
        ∧ compiled.schedule.activeTime = compiled.schedule.cursor
        ∧ compiled.schedule.backgroundEnds = steps.flatMap Step.backgroundEnds
        ∧ compiled.schedule.totalTime
          = (steps.flatMap Step.backgroundEnds).foldl maxNumber compiled.schedule.cursor)
    ∧ ∀ (o : CompileOptions) (r : Recipe),
      let steps := (compileRecipe o r).sections.flatMap Section.steps
      (compileRecipe o r).metrics.activeTime = lastFinish steps
        ∧ (compileRecipe o r).metrics.totalTime
          = (steps.flatMap Step.backgroundEnds).foldl maxNumber (lastFinish steps) := by
  have hcompiled : ∀ (weighing : Weighing) (blocks : List Block),
      (compileSections weighing blocks).schedule.cursor
        = lastFinish ((compileSections weighing blocks).sections.flatMap Section.steps) :=
    fun weighing blocks => finish_of_tiles (onTimeline_compileSections weighing blocks).tiles
  constructor
  · intro weighing blocks
    have h := onTimeline_compileSections weighing blocks
    refine ⟨h.tiles, hcompiled weighing blocks, h.active, h.background, ?_⟩
    simp only [Schedule.totalTime, h.background]
  · intro o r
    have h := onTimeline_compileSections ⟨o.overridesFor r, o.source⟩ r.children
    simp only
    rw [(times_compileRecipe o r).1, (times_compileRecipe o r).2, ← hcompiled, ← h.background]
    exact ⟨h.active, rfl⟩

end Mise
