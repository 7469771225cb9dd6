import Mise.Ingredient.Staple
import Mise.Proofs.Preparation.Total
import Mise.Proofs.Usage.Figure

/-!
# Incomplete Preparations

A preparation of which something is not weighed has a partial weight, and whoever uses it should
know. A step hands this on: it is weighed by its content, and there a mention without a mass, or
with the partial weight of an earlier preparation, makes the weight partial again. So what is
missing once stays missing in everything that steps make of it, however many come after another.

A section does not hand it on. It is weighed by its list of ingredients, a mention never stands
there, and so nothing that is mentioned in its steps counts for it. The weight of a section is
complete if every ingredient on the list is weighed.

## Main definitions

* `StepPlace`: A step in a document, by what stands around it.
* `StepPlace.recorded`: The weight that is recorded when the step is complete.
* `StepPlace.Feeds`: A step mentions what an earlier one has made, as that one has left it.

## Theorems

* `mem_steps_iff_place`: The compiled steps are those that have a place.
* `mention_of_complete`: Every mention in a step of known weight is weighed in full.
* `mention_compileItems`: A mention has the weight that was in scope before the step.
* `StepPlace.Feeds.partly`: What is missing in a preparation is missing in what it goes into.
* `missing_mass_stays_missing`: The same for chains of any length, and what sections do instead.
* `loaf_hides_missing_salt`: A section of known weight that mentions an incomplete dough.
-/

namespace Mise

/-- A step in a document: the sections before its own, the blocks before it in its section, and what
    follows. -/
structure StepPlace (blocks : List Block) where
  before : List Block
  header : SectionHeader
  done : List Block
  node : StepNode
  rest : List Block
  after : List Block
  split : sectioned blocks = before ++ .section header (done ++ .step node :: rest) :: after

variable (weighing : Weighing)

/-- Blocks that follow in a section are compiled with the walk that the first ones leave. -/
theorem compileBlocks_append (blocks more : List Block) (listed : Listed) (walk : Walk) :
    compileBlocks weighing (blocks ++ more) listed walk
      = ((compileBlocks weighing blocks listed walk).1
            ++ (compileBlocks weighing more (compileBlocks weighing blocks listed walk).2.1
                (compileBlocks weighing blocks listed walk).2.2).1,
          (compileBlocks weighing more (compileBlocks weighing blocks listed walk).2.1
            (compileBlocks weighing blocks listed walk).2.2).2) := by
  induction blocks generalizing listed walk with
  | nil => simp only [List.nil_append, compileBlocks]
  | cons block blocks ih =>
      cases block with
      | step node => simp only [List.cons_append, compileBlocks_step, ih]
      | comment c => simp only [List.cons_append, compileBlocks, ih]
      | «section» header children => simp only [List.cons_append, compileBlocks, ih]

/-- A step that a section is compiled to was compiled with the walk that the blocks before it
    leave. -/
theorem exists_of_mem_compileBlocks {blocks : List Block} {listed : Listed} {walk : Walk}
    {step : Step}
    (h : step ∈ (compileBlocks weighing blocks listed walk).1.filterMap StepBlock.step?) :
    ∃ done node rest, blocks = done ++ .step node :: rest
      ∧ (compileStep weighing node (compileBlocks weighing done listed walk).2.1
          (compileBlocks weighing done listed walk).2.2).1 = step := by
  induction blocks generalizing listed walk with
  | nil => exact absurd h List.not_mem_nil
  | cons block blocks ih =>
      cases block with
      | step node =>
          rcases List.mem_cons.1 h with rfl | hmem
          · exact ⟨[], node, blocks, rfl, rfl⟩
          · rcases ih hmem with ⟨done, node', rest, rfl, hstep⟩
            exact ⟨.step node :: done, node', rest, rfl, hstep⟩
      | comment c =>
          rcases ih h with ⟨done, node, rest, rfl, hstep⟩
          exact ⟨.comment c :: done, node, rest, rfl, hstep⟩
      | «section» header children =>
          rcases ih h with ⟨done, node, rest, rfl, hstep⟩
          exact ⟨.section header children :: done, node, rest, rfl, hstep⟩

/-- A section was compiled with the walk that the blocks before it leave. -/
theorem exists_of_mem_compileSectionsFrom {blocks : List Block} {walk : Walk} {s : Section}
    (h : s ∈ (compileSectionsFrom weighing blocks walk).1) :
    ∃ before header children after, blocks = before ++ .section header children :: after
      ∧ (compileSection weighing header children
          (compileSectionsFrom weighing before walk).2).1 = s := by
  induction blocks generalizing walk with
  | nil => exact absurd h List.not_mem_nil
  | cons block blocks ih =>
      cases block with
      | «section» header children =>
          rcases List.mem_cons.1 h with rfl | hmem
          · exact ⟨[], header, children, blocks, rfl, rfl⟩
          · rcases ih hmem with ⟨before, header', children', after, rfl, hs⟩
            exact ⟨.section header children :: before, header', children', after, rfl, hs⟩
      | step node =>
          rcases ih h with ⟨before, header, children, after, rfl, hs⟩
          exact ⟨.step node :: before, header, children, after, rfl, hs⟩
      | comment c =>
          rcases ih h with ⟨before, header, children, after, rfl, hs⟩
          exact ⟨.comment c :: before, header, children, after, rfl, hs⟩

namespace StepPlace

variable {blocks : List Block} (place : StepPlace blocks)

/-- What the blocks before a step in its section are compiled to, with the lists and the walk that
    they leave. -/
def reached : List StepBlock × Listed × Walk :=
  compileBlocks weighing place.done .empty
    (openSection place.header (finalWalk weighing place.before))

/-- The walk before a step. -/
def start : Walk :=
  (place.reached weighing).2.2

/-- What a step is compiled to. -/
def step : Step :=
  (compileStep weighing place.node (place.reached weighing).2.1 (place.start weighing)).1

/-- The walk when a step is complete. -/
def finish : Walk :=
  (compileStep weighing place.node (place.reached weighing).2.1 (place.start weighing)).2.2

/-- The history of preparations before a step. -/
def history : List PreparationEvent :=
  preparationHistory weighing place.before
    ++ ((directSteps place.done).zip ((place.reached weighing).1.filterMap StepBlock.step?)).flatMap
        fun pair => stepEvents pair.1 pair.2

/-- The weight that is recorded for the preparation that a step declares, when it is complete. -/
def recorded : Option PreparationWeight :=
  (place.step weighing).produces.bind (place.finish weighing).scope.weight?

/-- One step declares a preparation, and another one mentions it without an amount, directly and not
    among alternatives, and declares a preparation as well. Nothing else was recorded for the first
    preparation in between. -/
def Feeds (first second : StepPlace blocks) : Prop :=
  ∃ m between, .mention m ∈ second.node.items ∧ m.isBare
    ∧ (first.step weighing).produces = some (slugify m.name)
    ∧ (second.step weighing).produces.isSome
    ∧ second.history weighing = first.history weighing
        ++ stepEvents first.node (first.step weighing) ++ between
    ∧ ∀ event ∈ between, event.weight? (slugify m.name) = none

end StepPlace

/-- The compiled steps of a document are those that have a place in it. -/
theorem mem_steps_iff_place (blocks : List Block) (step : Step) :
    step ∈ (compileSections weighing blocks).sections.flatMap Section.steps
      ↔ ∃ place : StepPlace blocks, place.step weighing = step := by
  rw [List.mem_flatMap]
  constructor
  · rintro ⟨s, hs, hstep⟩
    rcases exists_of_mem_compileSectionsFrom weighing hs with
      ⟨before, header, children, after, hsplit, rfl⟩
    rcases exists_of_mem_compileBlocks weighing hstep with ⟨done, node, rest, rfl, rfl⟩
    have hbefore : sectioned before = before := sectioned_of_append hsplit
    refine ⟨⟨before, header, done, node, rest, after, hsplit⟩, ?_⟩
    simp only [StepPlace.step, StepPlace.start, StepPlace.reached, finalWalk, hbefore]
  · rintro ⟨place, rfl⟩
    have hall := place.split ▸ sectioned_sectioned blocks
    have hs := getElem?_sections weighing hall
    rw [← place.split, compileSections_sectioned] at hs
    refine ⟨_, List.mem_of_getElem? hs, List.mem_filterMap.2 ⟨.step (place.step weighing), ?_, rfl⟩⟩
    simp only [compileSection, compileBlocks_append, compileBlocks_step]
    exact List.mem_append_right _ List.mem_cons_self

/-- Nothing in a step changes the weights before it is complete. -/
theorem weight?_resolveItem (item : Item) (listed : Listed) (walk : Walk) (id : String) :
    (resolveItem weighing item listed walk).2.2.scope.weight? id = walk.scope.weight? id := by
  induction item using Item.induction generalizing listed walk with
  | single item hsingle =>
      rw [walk_resolveItem weighing hsingle]
      exact weight?_notes item walk.scope id
  | alternative options ih =>
      have hkeeps := resolveOptions_keeps weighing
        (fun _ _ _ w => w.scope.weight? id = walk.scope.weight? id) options
        (fun option hmem _ _ l w hw => (ih option hmem l w).trans hw) [] [] listed walk rfl
      exact hkeeps.elim fun _ h => h

/-- A mention without an amount has the weight that was in scope before the step, for its mass. -/
theorem mention_compileItems (items : List Item) (listed : Listed) (walk : Walk) {m : Mention}
    (hm : .mention m ∈ items) (hbare : m.isBare) :
    ∃ u, .mention u ∈ (compileItems weighing items .empty listed walk).1.usages
      ∧ u.mass = (walk.scope.weight? (slugify m.name)).map
        fun w => ⟨w.grams, .preparation, w.partly⟩ := by
  have hkeeps := compileItems_keeps weighing
    (fun done p _ w => (∀ id, w.scope.weight? id = walk.scope.weight? id)
      ∧ (.mention m ∈ done → ∃ u, .mention u ∈ p.usages
        ∧ u.mass = (walk.scope.weight? (slugify m.name)).map
          fun w => ⟨w.grams, .preparation, w.partly⟩))
    (fun done item p l w hw => by
      refine ⟨fun id => ?_, fun hmem => ?_⟩
      · rw [(scope_takeIn _ p _).1, weight?_resolveItem, hw.1]
      · rw [usages_takeIn]
        rcases List.mem_append.1 hmem with hdone | hitem
        · rcases hw.2 hdone with ⟨u, hu, hmass⟩
          exact ⟨u, List.mem_append_left _ hu, hmass⟩
        · cases List.mem_singleton.1 hitem
          have hdraws := draws_mention weighing hbare w
          rw [hw.1] at hdraws
          cases hdraws with
          | mention _ hmass =>
              exact ⟨_, List.mem_append_right _ (List.mem_singleton.2 rfl), hmass⟩)
    items [] .empty listed walk ⟨fun _ => rfl, fun h => absurd h List.not_mem_nil⟩
  exact hkeeps.2 hm

/-- Every mention in a step of known weight is weighed, and not by a partial weight. -/
theorem mention_of_complete {content : List StepContent} (h : (stepWeight content).partly = false)
    {u : MentionUsage} (hu : .usage (.mention u) ∈ content) :
    ∃ mass, u.mass = some mass ∧ ¬(mass.method = .preparation ∧ mass.estimated) := by
  have hcontribution : Contribution.ofMention u
      ∈ (content.filterMap StepContent.usage?).filterMap Contribution.ofUsage? :=
    List.mem_filterMap.2 ⟨_, List.mem_filterMap.2 ⟨_, hu, rfl⟩, rfl⟩
  have hcomplete := List.any_eq_false.1 h _ hcontribution
  rw [Contribution.ofMention] at hcomplete
  cases hmass : u.mass with
  | none =>
      rw [hmass] at hcomplete
      exact absurd rfl hcomplete
  | some mass =>
      rw [hmass] at hcomplete
      refine ⟨mass, rfl, fun hpartial => hcomplete ?_⟩
      simp only [hpartial.1, hpartial.2, beq_self_eq_true, Bool.and_self, Bool.not_true,
        Bool.not_false]

namespace StepPlace

variable {blocks : List Block} (place : StepPlace blocks)

/-- What is recorded is the weight of the content, for the preparation that the step declares. -/
theorem recorded_eq : place.recorded weighing
    = (place.step weighing).produces.map fun _ => stepWeight (place.step weighing).content := by
  rw [recorded, step, finish]
  simp only [compileStep]
  generalize compileItems weighing place.node.items .empty (place.reached weighing).2.1 _ = result
  rcases result with ⟨p, listed, walk⟩
  simp only [recordStep]
  cases walk.scope.openPreparation with
  | none => rfl
  | some id =>
      rw [Option.bind_some, Option.map_some]
      exact (Scope.weight?_setWeight walk.scope id id _ _).trans (if_pos rfl)

/-- The weights before a step are those recorded last. -/
theorem tracks_start : Tracks (place.history weighing) (place.start weighing) := by
  have hopened := tracks_openSection place.header (tracks_compileSections weighing place.before)
  exact compileBlocks_keeps weighing
    (fun done _ w => Tracks (preparationHistory weighing place.before
      ++ done.flatMap fun pair => stepEvents pair.1 pair.2) w)
    (fun done node l w hw => by
      rw [List.flatMap_append, List.flatMap_singleton, ← List.append_assoc]
      exact tracks_compileStep weighing node l hw)
    place.done [] .empty _ (by simpa only [List.flatMap_nil, List.append_nil] using hopened)

theorem tracks_finish : Tracks (place.history weighing
    ++ stepEvents place.node (place.step weighing)) (place.finish weighing) :=
  tracks_compileStep weighing place.node _ (place.tracks_start weighing)

/-- A step that mentions something without a weight, or of partial weight, is of partial weight. -/
theorem partly_of_mention {m : Mention} (hm : .mention m ∈ place.node.items) (hbare : m.isBare)
    (hpartly : ∀ weight, (place.start weighing).scope.weight? (slugify m.name) = some weight →
      weight.partly) :
    (stepWeight (place.step weighing).content).partly := by
  rcases mention_compileItems weighing place.node.items (place.reached weighing).2.1
    (openStep (place.start weighing)) hm hbare with ⟨u, hu, hmass⟩
  have hcontent : .usage (.mention u) ∈ (place.step weighing).content := by
    rcases List.mem_filterMap.1 hu with ⟨piece, hpiece, husage⟩
    cases piece with
    | text s => cases husage
    | usage other =>
        cases husage
        exact hpiece
  by_contra hcomplete
  rcases mention_of_complete (Bool.not_eq_true _ ▸ hcomplete) hcontent with ⟨mass, hsome, hknown⟩
  rcases Option.map_eq_some_iff.1 (hmass.symm.trans hsome) with ⟨weight, hweight, rfl⟩
  exact hknown ⟨rfl, hpartly weight hweight⟩

variable {place}

/-- What is missing in a preparation is missing in what it goes into. -/
theorem Feeds.partly {first second : StepPlace blocks} (h : first.Feeds weighing second)
    (hfirst : ∃ weight, first.recorded weighing = some weight ∧ weight.partly) :
    ∃ weight, second.recorded weighing = some weight ∧ weight.partly := by
  rcases h with ⟨m, between, hm, hbare, hproduces, hsecond, hhistory, hbetween⟩
  rcases hfirst with ⟨weight, hrecorded, hpartly⟩
  rw [recorded, hproduces, Option.bind_some] at hrecorded
  -- The weight is still there when the second step begins.
  have hkept : (second.start weighing).scope.weight? (slugify m.name) = some weight := by
    rw [(second.tracks_start weighing).weights, hhistory, latestWeight_append_of_none hbetween,
      ← (first.tracks_finish weighing).weights, hrecorded]
  have hmissing := second.partly_of_mention weighing hm hbare fun other hother => by
    cases hkept.symm.trans hother
    exact hpartly
  rcases Option.isSome_iff_exists.1 hsecond with ⟨id, hid⟩
  exact ⟨_, by rw [recorded_eq, hid, Option.map_some], hmissing⟩

end StepPlace

/-- What is missing stays missing in what steps make of it. If the weight that a step records for a
    preparation is complete, every mention in its content is weighed, and none by the partial weight
    of a preparation. So a step is of partial weight if it mentions a preparation of partial weight,
    or one without any, and so is each step of a chain in which each mentions what the one before it
    has made. The weight that a section records instead is the sum of its list, where no mention
    stands, and is complete if every ingredient there is weighed. -/
theorem missing_mass_stays_missing (blocks : List Block) :
    (∀ step, step ∈ (compileSections weighing blocks).sections.flatMap Section.steps
        ↔ ∃ place : StepPlace blocks, place.step weighing = step)
      ∧ (∀ place : StepPlace blocks,
          (place.recorded weighing).isSome = (place.step weighing).produces.isSome)
      ∧ (∀ (place : StepPlace blocks) (weight : PreparationWeight),
          place.recorded weighing = some weight → weight.partly = false →
          ∀ u, .usage (.mention u) ∈ (place.step weighing).content →
            ∃ mass, u.mass = some mass ∧ ¬(mass.method = .preparation ∧ mass.estimated))
      ∧ (∀ (place : StepPlace blocks) (weight : PreparationWeight) (m : Mention),
          place.recorded weighing = some weight → .mention m ∈ place.node.items → m.isBare →
          (∀ used, (place.start weighing).scope.weight? (slugify m.name) = some used →
            used.partly) → weight.partly)
      ∧ (∀ first last : StepPlace blocks,
          Relation.ReflTransGen (StepPlace.Feeds weighing) first last →
          (∃ weight, first.recorded weighing = some weight ∧ weight.partly) →
          ∃ weight, last.recorded weighing = some weight ∧ weight.partly)
      ∧ (∀ (before after : List Block) (header : SectionHeader) (children : List Block)
          (name : String), sectioned blocks = before ++ .section header children :: after →
          header.produces = some name →
          ∃ s weight, (compileSections weighing blocks).sections[(outerSections before).length]?
              = some s
            ∧ (finalWalk weighing (before ++ [.section header children])).scope.weight?
                (slugify name) = some weight
            ∧ weight.grams = sumInOrder (s.ingredients.filterMap Usage.listedGrams?)
            ∧ (weight.partly = false ↔ ∀ u ∈ s.ingredients, u.listedGrams?.isSome)
            ∧ ∀ u ∈ s.ingredients, u.counted?.isSome) := by
  refine ⟨mem_steps_iff_place weighing blocks, fun place => ?_,
    fun place weight hrecorded hcomplete u hu => ?_,
    fun place weight m hrecorded hm hbare hused => ?_, fun first last hchain hfirst => ?_,
    fun before after header children name hsplit hname => ?_⟩
  · rw [place.recorded_eq, Option.isSome_map]
  · rw [place.recorded_eq] at hrecorded
    rcases Option.map_eq_some_iff.1 hrecorded with ⟨id, -, rfl⟩
    exact mention_of_complete hcomplete hu
  · rw [place.recorded_eq] at hrecorded
    rcases Option.map_eq_some_iff.1 hrecorded with ⟨id, -, rfl⟩
    exact place.partly_of_mention weighing hm hbare hused
  · induction hchain with
    | refl => exact hfirst
    | tail _ hfeeds ih => exact hfeeds.partly weighing ih
  · have hall := hsplit ▸ sectioned_sectioned blocks
    have hs := getElem?_sections weighing hall
    rw [← hsplit, compileSections_sectioned] at hs
    have hdone : sectioned (before ++ [.section header children])
        = before ++ [.section header children] := by
      rw [← List.singleton_append, ← List.append_assoc] at hsplit
      exact sectioned_of_append hsplit
    rcases preparationHistory_section weighing children hname hdone with ⟨earlier, hearlier⟩
    have hweight := (tracks_compileSections weighing (before ++ [.section header children])).weights
      (slugify name)
    rw [hearlier, latestWeight_record, if_pos rfl] at hweight
    have hlists := listsContent_compileSection weighing header children (finalWalk weighing before)
    exact ⟨_, _, hs, hweight, grams_sectionWeight _, partly_sectionWeight _,
      counted_of_mem_ingredients hlists⟩

/-- Salt that nobody has weighed goes into a starter, the starter into a sponge, and the sponge into
    a dough, step by step. -/
def saltedDough : List Block :=
  [.section noHeader [
    .step ⟨none, [.ingredient ⟨"salt", [], none, none, none, none⟩, .declaration "starter"]⟩,
    .step ⟨none, [.mention ⟨"starter", none⟩, .declaration "sponge"]⟩,
    .step ⟨none, [.text "Later, ", .mention ⟨"sponge", none⟩, .declaration "dough"]⟩]]

theorem saltedDough_incomplete :
    let weighing : Weighing := ⟨Dictionary.empty, stapleSource⟩
    ∃ last : StepPlace saltedDough, (last.step weighing).produces = some "dough"
      ∧ ∃ weight, last.recorded weighing = some weight ∧ weight.partly := by
  intro weighing
  let starter : StepPlace saltedDough := ⟨[], noHeader, [], _, _, [], rfl⟩
  let sponge : StepPlace saltedDough := ⟨[], noHeader, [_], _, _, [], rfl⟩
  let dough : StepPlace saltedDough := ⟨[], noHeader, [_, _], _, [], [], rfl⟩
  have hfirst : starter.Feeds weighing sponge :=
    ⟨⟨"starter", none⟩, [], List.mem_cons_self, rfl, rfl, rfl, rfl, nofun⟩
  have hsecond : sponge.Feeds weighing dough :=
    ⟨⟨"sponge", none⟩, [], List.mem_cons_of_mem _ List.mem_cons_self, rfl, rfl, rfl, rfl, nofun⟩
  have hchain := (Relation.ReflTransGen.single hfirst).tail hsecond
  exact ⟨dough, rfl, (missing_mass_stays_missing weighing saltedDough).2.2.2.2.1 starter dough
    hchain ⟨_, rfl, rfl⟩⟩

/-- A loaf made of a dough in which the salt has no quantity. The dough and the loaf are each made
    by a section of their own. -/
def unsaltedLoaf : List Block :=
  [.section ⟨some "Dough", none, some "dough"⟩ [.step ⟨none, [
    .ingredient ⟨"flour", [], some (.measured ⟨some (.single 500.0 none), some "g", false⟩), none,
      none, none⟩,
    .ingredient ⟨"salt", [], none, none, none, none⟩]⟩],
  .section ⟨some "Loaf", none, some "loaf"⟩ [.step ⟨none, [.mention ⟨"dough", none⟩]⟩],
  .section ⟨some "Bake", none, none⟩ [.step ⟨none, [.mention ⟨"loaf", none⟩]⟩]]

/-- The section that makes the loaf mentions a dough of partial weight, and the weight that it
    records is complete all the same. -/
theorem loaf_hides_missing_salt :
    let weighing : Weighing := ⟨Dictionary.empty, stapleSource⟩
    ∃ s u mass weight, (compileSections weighing unsaltedLoaf).sections[1]? = some s
      ∧ s.produces = some "loaf"
      ∧ .mention u ∈ s.contentUsages
      ∧ u.mass = some mass ∧ mass.method = .preparation ∧ mass.estimated
      ∧ (finalWalk weighing (unsaltedLoaf.take 2)).scope.weight? "loaf" = some weight
      ∧ weight.partly = false := by
  intro weighing
  have hweight : ((finalWalk weighing (unsaltedLoaf.take 2)).scope.weight? "loaf").map
      PreparationWeight.partly = some false := by decide +kernel
  have hcontent : ∃ s u mass, (compileSections weighing unsaltedLoaf).sections[1]? = some s
      ∧ s.produces = some "loaf" ∧ s.contentUsages = [.mention u] ∧ u.mass = some mass
      ∧ mass.method = .preparation ∧ mass.estimated :=
    ⟨_, _, _, rfl, rfl, rfl, rfl, rfl, rfl⟩
  rcases hcontent with ⟨s, u, mass, hs, hproduces, husages, hmass, hmethod, hestimated⟩
  rcases Option.map_eq_some_iff.1 hweight with ⟨weight, hweight, hcomplete⟩
  refine ⟨s, u, mass, weight, hs, hproduces, ?_, hmass, hmethod, hestimated, hweight, hcomplete⟩
  rw [husages]
  exact List.mem_singleton.2 rfl

end Mise
