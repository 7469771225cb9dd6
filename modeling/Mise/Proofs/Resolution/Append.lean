import Mise.Proofs.Registry.Growth
import Mise.Proofs.Resolution.Turn
import Mise.Proofs.Schedule.Timeline

/-!
# Documents in Parts

A document is compiled from front to back, so what comes later has no influence on what comes
before. Everything is kept in one walk that each item may change, but of what has been found out
nothing is taken back: sections are complete when they are closed, warnings and the ends of
background tasks are added at the end, and the registry grows. So the outcome for the first part of
a document is the beginning of the outcome for all of it.

The blocks that come first have to start with a section. Otherwise they would all be taken as one,
and whatever follows would be put into the same section.

## Main definitions

* `Walk.Extends`: What a walk can turn into.

## Theorems

* `sectioned_of_append`: The first part of a document that consists of sections does so, too.
* `keptByTurns_extends`: Each turn leads to a walk that extends the first one.
* `compileSectionsFrom_append`: Blocks that follow are compiled with the walk that the first ones
  leave.
* `finalWalk_append`, `sections_append`, `sectionPairs_append`: The same for a document that
  consists of sections.
* `getElem?_sections`: A section is compiled with the walk that those before it leave.
* `first_part_unaffected`: What is compiled first is not changed by what follows.
-/

namespace Mise

-- A document is taken as one section or is left as it is, and either way it consists of sections
-- from then on.
theorem sectioned_sectioned (blocks : List Block) :
    sectioned (sectioned blocks) = sectioned blocks := by
  cases blocks with
  | nil => rfl
  | cons first rest => cases first <;> rfl

theorem compileSections_sectioned (weighing : Weighing) (blocks : List Block) :
    compileSections weighing (sectioned blocks) = compileSections weighing blocks := by
  simp only [compileSections, sectioned_sectioned]

theorem sectioned_of_append {blocks front back : List Block}
    (h : sectioned blocks = front ++ back) : sectioned front = front := by
  cases front with
  | nil => rfl
  | cons first rest =>
      -- Only a section can be the first block, and then nothing is put into one.
      have hfirst : sectioned (first :: (rest ++ back)) = first :: (rest ++ back) := by
        rw [← List.cons_append, ← h, sectioned_sectioned]
      cases first with
      | «section» header children => rfl
      | step node => cases hfirst
      | comment c => cases hfirst

/-- What a walk can turn into: the registry grows and warnings are added. -/
structure Walk.Extends (walk walk' : Walk) : Prop where
  registry : walk.registry.Grows walk'.registry
  warnings : walk.warnings <+: walk'.warnings

theorem Walk.extends_refl (walk : Walk) : walk.Extends walk :=
  ⟨walk.registry.grows_refl, List.prefix_refl walk.warnings⟩

theorem Walk.Extends.trans {first second third : Walk} (h : first.Extends second)
    (h' : second.Extends third) : first.Extends third :=
  ⟨h.registry.trans h'.registry, h.warnings.trans h'.warnings⟩

theorem warnings_openSection_prefix (header : SectionHeader) (walk : Walk) :
    walk.warnings <+: (openSection header walk).warnings := by
  cases hproduces : header.produces with
  | none =>
      simp only [openSection, hproduces]
      exact List.prefix_refl walk.warnings
  | some name =>
      simp only [openSection, hproduces, Walk.warnIf_eq, Walk.inRegistry, Walk.inScope]
      exact List.prefix_append walk.warnings _

/-- Each turn leads to a walk that extends the one at the start. -/
theorem keptByTurns_extends (start : Walk) : KeptByTurns fun _ walk => start.Extends walk where
  opens _ header walk h :=
    h.trans ⟨grows_openSection header walk, warnings_openSection_prefix header walk⟩
  item _ item listed walk _ h :=
    h.trans ⟨walk.registry.grows_entries item, List.prefix_append walk.warnings _⟩
  aside _ walk walk' hsame h := by
    refine ⟨?_, ?_⟩
    · rw [hsame.registry]
      exact h.registry
    · rw [hsame.warnings]
      exact h.warnings

variable (weighing : Weighing)

-- The walk only goes on.
theorem extends_compileSectionsFrom (blocks : List Block) (walk : Walk) :
    walk.Extends (compileSectionsFrom weighing blocks walk).2 :=
  (keptByTurns_extends walk).compileSectionsFrom weighing blocks [] walk walk.extends_refl

/-- Blocks that follow are compiled with the walk that the first ones leave. -/
theorem compileSectionsFrom_append (blocks more : List Block) (walk : Walk) :
    compileSectionsFrom weighing (blocks ++ more) walk
      = ((compileSectionsFrom weighing blocks walk).1
            ++ (compileSectionsFrom weighing more
                (compileSectionsFrom weighing blocks walk).2).1,
          (compileSectionsFrom weighing more (compileSectionsFrom weighing blocks walk).2).2) := by
  induction blocks generalizing walk with
  | nil => simp only [List.nil_append, compileSectionsFrom]
  | cons block blocks ih =>
      cases block with
      | «section» header children =>
          simp only [List.cons_append, compileSectionsFrom_section, ih]
      | step node => exact ih walk
      | comment c => exact ih walk

theorem finalWalk_append {blocks more : List Block} (hfirst : sectioned blocks = blocks)
    (hall : sectioned (blocks ++ more) = blocks ++ more) :
    finalWalk weighing (blocks ++ more)
      = (compileSectionsFrom weighing more (finalWalk weighing blocks)).2 := by
  rw [finalWalk, finalWalk, hall, hfirst, compileSectionsFrom_append]

theorem sections_append {blocks more : List Block} (hfirst : sectioned blocks = blocks)
    (hall : sectioned (blocks ++ more) = blocks ++ more) :
    (compileSections weighing (blocks ++ more)).sections
      = (compileSections weighing blocks).sections
        ++ (compileSectionsFrom weighing more (finalWalk weighing blocks)).1 := by
  simp only [compileSections, finalWalk, hall, hfirst, compileSectionsFrom_append]

-- The pairs of the first part come first, because it has as many sections as it is compiled to.
theorem sectionPairs_append {blocks more : List Block} (hfirst : sectioned blocks = blocks)
    (hall : sectioned (blocks ++ more) = blocks ++ more) :
    sectionPairs weighing (blocks ++ more)
      = sectionPairs weighing blocks
        ++ (outerSections more).zip
            (compileSectionsFrom weighing more (finalWalk weighing blocks)).1 := by
  have hlength := length_compileSections weighing blocks
  rw [hfirst] at hlength
  rw [sectionPairs, sectionPairs, hall, hfirst, sections_append weighing hfirst hall,
    outerSections, List.filterMap_append]
  exact List.zip_append hlength.symm

-- The place of a section among the compiled ones is its place among the sections of the document.
theorem getElem?_sections {before after : List Block} {header : SectionHeader}
    {children : List Block} (hall : sectioned (before ++ .section header children :: after)
      = before ++ .section header children :: after) :
    (compileSections weighing (before ++ .section header children :: after)).sections[
        (outerSections before).length]?
      = some (compileSection weighing header children (finalWalk weighing before)).1 := by
  have hbefore := sectioned_of_append hall
  have hlength := length_compileSections weighing before
  rw [hbefore] at hlength
  rw [sections_append weighing hbefore hall, compileSectionsFrom_section,
    List.getElem?_append_right (Nat.le_of_eq hlength), hlength, Nat.sub_self]
  rfl

/-- What is compiled first is not changed by what follows. The sections stay as they are, those that
    follow are added, and their steps go on at the minute that the cook has reached. Warnings and
    the ends of background tasks are added at the end. The keys of the registry come first, in the
    same order, and the entry of each has only gained. -/
theorem first_part_unaffected (header : SectionHeader) (children rest more : List Block) :
    let blocks := .section header children :: rest
    let part := compileSections weighing blocks
    let whole := compileSections weighing (blocks ++ more)
    ∃ added : List Section, whole.sections = part.sections ++ added
      ∧ added.length = (outerSections more).length
      ∧ (∀ step, (added.flatMap Section.steps).head? = some step →
          step.timing.start = part.schedule.cursor)
      ∧ part.warnings <+: whole.warnings
      ∧ part.schedule.backgroundEnds <+: whole.schedule.backgroundEnds
      ∧ part.registry.ingredients.keys <+: whole.registry.ingredients.keys
      ∧ (∀ id e, (id, e) ∈ part.registry.ingredients →
          ∃ e', (id, e') ∈ whole.registry.ingredients ∧ e.Gains e')
      ∧ part.registry.cookware <+: whole.registry.cookware := by
  intro blocks part whole
  let added := (compileSectionsFrom weighing more (finalWalk weighing blocks)).1
  have hsections : whole.sections = part.sections ++ added := sections_append weighing rfl rfl
  have hlength : added.length = (outerSections more).length :=
    (compileSectionsFrom_forall₂ weighing (fun _ _ => True) (fun _ _ _ => trivial) more
      (finalWalk weighing blocks)).length_eq.symm
  -- The walk of the whole document goes on where that of the first part ends.
  have hextends : (finalWalk weighing blocks).Extends (finalWalk weighing (blocks ++ more)) := by
    rw [finalWalk_append weighing rfl rfl]
    exact extends_compileSectionsFrom weighing more (finalWalk weighing blocks)
  have hregistry : part.registry.Grows whole.registry := hextends.registry
  -- Both timelines are read off the steps, and the steps of the first part come first.
  have hpart : OnTimeline (part.sections.flatMap Section.steps) part.schedule :=
    onTimeline_compileSections weighing blocks
  have hwhole : OnTimeline (whole.sections.flatMap Section.steps) whole.schedule :=
    onTimeline_compileSections weighing (blocks ++ more)
  rw [hsections, List.flatMap_append] at hwhole
  refine ⟨added, hsections, hlength, fun step hstep => ?_, hextends.warnings, ?_,
    hregistry.ingredients.keys_prefix, fun id e hmem => hregistry.ingredients.exists_of_mem hmem,
    hregistry.cookware⟩
  · exact start_of_tiles (tiles_of_append hpart.tiles hwhole.tiles) hstep
  · rw [hpart.background, hwhole.background, List.flatMap_append]
    exact List.prefix_append _ _

end Mise
