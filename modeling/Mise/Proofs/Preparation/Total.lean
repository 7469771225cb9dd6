import Mise.Proofs.Preparation.Tracking
import Mise.Proofs.Resolution.Append
import Mise.Proofs.Resolution.Listing

/-!
# Weights and Totals

A section that produces a preparation is weighed twice, at different times and by different code:
when it is closed, for those who use the preparation later, and at the end, for the figures that are
shown with it. Both add up the list of ingredients, but they do not treat an entry alike that counts
as no ingredient: the weight takes it for one without a mass, and the total passes it over.

They agree because there is no such entry. What a section lists is an ingredient, or an alternative
whose first option is one, and the first option of an alternative stays the first when the options
are resolved. The rest is about two ways to run through one list, one of them adding masses that
have been selected before, the other one selecting as it goes.

## Main definitions

* `MassTotal.AgreesWith`: A total says the same as a weight.

## Theorems

* `counted_of_entersIngredients`: What is listed counts as an ingredient.
* `grams_foldl`, `mem_missing_foldl`: What a running total comes to.
* `ofUsages_agreesWith`: The total of usages that all count agrees with their weight.
* `totals_agree_with_records`: The total of a section agrees with the weight that it records, and so
  do mentions of what it produces.
-/

namespace Mise

-- Neither texts nor declarations stand before an ingredient, so the first option that is left is
-- the first one written.
theorem counted_of_entersIngredients {item : Item} {usage : Usage} (hyields : item.Yields usage)
    (h : entersIngredients item usage) : usage.counted?.isSome := by
  cases hyields with
  | ingredient _ _ => rfl
  | @alternative options us hoptions =>
      rcases options with _ | ⟨first, rest⟩
      · exact absurd h Bool.false_ne_true
      · cases first with
        | ingredient i =>
            cases hoptions with
            | cons hfirst _ =>
                cases hfirst with
                | ingredient _ _ => rfl
        | _ => exact absurd h Bool.false_ne_true
  | _ => exact absurd h Bool.false_ne_true

theorem counted_of_mem_ingredients {children : List Block} {s : Section}
    (h : ListsContent children s) : ∀ u ∈ s.ingredients, u.counted?.isSome := by
  intro u hu
  rw [h.ingredients, selected, List.mem_map] at hu
  rcases hu with ⟨⟨item, usage⟩, hmem, rfl⟩
  rcases List.mem_filter.1 hmem with ⟨hpair, henters⟩
  exact counted_of_entersIngredients (h.yields _ hpair) henters

namespace MassTotal

/-- A total says the same as a weight: as many grams, to the nearest hundredth, and that something
    is missing, by its status as well as by name, exactly if the weight is partial. -/
structure AgreesWith (total : MassTotal) (weight : PreparationWeight) : Prop where
  grams : total.grams = round2 weight.grams
  incomplete : total.status = .incomplete ↔ weight.partly
  missing : total.missing ≠ [] ↔ weight.partly

-- The additions are the same ones in the same order, which is all that can be said of doubles.
theorem grams_foldl (items : List ItemUsage) (r : Running) :
    (items.foldl Running.add r).grams
      = (items.filterMap ItemUsage.knownMass?).foldl (fun total m => total + m.grams) r.grams := by
  induction items generalizing r with
  | nil => rfl
  | cons first rest ih =>
      rw [List.foldl_cons, ih, List.filterMap_cons, Running.add]
      cases first.knownMass? <;> rfl

theorem mem_missing_foldl (items : List ItemUsage) (r : Running) (s : String) :
    s ∈ (items.foldl Running.add r).missing
      ↔ s ∈ r.missing ∨ ∃ u ∈ items, u.knownMass? = none ∧ u.name = s := by
  induction items generalizing r with
  | nil => simp only [List.foldl_nil, List.not_mem_nil, false_and, exists_false, or_false]
  | cons first rest ih =>
      have hadd : s ∈ (r.add first).missing
          ↔ s ∈ r.missing ∨ (first.knownMass? = none ∧ first.name = s) := by
        rw [Running.add]
        cases first.knownMass? with
        | none => simp only [mem_addNew, true_and, eq_comm]
        | some m => simp only [reduceCtorEq, false_and, or_false]
      rw [List.foldl_cons, ih, hadd, or_assoc]
      simp only [List.mem_cons, exists_eq_or_imp]

theorem missing_ofUsages_ne_nil (us : List Usage) :
    (ofUsages us).missing ≠ [] ↔ ∃ u ∈ us, ∃ item, u.counted? = some item
      ∧ item.knownMass? = none := by
  constructor
  · intro hne
    -- A name that is missing is that of some ingredient, and that one has no mass.
    rcases List.exists_mem_of_ne_nil _ hne with ⟨s, hs⟩
    rcases (mem_missing_foldl _ _ s).1 hs with hnil | ⟨item, hitem, hnone, -⟩
    · exact absurd hnil List.not_mem_nil
    · rcases List.mem_filterMap.1 hitem with ⟨u, hu, hcounted⟩
      exact ⟨u, hu, item, hcounted, hnone⟩
  · rintro ⟨u, hu, item, hcounted, hnone⟩
    have hitem : item ∈ us.filterMap Usage.counted? := List.mem_filterMap.2 ⟨u, hu, hcounted⟩
    exact List.ne_nil_of_mem ((mem_missing_foldl _ _ _).2 (Or.inr ⟨item, hitem, hnone, rfl⟩))

theorem incomplete_ofUsages (us : List Usage) :
    (ofUsages us).status = .incomplete ↔ (ofUsages us).missing ≠ [] := by
  simp only [ofUsages, ofRunning]
  cases (Running.ofItems (us.filterMap Usage.counted?)).missing with
  | nil =>
      simp only [List.isEmpty_nil, Bool.not_true, Bool.false_eq_true, if_false, ne_eq,
        not_true_eq_false, iff_false]
      split_ifs <;> decide
  | cons first rest =>
      simp only [List.isEmpty_cons, Bool.not_false, if_true, ne_eq, reduceCtorEq,
        not_false_eq_true]

/-- The total of usages that all count agrees with their weight. -/
theorem ofUsages_agreesWith {us : List Usage} (h : ∀ u ∈ us, u.counted?.isSome) :
    (ofUsages us).AgreesWith (sectionWeight us) := by
  -- Both find something missing if some entry has no mass.
  have hpartly : (sectionWeight us).partly ↔ (ofUsages us).missing ≠ [] := by
    rw [missing_ofUsages_ne_nil]
    simp only [sectionWeight, List.any_eq_true, Option.isNone_iff_eq_none]
    constructor
    · rintro ⟨u, hu, hnone⟩
      rcases Option.isSome_iff_exists.1 (h u hu) with ⟨item, hitem⟩
      rw [listedMass?, hitem, Option.bind_some] at hnone
      exact ⟨u, hu, item, hitem, hnone⟩
    · rintro ⟨u, hu, item, hitem, hnone⟩
      exact ⟨u, hu, by rw [listedMass?, hitem, Option.bind_some, hnone]⟩
  refine ⟨?_, (incomplete_ofUsages us).trans hpartly.symm, hpartly.symm⟩
  have hgrams := grams_foldl (us.filterMap Usage.counted?) ⟨0.0, false, []⟩
  rw [List.filterMap_filterMap] at hgrams
  exact congrArg round2 hgrams

/-- An entry that counts as nothing would be missing in the weight, but not in the total. -/
example :
    let us : List Usage := [.comment ⟨"to taste", .line⟩]
    (sectionWeight us).partly = true ∧ (ofUsages us).missing = [] := by
  decide

end MassTotal

variable (weighing : Weighing)

-- Recording its weight is the last thing that a section does.
theorem preparationHistory_section {before : List Block} {header : SectionHeader} {name : String}
    (children : List Block) (hname : header.produces = some name)
    (hdone : sectioned (before ++ [.section header children])
      = before ++ [.section header children]) :
    let s := (compileSection weighing header children (finalWalk weighing before)).1
    ∃ earlier, preparationHistory weighing (before ++ [.section header children])
      = earlier ++ [.record (slugify name) (sectionWeight s.ingredients)] := by
  intro s
  rw [preparationHistory, sectionPairs_append weighing (sectioned_of_append hdone) hdone,
    List.flatMap_append]
  simp only [outerSections, List.filterMap_cons, Block.section?, List.filterMap_nil,
    compileSectionsFrom, List.zip_cons_cons, List.zip_nil_left,
    List.flatMap_singleton, sectionEvents, hname, Option.map_some, Option.toList_some]
  rw [← List.append_assoc]
  exact ⟨_, rfl⟩

theorem preparationHistory_sectioned (blocks : List Block) :
    preparationHistory weighing (sectioned blocks) = preparationHistory weighing blocks := by
  simp only [preparationHistory, sectionPairs, sectioned_sectioned, compileSections_sectioned]

theorem preparationHistory_append {blocks more : List Block} (hfirst : sectioned blocks = blocks)
    (hall : sectioned (blocks ++ more) = blocks ++ more) :
    ∃ rest, preparationHistory weighing (blocks ++ more)
      = preparationHistory weighing blocks ++ rest := by
  rw [preparationHistory, sectionPairs_append weighing hfirst hall, List.flatMap_append]
  exact ⟨_, rfl⟩

/-- A section that produces a preparation is weighed twice, and the outcomes agree. The weight that
    the scope has for the preparation when the section is closed says the same as the total that the
    section has in the compiled recipe. A mention of the preparation after the section, without a
    quantity and with no other record in between, is therefore an estimate exactly if the total is
    incomplete. -/
theorem totals_agree_with_records (o : CompileOptions) (r : Recipe) (before after : List Block)
    (header : SectionHeader) (children : List Block) (name : String)
    (hblocks : sectioned r.children = before ++ .section header children :: after)
    (hname : header.produces = some name) :
    let weighing : Weighing := ⟨o.overridesFor r, o.source⟩
    let done := before ++ [.section header children]
    ∃ weight s total rest,
      (finalWalk weighing done).scope.weight? (slugify name) = some weight
        ∧ (compileRecipe o r).sections[(outerSections before).length]? = some s
        ∧ s.produces = some name
        ∧ s.mass = some total
        ∧ total.AgreesWith weight
        ∧ preparationHistory weighing r.children = preparationHistory weighing done ++ rest
        ∧ ∀ between m u later,
            rest = between ++ .use (slugify name) (.mention m) (.mention u) :: later →
            (∀ event ∈ between, event.weight? (slugify name) = none) →
            ∃ mass, u.mass = some mass ∧ mass.grams = weight.grams ∧ mass.method = .preparation
              ∧ (mass.estimated ↔ total.status = .incomplete) := by
  intro weighing done
  let s := (compileSection weighing header children (finalWalk weighing before)).1
  have hsplit : sectioned r.children = done ++ after := by
    rw [hblocks, List.append_assoc, List.singleton_append]
  have hdone : sectioned done = done := sectioned_of_append hsplit
  have hall : sectioned (done ++ after) = done ++ after := by rw [← hsplit, sectioned_sectioned]
  -- The section is weighed when it is closed, and nothing is recorded after that.
  rcases preparationHistory_section weighing children hname hdone with ⟨earlier, hearlier⟩
  have hlatest : latestWeight (slugify name) (preparationHistory weighing done)
      = some (sectionWeight s.ingredients) := by
    rw [hearlier, latestWeight_record, if_pos rfl]
  rcases preparationHistory_append weighing hdone hall with ⟨rest, hrest⟩
  rw [← hsplit, preparationHistory_sectioned] at hrest
  -- The compiled section is this one with its total and with marks, which leave the total alone.
  rcases sections_compileRecipe o r with ⟨ids, hsections⟩
  have hplace : (compileRecipe o r).sections[(outerSections before).length]?
      = some (s.weighed.mark ids) := by
    have hs := getElem?_sections weighing (hblocks ▸ sectioned_sectioned r.children)
    rw [← hblocks, compileSections_sectioned] at hs
    rw [hsections, List.getElem?_map, hs, Option.map_some]
  have hagrees : (MassTotal.ofUsages s.ingredients).AgreesWith (sectionWeight s.ingredients) :=
    MassTotal.ofUsages_agreesWith (counted_of_mem_ingredients
      (listsContent_compileSection weighing header children (finalWalk weighing before)))
  refine ⟨_, _, _, rest, ((tracks_compileSections weighing done).weights _).trans hlatest, hplace,
    hname, rfl, hagrees, hrest, fun between m u later hbetween hnone => ?_⟩
  -- What the mention shows was recorded last, and that is the weight of the section.
  have hdraws := (tracks_compileSections weighing r.children).faithful
    (preparationHistory weighing done ++ between) (slugify name) (.mention m) (.mention u) later
    (by rw [hrest, hbetween, List.append_assoc])
  rw [latestWeight_append_of_none hnone, hlatest] at hdraws
  cases hdraws with
  | mention _ hmass => exact ⟨_, hmass, rfl, rfl, hagrees.incomplete.symm⟩

/-- Bread of a dough in which the salt has no quantity, so that nobody knows what all of it
    weighs. -/
def breadRecipe : Recipe where
  kind := recipeKind
  info := Dictionary.empty
  children := [
    .section ⟨none, none, some "dough"⟩ [.step ⟨none, [
      .ingredient ⟨"flour", [], some (.measured ⟨some (.single 500.0 none), some "g", false⟩), none,
        none, none⟩,
      .ingredient ⟨"salt", [], none, none, none, none⟩]⟩],
    .section noHeader [.step ⟨none, [.mention ⟨"dough", none⟩]⟩]]

theorem bread_takes_over_estimate :
    let compiled := compileRecipe .default breadRecipe
    ∃ s total u mass, compiled.sections[0]? = some s ∧ s.mass = some total
      ∧ total.status = .incomplete
      ∧ (compiled.sections.flatMap Section.contentUsages).getLast? = some (.mention u)
      ∧ u.mass = some mass ∧ mass.estimated := by
  intro compiled
  rcases totals_agree_with_records .default breadRecipe [] _ _ _ "dough" rfl rfl with
    ⟨weight, s, total, rest, -, hplace, -, htotal, -, hhistory, hlater⟩
  have hstatus : (compiled.sections[0]?.bind Section.mass).map MassTotal.status
      = some .incomplete := rfl
  have hincomplete : total.status = .incomplete := by
    have hs : compiled.sections[0]? = some s := hplace
    rw [hs, Option.bind_some, htotal, Option.map_some] at hstatus
    exact Option.some.inj hstatus
  -- The mention is all that comes after the dough, in the history as well as in the content.
  have hmention : ∃ u,
      rest = [.use (slugify "dough") (.mention ⟨"dough", none⟩) (.mention u)]
        ∧ (compiled.sections.flatMap Section.contentUsages).getLast? = some (.mention u) :=
    ⟨_, List.append_cancel_left (hhistory.symm.trans rfl), rfl⟩
  rcases hmention with ⟨u, hrest, hlast⟩
  rcases hlater [] _ u [] hrest (fun _ h => absurd h List.not_mem_nil) with
    ⟨mass, hmass, -, -, hestimated⟩
  exact ⟨s, total, u, mass, hplace, htotal, hincomplete, hlast, hmass, hestimated.2 hincomplete⟩

end Mise
