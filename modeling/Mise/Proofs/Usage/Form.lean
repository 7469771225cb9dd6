import Mise.Ingredient.Staple
import Mise.Proofs.Resolution.Listing

/-!
# Forms of Usages

The usage of an ingredient has a dozen fields, and most of them may be absent. They are filled in
stages: as the item is written, then with a mass, and for a share several of them are written over
once more. Whatever reads usages later, the totals, the shopping list and the dependency graph,
relies on certain combinations only: a formula comes with one dependency and a mass in grams, a mass
comes with a number, and cookware has neither.

Each of these is a fact about one resolver, and none of them depends on what the walk has found out
before. They hold for usages at any depth, because the options of an alternative are resolved as any
other item, and for the lists of a section, because these hold nothing but usages of its content.

## Main definitions

* `ItemUsage.Labelled`: Identity and unit of an ingredient or of a piece of cookware.
* `ItemUsage.ResolvedFrom`: What a formula comes with.
* `ItemUsage.IngredientForm`, `ItemUsage.CookwareForm`, `MentionUsage.Form`: The forms of usages.
* `Usage.WellFormed`: A usage has the form of its kind, and so have its options.

## Theorems

* `method_of_mass?`: A converted mass is not that of a preparation.
* `mass?_shareUnit`: Grams can always be weighed.
* `ingredientForm_resolveShare`, `ingredientForm_weighed`: The two ways to resolve an ingredient.
* `wellFormed_resolveItem`: What an item is resolved to is well formed.
* `usages_well_formed`: All usages in compiled sections are well formed.
-/

namespace Mise

/-- The identity is that of the name, and a unit is not blank. -/
structure ItemUsage.Labelled (u : ItemUsage) : Prop where
  id : u.id = slugify u.name
  unit : ∀ unit, u.unit = some unit → Text.isBlankText unit = false

/-- What a formula comes with: one dependency, on its target, a number of grams, a mass by that
    unit, and a flag if it is a share of itself. -/
structure ItemUsage.ResolvedFrom (u : ItemUsage) (f : Formula) : Prop where
  dependencies : u.dependencies = [slugify f.target]
  quantity : ∃ x, u.quantity = some (.number x)
  unit : u.unit = some "g"
  mass : ∃ m, u.mass = some m ∧ m.method = .physical
  circular : u.circular ↔ slugify f.target = u.id

/-- The form of an ingredient. Without a formula it depends on nothing, and a mass is one of a
    number and not taken over from a preparation. -/
structure ItemUsage.IngredientForm (u : ItemUsage) : Prop extends u.Labelled where
  resolved : ∀ f, u.formula = some f → u.ResolvedFrom f
  plain : u.formula = none → u.dependencies = [] ∧ u.circular = false
  mass : ∀ m, u.mass = some m → u.number?.isSome ∧ m.method ≠ .preparation

/-- The form of a piece of cookware. It has none of what ingredients are weighed and related by. -/
structure ItemUsage.CookwareForm (u : ItemUsage) : Prop extends u.Labelled where
  mass : u.mass = none
  parent : u.parent = none
  formula : u.formula = none
  dependencies : u.dependencies = []
  circular : u.circular = false

/-- The form of a mention. A mass is taken over from a preparation only without a quantity. -/
structure MentionUsage.Form (u : MentionUsage) : Prop where
  mass : ∀ m, u.mass = some m → m.method = .preparation → u.quantity = none

/-- A usage has the form of its kind, and so have its options. -/
inductive Usage.WellFormed : Usage → Prop
  | ingredient {u : ItemUsage} (form : u.IngredientForm) : WellFormed (.ingredient u)
  | cookware {u : ItemUsage} (form : u.CookwareForm) : WellFormed (.cookware u)
  | mention {u : MentionUsage} (form : u.Form) : WellFormed (.mention u)
  | alternative {options : List Usage} (options_well_formed : ∀ u ∈ options, WellFormed u) :
      WellFormed (.alternative options)
  | timer (t : TimerUsage) : WellFormed (.timer t)
  | temperature (t : TemperatureUsage) : WellFormed (.temperature t)
  | comment (c : Comment) : WellFormed (.comment c)

section Masses

theorem method_of_convert? {amount : Float} {unit : String} {override : Option Float}
    {properties : Option Properties} {m : MassFigure}
    (h : convert? amount unit override properties = some m) : m.method ≠ .preparation := by
  have hof : ∀ grams method, method ≠ .preparation → some (MassFigure.of grams method) = some m →
      m.method ≠ .preparation := by
    intro grams method hmethod hsome
    rw [← Option.some.inj hsome]
    exact hmethod
  -- Each rule comes with its own method, and there is no rule for preparations.
  unfold convert? at h
  split at h
  · exact hof _ .physical (by decide) h
  · split at h
    · exact hof _ .explicit (by decide) h
    · split at h
      · exact hof _ .density (by decide) h
      · exact hof _ .water (by decide) h
  · split at h
    · exact hof _ .explicit (by decide) h
    · rcases Option.map_eq_some_iff.1 h with ⟨weight, -, hweight⟩
      exact hof _ .pieceWeight (by decide) (congrArg some hweight)

variable (weighing : Weighing)

theorem method_of_mass? {amount : Float} {unit name : String} {m : MassFigure}
    (h : weighing.mass? amount unit name = some m) : m.method ≠ .preparation := by
  rw [Weighing.mass?, Weighing.massOf?] at h
  exact method_of_convert? h

/-- Grams can be weighed whatever the ingredient is, and whatever is known of it. -/
theorem mass?_shareUnit (amount : Float) (name : String) :
    ∃ m, weighing.mass? amount shareUnit name = some m ∧ m.method = .physical := by
  have hclass : Unit.classify shareUnit = .mass 1.0 := by decide
  refine ⟨.of (amount * 1.0) .physical, ?_, rfl⟩
  unfold Weighing.mass? Weighing.massOf? convert?
  rw [hclass]

end Masses

theorem not_blank_of_nonBlank? {unit : Option String} {s : String} (h : nonBlank? unit = some s) :
    Text.isBlankText s = false := by
  rw [nonBlank?, Option.filter_eq_some_iff] at h
  simpa only [Bool.not_eq_eq_eq_not, Bool.not_true] using h.2

-- Words and shares are written without a unit, and a blank unit counts as none.
theorem not_blank_of_writtenQuantity {quantity : Option Quantity} {s : String}
    (h : (writtenQuantity quantity).2 = some s) : Text.isBlankText s = false := by
  cases quantity with
  | none => cases h
  | some quantity =>
      cases quantity with
      | measured m => exact not_blank_of_nonBlank? h
      | words text => cases h
      | share s => cases h

theorem labelled_writtenIngredient (i : IngredientItem) : (writtenIngredient i).Labelled where
  id := rfl
  unit _ h := not_blank_of_writtenQuantity h

theorem labelled_writtenCookware (c : CookwareItem) : (writtenCookware c).Labelled where
  id := rfl
  unit _ h := not_blank_of_writtenQuantity h

section Resolvers

variable (weighing : Weighing)

-- Whether there is a base only decides over the amount and over the mark of a ghost.
theorem resolveShare_eq (i : IngredientItem) (s : Share) (listed : Listed) (walk : Walk) :
    ∃ amount ghost, (resolveShare weighing i s listed walk).1
      = { writtenIngredient i with
          quantity := some (.number amount)
          unit := some shareUnit
          mass := weighing.mass? amount shareUnit i.name
          circular := slugify s.target == slugify i.name
          formula := some ⟨s.text, s.target, s.percent, ghost⟩
          dependencies := [slugify s.target] } := by
  simp only [resolveShare]
  cases shareBase s i.name listed walk.scope with
  | ok grams => exact ⟨s.grams grams, false, rfl⟩
  | error warning => exact ⟨s.grams 0.0, true, rfl⟩

theorem ingredientForm_resolveShare (i : IngredientItem) (s : Share) (listed : Listed)
    (walk : Walk) : (resolveShare weighing i s listed walk).1.IngredientForm := by
  rcases resolveShare_eq weighing i s listed walk with ⟨amount, ghost, heq⟩
  rcases mass?_shareUnit weighing amount i.name with ⟨grams, hgrams, hphysical⟩
  rw [heq, hgrams]
  refine ⟨⟨rfl, fun unit hunit => ?_⟩, fun f hf => ?_, fun hnone => ?_, fun m hm => ?_⟩
  · -- The unit of a share is that of grams, whatever is written.
    rw [← Option.some.inj hunit]
    decide
  · rw [← Option.some.inj hf]
    exact ⟨rfl, ⟨amount, rfl⟩, rfl, ⟨grams, rfl, hphysical⟩, beq_iff_eq⟩
  · exact absurd hnone (Option.some_ne_none _)
  · rw [← Option.some.inj hm, hphysical]
    exact ⟨rfl, by decide⟩

-- An ingredient that is no share is weighed by the number that it is written with.
theorem ingredientForm_weighed (i : IngredientItem) :
    (weighedIngredient weighing i).IngredientForm where
  toLabelled := ⟨(labelled_writtenIngredient i).id, (labelled_writtenIngredient i).unit⟩
  resolved f hf := by cases hf
  plain _ := ⟨rfl, rfl⟩
  mass m h := by
    rcases Option.bind_eq_some_iff.1 h with ⟨x, hnumber, hmass⟩
    refine ⟨?_, method_of_mass? weighing hmass⟩
    have hsame : (weighedIngredient weighing i).number? = some x := hnumber
    rw [hsame]
    rfl

theorem ingredientForm_resolveIngredient (i : IngredientItem) (listed : Listed) (walk : Walk) :
    (resolveIngredient weighing i listed walk).1.WellFormed := by
  rcases i.share_or_written with ⟨s, hshare⟩ | hwritten
  · rw [resolveIngredient_share weighing hshare]
    exact .ingredient (ingredientForm_resolveShare weighing i s listed _)
  · rw [resolveIngredient_written weighing hwritten, resolveWritten_eq]
    exact .ingredient (ingredientForm_weighed weighing i)

theorem cookwareForm_written (c : CookwareItem) : (writtenCookware c).CookwareForm where
  toLabelled := labelled_writtenCookware c
  mass := rfl
  parent := rfl
  formula := rfl
  dependencies := rfl
  circular := rfl

-- A mention that gives an amount is weighed by that, and then by no preparation.
theorem form_resolveMention (m : Mention) (walk : Walk) :
    (resolveMention weighing m walk).1.Form where
  mass figure h hmethod := by
    simp only [resolveMention] at h ⊢
    cases hamount : (writtenQuantity m.quantity).1 with
    | none => rfl
    | some amount =>
        rw [hamount] at h
        rcases Option.bind_eq_some_iff.1 h with ⟨x, -, hmass⟩
        exact absurd hmethod (method_of_mass? weighing hmass)

/-- What an item is resolved to is well formed. -/
theorem wellFormed_resolveItem (item : Item) (listed : Listed) (walk : Walk) :
    ∀ u ∈ (resolveItem weighing item listed walk).1.usages, u.WellFormed := by
  induction item using Item.induction generalizing listed walk with
  | single item hsingle =>
      have hone : ∀ {u : Usage}, u.WellFormed → ∀ v ∈ [u], v.WellFormed := by
        intro u hu v hv
        rw [List.mem_singleton.1 hv]
        exact hu
      cases item with
      | alternative options => exact absurd rfl (hsingle options)
      | ingredient i => exact hone (ingredientForm_resolveIngredient weighing i listed walk)
      | cookware c => exact hone (.cookware (cookwareForm_written c))
      | mention m => exact hone (.mention (form_resolveMention weighing m walk))
      | timer t => exact hone (.timer _)
      | temperature t => exact hone (.temperature _)
      | comment c => exact hone (.comment c)
      -- Texts and declarations leave no usage behind.
      | text s => exact fun u hu => absurd hu List.not_mem_nil
      | declaration name => exact fun u hu => absurd hu List.not_mem_nil
  | alternative options ih =>
      have hoptions := resolveOptions_keeps weighing
        (fun _ us _ _ => ∀ u ∈ us, u.WellFormed) options
        (fun option hmem _ us l w hus u hu => by
          rcases List.mem_append.1 hu with hdone | hnext
          · exact hus u hdone
          · exact ih option hmem l w u hnext)
        [] [] listed walk (fun u hu => absurd hu List.not_mem_nil)
      -- The group has no form of its own, only that of its options.
      rcases hoptions with ⟨-, hoptions⟩
      intro u hu
      rw [resolveItem_alternative] at hu
      rw [List.mem_singleton.1 hu]
      exact .alternative hoptions

theorem wellFormed_compileStep (node : StepNode) (listed : Listed) (walk : Walk) :
    ∀ u ∈ (compileStep weighing node listed walk).1.usages, u.WellFormed := by
  have hitems := compileItems_keeps weighing (fun _ p _ _ => ∀ u ∈ p.usages, u.WellFormed)
    (fun _ item p l w hp u hu => by
      rw [usages_takeIn] at hu
      rcases List.mem_append.1 hu with hdone | hnext
      · exact hp u hdone
      · exact wellFormed_resolveItem weighing item l w u hnext)
    node.items [] .empty listed (openStep walk) (fun u hu => absurd hu List.not_mem_nil)
  exact hitems

theorem wellFormed_contentUsages (header : SectionHeader) (children : List Block) (walk : Walk) :
    ∀ u ∈ (compileSection weighing header children walk).1.contentUsages, u.WellFormed := by
  have hsteps := compileBlocks_forall weighing (fun step => ∀ u ∈ step.usages, u.WellFormed)
    (wellFormed_compileStep weighing) children .empty (openSection header walk)
  intro u hu
  rcases List.mem_flatMap.1 hu with ⟨step, hstep, hmem⟩
  exact hsteps step hstep u hmem

end Resolvers

/-- All usages in compiled sections are well formed, in the lists as well as in the content, and so
    are the options inside them. -/
theorem usages_well_formed (weighing : Weighing) (blocks : List Block) :
    ∀ s ∈ (compileSections weighing blocks).sections,
      ∀ u ∈ s.ingredients ++ s.cookware ++ s.contentUsages, u.WellFormed := by
  refine compileSections_forall weighing _ (fun header children walk u hu => ?_) blocks
  have hcontent := wellFormed_contentUsages weighing header children walk
  rcases List.mem_append.1 hu with hlisted | hused
  · -- What is listed is a usage of the content.
    have hlists := listsContent_compileSection weighing header children walk
    exact hcontent u (hlists.once.subset hlisted)
  · exact hcontent u hused

/-- Flour, and butter that is half of it. -/
def shortcrust : List Block :=
  [.step ⟨none, [
    .ingredient ⟨"flour", [], some (.measured ⟨some (.single 200.0 none), some "g", false⟩), none,
      none, none⟩,
    .ingredient ⟨"butter", [], some (.share ⟨50.0, "flour", .ingredient⟩), none, none, none⟩]⟩]

theorem shortcrust_butter_well_formed :
    ∃ s u m, s ∈ (compileSections ⟨Dictionary.empty, stapleSource⟩ shortcrust).sections
      ∧ Usage.ingredient u ∈ s.ingredients ∧ u.formula.isSome
      ∧ u.dependencies = [slugify "flour"] ∧ u.mass = some m ∧ m.method = .physical := by
  let s := (compileSection ⟨Dictionary.empty, stapleSource⟩ noHeader shortcrust .start).1
  have hs : s ∈ (compileSections ⟨Dictionary.empty, stapleSource⟩ shortcrust).sections :=
    List.mem_singleton.2 rfl
  have hlisted : ∃ u f, s.ingredients[1]? = some (.ingredient u) ∧ u.formula = some f
      ∧ f.target = "flour" := ⟨_, _, rfl, rfl, rfl⟩
  rcases hlisted with ⟨u, f, hu, hformula, htarget⟩
  have hmem : Usage.ingredient u ∈ s.ingredients := List.mem_of_getElem? hu
  cases usages_well_formed _ shortcrust s hs (.ingredient u)
    (List.mem_append_left _ (List.mem_append_left _ hmem)) with
  | ingredient form =>
      rcases form.resolved f hformula with ⟨hdependencies, -, -, ⟨m, hmass, hmethod⟩, -⟩
      rw [htarget] at hdependencies
      exact ⟨s, u, m, hs, hmem, by rw [hformula]; rfl, hdependencies, hmass, hmethod⟩

end Mise
