import Mise.Proofs.Resolution.Visit
import Mise.Proofs.Shopping.Marking
import Mise.Proofs.Weighing.Agreement

/-!
# Overrides That Do Not Matter

An override is stated for a name, and it can only matter to what is weighed under a name of the same
identity. A recipe without such a name is compiled to the same with and without it. Most of this is
that the walk through a document weighs nothing but what has a name in it. There is one more place
where something is weighed: the parents in the shopping list, under the name that the registry has
for them. That name need not be the one in the document, but it has the same identity.

A quantity in a unit of mass is converted by the unit alone, so no override matters to it at all.

## Main definitions

* `CompileOptions.stating`: Options with one more override.
* `UnitClass.grams?`, `Quantity.grams?`, `Item.grams?`: What is written in a unit of mass.
* `Item.WeighedAs`: A usage has the mass that its item is written with.
* `Compilation.usages`: The single usages of a compiled recipe.

## Theorems

* `agree_stating`: An override makes no difference for other identities.
* `mergedList_agree`: A shopping list is the same, if the names in it are weighed alike.
* `weighedAs_of_valid`: What is written in a unit of mass is weighed by it.
* `overrides_of_others`: Overrides of other names do not matter.
-/

namespace Mise

/-- Options with the override of a name stated. -/
def CompileOptions.stating (o : CompileOptions) (name : String) (value : Float) : CompileOptions :=
  { o with overrides := o.overrides.put name value }

/-- How a recipe is weighed with options. -/
def CompileOptions.weighingFor (o : CompileOptions) (r : Recipe) : Weighing :=
  ⟨o.overridesFor r, o.source⟩

/-- An override makes no difference for other identities, even if the recipe has overrides of its
    own. -/
theorem agree_stating (o : CompileOptions) (r : Recipe) {id name : String} (h : id ≠ slugify name)
    (value : Float) : ((o.stating name value).weighingFor r).Agree (o.weighingFor r) id := by
  intro other hother amount unit
  have hoverride : ((o.stating name value).overridesFor r).of? other
      = (o.overridesFor r).of? other := by
    simp only [CompileOptions.stating, CompileOptions.overridesFor, Overrides.of?, Overrides.put,
      Dictionary.get?_overlay, Dictionary.get?_insert]
    rw [hother, if_neg h]
  simp only [CompileOptions.weighingFor, Weighing.mass?, Weighing.massOf?, Option.bind_some,
    hoverride]
  rfl

section Parents

variable {w w' : Weighing}

-- The registry may have another spelling of a name, but no other identity.
theorem slugify_ingredientName (weighing : Weighing) (blocks : List Block) (name : String) :
    slugify (((compileSections weighing blocks).registry.ingredientName? (slugify name)).getD name)
      = slugify name := by
  rw [registry_compileSections, Registry.ingredientName?]
  cases hget : (registryOf (documentNamings blocks) (cookwareNames blocks)).ingredients.get?
      (slugify name) with
  | none => rfl
  | some e => exact (readOff_of_get? hget).slug

theorem parentLines_agree {registry : Registry} {parts : List (ParentRef × ItemUsage)}
    (h : ∀ p ∈ parts,
      w.Agree w' (slugify ((registry.ingredientName? (slugify p.1.parent)).getD p.1.parent))) :
    parentLines w registry parts = parentLines w' registry parts := by
  let key (p : ParentRef × ItemUsage) := slugify p.1.parent
  let fresh (p : ParentRef × ItemUsage) :=
    PartTally.empty ((registry.ingredientName? (slugify p.1.parent)).getD p.1.parent)
  let change (p : ParentRef × ItemUsage) (t : PartTally) := t.add p.2
  -- A tally is made with the name that its parent is weighed under, and keeps it.
  have hnames : ∀ entry ∈ Ledger.collect key fresh change parts,
      w.Agree w' (slugify entry.2.name) :=
    Ledger.forall_collect key fresh change (P := fun t => w.Agree w' (slugify t.name)) h
      (fun _ _ ht => ht)
  rw [parentLines, parentLines]
  refine List.map_congr_left fun entry hentry => ?_
  have hmass := hnames entry hentry entry.2.name rfl
  simp only [PartTally.entry, hmass]

/-- A shopping list is the same, if the parents in it are weighed alike. -/
theorem mergedList_agree {registry : Registry} {sections : List Section}
    (h : ∀ p ∈ (listedUsages sections).filterMap Usage.part?,
      w.Agree w' (slugify ((registry.ingredientName? (slugify p.1.parent)).getD p.1.parent))) :
    mergedList w registry sections = mergedList w' registry sections := by
  rw [mergedList_eq, mergedList_eq, parentLines_agree h]

end Parents

section Origins

variable (weighing : Weighing)

theorem parent_of_valid {v : Visit} (h : v.Valid weighing) {u : ItemUsage}
    (hu : v.place.usage = .ingredient u) :
    ∃ i, v.place.item = .ingredient i ∧ u.parent = i.origin.map .ofOrigin := by
  have hyields := yields_of_valid weighing h
  have husage := h.usage
  rw [hu] at hyields husage
  cases hitem : v.place.item with
  | ingredient i =>
      refine ⟨i, rfl, ?_⟩
      rw [hitem] at husage
      rcases i.share_or_written with ⟨s, hshare⟩ | hwritten
      · rw [usage_share weighing hshare] at husage
        cases husage
        rfl
      · simp only [resolveItem, resolveIngredient_written weighing hwritten,
          resolveWritten_eq] at husage
        cases husage
        rfl
  | _ =>
      rw [hitem] at hyields
      cases hyields

/-- What a listed ingredient is part of is written in the document. -/
theorem origin_of_listed (blocks : List Block) :
    ∀ s ∈ (compileSections weighing blocks).sections, ∀ u, .ingredient u ∈ s.ingredients →
      ∃ i, .ingredient i ∈ documentItems blocks ∧ u.parent = i.origin.map .ofOrigin := by
  have hplaces := forall_documentPlaces weighing
    (P := fun p => ∀ u, p.usage = .ingredient u →
      ∃ i, p.item = .ingredient i ∧ u.parent = i.origin.map .ofOrigin)
    (fun v hvalid u hu => parent_of_valid weighing hvalid hu) blocks
  rcases map_documentPlaces weighing blocks with ⟨hitems, husages⟩
  intro s hs u hu
  -- The usage is listed, so it is in the content, and has a place there.
  have hcontent := mem_content_of_listed weighing blocks s hs _ hu
  have husage : Usage.ingredient u ∈ documentUsages weighing blocks := by
    refine List.mem_flatMap_of_mem hs ?_
    rw [Usage.singlesOf_eq_flatMap]
    exact List.mem_flatMap_of_mem hcontent (List.mem_singleton_self _)
  rw [← husages] at husage
  rcases List.mem_map.1 husage with ⟨p, hp, hpu⟩
  rcases hplaces p hp u hpu with ⟨i, hi, hparent⟩
  have hitem : p.item ∈ (documentItems blocks).filter Item.isUsed :=
    hitems ▸ List.mem_map_of_mem hp
  rw [hi] at hitem
  exact ⟨i, (List.mem_filter.1 hitem).1, hparent⟩

/-- What a part in the shopping list of a recipe is part of is written in the document. -/
theorem origin_of_part (blocks : List Block) :
    let sections := (compileSections weighing blocks).sections.map Section.weighed
    ∀ p ∈ (listedUsages (markCircular sections)).filterMap Usage.part?,
      ∃ i, .ingredient i ∈ documentItems blocks ∧ ∃ o, i.origin = some o ∧ p.1 = .ofOrigin o := by
  intro sections p hp
  rcases List.mem_filterMap.1 hp with ⟨usage, husage, hpart⟩
  rw [listedUsages_markCircular] at husage
  rcases List.mem_map.1 husage with ⟨listed, hlisted, rfl⟩
  rcases List.mem_flatMap.1 hlisted with ⟨s, hs, hmem⟩
  rcases List.mem_map.1 hs with ⟨s', hs', rfl⟩
  cases listed with
  | ingredient u =>
      rcases origin_of_listed weighing blocks s' hs' u hmem with ⟨i, hi, hparent⟩
      rcases mark_eq (circularIdentities sections) u with ⟨circular, hmark⟩
      rw [mark_ingredient, hmark, Usage.part?, hparent, Option.map_map] at hpart
      rcases Option.map_eq_some_iff.1 hpart with ⟨o, ho, rfl⟩
      exact ⟨i, hi, o, ho, rfl⟩
  | _ => cases hpart

-- The parents in the shopping list of a recipe are weighed under identities of the document.
theorem parents_named (blocks : List Block) :
    let compiled := compileSections weighing blocks
    ∀ p ∈ (listedUsages (markCircular (compiled.sections.map Section.weighed))).filterMap
        Usage.part?,
      ∃ item ∈ documentItems blocks, ∃ name ∈ item.names,
        slugify ((compiled.registry.ingredientName? (slugify p.1.parent)).getD p.1.parent)
          = slugify name := by
  intro compiled p hp
  rcases origin_of_part weighing blocks p hp with ⟨i, hi, o, ho, horigin⟩
  rw [horigin]
  refine ⟨.ingredient i, hi, o.parent, ?_, slugify_ingredientName weighing blocks _⟩
  refine List.mem_append_left _ (List.mem_cons_of_mem _ ?_)
  rw [ho]
  exact List.mem_singleton_self _

end Origins

/-- The grams of a number in a unit of mass. -/
def UnitClass.grams? (c : UnitClass) (x : Float) : Option Float :=
  match c with
  | .mass factor => some (x * factor)
  | _ => none

/-- The grams that a quantity says, if it is written in a unit of mass. -/
def Quantity.grams? : Quantity → Option Float
  | .measured m =>
    (m.figure.bind Figure.number?).bind (Unit.classify ((nonBlank? m.unit).getD "")).grams?
  | _ => none

/-- The grams that an item says, if its quantity is written in a unit of mass. -/
def Item.grams? : Item → Option Float
  | .ingredient i => i.quantity.bind Quantity.grams?
  | .mention m => m.quantity.bind Quantity.grams?
  | _ => none

/-- The mass of a usage. -/
def Usage.mass? : Usage → Option MassFigure
  | .ingredient u => u.mass
  | .mention u => u.mass
  | _ => none

/-- If an item is written in a unit of mass, its usage has that mass. It is measured as such and not
    an estimate. -/
def Item.WeighedAs (item : Item) (usage : Usage) : Prop :=
  ∀ grams, item.grams? = some grams → usage.mass? = some ⟨grams, .physical, false⟩

section Grams

variable (weighing : Weighing)

theorem number?_ofFigure (f : Figure) : (Amount.ofFigure f).number? = f.number? := by
  cases f <;> rfl

theorem mass_of_grams? {c : UnitClass} {x grams : Float} (h : c.grams? x = some grams) :
    ∃ factor, c = .mass factor ∧ x * factor = grams := by
  cases c with
  | mass factor => exact ⟨factor, rfl, Option.some.inj h⟩
  | _ => cases h

-- A unit of mass is all that it takes to weigh, so neither overrides nor properties are asked.
theorem mass?_of_class {unit : String} {factor : Float} (h : Unit.classify unit = .mass factor)
    (amount : Float) (name : String) :
    weighing.mass? amount unit name = some ⟨amount * factor, .physical, false⟩ := by
  unfold Weighing.mass? Weighing.massOf? convert?
  rw [h]
  rfl

theorem mass?_of_grams {q : Quantity} {grams : Float} (h : q.grams? = some grams) (name : String) :
    ∃ amount x, (writtenQuantity (some q)).1 = some amount ∧ amount.number? = some x
      ∧ weighing.mass? x ((writtenQuantity (some q)).2.getD "") name
        = some ⟨grams, .physical, false⟩ := by
  cases q with
  | share s => cases h
  | words text => cases h
  | measured m =>
      rcases Option.bind_eq_some_iff.1 h with ⟨x, hx, hgrams⟩
      rcases Option.bind_eq_some_iff.1 hx with ⟨figure, hfigure, hnumber⟩
      rcases mass_of_grams? hgrams with ⟨factor, hclass, hproduct⟩
      refine ⟨.ofFigure figure, x, ?_, (number?_ofFigure figure).trans hnumber, ?_⟩
      · rw [writtenQuantity, hfigure, Option.map_some]
      · rw [writtenQuantity, mass?_of_class weighing hclass, hproduct]

/-- What is written in a unit of mass is weighed by it. -/
theorem weighedAs_of_valid {v : Visit} (h : v.Valid weighing) :
    v.place.item.WeighedAs v.place.usage := by
  intro grams hgrams
  have husage := h.usage
  cases hitem : v.place.item with
  | ingredient i =>
      rw [hitem] at hgrams husage
      rcases Option.bind_eq_some_iff.1 hgrams with ⟨q, hquantity, hq⟩
      rcases mass?_of_grams weighing hq i.name with ⟨amount, x, hamount, hx, hmass⟩
      -- A share is not written in a unit, so this is an ingredient that is weighed as written.
      have hwritten : ∀ s, i.quantity ≠ some (.share s) := by
        intro s hshare
        rw [hshare] at hquantity
        cases hquantity
        cases hq
      simp only [resolveItem, resolveIngredient_written weighing hwritten, resolveWritten_eq,
        Resolved.usage.injEq] at husage
      simp only [← husage, Usage.mass?, weighedIngredient, writtenIngredient, ItemUsage.number?,
        hquantity, hamount, Option.bind_some, hx, hmass]
  | mention m =>
      rw [hitem] at hgrams husage
      rcases Option.bind_eq_some_iff.1 hgrams with ⟨q, hquantity, hq⟩
      rcases mass?_of_grams weighing hq m.name with ⟨amount, x, hamount, hx, hmass⟩
      simp only [resolveItem, resolveMention, hquantity, hamount, Resolved.usage.injEq] at husage
      simp only [← husage, Usage.mass?, hx, Option.bind_some, hmass]
  | _ =>
      rw [hitem] at hgrams
      cases hgrams

end Grams

/-- The single usages in the content of a compiled recipe. -/
def Compilation.usages (c : Compilation) : List Usage :=
  Usage.singlesOf (c.sections.flatMap Section.contentUsages)

section Recipes

variable (o : CompileOptions) (r : Recipe)

theorem usages_compileRecipe :
    ∃ ids, (compileRecipe o r).usages
      = (documentUsages (o.weighingFor r) r.children).map (Usage.mark ids) := by
  rcases sections_compileRecipe o r with ⟨ids, hsections⟩
  refine ⟨ids, ?_⟩
  have hcontent : ∀ s : Section, (s.weighed.mark ids).contentUsages
      = s.contentUsages.map (Usage.mark ids) := fun s => contentUsages_mark ids s.weighed
  rw [Compilation.usages, hsections, Usage.singlesOf_eq_flatMap, List.flatMap_map,
    List.flatMap_assoc, documentUsages, List.map_flatMap]
  refine List.flatMap_congr fun s _ => ?_
  rw [hcontent, List.flatMap_map, Usage.singlesOf_eq_flatMap, List.map_flatMap]
  exact List.flatMap_congr fun u _ => singles_mark ids u

theorem mass?_mark (ids : Names) (usage : Usage) : (usage.mark ids).mass? = usage.mass? := by
  cases usage with
  | ingredient u =>
      rcases mark_eq ids u with ⟨circular, hmark⟩
      rw [mark_ingredient, hmark]
      rfl
  | _ => rfl

/-- In every compiled recipe, what is written in a unit of mass is weighed by it. -/
theorem weighedAs_compileRecipe :
    List.Forall₂ Item.WeighedAs ((documentItems r.children).filter Item.isUsed)
      (compileRecipe o r).usages := by
  rcases usages_compileRecipe o r with ⟨ids, husages⟩
  rcases map_documentPlaces (o.weighingFor r) r.children with ⟨hitems, hplaces⟩
  rw [husages, ← hitems, ← hplaces, List.forall₂_map_left_iff, List.forall₂_map_right_iff,
    List.forall₂_map_right_iff, List.forall₂_same]
  have hweighed := forall_documentPlaces (o.weighingFor r)
    (P := fun p => p.item.WeighedAs p.usage)
    (fun v hvalid => weighedAs_of_valid (o.weighingFor r) hvalid) r.children
  intro p hp grams hgrams
  rw [mass?_mark]
  exact hweighed p hp grams hgrams

end Recipes

/-- A recipe without a name of some identity is compiled to the same with and without an override of
    that identity. And whatever is overridden, everything that is written in a unit of mass keeps
    the mass it is written with, which is measured as such and not an estimate. -/
theorem overrides_of_others (o : CompileOptions) (r : Recipe) (name : String) (value : Float) :
    ((∀ other ∈ documentNames r.children, slugify other ≠ slugify name) →
      compile? (o.stating name value) r = compile? o r)
    ∧ List.Forall₂ Item.WeighedAs ((documentItems r.children).filter Item.isUsed)
        (compileRecipe o r).usages
    ∧ List.Forall₂ Item.WeighedAs ((documentItems r.children).filter Item.isUsed)
        (compileRecipe (o.stating name value) r).usages := by
  refine ⟨fun hother => ?_, weighedAs_compileRecipe o r,
    weighedAs_compileRecipe (o.stating name value) r⟩
  have hnames : ∀ item ∈ documentItems r.children, ∀ other ∈ item.names,
      slugify other ≠ slugify name := by
    intro item hitem other hmem
    rcases List.mem_flatMap.1 hitem with ⟨part, hpart, hitem⟩
    exact hother other (List.mem_flatMap_of_mem hpart
      (List.mem_append_right _ (List.mem_flatMap_of_mem hitem hmem)))
  have hagree : ((o.stating name value).weighingFor r).AgreeOn (o.weighingFor r)
      (documentItems r.children) :=
    fun item hitem other hmem => agree_stating o r (hnames item hitem other hmem) value
  have hcompiled := compileSections_agree hagree
  let compiled := compileSections (o.weighingFor r) r.children
  have hlist : mergedList ((o.stating name value).weighingFor r) compiled.registry
        (markCircular (compiled.sections.map Section.weighed))
      = mergedList (o.weighingFor r) compiled.registry
        (markCircular (compiled.sections.map Section.weighed)) := by
    refine mergedList_agree fun p hp => ?_
    rcases parents_named (o.weighingFor r) r.children p hp with ⟨item, hitem, other, hmem, hid⟩
    rw [hid]
    exact agree_stating o r (hnames item hitem other hmem) value
  -- Whatever else there is in a compilation does not depend on overrides.
  have hrecipe : compileRecipe (o.stating name value) r = compileRecipe o r := by
    simp only [compiled, CompileOptions.weighingFor] at hcompiled hlist
    simp only [compileRecipe, finishRecipe, hcompiled, shoppingList, hlist]
    rfl
  rw [compile?, compile?, hrecipe]

/-- A batter of flour that is weighed and of milk that is not. -/
def batter : Recipe where
  kind := recipeKind
  info := Dictionary.empty
  children := [.step ⟨none, [
    .ingredient ⟨"flour", [], some (.measured ⟨some (.single 2.0 none), some "kg", false⟩), none,
      none, none⟩,
    .ingredient ⟨"milk", [], some (.measured ⟨some (.single 2.0 none), some "cups", false⟩), none,
      none, none⟩]⟩]

theorem batter_without_sugar :
    compile? (CompileOptions.default.stating "sugar" 0.8) batter = compile? .default batter
      ∧ ∃ flour milk, (compileRecipe (CompileOptions.default.stating "flour" 0.5) batter).usages
          = [flour, milk] ∧ flour.mass? = some ⟨2.0 * 1000.0, .physical, false⟩ := by
  have hnames : ∀ other ∈ documentNames batter.children, slugify other ≠ slugify "sugar" := by
    have hdocument : documentNames batter.children = ["flour", "milk"] := rfl
    rw [hdocument]
    decide
  refine ⟨(overrides_of_others .default batter "sugar" 0.8).1 hnames, ?_⟩
  -- Two kilograms of flour are as much, whatever is stated of flour.
  have hweighed := (overrides_of_others .default batter "flour" 0.5).2.2
  have husages : ∃ flour milk,
      (compileRecipe (CompileOptions.default.stating "flour" 0.5) batter).usages = [flour, milk] :=
    ⟨_, _, rfl⟩
  rcases husages with ⟨flour, milk, husages⟩
  rw [husages] at hweighed
  cases hweighed with
  | cons hflour _ => exact ⟨flour, milk, husages, hflour _ rfl⟩

end Mise
