import Mise.Proofs.Preparation.Tracking
import Mise.Proofs.Share.Source
import Mise.Proofs.Usage.Form
import Mise.Proofs.Warning.Account

/-!
# Shares of Themselves

A share whose target has the identity of its own item is marked and warned of, and resolved as any
other share: of what the section has used of that ingredient so far, or of the weight that was
recorded last for that preparation. The mark is put on when the amount is there already.

So a share of itself comes to nothing if there is nothing to take it of, which is the case when it
stands alone. It is a ghost then, a share of zero grams. Any finite share of zero is a zero again,
of either sign, and stays one when it is rounded. But if the same identity came up before and was
weighed, the share is a part of that weight, and adds it to what is there.

What a share of a preparation is taken of is told by the history, whose uses are those at the places
of the document, in the same order.

## Main definitions

* `Item.shareOfItself?`: The share of itself that an item is.
* `ItemUsage.IsShareOf`: A usage is a share of a base, or of nothing.
* `Place.base?`: What is known of the ingredients that a share at a place is taken of.
* `Place.use?`: The use of a preparation at a place.

## Theorems

* `round2_share_of_zero`: Shares of zero.
* `isShareOf_resolveShare`: What a share is resolved to.
* `uses_preparationHistory`: The uses in the history of a document are those at its places.
* `filter_circleCodes`: Shares of themselves are warned of.
* `shares_of_themselves`: Shares of themselves in a document, and what they come to.
-/

namespace Mise

section Zero

open Float.Model Float.Model.UnpackedFloat

-- The product has the sign of the other factor, and of infinity there is none.
theorem zero_mul_cases (x : Float) :
    x.isFinite ∧ (0.0 * x = 0.0 ∨ 0.0 * x = -0.0)
      ∨ x.isFinite = false ∧ 0.0 * x = 0.0 / 0.0 := by
  have hmul : 0.0 * x = ⟨Float.Model.pack
      (UnpackedFloat.mul Format.binary64 (.zero .positive) x.toModel.unpack)⟩ := rfl
  have hfinite : x.isFinite = x.toModel.unpack.isFinite := rfl
  rw [hmul, hfinite]
  cases x.toModel.unpack with
  | notANumber => exact Or.inr ⟨rfl, by decide⟩
  | infinity s => exact Or.inr ⟨rfl, by cases s <;> decide⟩
  | zero s =>
      cases s with
      | negative => exact Or.inl ⟨rfl, Or.inr rfl⟩
      | positive => exact Or.inl ⟨rfl, Or.inl rfl⟩
  | finite s m e h =>
      cases s with
      | negative => exact Or.inl ⟨rfl, Or.inr rfl⟩
      | positive => exact Or.inl ⟨rfl, Or.inl rfl⟩

/-- A share of zero is a zero if it is finite, and no number otherwise. -/
theorem round2_share_of_zero (percent : Float) :
    round2 (0.0 * percent / 100.0) == 0.0 ↔ percent.isFinite := by
  rcases zero_mul_cases percent with ⟨h, hzero | hzero⟩ | ⟨h, hnan⟩
  · rw [h, hzero]
    decide +kernel
  · rw [h, hzero]
    decide +kernel
  · rw [h, hnan]
    decide +kernel

end Zero

/-- The share of itself that an item is: an ingredient with a share, of either kind, whose target
    has the identity of the ingredient. -/
def Item.shareOfItself? : Item → Option (IngredientItem × Share)
  | .ingredient i =>
    match i.quantity with
    | some (.share s) => if slugify s.target = slugify i.name then some (i, s) else none
    | _ => none
  | _ => none

/-- A usage is a share of so many grams, or of nothing. Of nothing it is a ghost, which is computed
    as a share of zero and does not count, and otherwise it counts. -/
structure ItemUsage.IsShareOf (u : ItemUsage) (base : Option Float) (percent : Float) : Prop where
  quantity : u.quantity = some (.number (round2 (base.getD 0.0 * percent / 100.0)))
  unit : u.unit = some "g"
  ghost : u.isGhost ↔ base = none
  counts : u.knownMass?.isSome ↔ base.isSome

/-- The grams of the ingredients that a share at a place is taken of, unless none are known. -/
def Place.base? (p : Place) (target : String) : Option Float :=
  if knownGrams (p.sources target) = [] then none
  else some ((knownGrams (p.sources target)).foldl (· + ·) (-0.0))

/-- The use of a preparation at a place. -/
def Place.use? (p : Place) : Option PreparationEvent :=
  p.item.drawsOn?.map fun id => .use id p.item p.usage

theorem eq_of_shareOfItself? {item : Item} {i : IngredientItem} {s : Share}
    (h : item.shareOfItself? = some (i, s)) :
    item = .ingredient i ∧ i.quantity = some (.share s) ∧ slugify s.target = slugify i.name := by
  cases item with
  | ingredient j =>
      simp only [Item.shareOfItself?] at h
      split at h
      · next hquantity =>
          split at h
          · next hself =>
              cases h
              exact ⟨rfl, hquantity, hself⟩
          · cases h
      · cases h
  | _ => cases h

theorem shareOfItself?_share {i : IngredientItem} {s : Share}
    (h : i.quantity = some (.share s)) :
    (Item.ingredient i).shareOfItself?
      = if slugify s.target = slugify i.name then some (i, s) else none := by
  simp only [Item.shareOfItself?, h]

section Resolved

variable (weighing : Weighing)

/-- A share is resolved to a share of its base. -/
theorem isShareOf_resolveShare (i : IngredientItem) (s : Share) (listed : Listed) (walk : Walk) :
    (resolveShare weighing i s listed walk).1.IsShareOf
      (shareBase s i.name listed walk.scope).toOption s.percent := by
  have hmass : (resolveShare weighing i s listed walk).1.mass.isSome := by
    rcases resolveShare_eq weighing i s listed walk with ⟨amount, ghost, heq⟩
    rcases mass?_shareUnit weighing amount i.name with ⟨m, hm, -⟩
    rw [heq, hm]
    rfl
  cases hbase : shareBase s i.name listed walk.scope with
  | ok grams =>
      rcases resolveShare_ok weighing hbase with ⟨hghost, hquantity⟩
      -- Grams always have a mass, so what is no ghost counts.
      refine ⟨hquantity, rfl, ?_, ?_⟩
      · rw [hghost]
        exact iff_of_false Bool.false_ne_true (Option.some_ne_none _)
      · rw [ItemUsage.knownMass?, hghost, if_neg Bool.false_ne_true, hmass]
        exact iff_of_true rfl rfl
  | error w =>
      have hghost := resolveShare_error weighing hbase
      refine ⟨?_, rfl, iff_of_true hghost rfl, ?_⟩
      · simp only [resolveShare, hbase]
        rfl
      · rw [ItemUsage.knownMass?, hghost, if_pos rfl]
        exact iff_of_false Bool.false_ne_true Bool.false_ne_true

/-- Of zero grams, or of nothing, a share is a zero if it is finite. -/
theorem ItemUsage.IsShareOf.zero {u : ItemUsage} {base : Option Float} {percent : Float}
    (h : u.IsShareOf base percent) (hghost : u.isGhost) :
    ∃ x, u.quantity = some (.number x) ∧ (x == 0.0 ↔ percent.isFinite) := by
  have hquantity := h.quantity
  rw [h.ghost.1 hghost] at hquantity
  exact ⟨_, hquantity, round2_share_of_zero percent⟩

/-- The base of a share of an ingredient is what is known at its place. -/
theorem toOption_shareBase {p : Place} {listed : Listed} (h : listed.Holds p.before) {s : Share}
    (hof : s.of = .ingredient) (item : String) (scope : Scope) :
    (shareBase s item listed scope).toOption = p.base? s.target := by
  rw [shareBase_of_holds h hof, Place.base?]
  by_cases hsources : p.sources s.target = []
  · rw [if_pos hsources, if_pos (by rw [hsources]; rfl)]
    rfl
  · rw [if_neg hsources]
    split <;> rfl

/-- A usage that shows the weight of a preparation is a share of that weight. -/
theorem isShareOf_of_draws {i : IngredientItem} {s : Share} {u : ItemUsage}
    (hquantity : i.quantity = some (.share s)) {base : Option Float}
    (h : u.IsShareOf base s.percent) {weight : Option PreparationWeight}
    (hdraws : Draws (.ingredient i) (.ingredient u) weight) :
    u.IsShareOf (weight.map PreparationWeight.grams) s.percent := by
  cases hdraws with
  | @share _ t _ w hshare _ hamount hknown =>
      cases hquantity.symm.trans hshare
      -- The base is another name of the weight, as far as the amount can tell.
      have hbase : base ≠ none := fun hnone =>
        absurd (h.ghost.2 hnone) (by rw [hknown]; exact Bool.false_ne_true)
      refine ⟨hamount, h.unit, ?_, ?_⟩
      · exact h.ghost.trans (iff_of_false hbase (Option.some_ne_none _))
      · exact h.counts.trans (iff_of_true (Option.isSome_iff_ne_none.2 hbase) rfl)
  | ghost hshare _ hghost =>
      rw [h.ghost.1 hghost] at h
      exact h

/-- A share of itself on a visit is marked, and a share of some base. If it is one of an ingredient,
    the base is what is known at its place. -/
theorem shareOfItself_of_valid {v : Visit} (h : v.Valid weighing) {i : IngredientItem} {s : Share}
    (hself : v.place.item.shareOfItself? = some (i, s)) :
    ∃ u base, v.place.usage = .ingredient u ∧ u.circular ∧ u.IsShareOf base s.percent
      ∧ (s.of = .ingredient → base = v.place.base? s.target) := by
  rcases eq_of_shareOfItself? hself with ⟨hitem, hquantity, hsame⟩
  have husage := h.usage
  rw [hitem, usage_share weighing hquantity] at husage
  refine ⟨_, _, (Resolved.usage.inj husage).symm, ?_, isShareOf_resolveShare weighing i s _ _,
    fun hof => toOption_shareBase h.listed hof _ _⟩
  rw [circular_resolveShare, hsame, beq_self_eq_true]

end Resolved

section Warnings

variable {weighing : Weighing}

/-- The warning that a share of itself deserves. -/
def Place.circleWarning? (p : Place) : Option Warning :=
  p.item.shareOfItself?.map fun pair => .shareOfItself pair.1.name

theorem filter_circleCodes_visit {v : Visit} :
    (v.warnings.filter fun w => w.code ∈ circleCodes) = v.place.circleWarning?.toList := by
  rw [Visit.warnings, Place.circleWarning?]
  cases v.place.item with
  | ingredient i =>
      rcases i.share_or_written with ⟨s, hshare⟩ | hwritten
      · rw [warnings_share hshare, filter_circleCodes_share, shareOfItself?_share hshare]
        by_cases hself : slugify s.target = slugify i.name
        · rw [if_pos hself, if_pos (beq_iff_eq.2 hself)]
          rfl
        · rw [if_neg hself, if_neg fun h => hself (beq_iff_eq.1 h)]
          rfl
      · rw [filter_warnings_eq_nil (codes_written hwritten ▸ by decide)]
        simp only [Item.shareOfItself?]
        rfl
  | _ =>
      rw [filter_warnings_eq_nil (by simp only [Item.codes]; decide)]
      rfl

/-- The shares of themselves in a document are warned of, one by one and in order, and nothing else
    is warned of as such. -/
theorem filter_circleCodes (blocks : List Block) :
    ((compileSections weighing blocks).warnings.filter fun w => w.code ∈ circleCodes)
      = (documentPlaces weighing blocks).filterMap Place.circleWarning? :=
  filter_warnings_compileSections weighing _ _ (fun _ _ => rfl)
    (fun _ _ => filter_circleCodes_visit) blocks

end Warnings

section Uses

/-- Each single item and its usage stand at one place. -/
theorem pairs_placesOf {items : List Item} {us : List Usage} (h : List.Forall₂ Item.Yields items us)
    (before : List Usage) :
    (Usage.placesOf before items us).map (fun p => (p.item, p.usage)) = singlePairs items us := by
  rcases onePlaceEach_placesOf h before with ⟨hitems, husages⟩
  rw [singlePairs, ← hitems, ← husages, List.zip_map']

theorem uses_placesOf {items : List Item} {us : List Usage} (h : List.Forall₂ Item.Yields items us)
    (before : List Usage) :
    (Usage.placesOf before items us).filterMap Place.use? = usesIn items us := by
  rw [usesIn, ← pairs_placesOf h before, List.filterMap_map]
  rfl

/-- The uses in steps, taken together. -/
theorem usesIn_flatMap {nodes : List StepNode} {steps : List Step}
    (h : List.Forall₂ (fun node step => YieldsAll node.items step.usages) nodes steps) :
    (nodes.zip steps).flatMap (fun pair => usesIn pair.1.items pair.2.usages)
      = usesIn (nodes.flatMap StepNode.items) (steps.flatMap Step.usages) := by
  induction h with
  | nil => rfl
  | cons hyields _ ih =>
      rw [List.zip_cons_cons, List.flatMap_cons, List.flatMap_cons, List.flatMap_cons,
        usesIn_append hyields, ih]

-- What is not used leaves no usage behind, and is no use.
theorem usesIn_usedItems (children : List Block) (us : List Usage) :
    usesIn (usedItems children) us = usesIn ((directSteps children).flatMap StepNode.items) us := by
  have hitems : Item.singlesOf ((directSteps children).flatMap StepNode.items)
      = sectionItems children := by
    rw [Item.singlesOf_eq_flatMap, List.flatMap_assoc, sectionItems]
    exact List.flatMap_congr fun node _ => (Item.singlesOf_eq_flatMap node.items).symm
  rw [usesIn, usesIn, singlePairs, singlePairs, filter_singlesOf_usedItems, hitems]

/-- Among the events of a step, the uses are those of its items. -/
theorem uses_stepEvents (node : StepNode) (step : Step) :
    (stepEvents node step).filter (fun event => event.user?.isSome)
      = usesIn node.items step.usages := by
  have huses : (usesIn node.items step.usages).filter (fun event => event.user?.isSome)
      = usesIn node.items step.usages := by
    refine List.filter_eq_self.2 fun event hevent => ?_
    rcases List.mem_filterMap.1 hevent with ⟨pair, -, hpair⟩
    rcases Option.map_eq_some_iff.1 hpair with ⟨id, -, rfl⟩
    rfl
  rw [stepEvents, List.filter_append, huses]
  cases lastDeclared node.items <;> exact List.append_nil _

variable (weighing : Weighing)

theorem uses_sectionEvents (header : SectionHeader) (children : List Block) (walk : Walk) :
    let s := (compileSection weighing header children walk).1
    (sectionEvents header children s).filter (fun event => event.user?.isSome)
      = (sectionPlaces children s).filterMap Place.use? := by
  intro s
  have hrecord : ((header.produces.map fun name =>
      PreparationEvent.record (slugify name) (sectionWeight s.ingredients)).toList).filter
        (fun event => event.user?.isSome) = [] := by
    cases header.produces <;> rfl
  have huses : (((directSteps children).zip s.steps).flatMap fun pair =>
      stepEvents pair.1 pair.2).filter (fun event => event.user?.isSome)
      = usesIn ((directSteps children).flatMap StepNode.items) s.contentUsages := by
    rw [List.filter_flatMap, Section.contentUsages,
      ← usesIn_flatMap (yields_compileSection weighing header children walk)]
    exact List.flatMap_congr fun pair _ => uses_stepEvents pair.1 pair.2
  rw [sectionEvents, List.filter_append, hrecord, List.append_nil, huses, sectionPlaces,
    uses_placesOf (yields_contentUsages weighing header children walk), usesIn_usedItems]

/-- The uses in the history of a document are those at its places, in order. -/
theorem uses_preparationHistory (blocks : List Block) :
    (preparationHistory weighing blocks).filter (fun event => event.user?.isSome)
      = (documentPlaces weighing blocks).filterMap Place.use? := by
  have hsections := compileSections_forall₂ weighing
    (fun part s => (sectionEvents part.1 part.2 s).filter (fun event => event.user?.isSome)
      = (sectionPlaces part.2 s).filterMap Place.use?)
    (uses_sectionEvents weighing) blocks
  rw [preparationHistory, documentPlaces, sectionPairs]
  generalize outerSections (sectioned blocks) = parts at hsections ⊢
  generalize (compileSections weighing blocks).sections = sections at hsections ⊢
  induction hsections with
  | nil => rfl
  | cons huses _ ih =>
      rw [List.zip_cons_cons, List.flatMap_cons, List.flatMap_cons, List.filter_append,
        List.filterMap_append, huses, ih]

end Uses

/-- Every share of itself in a document is marked and has its warning, and there are no other
    warnings of that kind. It is a share of what is known of that ingredient at its place, or of the
    weight that was recorded last for that preparation before its use. If there is nothing like
    that it is a ghost, and comes to zero grams if it is finite; otherwise it counts as that part of
    what came before. Every single item has a place, and every use of a preparation at a place is in
    the history. -/
theorem shares_of_themselves (weighing : Weighing) (blocks : List Block) :
    let places := documentPlaces weighing blocks
    let history := preparationHistory weighing blocks
    places.map Place.item = (documentItems blocks).filter Item.isUsed
      ∧ history.filter (fun event => event.user?.isSome) = places.filterMap Place.use?
      ∧ (∀ p ∈ places, ∀ i s, p.item.shareOfItself? = some (i, s) →
          ∃ u, p.usage = .ingredient u ∧ u.circular
            ∧ (s.of = .ingredient → u.IsShareOf (p.base? s.target) s.percent)
            ∧ (s.of = .preparation → ∀ before after,
                history = before ++ .use (slugify s.target) p.item p.usage :: after →
                u.IsShareOf ((latestWeight (slugify s.target) before).map PreparationWeight.grams)
                  s.percent)
            ∧ (u.isGhost →
                ∃ x, u.quantity = some (.number x) ∧ (x == 0.0 ↔ s.percent.isFinite)))
      ∧ ((compileSections weighing blocks).warnings.filter fun w => w.code ∈ circleCodes)
        = places.filterMap Place.circleWarning? := by
  intro places history
  refine ⟨(map_documentPlaces weighing blocks).1, uses_preparationHistory weighing blocks, ?_,
    filter_circleCodes blocks⟩
  intro p hp i s hself
  have hvisits := forall_documentPlaces weighing
    (P := fun p => ∀ i s, p.item.shareOfItself? = some (i, s) →
      ∃ u base, p.usage = .ingredient u ∧ u.circular ∧ u.IsShareOf base s.percent
        ∧ (s.of = .ingredient → base = p.base? s.target))
    (fun v hvalid i s hself => shareOfItself_of_valid weighing hvalid hself) blocks
  rcases hvisits p hp i s hself with ⟨u, base, husage, hcircular, hshare, hbase⟩
  rcases eq_of_shareOfItself? hself with ⟨hitem, hquantity, -⟩
  refine ⟨u, husage, hcircular, fun hof => hbase hof ▸ hshare,
    fun _ before after hsplit => ?_, hshare.zero⟩
  -- The use shows the weight that the history has recorded last.
  have hdraws := (uses_follow_history weighing blocks).1 before _ _ _ after hsplit
  rw [hitem, husage] at hdraws
  exact isShareOf_of_draws hquantity hshare hdraws

/-- A stock that is made of some of itself. -/
def stockOfStock : List Block :=
  [.step ⟨none, [
    .ingredient ⟨"stock", [], some (.share ⟨10.0, "Stock", .ingredient⟩), none, none, none⟩]⟩]

/-- Before any stock has been used, some of it comes to nothing. -/
theorem stockOfStock_is_nothing :
    ∃ u x, (documentPlaces ⟨Dictionary.empty, stapleSource⟩ stockOfStock).map Place.usage
        = [.ingredient u]
      ∧ u.circular ∧ u.isGhost ∧ u.quantity = some (.number x) ∧ x == 0.0 := by
  have hplaces : ∃ p, documentPlaces ⟨Dictionary.empty, stapleSource⟩ stockOfStock = [p]
      ∧ p.item.shareOfItself? = some (⟨"stock", [],
        some (.share ⟨10.0, "Stock", .ingredient⟩), none, none, none⟩,
          ⟨10.0, "Stock", .ingredient⟩)
      ∧ p.base? "Stock" = none := ⟨_, rfl, by decide +kernel, rfl⟩
  rcases hplaces with ⟨p, hplaces, hself, hbase⟩
  rcases (shares_of_themselves ⟨Dictionary.empty, stapleSource⟩ stockOfStock).2.2.1 p
    (hplaces ▸ List.mem_cons_self) _ _ hself with ⟨u, husage, hcircular, hshare, -, hzero⟩
  have hghost := (hshare rfl).ghost.2 hbase
  rcases hzero hghost with ⟨x, hquantity, hx⟩
  refine ⟨u, x, ?_, hcircular, hghost, hquantity, hx.2 (by decide +kernel)⟩
  rw [hplaces, List.map_singleton, husage]

/-- Flour, and flour that is half of it. -/
def flourOfFlour : List Block :=
  [.step ⟨none, [
    .ingredient ⟨"flour", [], some (.measured ⟨some (.single 500.0 none), some "g", false⟩), none,
      none, none⟩,
    .ingredient ⟨"flour", [], some (.share ⟨50.0, "flour", .ingredient⟩), none, none, none⟩]⟩]

/-- The half of the flour counts as 250 grams more. -/
theorem flourOfFlour_adds :
    ∃ p ∈ documentPlaces ⟨Dictionary.empty, stapleSource⟩ flourOfFlour, ∃ i s u,
      p.item.shareOfItself? = some (i, s) ∧ p.usage = .ingredient u ∧ u.circular
        ∧ u.quantity = some (.number 250.0) ∧ u.unit = some "g" ∧ u.knownMass?.isSome :=
  ⟨_, List.mem_cons_of_mem _ List.mem_cons_self, _, _, _, rfl, rfl, rfl,
    by decide +kernel, rfl, rfl⟩

end Mise
