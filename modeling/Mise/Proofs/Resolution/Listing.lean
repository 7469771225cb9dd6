import Mathlib.Data.List.Perm.Subperm
import Mise.Proofs.Resolution.Content

/-!
# Section Lists and Content

A section lists usages at the moment when their items are resolved, in each resolver by itself. The
lists are nevertheless projections of the content: whether a usage is listed can be told from the
usage and its item afterwards, and the lists are what this test selects, in the order of the
document.

An alternative resolves its options against a copy of the lists. The copy is dropped, so the options
need not be looked at: what a group adds to the lists is itself or nothing.

## Main definitions

* `entersIngredients`, `entersCookware`: Whether the usage of an item is listed, and where.
* `selected`: The usages that a test selects.
* `ListsContent`: The lists of a section are projections of its content.

## Theorems

* `extends_resolveItem`: What an item adds to the lists.
* `lists_project_content`: The lists of every compiled section are projections of its content.
-/

namespace Mise

/-- Whether the usage of an item is listed among the ingredients: an ingredient is, unless it is
    marked as a mention and has no quantity, and an alternative is if its first option is an
    ingredient. -/
def entersIngredients : Item → Usage → Bool
  | _, .ingredient u => !(u.hasModifier .reference && u.quantity.isNone)
  | .alternative (.ingredient _ :: _), .alternative _ => true
  | _, _ => false

/-- Whether the usage of an item is listed among the cookware: cookware is, and so is an
    alternative if its first option is cookware. -/
def entersCookware : Item → Usage → Bool
  | _, .cookware _ => true
  | .alternative (.cookware _ :: _), .alternative _ => true
  | _, _ => false

/-- The usages that a test selects by themselves and by the items they come from. -/
def selected (test : Item → Usage → Bool) (pairs : List (Item × Usage)) : List Usage :=
  (pairs.filter fun pair => test pair.1 pair.2).map Prod.snd

theorem selected_append (test : Item → Usage → Bool) (pairs pairs' : List (Item × Usage)) :
    selected test (pairs ++ pairs') = selected test pairs ++ selected test pairs' := by
  simp only [selected, List.filter_append, List.map_append]

/-- The lists are what the tests select from pairs, after what they held before. -/
structure Extends (before after : Listed) (pairs : List (Item × Usage)) : Prop where
  ingredients : after.ingredients = before.ingredients ++ selected entersIngredients pairs
  cookware : after.cookware = before.cookware ++ selected entersCookware pairs

theorem extends_refl (listed : Listed) : Extends listed listed [] :=
  ⟨(List.append_nil _).symm, (List.append_nil _).symm⟩

theorem extends_trans {first second third : Listed} {pairs pairs' : List (Item × Usage)}
    (h : Extends first second pairs) (h' : Extends second third pairs') :
    Extends first third (pairs ++ pairs') where
  ingredients := by rw [h'.ingredients, h.ingredients, selected_append, List.append_assoc]
  cookware := by rw [h'.cookware, h.cookware, selected_append, List.append_assoc]

variable (weighing : Weighing)

/-- An ingredient that is not a share has a quantity exactly if one is given. -/
theorem quantity_weighedIngredient {i : IngredientItem} (h : ∀ s, i.quantity ≠ some (.share s)) :
    (weighedIngredient weighing i).quantity.isNone = !i.quantity.any Quantity.isPresent := by
  simp only [weighedIngredient, writtenIngredient]
  cases hquantity : i.quantity with
  | none => rfl
  | some quantity =>
      cases quantity with
      | share s => exact absurd hquantity (h s)
      | measured m =>
          cases hfigure : m.figure with
          | none => simp only [writtenQuantity, hfigure, Option.map_none, Option.isNone_none,
              Option.any_some, Quantity.isPresent, Option.isSome_none, Bool.not_false]
          | some figure => simp only [writtenQuantity, hfigure, Option.map_some, Option.isNone_some,
              Option.any_some, Quantity.isPresent, Option.isSome_some, Bool.not_true]
      | words text => rfl

theorem extends_resolveIngredient (i : IngredientItem) (listed : Listed) (walk : Walk) :
    Extends listed (resolveIngredient weighing i listed walk).2.1
      [(.ingredient i, (resolveIngredient weighing i listed walk).1)] := by
  rcases i.share_or_written with ⟨s, hshare⟩ | hwritten
  · -- A share is always listed, as it has got a quantity.
    rw [resolveIngredient_share weighing hshare]
    refine ⟨?_, (List.append_nil _).symm⟩
    simp only [Listed.addIngredient, selected, entersIngredients, resolveShare, Option.isNone_some,
      Bool.and_false, Bool.not_false, List.filter_cons, List.filter_nil, if_true, List.map_cons,
      List.map_nil]
  · rw [resolveIngredient_written weighing hwritten, resolveWritten_eq]
    have henters : entersIngredients (.ingredient i) (.ingredient (weighedIngredient weighing i))
        = !i.isBareMention := by
      rw [entersIngredients, quantity_weighedIngredient weighing hwritten]
      rfl
    -- What the usage tells is what the resolver has asked of the item.
    cases hbare : i.isBareMention with
    | false =>
        refine ⟨?_, (List.append_nil _).symm⟩
        simp only [selected, henters, hbare, Bool.not_false, List.filter_cons, List.filter_nil,
          if_true, List.map_cons, List.map_nil, Bool.false_eq_true, if_false, Listed.addIngredient]
    | true =>
        refine ⟨?_, (List.append_nil _).symm⟩
        simp only [selected, henters, hbare, Bool.not_true, List.filter_cons, List.filter_nil,
          Bool.false_eq_true, if_true, if_false, List.map_nil, List.append_nil]

/-- What an item adds to the lists. -/
theorem extends_resolveItem (item : Item) (listed : Listed) (walk : Walk) :
    Extends listed (resolveItem weighing item listed walk).2.1
      (([item].filter Item.isUsed).zip (resolveItem weighing item listed walk).1.usages) := by
  cases item with
  | ingredient i => exact extends_resolveIngredient weighing i listed walk
  | alternative options =>
      -- Whatever the options have listed is dropped, so only the kind of the first one matters.
      rw [resolveItem_alternative]
      rcases options with _ | ⟨first, rest⟩
      · exact ⟨(List.append_nil _).symm, (List.append_nil _).symm⟩
      · cases first with
        | ingredient i => exact ⟨rfl, (List.append_nil _).symm⟩
        | cookware c => exact ⟨(List.append_nil _).symm, rfl⟩
        | _ => exact ⟨(List.append_nil _).symm, (List.append_nil _).symm⟩
  | cookware c => exact ⟨(List.append_nil _).symm, rfl⟩
  | _ => exact ⟨(List.append_nil _).symm, (List.append_nil _).symm⟩

/-- What a step adds to the lists. -/
theorem extends_compileStep (node : StepNode) (listed : Listed) (walk : Walk) :
    Extends listed (compileStep weighing node listed walk).2.1
      (usagePairs node (compileStep weighing node listed walk).1) := by
  have hitems := compileItems_keeps weighing
    (fun done p l _ => YieldsAll done p.usages
      ∧ Extends listed l ((done.filter Item.isUsed).zip p.usages))
    (fun done item p l w h => by
      have hyields := yields_resolveItem weighing item l w
      rw [usages_takeIn, List.filter_append, List.zip_append h.1.length_eq]
      exact ⟨yieldsAll_append h.1 hyields,
        extends_trans h.2 (extends_resolveItem weighing item l w)⟩)
    node.items [] .empty listed (openStep walk)
    ⟨.nil, extends_refl listed⟩
  exact hitems.2

/-- The lists of a section are projections of its content. Each usage in the content comes from one
    item in the steps, in order, and the lists are what the tests select from these pairs. No usage
    in the content stands for more than one entry of both lists together. -/
structure ListsContent (children : List Block) (s : Section) : Prop where
  items : (contentPairs children s).map Prod.fst
    = (directSteps children).flatMap fun node => node.items.filter Item.isUsed
  usages : (contentPairs children s).map Prod.snd = s.contentUsages
  yields : ∀ pair ∈ contentPairs children s, pair.1.Yields pair.2
  ingredients : s.ingredients = selected entersIngredients (contentPairs children s)
  cookware : s.cookware = selected entersCookware (contentPairs children s)
  once : (s.ingredients ++ s.cookware).Subperm s.contentUsages

theorem not_entersCookware_of_entersIngredients {item : Item} {usage : Usage}
    (h : entersIngredients item usage) : entersCookware item usage = false := by
  cases usage with
  | ingredient u => cases item <;> rfl
  | alternative us =>
      cases item with
      | alternative options =>
          rcases options with _ | ⟨first, rest⟩
          · rfl
          · cases first with
            | ingredient i => rfl
            | _ => exact absurd h Bool.false_ne_true
      | _ => exact absurd h Bool.false_ne_true
  | _ => cases item <;> exact absurd h Bool.false_ne_true

/-- Two tests that never agree select different pairs. -/
theorem subperm_selected {pairs : List (Item × Usage)} :
    (selected entersIngredients pairs ++ selected entersCookware pairs).Subperm
      (pairs.map Prod.snd) := by
  rw [selected, selected, ← List.map_append]
  -- What enters the cookware is among what does not enter the ingredients.
  have hsub : (pairs.filter fun pair => entersCookware pair.1 pair.2).Sublist
      (pairs.filter fun pair => !entersIngredients pair.1 pair.2) := by
    refine List.monotone_filter_right pairs fun pair hcookware => ?_
    by_contra hnot
    rw [Bool.not_eq_true, Bool.not_eq_false'] at hnot
    rw [not_entersCookware_of_entersIngredients hnot] at hcookware
    exact absurd hcookware Bool.false_ne_true
  refine (((List.Sublist.refl _).append hsub).map Prod.snd).subperm.trans ?_
  exact ((List.filter_append_perm _ pairs).map Prod.snd).subperm

/-- The lists of a compiled section are projections of its content. -/
theorem listsContent_compileSection (header : SectionHeader) (children : List Block)
    (walk : Walk) :
    ListsContent children (compileSection weighing header children walk).1 := by
  let s := (compileSection weighing header children walk).1
  have hblocks := compileBlocks_keeps weighing
    (fun done l _ => Extends .empty l (done.flatMap fun pair => usagePairs pair.1 pair.2))
    (fun done node l w h => by
      rw [List.flatMap_append, List.flatMap_singleton]
      exact extends_trans h (extends_compileStep weighing node l w))
    children [] .empty (openSection header walk) (extends_refl .empty)
  -- The lists of the section are those that its last step has left.
  have hingredients : s.ingredients = selected entersIngredients (contentPairs children s) :=
    hblocks.ingredients
  have hcookware : s.cookware = selected entersCookware (contentPairs children s) :=
    hblocks.cookware
  rcases map_contentPairs (yields_compileSection weighing header children walk) with
    ⟨hitems, husages, hyields⟩
  refine ⟨hitems, husages, hyields, hingredients, hcookware, ?_⟩
  change (s.ingredients ++ s.cookware).Subperm s.contentUsages
  rw [hingredients, hcookware, ← husages]
  exact subperm_selected

-- What a section lists among its ingredients is in its content.
theorem mem_content_of_listed (blocks : List Block) :
    ∀ s ∈ (compileSections weighing blocks).sections, ∀ u ∈ s.ingredients, u ∈ s.contentUsages := by
  refine compileSections_forall weighing _ (fun header children walk u hu => ?_) blocks
  have hlists := listsContent_compileSection weighing header children walk
  exact hlists.once.subset (List.mem_append_left _ hu)

/-- The lists of every compiled section are projections of its content. -/
theorem lists_project_content (weighing : Weighing) (blocks : List Block) :
    List.Forall₂ (fun node s => ListsContent node.2 s) (outerSections (sectioned blocks))
      (compileSections weighing blocks).sections := by
  refine compileSections_forall₂ weighing (fun node s => ListsContent node.2 s) ?_ blocks
  intro header children walk
  exact listsContent_compileSection weighing header children walk

end Mise
