import Mise.Proofs.Resolution.Walk

/-!
# Content and Items

The content of a compiled step stands in the order of the document. Each item but a text or a
declaration has turned into one usage of the same kind and name, and the usages of an alternative
stand to its options as those of the step stand to its items. So the usages of a step can be paired
with the items they come from, and a statement about content can refer to the document.

## Main definitions

* `Item.isUsed`: Whether an item turns into a usage.
* `Item.Yields`: A usage is of the kind and the name of an item.
* `contentPairs`: The usages in the content of a section, each with the item it comes from.

## Theorems

* `yields_resolveItem`: What an item is resolved to is of its kind and name.
* `yields_compileStep`: The usages of a step are those of its items, in order.
-/

namespace Mise

/-- Whether an item turns into a usage. Texts are copied and declarations leave nothing behind. -/
def Item.isUsed : Item → Bool
  | .text _ => false
  | .declaration _ => false
  | _ => true

/-- A usage is of the kind and the name of an item, and so are its options. -/
inductive Item.Yields : Item → Usage → Prop
  | ingredient {i : IngredientItem} {u : ItemUsage} (id : u.id = slugify i.name)
      (name : u.name = i.name) : Yields (.ingredient i) (.ingredient u)
  | cookware {c : CookwareItem} {u : ItemUsage} (id : u.id = slugify c.name)
      (name : u.name = c.name) : Yields (.cookware c) (.cookware u)
  | mention {m : Mention} {u : MentionUsage} (id : u.id = slugify m.name)
      (name : u.name = m.name) : Yields (.mention m) (.mention u)
  | timer {t : TimerItem} {u : TimerUsage} (name : u.name = t.name)
      (background : u.background = t.background) : Yields (.timer t) (.timer u)
  | temperature {t : TemperatureItem} {u : TemperatureUsage} (name : u.name = t.name) :
      Yields (.temperature t) (.temperature u)
  | comment (c : Comment) : Yields (.comment c) (.comment c)
  | alternative {options : List Item} {us : List Usage}
      (yields : List.Forall₂ Yields (options.filter Item.isUsed) us) :
      Yields (.alternative options) (.alternative us)

/-- Usages are those of items, in order. -/
def YieldsAll (items : List Item) (us : List Usage) : Prop :=
  List.Forall₂ Item.Yields (items.filter Item.isUsed) us

theorem yieldsAll_append {items items' : List Item} {us us' : List Usage}
    (h : YieldsAll items us) (h' : YieldsAll items' us') :
    YieldsAll (items ++ items') (us ++ us') := by
  rw [YieldsAll, List.filter_append]
  exact List.rel_append h h'

variable (weighing : Weighing)

theorem yields_resolveIngredient (i : IngredientItem) (listed : Listed) (walk : Walk) :
    (Item.ingredient i).Yields (resolveIngredient weighing i listed walk).1 := by
  rcases i.share_or_written with ⟨s, hshare⟩ | hwritten
  · rw [resolveIngredient_share weighing hshare]
    exact .ingredient rfl rfl
  · rw [resolveIngredient_written weighing hwritten, resolveWritten_eq]
    exact .ingredient rfl rfl

/-- What an item is resolved to is of its kind and name. -/
theorem yields_resolveItem (item : Item) (listed : Listed) (walk : Walk) :
    YieldsAll [item] (resolveItem weighing item listed walk).1.usages := by
  induction item using Item.induction generalizing listed walk with
  | single item hsingle =>
      cases item with
      | text s => exact .nil
      | declaration name => exact .nil
      | alternative options => exact absurd rfl (hsingle options)
      | ingredient i => exact .cons (yields_resolveIngredient weighing i listed walk) .nil
      | cookware c => exact .cons (.cookware rfl rfl) .nil
      | mention m => exact .cons (.mention rfl rfl) .nil
      | timer t => exact .cons (.timer rfl rfl) .nil
      | temperature t => exact .cons (.temperature rfl) .nil
      | comment c => exact .cons (.comment c) .nil
  | alternative options ih =>
      have hoptions := resolveOptions_keeps weighing (fun done us _ _ => YieldsAll done us) options
        (fun option hmem _ _ l w h => yieldsAll_append h (ih option hmem l w))
        [] [] listed walk .nil
      -- The options that are left have been paired one by one, and make up the group.
      rcases hoptions with ⟨-, hyields⟩
      exact .cons (.alternative hyields) .nil

/-- The usages in the content so far. -/
def StepProgress.usages (p : StepProgress) : List Usage :=
  p.content.filterMap StepContent.usage?

/-- Taking in what an item was resolved to adds its usage to the content. -/
theorem usages_takeIn (resolved : Resolved) (p : StepProgress) (walk : Walk) :
    (takeIn resolved p walk).1.usages = p.usages ++ resolved.usages := by
  cases resolved with
  | text s =>
      simp only [takeIn, StepProgress.addText, StepProgress.usages, Resolved.usages,
        List.filterMap_append, List.filterMap_cons, StepContent.usage?, List.filterMap_nil]
  | nothing => simp only [takeIn, Resolved.usages, List.append_nil]
  | usage u =>
      have hadd : (p.addUsage u).usages = p.usages ++ [u] := by
        simp only [StepProgress.addUsage, StepProgress.usages, List.filterMap_append,
          List.filterMap_cons, StepContent.usage?, List.filterMap_nil]
      simp only [takeIn, passTime, Resolved.usages]
      -- Time passes beside the content.
      split
      · exact hadd
      · split <;> exact hadd

/-- The usages of a step are those of its items, in order. -/
theorem yields_compileStep (node : StepNode) (listed : Listed) (walk : Walk) :
    YieldsAll node.items (compileStep weighing node listed walk).1.usages := by
  refine compileItems_keeps weighing (fun done p _ _ => YieldsAll done p.usages)
    (fun done item p l w h => ?_) node.items [] .empty listed
    (openStep walk) .nil
  rw [usages_takeIn]
  exact yieldsAll_append h (yields_resolveItem weighing item l w)

/-- The usages of a step, each with the item it comes from. -/
def usagePairs (node : StepNode) (step : Step) : List (Item × Usage) :=
  (node.items.filter Item.isUsed).zip step.usages

theorem map_usagePairs {node : StepNode} {step : Step} (h : YieldsAll node.items step.usages) :
    (usagePairs node step).map Prod.fst = node.items.filter Item.isUsed
      ∧ (usagePairs node step).map Prod.snd = step.usages
      ∧ ∀ pair ∈ usagePairs node step, pair.1.Yields pair.2 := by
  have hlength := h.length_eq
  refine ⟨List.map_fst_zip (Nat.le_of_eq hlength), List.map_snd_zip (Nat.le_of_eq hlength.symm), ?_⟩
  rintro ⟨item, usage⟩ hpair
  exact List.forall₂_zip h hpair

/-- The usages in the content of a section, each with the item it comes from. -/
def contentPairs (children : List Block) (s : Section) : List (Item × Usage) :=
  ((directSteps children).zip s.steps).flatMap fun pair => usagePairs pair.1 pair.2

/-- The usages in a section are those of its steps, in order. -/
theorem yields_compileSection (header : SectionHeader) (children : List Block) (walk : Walk) :
    List.Forall₂ (fun node step => YieldsAll node.items step.usages) (directSteps children)
      (compileSection weighing header children walk).1.steps :=
  compileBlocks_forall₂ weighing (fun node step => YieldsAll node.items step.usages)
    (yields_compileStep weighing) children .empty (openSection header walk)

/-- Steps whose usages are those of their items pair up with nothing left over. -/
theorem map_contentPairs {children : List Block} {s : Section}
    (h : List.Forall₂ (fun node step => YieldsAll node.items step.usages) (directSteps children)
      s.steps) :
    (contentPairs children s).map Prod.fst
        = (directSteps children).flatMap (fun node => node.items.filter Item.isUsed)
      ∧ (contentPairs children s).map Prod.snd = s.contentUsages
      ∧ ∀ pair ∈ contentPairs children s, pair.1.Yields pair.2 := by
  rw [contentPairs, Section.contentUsages]
  generalize directSteps children = nodes at h ⊢
  generalize s.steps = steps at h ⊢
  induction h with
  | nil => exact ⟨rfl, rfl, fun _ h => absurd h List.not_mem_nil⟩
  | @cons node step nodes steps hyields _ ih =>
      rcases map_usagePairs hyields with ⟨hfst, hsnd, hpairs⟩
      rw [List.zip_cons_cons, List.flatMap_cons, List.map_append, List.map_append, hfst, hsnd,
        ih.1, ih.2.1]
      refine ⟨rfl, rfl, fun pair hpair => ?_⟩
      rw [List.mem_append] at hpair
      exact hpair.elim (hpairs pair) (ih.2.2 pair)

end Mise
