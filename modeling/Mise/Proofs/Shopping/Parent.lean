import Mise.Proofs.Decimal.Order
import Mise.Proofs.Usage.Figure
import Mise.Proofs.Weighing.Override

/-!
# The Line of a Parent

A parent yields all of its parts, so as many are bought as the part that needs most takes. What one
part takes is added up over all of its usages, whatever their units and whichever sections they are
in, and the largest of these sums is the quantity of the line. Below that the parts are listed, here
each unit by itself. So there are two ledgers that group the same usages in two ways.

A quantity without a number adds a zero to the sum of its part. The line could as well leave it out,
which `sumInOrder_zeros` is about.

A parent is weighed under its display name. In a compiled recipe that is always the one of the
registry, because an ingredient enters its parent together with itself.

## Main definitions

* `ItemUsage.declaredParents`: The number of parents that a usage declares.
* `ItemUsage.partKey`: What the parts on a line are told apart by.
* `parentTotals`: The parents that each part takes.
* `PartEntry.Tells`: What the entry of a part tells of its usages.
* `ParentEntry.Tells`: What the line of a parent tells of its usages.

## Theorems

* `foldl_partTally`: The two ledgers are filled independently.
* `tells_parentEntry`: The line of a tally tells its usages.
* `parents_tell_parts`: So does every line of a shopping list.
-/

namespace Mise

/-- The number of parents that a usage declares. It is zero if their quantity is missing or stands
    for no number. -/
def ItemUsage.declaredParents (u : ItemUsage) : Float :=
  match u.parent.bind ParentRef.quantity with
  | some amount => amount.value?.getD 0.0
  | none => 0.0

/-- The identity and the unit of a part. No unit is the empty one. -/
def ItemUsage.partKey (u : ItemUsage) : String × String :=
  (u.id, u.unit.getD "")

/-- The parents that each part takes, in the order in which the parts first come up. -/
def parentTotals (us : List ItemUsage) : List Float :=
  (us.map ItemUsage.id).eraseDups.map fun id =>
    sumInOrder ((us.filter fun u => u.id = id).map ItemUsage.declaredParents)

/-- What the entry of a part tells of the usages it is made of: all but its quantity is that of the
    first. -/
structure PartEntry.Tells (us : List ItemUsage) (e : PartEntry) : Prop where
  first : us.head?.map (fun u => (u.id, u.name, u.unit, u.nickname))
    = some (e.id, e.name, e.unit, e.nickname)
  quantity : e.quantity = sumInOrder (us.filterMap ItemUsage.value?)

/-- What the line of a parent tells of the usages of its parts. -/
structure ParentEntry.Tells (weighing : Weighing) (us : List ItemUsage) (e : ParentEntry) : Prop
    where
  quantity : e.quantity = (parentTotals us).foldl maxNumber 0.0
  attained : e.quantity = 0.0 ∨ e.quantity ∈ parentTotals us
  bound : ∀ total ∈ parentTotals us, ¬ e.quantity < total
  parts : List.Forall₂ (fun key part => part.Tells (us.filter fun u => u.partKey = key))
    (us.map ItemUsage.partKey).eraseDups e.parts
  mass : e.mass = weighing.mass? e.quantity "" e.name

namespace PartTally

/-- An entry of a part that has no usage yet. -/
def fresh (u : ItemUsage) : PartEntry :=
  ⟨u.id, u.name, 0.0, u.unit, u.nickname⟩

/-- An entry of a part after one more usage. -/
def more (u : ItemUsage) (e : PartEntry) : PartEntry :=
  { e with quantity := e.quantity + u.number?.getD 0.0 }

/-- A tally as a function of the usages in it. -/
def ofUsages (name : String) (us : List ItemUsage) : PartTally where
  name := name
  parentsPerPart := Ledger.collect ItemUsage.id (fun _ => 0.0) (fun u x => x + parentsOf u) us
  parts := Ledger.collect ItemUsage.partKey fresh more us

end PartTally

section Runs

theorem add_partTally (name : String) (us : List ItemUsage) (u : ItemUsage) :
    (PartTally.ofUsages name us).add u = .ofUsages name (us ++ [u]) := by
  simp only [PartTally.ofUsages, Ledger.collect_concat]
  rfl

/-- The two ledgers of a tally are filled independently. -/
theorem foldl_partTally (name : String) (us : List ItemUsage) :
    us.foldl PartTally.add (.empty name) = .ofUsages name us := by
  induction us using List.reverseRecOn with
  | nil => rfl
  | append_singleton us u ih => rw [List.foldl_concat, ih, add_partTally]

theorem foldl_more (us : List ItemUsage) (e : PartEntry) :
    us.foldl (fun e u => PartTally.more u e) e
      = { e with quantity := (us.map fun u => u.number?.getD 0.0).foldl (· + ·) e.quantity } := by
  induction us generalizing e with
  | nil => rfl
  | cons u us ih => rw [List.foldl_cons, ih, List.map_cons, List.foldl_cons]; rfl

end Runs

section Parts

theorem declaredParents_eq (u : ItemUsage) : u.declaredParents = PartTally.parentsOf u := by
  rw [ItemUsage.declaredParents, PartTally.parentsOf]
  cases u.parent.bind ParentRef.quantity with
  | none => rfl
  | some amount => exact congrArg (Option.getD · 0.0) amount.value?_eq

/-- A usage without a number adds nothing. -/
theorem sumInOrder_numbers (us : List ItemUsage) :
    sumInOrder (us.map fun u => u.number?.getD 0.0)
      = sumInOrder (us.filterMap ItemUsage.value?) := by
  have hzeros := sumInOrder_zeros (us.map ItemUsage.number?)
  rw [funext ItemUsage.value?_eq]
  rwa [List.map_map, List.filterMap_map] at hzeros

/-- The usages of one part and unit make an entry that tells them. -/
theorem tells_part {us : List ItemUsage} {e : PartEntry}
    (h : Ledger.total PartTally.fresh PartTally.more us = some e) : e.Tells us := by
  cases us with
  | nil => cases h
  | cons first rest =>
      rw [Ledger.total, Option.some.injEq, foldl_more] at h
      subst h
      exact ⟨rfl, sumInOrder_numbers (first :: rest)⟩

theorem parentsPerPart_ofUsages (name : String) (us : List ItemUsage) :
    (PartTally.ofUsages name us).parentsPerPart.map Prod.snd = parentTotals us := by
  simp only [PartTally.ofUsages, Ledger.collect_eq_map, List.map_map, parentTotals, sumInOrder,
    List.foldl_map, declaredParents_eq]
  rfl

/-- The line of a tally tells its usages. -/
theorem tells_parentEntry (weighing : Weighing) (name id : String) (us : List ItemUsage) :
    ((PartTally.ofUsages name us).entry id weighing).Tells weighing us where
  quantity := by
    rw [← parentsPerPart_ofUsages name]
    rfl
  attained := by
    rw [← parentsPerPart_ofUsages name]
    exact foldl_max_mem rfl _
  bound := by
    rw [← parentsPerPart_ofUsages name]
    exact foldl_max_bound rfl _
  parts := by
    have hparts := Ledger.forall₂_collect ItemUsage.partKey PartTally.fresh PartTally.more us
    -- Pairs are compared part by part in the statement, and as a whole by the ledger.
    rw [PartTally.entry, List.forall₂_map_right_iff,
      lawful_beq_subsingleton instBEqProd instBEqOfDecidableEq]
    exact hparts.imp fun _ _ h => tells_part h.2
  mass := rfl

end Parts

/-- The parent that a line is for. -/
def ShoppingItem.parent? : ShoppingItem → Option ParentEntry
  | .parent e => some e
  | _ => none

/-- The usages of the parts of one parent that sections list. -/
def partsOf (sections : List Section) (id : String) : List (ParentRef × ItemUsage) :=
  ((listedUsages sections).filterMap Usage.part?).filter fun p => slugify p.1.parent = id

/-- The parents of the parts that sections list, in the order in which they first come up. -/
def parentIds (sections : List Section) : List String :=
  (((listedUsages sections).filterMap Usage.part?).map fun p => slugify p.1.parent).eraseDups

section Lists

variable (weighing : Weighing) (registry : Registry)

theorem parents_mergedList (sections : List Section) :
    (mergedList weighing registry sections).filterMap ShoppingItem.parent?
      = (partTallies registry ((listedUsages sections).filterMap Usage.part?)).map
          fun e => e.2.entry e.1 weighing := by
  simp only [mergedList_eq, ownLines, parentLines, List.filterMap_append, List.filterMap_map,
    Function.comp_def, ShoppingItem.parent?, List.filterMap_eq_map', List.filterMap_none,
    List.append_nil, List.nil_append]

/-- Every line of a parent tells the usages of its parts. It has the name of the registry, or else
    the one that its first part is written with. -/
theorem forall₂_parents (sections : List Section) :
    List.Forall₂ (fun id e => e.id = id
        ∧ e.Tells weighing ((partsOf sections id).map Prod.snd)
        ∧ (registry.ingredientName? id).or ((partsOf sections id).head?.map fun p => p.1.parent)
          = some e.name)
      (parentIds sections)
      ((mergedList weighing registry sections).filterMap ShoppingItem.parent?) := by
  rw [parents_mergedList, List.forall₂_map_right_iff]
  refine (Ledger.forall₂_collect _ _ _ _).imp fun id entry h => ?_
  rcases h with ⟨hid, htotal⟩
  refine ⟨hid, ?_⟩
  rw [← partsOf] at htotal
  cases hparts : partsOf sections id with
  | nil =>
      rw [hparts] at htotal
      cases htotal
  | cons first rest =>
      have hfirst : slugify first.1.parent = id := by
        have hmem : first ∈ partsOf sections id := hparts ▸ List.mem_cons_self
        exact of_decide_eq_true (List.mem_filter.1 hmem).2
      rw [hparts, Ledger.total, Option.some.injEq, hfirst, ← List.foldl_map, foldl_partTally]
        at htotal
      rw [← htotal]
      refine ⟨tells_parentEntry weighing _ _ _, ?_⟩
      cases registry.ingredientName? id <;> rfl

end Lists

-- An ingredient enters its parent, so no parent in the list of a recipe is without a name.
theorem name_of_parent (o : CompileOptions) (r : Recipe) :
    ∀ id ∈ parentIds (compileRecipe o r).sections,
      ∃ name, (compileRecipe o r).registry.ingredientName? id = some name := by
  intro id hid
  rw [parentIds, List.mem_eraseDups, List.mem_map] at hid
  rcases hid with ⟨p, hp, rfl⟩
  rcases origin_of_part (o.weighingFor r) r.children p hp with ⟨i, hi, origin, horigin, hparent⟩
  have hingredient : i ∈ documentIngredients r.children := List.mem_filterMap.2 ⟨_, hi, rfl⟩
  have hkey := parent_mem_keys hingredient horigin
  rw [Ledger.mem_keys_iff, Ledger.has, Option.isSome_iff_exists] at hkey
  rcases hkey with ⟨entry, hentry⟩
  have hregistry : (compileRecipe o r).registry
      = registryOf (documentNamings r.children) (cookwareNames r.children) :=
    registry_compileSections (o.weighingFor r) r.children
  refine ⟨entry.name, ?_⟩
  rw [hregistry, hparent, Registry.ingredientName?]
  exact congrArg (Option.map IngredientEntry.name) hentry

/-- However the usages of parts of one parent are mixed, the line that is made of them has the
    largest of the numbers of parents that the parts take, each part and unit once with the sum of
    its numbers, and the mass of so many pieces of the parent. The lines of parents in a shopping
    list are one for each identity, in the order in which the identities first come up, made of the
    parts of that parent, and they have the name of the registry. Without that they have the name
    that is written, but in a compiled recipe every parent is in the registry. -/
theorem parents_tell_parts (weighing : Weighing) (registry : Registry) (sections : List Section)
    (o : CompileOptions) (r : Recipe) :
    let list := shoppingList weighing registry sections
    let recipe := compileRecipe o r
    (∀ (name id : String) (us : List ItemUsage),
        ((us.foldl PartTally.add (.empty name)).entry id weighing).Tells weighing us)
      ∧ List.Forall₂ (fun id e => e.id = id
            ∧ e.Tells weighing ((partsOf list.2 id).map Prod.snd)
            ∧ (registry.ingredientName? id).or ((partsOf list.2 id).head?.map fun p => p.1.parent)
              = some e.name)
          (parentIds list.2) (list.1.filterMap ShoppingItem.parent?)
      ∧ List.Forall₂ (fun id e => e.id = id
            ∧ e.Tells (o.weighingFor r) ((partsOf recipe.sections id).map Prod.snd)
            ∧ recipe.registry.ingredientName? id = some e.name)
          (parentIds recipe.sections) (recipe.shopping.filterMap ShoppingItem.parent?) := by
  intro list recipe
  refine ⟨fun name id us => ?_, forall₂_parents weighing registry _, ?_⟩
  · rw [foldl_partTally]
    exact tells_parentEntry weighing name id us
  · have hlist := forall₂_parents (o.weighingFor r) recipe.registry recipe.sections
    refine ((List.forall₂_and_left _ _).2 ⟨name_of_parent o r, hlist⟩).imp fun id e h => ?_
    rcases h with ⟨⟨name, hname⟩, hid, htells, hor⟩
    rw [hname, Option.some_or] at hor
    exact ⟨hid, htells, hname.trans hor⟩

end Mise
