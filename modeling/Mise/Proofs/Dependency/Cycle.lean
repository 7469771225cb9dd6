import Mise.Proofs.Dependency.Search

/-!
# Cycles of Dependencies

What the reported identities say about the recipe itself. `DependsOn` reads the dependencies off the
sections without a graph and without an order: one identity depends on another if some listed
ingredient, however deep inside alternatives, has the one as its identity and the other among its
dependencies. The graph that the search runs on has exactly these edges.

## Main definitions

* `Usage.Contains`: The ingredients inside a usage.
* `DependsOn`: The dependencies of sections.

## Theorems

* `edge_iff_dependsOn`: The edges of the graph are the dependencies.
* `onCycle_of_circular`, `circular_eq_empty_iff`: Reports lie on cycles, and there is one if there
  is a cycle.
* `circularIdentities_on_cycles`: The search ends, reports only identities on cycles, and reports
  nothing exactly if there is no cycle.
-/

namespace Mise

/-- An ingredient is a usage, or is inside one of its options. -/
inductive Usage.Contains : Usage → ItemUsage → Prop
  | self (u : ItemUsage) : Contains (.ingredient u) u
  | option {options : List Usage} {option : Usage} {u : ItemUsage} (mem : option ∈ options)
      (contains : option.Contains u) : Contains (.alternative options) u

/-- One identity depends on another, because a listed ingredient does. -/
def DependsOn (sections : List Section) (source target : String) : Prop :=
  ∃ s ∈ sections, ∃ listed ∈ s.ingredients, ∃ u : ItemUsage,
    listed.Contains u ∧ u.id = source ∧ target ∈ u.dependencies

theorem Usage.allIngredientsOf_eq (us : List Usage) :
    Usage.allIngredientsOf us = us.flatMap Usage.allIngredients := by
  induction us with
  | nil => rfl
  | cons u us ih => rw [Usage.allIngredientsOf, List.flatMap_cons, ih]

theorem Usage.mem_allIngredients (usage : Usage) (u : ItemUsage) :
    u ∈ usage.allIngredients ↔ usage.Contains u := by
  induction usage using Usage.induction with
  | single usage hsingle =>
      cases usage with
      | ingredient v =>
          rw [Usage.allIngredients, List.mem_singleton]
          exact ⟨fun h => h ▸ .self u, fun h => by cases h; rfl⟩
      | alternative options => exact absurd rfl (hsingle options)
      | _ =>
          simp only [Usage.allIngredients, List.not_mem_nil, false_iff]
          intro h
          cases h
  | alternative options ih =>
      rw [Usage.allIngredients, Usage.allIngredientsOf_eq, List.mem_flatMap]
      constructor
      · rintro ⟨option, hmem, hu⟩
        exact .option hmem ((ih option hmem).1 hu)
      · intro h
        cases h with
        | option hmem hcontains => exact ⟨_, hmem, (ih _ hmem).2 hcontains⟩

namespace DependencyGraph

theorem mem_targets_addItem (g : DependencyGraph) (u : ItemUsage) (source target : String) :
    target ∈ (g.addItem u).targets source
      ↔ target ∈ g.targets source ∨ (u.id = source ∧ target ∈ u.dependencies) := by
  rw [addItem]
  split
  · next hempty =>
    -- Without dependencies there is no entry, and no edge either.
    rw [List.isEmpty_iff.1 hempty]
    simp only [List.not_mem_nil, and_false, or_false]
  · rw [targets, targets, Ledger.get?_alter]
    by_cases h : source = u.id
    · rw [if_pos h, Option.getD_some, mem_foldl_addNew, h]
      simp only [true_and]
    · rw [if_neg h]
      simp only [Ne.symm h, false_and, or_false]

theorem mem_targets_foldl (items : List ItemUsage) (g : DependencyGraph) (source target : String) :
    target ∈ (items.foldl addItem g).targets source
      ↔ target ∈ g.targets source ∨ ∃ u ∈ items, u.id = source ∧ target ∈ u.dependencies := by
  induction items generalizing g with
  | nil => simp only [List.foldl_nil, List.not_mem_nil, false_and, exists_false, or_false]
  | cons first rest ih =>
      rw [List.foldl_cons, ih, mem_targets_addItem, or_assoc]
      simp only [List.mem_cons, exists_eq_or_imp]

end DependencyGraph

/-- The edges of the graph are the dependencies. -/
theorem edge_iff_dependsOn (sections : List Section) (source target : String) :
    (DependencyGraph.ofSections sections).Edge source target
      ↔ DependsOn sections source target := by
  rw [DependencyGraph.Edge, DependencyGraph.ofSections, DependencyGraph.mem_targets_foldl]
  simp only [DependencyGraph.targets, Ledger.get?, List.lookup_nil, Option.getD_none,
    List.not_mem_nil, false_or, DependsOn, listedIngredients, List.mem_flatMap]
  constructor
  · rintro ⟨u, ⟨s, hs, hu⟩, hid, htarget⟩
    rw [Usage.allIngredientsOf_eq, List.mem_flatMap] at hu
    rcases hu with ⟨listed, hlisted, hu⟩
    exact ⟨s, hs, listed, hlisted, u, (listed.mem_allIngredients u).1 hu, hid, htarget⟩
  · rintro ⟨s, hs, listed, hlisted, u, hu, hid, htarget⟩
    refine ⟨u, ⟨s, hs, ?_⟩, hid, htarget⟩
    rw [Usage.allIngredientsOf_eq, List.mem_flatMap]
    exact ⟨listed, hlisted, (listed.mem_allIngredients u).2 hu⟩

theorem edge_ofSections (sections : List Section) :
    (DependencyGraph.ofSections sections).Edge = DependsOn sections := by
  funext source target
  exact propext (edge_iff_dependsOn sections source target)

section Reports

variable {sections : List Section}

/-- Every reported identity depends on itself through some chain of dependencies. -/
theorem onCycle_of_circular {id : String} (h : (circularIdentities sections).has id) :
    Relation.TransGen (DependsOn sections) id id := by
  rw [← edge_ofSections]
  exact Search.onCycle_of_reported h

/-- Nothing is reported exactly if no identity depends on itself. -/
theorem circular_eq_empty_iff :
    circularIdentities sections = Dictionary.empty
      ↔ ∀ id, ¬ Relation.TransGen (DependsOn sections) id id := by
  constructor
  · intro hempty id
    rw [← edge_ofSections]
    exact Search.acyclic_of_unreported hempty id
  · -- Whatever were reported would lie on a cycle.
    intro hacyclic
    refine Names.eq_empty fun id => ?_
    rw [Bool.eq_false_iff]
    exact fun h => hacyclic id (onCycle_of_circular h)

end Reports

/-- The search for cycles ends: its steps cannot go on for ever, and the reported identities are
    those of the state without a further step that it gets to. Every reported identity depends on
    itself through some chain of dependencies, and nothing is reported exactly if no identity
    does. -/
theorem circularIdentities_on_cycles (sections : List Section) :
    (WellFounded fun t s : Search => s.step (.ofSections sections) = some t)
      ∧ (∃ final : Search,
          Relation.ReflTransGen (fun s t => s.step (.ofSections sections) = some t)
            (.start (.ofSections sections)) final
          ∧ final.step (.ofSections sections) = none
          ∧ circularIdentities sections = final.reported)
      ∧ (∀ id, (circularIdentities sections).has id →
          Relation.TransGen (DependsOn sections) id id)
      ∧ (circularIdentities sections = Dictionary.empty
          ↔ ∀ id, ¬ Relation.TransGen (DependsOn sections) id id) := by
  let g := DependencyGraph.ofSections sections
  have hend : ∃ final : Search,
      Relation.ReflTransGen (fun s t => s.step g = some t) (.start g) final
      ∧ final.step g = none ∧ circularIdentities sections = final.reported :=
    ⟨_, Search.reaches_run _, Search.step_run _, rfl⟩
  exact ⟨Search.wellFounded_step g, hend, fun _ => onCycle_of_circular, circular_eq_empty_iff⟩

/-- A cycle through the options of an alternative. What only leads to it is not reported. -/
example :
    let takes (id of : String) : Usage :=
      .ingredient { ItemUsage.named id id with dependencies := [of] }
    (circularIdentities [⟨none, [takes "dough" "oil", .alternative [takes "oil" "lard",
      takes "lard" "oil"]], [], [], none, none, none⟩]).keys = ["lard", "oil"] := by
  cbv

end Mise
