import Mathlib
import Mise.Proofs.Dependency.Cycle

/-!
# Cycles in Part

The search reports the two ends of a dependency that leads back to its way, and nothing between
them. So of a long cycle some identities may be missing, and which ones depends on where the search
comes from, that is on the order of the sections and of what they list.

What is left to the search is only which part of a cycle it reports. No cycle gets by without one of
its dependencies being reported with both ends, because it would be an endless chain of open
dependencies, and there is none at the end of a run. A cycle of one identity or of two has no other
identities than the ends of any of its dependencies, so these are reported in whatever order the
search comes to them. The search cannot tell orders apart any further than that: the dependencies
themselves are the same in every order.

## Theorems

* `Search.exists_reported_of_cycle`: Of every cycle a dependency is reported with both ends.
* `dependsOn_of_perm`: The order of what is listed does not matter to the dependencies.
* `cycles_reported_in_any_order`: What is reported in any case, and when the order does not matter.
* `longCycle_reported_in_part`: A cycle of three of which one is missing, and another one if the
  order is changed.
-/

namespace Mise

/-- A chain from one element to another is a way between them. -/
theorem transGen_of_isChain {α : Type} {R : α → α → Prop} {first last : α} {between : List α}
    (h : (first :: (between ++ [last])).IsChain R) : Relation.TransGen R first last := by
  induction between generalizing first with
  | nil => exact .single (List.isChain_cons_cons.1 h).1
  | cons next between ih =>
      rw [List.cons_append, List.isChain_cons_cons] at h
      exact .head h.1 (ih h.2)

/-- Of every cycle a dependency is reported with both ends. -/
theorem Search.exists_reported_of_cycle {g : DependencyGraph} {first : String}
    {others : List String} (hcycle : (first :: (others ++ [first])).IsChain g.Edge) :
    ∃ source target, [source, target] <:+: first :: (others ++ [first])
      ∧ g.circular.has source ∧ g.circular.has target := by
  by_contra hnone
  have hopen : (first :: (others ++ [first])).IsChain (g.OpenEdge g.circular) := by
    rw [List.isChain_iff_forall_rel_of_append_cons_cons] at hcycle ⊢
    intro source target before after hsplit
    refine ⟨hcycle hsplit, fun hboth => hnone ⟨source, target, ?_, hboth⟩⟩
    exact ⟨before, after, by rw [hsplit, List.append_assoc]; rfl⟩
  have hback := Relation.transGen_swap.2 (transGen_of_isChain hopen)
  exact (wellFounded_openEdge g).transGen.irrefl.irrefl first hback

/-- The order of what is listed does not matter to the dependencies. -/
theorem dependsOn_of_perm {sections sections' : List Section}
    (h : (listedIngredients sections).Perm (listedIngredients sections')) :
    DependsOn sections = DependsOn sections' := by
  rw [← edge_ofSections, ← edge_ofSections]
  funext source target
  rw [DependencyGraph.Edge, DependencyGraph.Edge, DependencyGraph.ofSections,
    DependencyGraph.ofSections, DependencyGraph.mem_targets_foldl,
    DependencyGraph.mem_targets_foldl]
  simp only [h.mem_iff]

section Sections

variable {sections : List Section}

theorem exists_circular_of_cycle {first : String} {others : List String}
    (h : (first :: (others ++ [first])).IsChain (DependsOn sections)) :
    ∃ source target, [source, target] <:+: first :: (others ++ [first])
      ∧ (circularIdentities sections).has source ∧ (circularIdentities sections).has target := by
  rw [← edge_ofSections] at h
  exact Search.exists_reported_of_cycle h

-- Either dependency of such a cycle has the identity for one of its ends.
theorem circular_of_mutual {id other : String} (hthere : DependsOn sections id other)
    (hback : DependsOn sections other id) : (circularIdentities sections).has id := by
  have hchain : (id :: ([other] ++ [id])).IsChain (DependsOn sections) :=
    .cons_cons hthere (.cons_cons hback (.singleton id))
  rcases exists_circular_of_cycle hchain with ⟨source, target, hinfix, hsource, htarget⟩
  rcases List.infix_cons_iff.1 hinfix with hfirst | hlast
  · rw [List.cons_prefix_cons] at hfirst
    exact hfirst.1 ▸ hsource
  · have hends : [source, target] = [other, id] := hlast.eq_of_length rfl
    rw [List.cons.injEq, List.singleton_inj] at hends
    exact hends.2 ▸ htarget

end Sections

/-- Only identities on cycles are reported, and of every cycle a dependency with both ends. Hence an
    identity is reported that depends on another one, or on itself, that depends on it in turn. In
    whatever order the same ingredients are listed, something is reported or nothing is; and the
    same identities are reported if each one that lies on a cycle lies on a cycle of one or two. -/
theorem cycles_reported_in_any_order (sections : List Section) :
    let ids := circularIdentities sections
    (∀ id, ids.has id → Relation.TransGen (DependsOn sections) id id)
      ∧ (∀ first others, (first :: (others ++ [first])).IsChain (DependsOn sections) →
          ∃ source target, [source, target] <:+: first :: (others ++ [first])
            ∧ ids.has source ∧ ids.has target)
      ∧ (∀ id other, DependsOn sections id other → DependsOn sections other id → ids.has id)
      ∧ ∀ sections', (listedIngredients sections).Perm (listedIngredients sections') →
          (circularIdentities sections' = Dictionary.empty ↔ ids = Dictionary.empty)
            ∧ ((∀ id, Relation.TransGen (DependsOn sections) id id →
                  ∃ other, DependsOn sections id other ∧ DependsOn sections other id) →
                circularIdentities sections' = ids) := by
  intro ids
  refine ⟨fun _ => onCycle_of_circular, fun _ _ => exists_circular_of_cycle,
    fun _ _ => circular_of_mutual, fun sections' hperm => ?_⟩
  have hsame := dependsOn_of_perm hperm
  refine ⟨?_, fun hshort => Names.ext_has fun id => ?_⟩
  · rw [circular_eq_empty_iff, circular_eq_empty_iff, hsame]
  · rw [Bool.eq_iff_iff]
    constructor
    · intro h
      have hcycle := onCycle_of_circular h
      rw [← hsame] at hcycle
      rcases hshort id hcycle with ⟨other, hthere, hback⟩
      exact circular_of_mutual hthere hback
    · intro h
      rcases hshort id (onCycle_of_circular h) with ⟨other, hthere, hback⟩
      rw [hsame] at hthere hback
      exact circular_of_mutual hthere hback

/-- An ingredient that is taken of another one. -/
def takenOf (id target : String) : ItemUsage :=
  { ItemUsage.named id id with dependencies := [target] }

/-- A section that lists ingredients and does nothing with them. -/
def shelf (items : List ItemUsage) : Section :=
  ⟨none, items.map .ingredient, [], [], none, none, none⟩

theorem dependsOn_shelf {items : List ItemUsage} {u : ItemUsage} {target : String}
    (hlisted : u ∈ items) (htarget : target ∈ u.dependencies) :
    DependsOn [shelf items] u.id target :=
  ⟨shelf items, List.mem_cons_self, .ingredient u, List.mem_map_of_mem hlisted, u, .self u, rfl,
    htarget⟩

/-- A dough, its sponge and its starter, each of which is taken of the next, and the starter of the
    dough again. -/
def doughCycle : List ItemUsage :=
  [takenOf "dough" "sponge", takenOf "sponge" "starter", takenOf "starter" "dough"]

/-- The sponge of the dough is on the cycle and not reported. If the starter is listed first, the
    dough is the one that is missing. -/
theorem longCycle_reported_in_part :
    Relation.TransGen (DependsOn [shelf doughCycle]) "sponge" "sponge"
      ∧ (circularIdentities [shelf doughCycle]).has "sponge" = false
      ∧ (listedIngredients [shelf doughCycle]).Perm
          (listedIngredients [shelf doughCycle.reverse])
      ∧ circularIdentities [shelf doughCycle.reverse]
        ≠ circularIdentities [shelf doughCycle] := by
  have hmissing : (circularIdentities [shelf doughCycle]).has "sponge" = false := by cbv
  have hreported : (circularIdentities [shelf doughCycle.reverse]).has "sponge" = true := by cbv
  refine ⟨?_, hmissing, ?_, fun hsame => ?_⟩
  · have hsponge : DependsOn [shelf doughCycle] "sponge" "starter" :=
      dependsOn_shelf (u := takenOf "sponge" "starter") (by decide) List.mem_cons_self
    have hstarter : DependsOn [shelf doughCycle] "starter" "dough" :=
      dependsOn_shelf (u := takenOf "starter" "dough") (by decide) List.mem_cons_self
    have hdough : DependsOn [shelf doughCycle] "dough" "sponge" :=
      dependsOn_shelf (u := takenOf "dough" "sponge") (by decide) List.mem_cons_self
    exact .head hsponge (.head hstarter (.single hdough))
  · exact (List.reverse_perm doughCycle).symm
  · rw [hsame, hmissing] at hreported
    exact absurd hreported Bool.false_ne_true

end Mise
