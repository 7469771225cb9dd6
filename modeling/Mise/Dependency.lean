import Mise.Section

/-!
# Dependencies and Cycles

An ingredient whose quantity is a share depends on the target of the share. The dependencies of all
listed ingredients form a graph on identities, and a search in depth looks for cycles in it: when
it meets an identity that is still on its way, the two ends of that last step lie on a cycle.

Everything that has been left behind is never entered again, so only those two are reported, not
the whole cycle.

The search is a machine that takes one step after another. It stops because each step gives up a
start, enters an identity that had no mark, or uses up a target of an identity on the way, and
`Search.step_decreases` says that in this order of importance one of the three shrinks.

## Main definitions

* `DependencyGraph`: The targets of each identity.
* `DependencyGraph.ofSections`: The graph of compiled sections.
* `Search`: The state of a search.
* `Search.step`, `Search.run`: One step, and all steps until there is none.
* `circularIdentities`: The identities that the search reports.

## Theorems

* `Search.moves_of_step`: What a step can do.
* `Search.step_decreases`: A step shrinks what is left of the search.
-/

namespace Mise

/-- The targets of each identity that depends on something, in the order they came up. -/
abbrev DependencyGraph := Ledger String (List String)

namespace DependencyGraph

/-- The targets of an identity. -/
def targets (g : DependencyGraph) (id : String) : List String :=
  (g.get? id).getD []

/-- All identities in a graph, some more than once. -/
def nodes (g : DependencyGraph) : List String :=
  g.flatMap fun e => e.1 :: e.2

theorem mem_nodes_of_mem_targets {g : DependencyGraph} {source target : String}
    (h : target ∈ g.targets source) : target ∈ g.nodes := by
  simp only [targets, Ledger.get?] at h
  simp only [nodes]
  induction g with
  | nil => exact absurd h (by simp only [List.lookup_nil, Option.getD_none, List.not_mem_nil,
      not_false_eq_true])
  | cons head tail ih =>
      rw [lookup_cons_ite] at h
      rw [List.flatMap_cons, List.mem_append]
      by_cases hhead : source = head.1
      · rw [if_pos hhead, Option.getD_some] at h
        exact Or.inl (List.mem_cons_of_mem _ h)
      · rw [if_neg hhead] at h
        exact Or.inr (ih h)

/-- Add the dependencies of a usage. -/
def addItem (g : DependencyGraph) (u : ItemUsage) : DependencyGraph :=
  if u.dependencies.isEmpty then g
  else g.alter u.id [] fun targets => u.dependencies.foldl addNew targets

end DependencyGraph

mutual

/-- The ingredients that a usage consists of, those in nested alternatives included. -/
def Usage.allIngredients : Usage → List ItemUsage
  | .ingredient u => [u]
  | .alternative options => Usage.allIngredientsOf options
  | _ => []

/-- The ingredients that usages consist of. -/
def Usage.allIngredientsOf : List Usage → List ItemUsage
  | [] => []
  | u :: us => u.allIngredients ++ Usage.allIngredientsOf us

end

/-- The ingredients listed by sections, those in alternatives included. -/
def listedIngredients (sections : List Section) : List ItemUsage :=
  sections.flatMap fun s => Usage.allIngredientsOf s.ingredients

/-- The graph of compiled sections. -/
def DependencyGraph.ofSections (sections : List Section) : DependencyGraph :=
  (listedIngredients sections).foldl addItem []

/-- How far a search has got with an identity. -/
inductive Mark where
  | onPath
  | done
  deriving DecidableEq

/-- An identity on the way, with the number of its targets that have been looked at. -/
structure Frame where
  id : String
  next : Nat

/-- The state of a search: the identities still to start from, those on the way with the last one
    first, the marks, and the identities that are reported. -/
structure Search where
  starts : List String
  path : List Frame
  marks : Dictionary Mark
  reported : Names

namespace Search

/-- A search before its first step. -/
def start (g : DependencyGraph) : Search :=
  ⟨g.keys, [], Dictionary.empty, Dictionary.empty⟩

/-- Mark an identity. -/
def mark (s : Search) (id : String) (m : Mark) : Search :=
  { s with marks := s.marks.insert id m }

/-- Go on to an identity. -/
def enter (s : Search) (id : String) : Search :=
  { s.mark id .onPath with path := ⟨id, 0⟩ :: s.path }

/-- Report the two ends of a dependency. -/
def report (s : Search) (source target : String) : Search :=
  { s with reported := (s.reported.add source).add target }

/-- One step. Without a way the next start is taken. Otherwise the last identity on the way is
    left if all its targets have been looked at; if not, the search looks at the next one. -/
def step (g : DependencyGraph) (s : Search) : Option Search :=
  match s.path with
  | [] =>
    match s.starts with
    | [] => none
    | id :: rest =>
      let s := { s with starts := rest }
      if (s.marks.get? id).isSome then some s else some (s.enter id)
  | frame :: below =>
    match (g.targets frame.id)[frame.next]? with
    | none => some { s.mark frame.id .done with path := below }
    | some target =>
      let s := { s with path := ⟨frame.id, frame.next + 1⟩ :: below }
      match s.marks.get? target with
      | none => some (s.enter target)
      | some .onPath => some (s.report frame.id target)
      | some .done => some s

/-- What a step can do. -/
inductive Moves (g : DependencyGraph) : Search → Search → Prop
  | pass {s : Search} {id : String} {rest : List String} {m : Mark} (path : s.path = [])
      (starts : s.starts = id :: rest) (marked : s.marks.get? id = some m) :
      Moves g s { s with starts := rest }
  | begin {s : Search} {id : String} {rest : List String} (path : s.path = [])
      (starts : s.starts = id :: rest) (unmarked : s.marks.get? id = none) :
      Moves g s ({ s with starts := rest }.enter id)
  | leave {s : Search} {frame : Frame} {below : List Frame} (path : s.path = frame :: below)
      (looked : (g.targets frame.id)[frame.next]? = none) :
      Moves g s { s.mark frame.id .done with path := below }
  | descend {s : Search} {frame : Frame} {below : List Frame} {target : String}
      (path : s.path = frame :: below) (next : (g.targets frame.id)[frame.next]? = some target)
      (unmarked : s.marks.get? target = none) :
      Moves g s ({ s with path := ⟨frame.id, frame.next + 1⟩ :: below }.enter target)
  | close {s : Search} {frame : Frame} {below : List Frame} {target : String}
      (path : s.path = frame :: below) (next : (g.targets frame.id)[frame.next]? = some target)
      (marked : s.marks.get? target = some .onPath) :
      Moves g s ({ s with path := ⟨frame.id, frame.next + 1⟩ :: below }.report frame.id target)
  | skip {s : Search} {frame : Frame} {below : List Frame} {target : String}
      (path : s.path = frame :: below) (next : (g.targets frame.id)[frame.next]? = some target)
      (marked : s.marks.get? target = some .done) :
      Moves g s { s with path := ⟨frame.id, frame.next + 1⟩ :: below }

theorem moves_of_step {g : DependencyGraph} {s t : Search} (h : s.step g = some t) :
    Moves g s t := by
  simp only [step] at h
  split at h
  · next hpath =>
    split at h
    · exact absurd h (by simp only [reduceCtorEq, not_false_eq_true])
    · next id rest hstarts =>
      cases hmark : s.marks.get? id with
      | none =>
          rw [hmark, if_neg (by simp only [Option.isSome_none, Bool.false_eq_true,
            not_false_eq_true]), Option.some.injEq] at h
          exact h ▸ .begin hpath hstarts hmark
      | some m =>
          rw [hmark, if_pos (by simp only [Option.isSome_some]), Option.some.injEq] at h
          exact h ▸ .pass hpath hstarts hmark
  · next frame below hpath =>
    split at h
    · next hlooked => exact Option.some.inj h ▸ .leave hpath hlooked
    · next target hnext =>
      split at h
      · next hmark => exact Option.some.inj h ▸ .descend hpath hnext hmark
      · next hmark => exact Option.some.inj h ▸ .close hpath hnext hmark
      · next hmark => exact Option.some.inj h ▸ .skip hpath hnext hmark

/-- The identities of a graph without a mark. -/
def unmarked (g : DependencyGraph) (s : Search) : List String :=
  g.nodes.filter fun id => (s.marks.get? id).isNone

/-- The targets that the identities on the way still have, and the leaving of each. -/
def work (g : DependencyGraph) (s : Search) : Nat :=
  s.path.foldr (fun frame rest => (g.targets frame.id).length - frame.next + 1 + rest) 0

/-- What is left of a search, in order of importance. -/
def left (g : DependencyGraph) (s : Search) : Nat × Nat × Nat :=
  (s.starts.length, (s.unmarked g).length, s.work g)

theorem unmarked_mark (g : DependencyGraph) (s : Search) (id : String) (m : Mark) :
    (s.mark id m).unmarked g = (s.unmarked g).filter fun other => other ≠ id := by
  rw [unmarked, unmarked, List.filter_filter]
  refine List.filter_congr fun other _ => ?_
  simp only [mark, Dictionary.get?_insert]
  by_cases h : other = id <;> simp [h]

theorem unmarked_mark_le (g : DependencyGraph) (s : Search) (id : String) (m : Mark) :
    ((s.mark id m).unmarked g).length ≤ (s.unmarked g).length := by
  rw [unmarked_mark]
  exact List.length_filter_le _ _

theorem unmarked_mark_lt {g : DependencyGraph} {s : Search} {id : String} (m : Mark)
    (hnode : id ∈ g.nodes) (hunmarked : s.marks.get? id = none) :
    ((s.mark id m).unmarked g).length < (s.unmarked g).length := by
  rw [unmarked_mark, List.length_filter_lt_length_iff_exists]
  refine ⟨id, List.mem_filter.2 ⟨hnode, by rw [hunmarked]; rfl⟩, ?_⟩
  simp only [ne_eq, not_true_eq_false, decide_false, Bool.false_eq_true, not_false_eq_true]

/-- The order in which what is left of a search shrinks. -/
def Less : Nat × Nat × Nat → Nat × Nat × Nat → Prop :=
  Prod.Lex (· < ·) (Prod.Lex (· < ·) (· < ·))

theorem step_decreases {g : DependencyGraph} {s t : Search} (h : s.step g = some t) :
    Less (t.left g) (s.left g) := by
  simp only [Less, Prod.lex_def, left]
  cases moves_of_step h with
  | pass path starts marked =>
      left
      simp only [starts, List.length_cons, Nat.lt_add_one]
  | begin path starts unmarked =>
      left
      simp only [enter, mark, starts, List.length_cons, Nat.lt_add_one]
  | @leave frame below path looked =>
      -- Marking again what is marked already removes nothing, but the way gets shorter.
      refine Or.inr ⟨rfl, ?_⟩
      rcases Nat.lt_or_eq_of_le (unmarked_mark_le g s frame.id .done) with hlt | heq
      · exact Or.inl hlt
      · refine Or.inr ⟨heq, ?_⟩
        simp only [work, path, List.foldr_cons]
        omega
  | @descend frame below target path next unmarked =>
      have hnode := DependencyGraph.mem_nodes_of_mem_targets (List.mem_of_getElem? next)
      exact Or.inr ⟨rfl, Or.inl (unmarked_mark_lt (s := s) .onPath hnode unmarked)⟩
  | close path next marked =>
      have hlen := (List.getElem?_eq_some_iff.1 next).1
      refine Or.inr ⟨rfl, Or.inr ⟨rfl, ?_⟩⟩
      simp only [report, work, path, List.foldr_cons]
      omega
  | skip path next marked =>
      have hlen := (List.getElem?_eq_some_iff.1 next).1
      refine Or.inr ⟨rfl, Or.inr ⟨rfl, ?_⟩⟩
      simp only [work, path, List.foldr_cons]
      omega

/-- Take all steps that there are. -/
def run (g : DependencyGraph) (s : Search) : Search :=
  match _h : s.step g with
  | none => s
  | some t => t.run g
termination_by s.left g
decreasing_by exact step_decreases _h

end Search

/-- The identities that a search through the whole graph reports. -/
def DependencyGraph.circular (g : DependencyGraph) : Names :=
  ((Search.start g).run g).reported

/-- The identities of compiled sections that are reported as lying on a cycle. -/
def circularIdentities (sections : List Section) : Names :=
  (DependencyGraph.ofSections sections).circular

end Mise
