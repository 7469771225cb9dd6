import Mathlib.Data.List.Chain
import Mathlib.Logic.Relation
import Mathlib.Order.WellFounded
import Mise.Dependency

/-!
# Runs of the Cycle Search

What holds of every search that starts at the beginning, whatever the graph.

Two invariants are kept by each step. `Tracked` says what the way is: its identities are exactly
those marked as on the way, each depends on the one before it, and whatever has been reported lies
on a cycle. The two ends of a reported dependency do, because the way leads from one to the other
and the dependency leads back.

`Settled` concerns the dependencies that are open: those of which not both ends have been reported.
An identity is left only after each of its targets has been left or has been reported together with
it, so no endless chain of open dependencies starts at an identity that is done. This is stated by
accessibility, and it replaces the usual argument about the first identity of a cycle that the
search meets: a cycle without a reported dependency would be an endless chain of open ones, so none
of its identities could ever be done.

A report closes a dependency and opens none, which is why the chains of an identity that is done
stay finite while the search goes on.

## Main definitions

* `DependencyGraph.Edge`: The dependencies of a graph as a relation.
* `DependencyGraph.OpenEdge`: The dependencies that have not been reported with both ends.
* `Search.Tracked`: What the way and the reports are.
* `Search.Explored`: Which targets of the identities on the way are dealt with.
* `Search.Settled`: What is known of the identities that are done.

## Theorems

* `Search.step_run`: A run ends where there is no step.
* `Search.reaches_run`: A run is made of steps.
* `Search.tracked_run`, `Search.settled_run`: Both invariants hold at the end of a run.
* `Search.onCycle_of_reported`: Whatever is reported lies on a cycle.
* `Search.done_of_edge`: At the end every identity with a target is done.
* `Search.wellFounded_openEdge`: At the end no chain of open dependencies is endless.
* `Search.acyclic_of_unreported`: A graph of which nothing is reported has no cycle.
* `Search.reported_of_loop`: Every identity that depends on itself is reported.
-/

namespace Mise

/-- One identity has another among its targets. -/
def DependencyGraph.Edge (g : DependencyGraph) (source target : String) : Prop :=
  target ∈ g.targets source

/-- An identity can be reached from itself by going from identities to their targets. -/
def DependencyGraph.OnCycle (g : DependencyGraph) (id : String) : Prop :=
  Relation.TransGen g.Edge id id

/-- A dependency of which not both ends are among the identities that have been reported. -/
def DependencyGraph.OpenEdge (g : DependencyGraph) (reported : Names) (source target : String) :
    Prop :=
  g.Edge source target ∧ ¬ (reported.has source ∧ reported.has target)

/-- No endless chain of open dependencies starts at an identity. -/
def DependencyGraph.Grounded (g : DependencyGraph) (reported : Names) (id : String) : Prop :=
  Acc (fun target source => g.OpenEdge reported source target) id

-- The more is reported, the fewer dependencies are open.
theorem DependencyGraph.Grounded.mono {g : DependencyGraph} {reported reported' : Names}
    {id : String} (h : g.Grounded reported id)
    (hmore : ∀ other, reported.has other → reported'.has other) : g.Grounded reported' id := by
  refine Subrelation.accessible (fun hopen => ⟨hopen.1, fun hboth => hopen.2 ?_⟩) h
  exact ⟨hmore _ hboth.1, hmore _ hboth.2⟩

namespace Search

variable {g : DependencyGraph}

theorem run_of_none {s : Search} (h : s.step g = none) : s.run g = s := by
  rw [run]
  split
  · rfl
  · next hsome =>
    rw [h] at hsome
    exact absurd hsome.symm (Option.some_ne_none _)

theorem run_of_some {s t : Search} (h : s.step g = some t) : s.run g = t.run g := by
  rw [run]
  split
  · next hnone =>
    rw [h] at hnone
    exact absurd hnone (Option.some_ne_none t)
  · next hsome =>
    rw [h, Option.some.injEq] at hsome
    rw [hsome]

/-- The steps of a search cannot go on for ever. -/
theorem wellFounded_step (g : DependencyGraph) :
    WellFounded fun t s : Search => s.step g = some t := by
  have hless : WellFounded Less := (Prod.lex Nat.lt_wfRel (Prod.lex Nat.lt_wfRel Nat.lt_wfRel)).wf
  exact Subrelation.wf (fun h => step_decreases h) (InvImage.wf (left g) hless)

/-- A run ends where there is no step. -/
theorem step_run (s : Search) : (s.run g).step g = none := by
  induction s using (wellFounded_step g).induction with
  | _ s ih =>
    cases h : s.step g with
    | none => rw [run_of_none h, h]
    | some t => rw [run_of_some h]; exact ih t h

/-- A run is made of steps. -/
theorem reaches_run (s : Search) :
    Relation.ReflTransGen (fun s t => s.step g = some t) s (s.run g) := by
  induction s using (wellFounded_step g).induction with
  | _ s ih =>
    cases h : s.step g with
    | none => rw [run_of_none h]
    | some t => rw [run_of_some h]; exact .head h (ih t h)

/-- What every step keeps holds at the end of a run. -/
theorem run_keeps {P : Search → Prop} (hstep : ∀ {s t : Search}, s.step g = some t → P s → P t)
    {s : Search} (h : P s) : P (s.run g) := by
  have hreach := @reaches_run g s
  generalize s.run g = t at hreach ⊢
  induction hreach with
  | refl => exact h
  | tail _ hlast ih => exact hstep hlast ih

/-- What the way and the reports are. -/
structure Tracked (g : DependencyGraph) (s : Search) : Prop where
  linked : s.path.IsChain fun upper lower => g.Edge lower.id upper.id
  onPath : ∀ id, s.marks.get? id = some .onPath ↔ id ∈ s.path.map Frame.id
  nodup : (s.path.map Frame.id).Nodup
  reported : ∀ id, s.reported.has id → g.OnCycle id

theorem tracked_start (g : DependencyGraph) : Tracked g (start g) where
  linked := .nil
  onPath id := by simp only [start, Dictionary.get?_empty, reduceCtorEq, List.map_nil,
    List.not_mem_nil]
  nodup := List.nodup_nil
  reported id h := by simp only [start, Names.has_empty, Bool.false_eq_true] at h

/-- The way leads from each of its identities to the last one. -/
theorem reaches_top {frame : Frame} {below : List Frame} {id : String}
    (hlinked : (frame :: below).IsChain fun upper lower => g.Edge lower.id upper.id)
    (hid : id ∈ (frame :: below).map Frame.id) : Relation.ReflTransGen g.Edge id frame.id := by
  induction below generalizing frame with
  | nil =>
      simp only [List.map_cons, List.map_nil, List.mem_singleton] at hid
      rw [hid]
  | cons lower rest ih =>
      rw [List.map_cons, List.mem_cons] at hid
      rcases hid with rfl | hbelow
      · exact .refl
      · rw [List.isChain_cons_cons] at hlinked
        exact (ih hlinked.2 hbelow).tail hlinked.1

/-- The number of targets that have been looked at does not matter for what the way is. -/
theorem tracked_advance {s : Search} {frame : Frame} {below : List Frame} (h : Tracked g s)
    (path : s.path = frame :: below) :
    Tracked g { s with path := ⟨frame.id, frame.next + 1⟩ :: below } where
  linked := by
    have hlinked := path ▸ h.linked
    cases below with
    | nil => exact .singleton _
    | cons lower rest =>
        rw [List.isChain_cons_cons] at hlinked ⊢
        exact hlinked
  onPath := by simpa only [path, List.map_cons] using h.onPath
  nodup := by simpa only [path, List.map_cons] using h.nodup
  reported := h.reported

theorem tracked_enter {s : Search} {id : String} (h : Tracked g s)
    (hunmarked : s.marks.get? id = none)
    (hedge : ∀ frame ∈ s.path.head?, g.Edge frame.id id) : Tracked g (s.enter id) where
  linked := by
    have hlinked := h.linked
    simp only [enter, mark]
    cases hpath : s.path with
    | nil => exact .singleton _
    | cons frame below =>
        rw [hpath] at hlinked
        rw [List.isChain_cons_cons]
        exact ⟨hedge frame (by rw [hpath]; rfl), hlinked⟩
  onPath other := by
    simp only [enter, mark, Dictionary.get?_insert, List.map_cons, List.mem_cons]
    by_cases hother : other = id
    · simp only [hother, if_true, true_or]
    · rw [if_neg hother, h.onPath]
      simp only [hother, false_or]
  nodup := by
    simp only [enter, mark, List.map_cons, List.nodup_cons]
    refine ⟨fun hmem => ?_, h.nodup⟩
    rw [← h.onPath, hunmarked] at hmem
    exact absurd hmem (by simp only [reduceCtorEq, not_false_eq_true])
  reported := h.reported

theorem tracked_leave {s : Search} {frame : Frame} {below : List Frame} (h : Tracked g s)
    (path : s.path = frame :: below) : Tracked g { s.mark frame.id .done with path := below } where
  linked := (path ▸ h.linked).of_cons
  onPath other := by
    have hnodup := h.nodup
    rw [path, List.map_cons, List.nodup_cons] at hnodup
    simp only [mark, Dictionary.get?_insert]
    by_cases hother : other = frame.id
    · simp only [hother, if_true, hnodup.1, Option.some.injEq, reduceCtorEq]
    · rw [if_neg hother, h.onPath, path, List.map_cons, List.mem_cons]
      simp only [hother, false_or]
  nodup := (List.nodup_cons.1 (by simpa only [path, List.map_cons] using h.nodup)).2
  reported := h.reported

/-- The ends of a dependency that leads back to the way lie on a cycle. -/
theorem tracked_report {s : Search} {frame : Frame} {below : List Frame} {target : String}
    (h : Tracked g s) (path : s.path = frame :: below) (hedge : g.Edge frame.id target)
    (hmark : s.marks.get? target = some .onPath) : Tracked g (s.report frame.id target) where
  linked := h.linked
  onPath := h.onPath
  nodup := h.nodup
  reported id hid := by
    have hpath : Relation.ReflTransGen g.Edge target frame.id :=
      reaches_top (path ▸ h.linked) (path ▸ (h.onPath target).1 hmark)
    simp only [report, Names.has_add] at hid
    rcases hid with rfl | rfl | hid
    · exact Relation.TransGen.tail' hpath hedge
    · exact Relation.TransGen.head' hedge hpath
    · exact h.reported id hid

theorem tracked_step {s t : Search} (hstep : s.step g = some t) (h : Tracked g s) :
    Tracked g t := by
  cases moves_of_step hstep with
  | pass => exact ⟨h.linked, h.onPath, h.nodup, h.reported⟩
  | begin path starts unmarked =>
      refine tracked_enter ⟨h.linked, h.onPath, h.nodup, h.reported⟩ unmarked ?_
      simp only [path, List.head?_nil, Option.mem_def, reduceCtorEq, false_implies, implies_true]
  | leave path => exact tracked_leave h path
  | descend path next unmarked =>
      refine tracked_enter (tracked_advance h path) unmarked ?_
      simp only [List.head?_cons, Option.mem_def, Option.some.injEq, forall_eq']
      exact List.mem_of_getElem? next
  | close path next marked =>
      have hreport := tracked_report (tracked_advance h path) rfl (List.mem_of_getElem? next) marked
      exact hreport
  | skip path => exact tracked_advance h path

theorem tracked_run (g : DependencyGraph) : Tracked g ((start g).run g) :=
  run_keeps tracked_step (tracked_start g)

/-- Whatever is reported lies on a cycle. -/
theorem onCycle_of_reported {id : String} (h : ((start g).run g).reported.has id) :
    g.OnCycle id :=
  (tracked_run g).reported id h

/-- The targets of the identities on the way that have been looked at are dealt with: they are done,
    or reported together with the identity, except for the one that the way goes on to. The way is
    given from some identity on, together with the identity above it. -/
def Explored (g : DependencyGraph) (reported : Names) (marks : Dictionary Mark) :
    Option String → List Frame → Prop
  | _, [] => True
  | above, frame :: below =>
    (∀ target ∈ (g.targets frame.id).take frame.next,
      marks.get? target = some .done ∨ above = some target
        ∨ reported.has frame.id ∧ reported.has target)
      ∧ Explored g reported marks (some frame.id) below

theorem explored_mono {reported reported' : Names} {marks marks' : Dictionary Mark}
    {above above' : Option String} {path : List Frame} (h : Explored g reported marks above path)
    (hmore : ∀ id, reported.has id → reported'.has id)
    (hmarks : ∀ id, marks.get? id = some .done → marks'.get? id = some .done)
    (habove : ∀ id, above = some id → marks'.get? id = some .done ∨ above' = some id) :
    Explored g reported' marks' above' path := by
  induction path generalizing above above' with
  | nil => trivial
  | cons frame below ih =>
      refine ⟨fun target htarget => ?_, ih h.2 (fun id hid => Or.inr hid)⟩
      rcases h.1 target htarget with hdone | hgoes | hreported
      · exact Or.inl (hmarks target hdone)
      · exact (habove target hgoes).imp_right Or.inl
      · exact Or.inr (Or.inr ⟨hmore _ hreported.1, hmore _ hreported.2⟩)

/-- One more target has been looked at, and it is dealt with or the way goes on to it. -/
theorem explored_advance {reported : Names} {marks : Dictionary Mark} {above : Option String}
    {frame : Frame} {below : List Frame} {target : String}
    (h : Explored g reported marks none (frame :: below))
    (hnext : (g.targets frame.id)[frame.next]? = some target)
    (htarget : marks.get? target = some .done ∨ above = some target
      ∨ reported.has frame.id ∧ reported.has target) :
    Explored g reported marks above (⟨frame.id, frame.next + 1⟩ :: below) := by
  refine ⟨fun other hother => ?_, h.2⟩
  rw [List.take_add_one, hnext, List.mem_append] at hother
  rcases hother with hearlier | hlast
  · rcases h.1 other hearlier with hdone | hnone | hreported
    · exact Or.inl hdone
    · exact absurd hnone (by simp only [reduceCtorEq, not_false_eq_true])
    · exact Or.inr (Or.inr hreported)
  · rw [Option.toList_some, List.mem_singleton] at hlast
    exact hlast ▸ htarget

/-- What is known of the identities that are done: no endless chain of open dependencies starts at
    any of them. The targets of those on the way are dealt with, and no start is forgotten. -/
structure Settled (g : DependencyGraph) (s : Search) : Prop where
  grounded : ∀ id, s.marks.get? id = some .done → g.Grounded s.reported id
  explored : Explored g s.reported s.marks none s.path
  started : ∀ id ∈ g.keys, id ∈ s.starts ∨ s.marks.get? id ≠ none

theorem settled_start (g : DependencyGraph) : Settled g (start g) where
  grounded id h := by simp only [start, Dictionary.get?_empty, reduceCtorEq] at h
  explored := trivial
  started _ h := Or.inl h

/-- A mark does not take away that an identity has one. -/
theorem get?_mark_ne_none {s : Search} {id other : String} {m : Mark}
    (h : s.marks.get? other ≠ none) : (s.mark id m).marks.get? other ≠ none := by
  rw [mark, Dictionary.get?_insert]
  by_cases hother : other = id
  · simp only [if_pos hother, ne_eq, reduceCtorEq, not_false_eq_true]
  · rw [if_neg hother]
    exact h

/-- Entering an identity leaves those alone that are done. -/
theorem get?_enter_done {s : Search} {id other : String} (hunmarked : s.marks.get? id = none) :
    (s.enter id).marks.get? other = some .done ↔ s.marks.get? other = some .done := by
  simp only [enter, mark, Dictionary.get?_insert]
  by_cases hother : other = id
  · simp only [hother, if_true, hunmarked, Option.some.injEq, reduceCtorEq]
  · rw [if_neg hother]

/-- An identity whose targets have all been looked at is grounded as soon as those that are done
    are: its other dependencies are not open. -/
theorem grounded_of_looked {reported : Names} {marks : Dictionary Mark} {frame : Frame}
    {below : List Frame} (hgrounded : ∀ id, marks.get? id = some .done → g.Grounded reported id)
    (hexplored : Explored g reported marks none (frame :: below))
    (looked : (g.targets frame.id)[frame.next]? = none) : g.Grounded reported frame.id := by
  refine .intro _ fun target hopen => ?_
  have hall := List.take_of_length_le (List.getElem?_eq_none_iff.1 looked)
  rcases hexplored.1 target (hall.symm ▸ hopen.1) with hdone | hnone | hreported
  · exact hgrounded target hdone
  · exact absurd hnone (by simp only [reduceCtorEq, not_false_eq_true])
  · exact absurd hreported hopen.2

-- A report takes nothing back.
theorem has_report {s : Search} (source target : String) {id : String}
    (h : s.reported.has id) : (s.report source target).reported.has id := by
  simp only [report, Names.has_add]
  exact Or.inr (Or.inr h)

theorem settled_step {s t : Search} (hstep : s.step g = some t) (h : Settled g s) :
    Settled g t := by
  cases moves_of_step hstep with
  | @pass id rest m path starts marked =>
      refine ⟨h.grounded, h.explored, fun other hother => ?_⟩
      rcases h.started other hother with hstart | hmarked
      · rw [starts, List.mem_cons] at hstart
        rcases hstart with rfl | hrest
        · exact Or.inr (by simp only [marked, ne_eq, reduceCtorEq, not_false_eq_true])
        · exact Or.inl hrest
      · exact Or.inr hmarked
  | @begin id rest path starts unmarked =>
      refine ⟨fun other hdone => ?_, ?_, fun other hother => ?_⟩
      · exact h.grounded other ((get?_enter_done unmarked).1 hdone)
      · simp only [enter, path, Explored, List.take_zero, List.not_mem_nil, false_implies,
          implies_true, and_self]
      · rcases h.started other hother with hstart | hmarked
        · rw [starts, List.mem_cons] at hstart
          rcases hstart with rfl | hrest
          · refine Or.inr ?_
            simp only [enter, mark, Dictionary.get?_insert, if_true, ne_eq, reduceCtorEq,
              not_false_eq_true]
          · exact Or.inl hrest
        · exact Or.inr (get?_mark_ne_none hmarked)
  | @leave frame below path looked =>
      refine ⟨fun other hdone => ?_, ?_, fun other hother => ?_⟩
      · simp only [mark, Dictionary.get?_insert] at hdone
        by_cases hframe : other = frame.id
        · rw [hframe]
          exact grounded_of_looked h.grounded (path ▸ h.explored) looked
        · rw [if_neg hframe] at hdone
          exact h.grounded other hdone
      · -- The way no longer goes on to the identity, but now that is done.
        have hexplored : Explored g s.reported s.marks (some frame.id) below :=
          (path ▸ h.explored).2
        refine explored_mono hexplored (fun _ hid => hid) (fun id hid => ?_)
          (fun id hid => Or.inl ?_)
        · simp only [mark, Dictionary.get?_insert, hid, ite_self]
        · rw [Option.some.injEq] at hid
          simp only [mark, Dictionary.get?_insert, hid, if_true]
      · exact (h.started other hother).imp_right get?_mark_ne_none
  | @descend frame below target path next unmarked =>
      refine ⟨fun other hdone => ?_, ⟨fun other hother => ?_, ?_⟩, fun other hother => ?_⟩
      · exact h.grounded other ((get?_enter_done unmarked).1 hdone)
      · exact absurd hother (by simp only [List.take_zero, List.not_mem_nil, not_false_eq_true])
      · have hnext := explored_advance (path ▸ h.explored) next (Or.inr (Or.inl rfl))
        exact explored_mono hnext (fun _ hid => hid)
          (fun id hid => (get?_enter_done unmarked).2 hid) (fun id hid => Or.inr hid)
      · exact (h.started other hother).imp_right get?_mark_ne_none
  | @close frame below target path next marked =>
      -- The dependency that leads back is reported with both ends, and is no longer open.
      have hboth : (s.report frame.id target).reported.has frame.id
          ∧ (s.report frame.id target).reported.has target := by
        simp only [report, Names.has_add, true_or, or_true, and_self]
      have hkept : ∀ id, s.reported.has id → (s.report frame.id target).reported.has id :=
        fun _ => has_report frame.id target
      refine ⟨fun other hdone => (h.grounded other hdone).mono hkept, ?_, h.started⟩
      have hmore := explored_mono (path ▸ h.explored) hkept (fun _ hid => hid)
        (fun _ hid => Or.inr hid)
      exact explored_advance hmore next (Or.inr (Or.inr hboth))
  | skip path next marked =>
      exact ⟨h.grounded, explored_advance (path ▸ h.explored) next (Or.inl marked), h.started⟩

theorem settled_run (g : DependencyGraph) : Settled g ((start g).run g) :=
  run_keeps settled_step (settled_start g)

/-- A search ends with no way and nowhere to start from. -/
theorem ended_of_step_none {s : Search} (h : s.step g = none) : s.path = [] ∧ s.starts = [] := by
  simp only [step] at h
  cases hpath : s.path with
  | nil =>
      rw [hpath] at h
      cases hstarts : s.starts with
      | nil => exact ⟨rfl, rfl⟩
      | cons id rest =>
          rw [hstarts] at h
          simp only at h
          split at h <;> exact absurd h (by simp only [reduceCtorEq, not_false_eq_true])
  | cons frame below =>
      rw [hpath] at h
      simp only at h
      split at h
      · exact absurd h (by simp only [reduceCtorEq, not_false_eq_true])
      · split at h <;> exact absurd h (by simp only [reduceCtorEq, not_false_eq_true])

/-- An identity with a target is a key of the graph. -/
theorem mem_keys_of_edge {source target : String} (h : g.Edge source target) :
    source ∈ g.keys := by
  rw [Ledger.mem_keys_iff, Ledger.has]
  simp only [DependencyGraph.Edge, DependencyGraph.targets] at h
  cases hget : Ledger.get? g source with
  | none =>
      rw [hget, Option.getD_none] at h
      exact absurd h List.not_mem_nil
  | some targets => rfl

/-- At the end every identity with a target is done. -/
theorem done_of_edge {source target : String} (h : g.Edge source target) :
    ((start g).run g).marks.get? source = some .done := by
  rcases ended_of_step_none (step_run (start g)) with ⟨hpath, hstarts⟩
  -- Every key has a mark by now, and none of these says that it is on the way.
  rcases (settled_run g).started source (mem_keys_of_edge h) with hstart | hmarked
  · rw [hstarts] at hstart
    exact absurd hstart List.not_mem_nil
  · cases hmark : ((start g).run g).marks.get? source with
    | none => exact absurd hmark hmarked
    | some m =>
        cases m with
        | onPath =>
            rw [(tracked_run g).onPath, hpath] at hmark
            exact absurd hmark List.not_mem_nil
        | done => rfl

/-- At the end no chain of open dependencies is endless, wherever it starts. -/
theorem wellFounded_openEdge (g : DependencyGraph) :
    WellFounded fun target source => g.OpenEdge ((start g).run g).reported source target := by
  refine ⟨fun id => ?_⟩
  by_cases hedge : ∃ target, g.Edge id target
  · rcases hedge with ⟨target, hedge⟩
    exact (settled_run g).grounded id (done_of_edge hedge)
  · -- Without a target there is no chain to start.
    exact .intro id fun target hopen => absurd ⟨target, hopen.1⟩ hedge

/-- A graph of which nothing is reported has no cycle. -/
theorem acyclic_of_unreported (h : ((start g).run g).reported = Dictionary.empty) (id : String) :
    ¬ g.OnCycle id := by
  intro hcycle
  -- All dependencies are open, so the cycle would be an endless chain of such.
  have hopen : ∀ source target, g.Edge source target →
      g.OpenEdge ((start g).run g).reported source target := by
    intro source target hedge
    rw [h]
    exact ⟨hedge, fun hboth => absurd hboth.1 Bool.false_ne_true⟩
  have hback := Relation.transGen_swap.2 (Relation.TransGen.mono hopen id id hcycle)
  exact (wellFounded_openEdge g).transGen.irrefl.irrefl id hback

/-- Every identity that depends on itself is reported. -/
theorem reported_of_loop {id : String} (hloop : g.Edge id id) :
    ((start g).run g).reported.has id := by
  by_contra hunreported
  have hopen : g.OpenEdge ((start g).run g).reported id id :=
    ⟨hloop, fun hboth => hunreported hboth.1⟩
  exact (wellFounded_openEdge g).irrefl.irrefl id hopen

end Search

end Mise
