import Mise.Proofs.Resolution.Single

/-!
# Turns

What is found out about names on the way through a document comes from two kinds of turns: a section
opens, which may produce something, and a single item is resolved. The rest of the walk lets time
pass and records weights. Neither the groups that items are in nor the steps they stand in matter
to what has come up before, so a document is a list of turns here, and a turn sees those before it.

A property of what has been found out is shown once for each kind of turn, and once for the rest of
the walk. It then holds for a whole document. The three inductions over items, steps and sections
are made here for all such properties together.

## Main definitions

* `Turn`: What comes up on the way through a document.
* `sectionTurns`, `documentTurns`: The turns of sections and of a document, in order.
* `Walk.SameFindings`: Two walks have found out the same about names.
* `KeptByTurns`: A property of the findings that each turn keeps.

## Theorems

* `sameFindings_takeIn`, `sameFindings_recordStep`, `sameFindings_closeSection`: Time and weights
  pass beside the findings.
* `KeptByTurns.resolveItem`, `KeptByTurns.compileStep`, `KeptByTurns.compileSection`: The parts of a
  document keep what each of their turns keeps.
* `KeptByTurns.compileSectionsFrom`: So do all sections of a document.
-/

namespace Mise

/-- What comes up on the way through a document: a section opens, or a single item is resolved. -/
inductive Turn where
  | opens (header : SectionHeader)
  | item (item : Item)

/-- The turns of a section: it opens, and then its items come up, those inside alternatives one by
    one. -/
def sectionTurns (header : SectionHeader) (children : List Block) : List Turn :=
  .opens header :: (sectionItems children).map .item

/-- The turns of several sections. -/
def turnsOf (sections : List (SectionHeader × List Block)) : List Turn :=
  sections.flatMap fun part => sectionTurns part.1 part.2

/-- The turns of a document. -/
def documentTurns (blocks : List Block) : List Turn :=
  turnsOf (outerSections (sectioned blocks))

/-- Two walks have found out the same about names and have warned of the same. They may differ in
    the timeline, in weights and in the preparation that is open. -/
structure Walk.SameFindings (walk walk' : Walk) : Prop where
  registry : walk'.registry = walk.registry
  warnings : walk'.warnings = walk.warnings
  seen : walk'.scope.seen = walk.scope.seen
  defined : walk'.scope.defined = walk.scope.defined
  used : walk'.scope.used = walk.scope.used
  declaredBySections : walk'.scope.declaredBySections = walk.scope.declaredBySections

-- Opening a step only closes the preparation that was open.
theorem sameFindings_openStep (walk : Walk) : walk.SameFindings (openStep walk) :=
  ⟨rfl, rfl, rfl, rfl, rfl, rfl⟩

-- Taking in what an item was resolved to only lets time pass.
theorem sameFindings_takeIn (resolved : Resolved) (p : StepProgress) (walk : Walk) :
    walk.SameFindings (takeIn resolved p walk).2 := by
  have hwalk : ∃ schedule, (takeIn resolved p walk).2 = { walk with schedule } := by
    cases resolved with
    | text s => exact ⟨walk.schedule, rfl⟩
    | nothing => exact ⟨walk.schedule, rfl⟩
    | usage u =>
        simp only [takeIn, passTime]
        cases u.timed? with
        | none => exact ⟨walk.schedule, rfl⟩
        | some timed =>
            simp only
            split
            · exact ⟨_, rfl⟩
            · exact ⟨walk.schedule, rfl⟩
  rcases hwalk with ⟨schedule, hwalk⟩
  rw [hwalk]
  exact ⟨rfl, rfl, rfl, rfl, rfl, rfl⟩

-- Completing a step lets its time pass and records a weight.
theorem sameFindings_recordStep (content : List StepContent) (schedule : Schedule) (walk : Walk) :
    walk.SameFindings { walk with schedule, scope := recordStep content walk.scope } := by
  simp only [recordStep]
  cases walk.scope.openPreparation with
  | none => exact ⟨rfl, rfl, rfl, rfl, rfl, rfl⟩
  | some id => exact ⟨rfl, rfl, rfl, rfl, rfl, rfl⟩

-- Completing a section records a weight.
theorem sameFindings_closeSection (header : SectionHeader) (ingredients : List Usage)
    (walk : Walk) : walk.SameFindings (closeSection header ingredients walk) := by
  simp only [closeSection]
  cases header.produces with
  | none => exact ⟨rfl, rfl, rfl, rfl, rfl, rfl⟩
  | some name => exact ⟨rfl, rfl, rfl, rfl, rfl, rfl⟩

/-- A property of the turns so far and of what has been found out that is kept by one more turn of
    either kind, and that depends on nothing else in the walk. -/
structure KeptByTurns (P : List Turn → Walk → Prop) : Prop where
  opens : ∀ done header walk, P done walk → P (done ++ [.opens header]) (openSection header walk)
  item : ∀ done item listed walk, (∀ options, item ≠ .alternative options) → P done walk →
    P (done ++ [.item item]) (item.passed listed walk)
  aside : ∀ done walk walk', walk.SameFindings walk' → P done walk → P done walk'

namespace KeptByTurns

variable {P : List Turn → Walk → Prop} (h : KeptByTurns P) (weighing : Weighing)

include h

/-- An item keeps what the turns of its single items keep. -/
theorem resolveItem (item : Item) (done : List Turn) (listed : Listed) (walk : Walk)
    (hdone : P done walk) :
    P (done ++ item.singles.map .item) (resolveItem weighing item listed walk).2.2 := by
  induction item using Item.induction generalizing done listed walk with
  | single item hsingle =>
      rw [Item.singles_of_single hsingle, walk_resolveItem weighing hsingle]
      exact h.item done item listed walk hsingle hdone
  | alternative options ih =>
      have hkeeps := resolveOptions_keeps weighing
        (fun passed _ _ w => P (done ++ (Item.singlesOf passed).map .item) w) options
        (fun option hmem passed _ l w hw => by
          have hoption := ih option hmem _ l w hw
          rw [Item.singlesOf_append, List.map_append, ← List.append_assoc, Item.singlesOf,
            Item.singlesOf, List.append_nil]
          exact hoption)
        [] [] listed walk
        (by simpa only [Item.singlesOf, List.map_nil, List.append_nil] using hdone)
      -- The group is no turn of its own: its turns are those of its options.
      rcases hkeeps with ⟨-, hoptions⟩
      exact hoptions

/-- A step keeps what the turns of its items keep. -/
theorem compileStep (node : StepNode) (done : List Turn) (listed : Listed) (walk : Walk)
    (hdone : P done walk) :
    P (done ++ (Item.singlesOf node.items).map .item)
      (compileStep weighing node listed walk).2.2 := by
  have hopen : P (done ++ (Item.singlesOf []).map .item) (openStep walk) := by
    simp only [Item.singlesOf, List.map_nil, List.append_nil]
    exact h.aside done walk _ (sameFindings_openStep walk) hdone
  have hitems := compileItems_keeps weighing
    (fun passed _ _ w => P (done ++ (Item.singlesOf passed).map .item) w)
    (fun passed item p l w hw => by
      have hitem := h.resolveItem weighing item _ l w hw
      rw [Item.singlesOf_append, List.map_append, ← List.append_assoc, Item.singlesOf,
        Item.singlesOf, List.append_nil]
      exact h.aside _ _ _ (sameFindings_takeIn _ p _) hitem)
    node.items [] .empty listed (openStep walk) hopen
  -- What is left of the step is its time and its weight.
  exact h.aside _ _ _ (sameFindings_recordStep _ _ _) hitems

/-- A section keeps what its turns keep. -/
theorem compileSection (header : SectionHeader) (children : List Block) (done : List Turn)
    (walk : Walk) (hdone : P done walk) :
    P (done ++ sectionTurns header children)
      (compileSection weighing header children walk).2 := by
  have hopened : P (done ++ [.opens header]) (openSection header walk) :=
    h.opens done header walk hdone
  have hblocks := compileBlocks_keeps weighing
    (fun passed _ w => P (done ++ [.opens header]
      ++ ((passed.map Prod.fst).flatMap fun node => Item.singlesOf node.items).map .item) w)
    (fun passed node l w hw => by
      have hstep := h.compileStep weighing node _ l w hw
      rw [List.map_append, List.flatMap_append, List.map_append, ← List.append_assoc,
        List.map_singleton, List.flatMap_singleton]
      exact hstep)
    children [] .empty (openSection header walk)
    (by simpa only [List.map_nil, List.flatMap_nil, List.append_nil] using hopened)
  -- The steps that were compiled are all steps of the section.
  rw [List.nil_append, List.map_fst_zip
    (Nat.le_of_eq (length_steps_compileBlocks weighing children _ _).symm), List.append_assoc]
    at hblocks
  exact h.aside _ _ _ (sameFindings_closeSection header _ _) hblocks

/-- Sections keep what their turns keep. -/
theorem compileSectionsFrom (blocks : List Block) (done : List Turn) (walk : Walk)
    (hdone : P done walk) :
    P (done ++ turnsOf (outerSections blocks)) (compileSectionsFrom weighing blocks walk).2 := by
  have hlength := (compileSectionsFrom_forall₂ weighing (fun _ _ => True)
    (fun _ _ _ => trivial) blocks walk).length_eq
  have hsections := compileSectionsFrom_keeps weighing
    (fun passed w => P (done ++ turnsOf (passed.map Prod.fst)) w)
    (fun passed header children w hw => by
      have hsection := h.compileSection weighing header children _ w hw
      rw [List.map_append, turnsOf, List.flatMap_append, ← List.append_assoc, List.map_singleton,
        List.flatMap_singleton]
      exact hsection)
    blocks [] walk
    (by simpa only [List.map_nil, turnsOf, List.flatMap_nil, List.append_nil] using hdone)
  rw [List.nil_append, List.map_fst_zip (Nat.le_of_eq hlength)] at hsections
  exact hsections

end KeptByTurns

end Mise
