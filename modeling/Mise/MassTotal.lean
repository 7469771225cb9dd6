import Mise.Usage

/-!
# Totals of Mass

The masses of several usages together. A usage without a known mass makes the total incomplete and
is named; otherwise the total is only as good as the figures it is made of.

## Main definitions

* `MassStatus`: How reliable a total is.
* `MassTotal`: A total with its status and the names of what is missing.
* `MassTotal.ofUsages`: The total over usages.

## Theorems

* `mem_addNew`, `mem_foldl_addNew`: What is among texts after more were added.
-/

namespace Mise

/-- How reliable a total is. -/
inductive MassStatus where
  | precise
  | estimated
  | incomplete
  deriving DecidableEq

/-- The name of a status in data. -/
def MassStatus.name : MassStatus → String
  | .precise => "precise"
  | .estimated => "estimated"
  | .incomplete => "incomplete"

/-- Grams to the nearest hundredth, with a status and the names of the usages without a mass. -/
structure MassTotal where
  grams : Float
  status : MassStatus
  missing : List String
  deriving DecidableEq

/-- Add a text at the end unless it is there already. -/
def addNew (texts : List String) (s : String) : List String :=
  if texts.contains s then texts else texts ++ [s]

theorem mem_addNew (texts : List String) (added s : String) :
    s ∈ addNew texts added ↔ s ∈ texts ∨ s = added := by
  -- A text is not added twice, but then it is a member anyway.
  rw [addNew]
  split
  · next hcontains =>
    refine ⟨Or.inl, fun h => h.elim id fun hs => ?_⟩
    rw [hs]
    exact List.contains_iff_mem.1 hcontains
  · rw [List.mem_append, List.mem_singleton]

theorem mem_foldl_addNew (additions texts : List String) (s : String) :
    s ∈ additions.foldl addNew texts ↔ s ∈ texts ∨ s ∈ additions := by
  induction additions generalizing texts with
  | nil => simp only [List.foldl_nil, List.not_mem_nil, or_false]
  | cons first rest ih => rw [List.foldl_cons, ih, mem_addNew, List.mem_cons, or_assoc]

namespace MassTotal

/-- A running total: grams, whether some figure is an estimate, and what is missing so far. -/
structure Running where
  grams : Float
  estimated : Bool
  missing : List String

/-- A running total with one more ingredient. -/
def Running.add (r : Running) (u : ItemUsage) : Running :=
  match u.knownMass? with
  | some m => { r with grams := r.grams + m.grams, estimated := r.estimated || m.estimated }
  | none => { r with missing := addNew r.missing u.name }

/-- The running total of ingredients. -/
def Running.ofItems (items : List ItemUsage) : Running :=
  items.foldl Running.add ⟨0.0, false, []⟩

/-- A running total as the final one. -/
def ofRunning (r : Running) : MassTotal where
  grams := round2 r.grams
  status := if !r.missing.isEmpty then .incomplete
    else if r.estimated then .estimated else .precise
  missing := r.missing

/-- The total over usages. -/
def ofUsages (usages : List Usage) : MassTotal :=
  ofRunning (.ofItems (usages.filterMap Usage.counted?))

/-- The fields of a total in data. -/
def fields (t : MassTotal) : List (String × Data) :=
  [("totalMass", Data.ofNumber t.grams), ("massStatus", .text t.status.name),
    ("missingMassIngredients", Data.ofTexts t.missing)]

/-- A total as data. -/
def toData (t : MassTotal) : Data :=
  .record t.fields

end MassTotal

end Mise
