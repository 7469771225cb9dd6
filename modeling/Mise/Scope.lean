import Mise.Dictionary

/-!
# Scope

What the items of a recipe can refer to at a given point: the ingredients that have been used, the
preparations that have been declared, and those that have been weighed. A preparation is weighed
when the step or section that makes it is complete, not when it is declared.

Ingredients and preparations are noted under the names they were written with. Weights go by
identity.

## Main definitions

* `PreparationWeight`: What a preparation weighs.
* `Scope`: What can be referred to.
* `Scope.setWeight`, `Scope.define`, `Scope.noteUse`: How it grows.
-/

namespace Mise

/-- What a preparation weighs. The figure is partial if something in it has no mass. -/
structure PreparationWeight where
  grams : Float
  partly : Bool
  deriving DecidableEq

/-- What can be referred to. `openPreparation` is the identity of the preparation that the current
    step declares. -/
structure Scope where
  openPreparation : Option String
  seen : Names
  defined : Names
  used : Names
  weights : Dictionary PreparationWeight
  declaredBySections : Names

namespace Scope

/-- The scope before the first item. -/
def empty : Scope where
  openPreparation := none
  seen := Dictionary.empty
  defined := Dictionary.empty
  used := Dictionary.empty
  weights := Dictionary.empty
  declaredBySections := Dictionary.empty

/-- Record the weight of a preparation in place of an earlier one. -/
def setWeight (s : Scope) (id : String) (grams : Float) (partly : Bool) : Scope :=
  { s with weights := s.weights.insert id ⟨grams, partly⟩ }

/-- The weight of a preparation. -/
def weight? (s : Scope) (id : String) : Option PreparationWeight :=
  s.weights.get? id

/-- A weight is recorded under its identity and concerns no other. -/
theorem weight?_setWeight (s : Scope) (id other : String) (grams : Float) (partly : Bool) :
    (s.setWeight id grams partly).weight? other
      = if other = id then some ⟨grams, partly⟩ else s.weight? other :=
  s.weights.get?_insert id other ⟨grams, partly⟩

/-- Note that a preparation has been declared. -/
def define (s : Scope) (name : String) : Scope :=
  { s with defined := s.defined.add name }

/-- Note that a preparation is used, if it has been declared. -/
def noteUse (s : Scope) (name : String) : Scope :=
  if s.defined.has name then { s with used := s.used.add name } else s

@[simp] theorem openPreparation_noteUse (s : Scope) (name : String) :
    (s.noteUse name).openPreparation = s.openPreparation := by
  unfold noteUse
  split <;> rfl

@[simp] theorem weight?_noteUse (s : Scope) (name id : String) :
    (s.noteUse name).weight? id = s.weight? id := by
  unfold noteUse
  split <;> rfl

/-- Note that an ingredient is used. -/
def see (s : Scope) (name : String) : Scope :=
  { s with seen := s.seen.add name }

/-- Note that a section produces a preparation. -/
def declareBySection (s : Scope) (name : String) : Scope :=
  { s with declaredBySections := s.declaredBySections.add name }

end Scope

end Mise
