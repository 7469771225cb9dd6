import Mise.Proofs.Resolution.Single

/-!
# The History of Preparations

What happens to preparations in a document, in order: some items use them, and steps and sections
record what they weigh when they are complete. The history is put together from the document and
from what it was compiled to, and knows nothing of the scope that the compiler keeps. What a use
should show can be read off it, by looking for the record that came last before the use.

An item that mentions a preparation with an amount of its own does not use the recorded weight, and
neither does a share of an ingredient. A weight that is recorded is a sum of grams, those in the
content of a step or those on the list of a section, which `grams_stepWeight` and
`grams_sectionWeight` tell apart.

## Main definitions

* `Item.drawsOn?`: The preparation whose weight an item uses.
* `PreparationEvent`: A use or a record.
* `usesIn`, `stepEvents`, `sectionEvents`, `preparationHistory`: The history of items, a step, a
  section and a document.
* `preparationUsers`: The items in a document that use a preparation.
* `latestWeight`: The weight that was recorded last.
* `Draws`: What a use shows of a weight.
* `Faithful`: Every use in a history shows the weight recorded last before it.

## Theorems

* `usesIn_append`: The uses of a step are those of its parts.
* `users_preparationHistory`: Every item that uses a preparation is found in the history.
* `Faithful.concat`: A history stays faithful if its next use is.
-/

namespace Mise

/-- Whether a mention gives no amount. A share does not count as one, and neither does a measured
    quantity without its figure. -/
def Mention.isBare (m : Mention) : Bool :=
  match m.quantity with
  | none => true
  | some (.measured q) => q.figure.isNone
  | some (.share _) => true
  | some (.words _) => false

/-- The identity of the preparation whose weight an item uses: a mention without an amount stands
    for all of it, and a share for a part. -/
def Item.drawsOn? : Item → Option String
  | .mention m => if m.isBare then some (slugify m.name) else none
  | .ingredient i =>
    match i.quantity with
    | some (.share ⟨_, target, .preparation⟩) => some (slugify target)
    | _ => none
  | _ => none

/-- Something that happens to preparations. -/
inductive PreparationEvent where
  /-- An item uses the weight of a preparation. -/
  | use (id : String) (item : Item) (usage : Usage)
  /-- A step or a section is complete, and so is the weight of what it makes. -/
  | record (id : String) (weight : PreparationWeight)

namespace PreparationEvent

/-- The weight of a preparation that an event records. -/
def weight? (id : String) : PreparationEvent → Option PreparationWeight
  | .use .. => none
  | .record other weight => if id = other then some weight else none

/-- The item that uses a preparation. -/
def user? : PreparationEvent → Option Item
  | .use _ item _ => some item
  | .record .. => none

/-- The warning that a use gives rise to: a share that is a ghost is worth one. -/
def warning? : PreparationEvent → Option Warning
  | .use _ (.ingredient i) (.ingredient u) =>
    match i.quantity with
    | some (.share s) => if u.isGhost then some (.preparationNotFound s.target i.name) else none
    | _ => none
  | _ => none

end PreparationEvent

/-- The weight of a preparation that was recorded last. -/
def latestWeight (id : String) (history : List PreparationEvent) : Option PreparationWeight :=
  (history.filterMap (PreparationEvent.weight? id)).getLast?

theorem latestWeight_use (id other : String) (item : Item) (usage : Usage)
    (history : List PreparationEvent) :
    latestWeight id (history ++ [.use other item usage]) = latestWeight id history := by
  simp only [latestWeight, List.filterMap_append, List.filterMap_cons, PreparationEvent.weight?,
    List.filterMap_nil, List.append_nil]

theorem latestWeight_record (id other : String) (weight : PreparationWeight)
    (history : List PreparationEvent) :
    latestWeight id (history ++ [.record other weight])
      = if id = other then some weight else latestWeight id history := by
  simp only [latestWeight, List.filterMap_append, List.filterMap_cons, PreparationEvent.weight?,
    List.filterMap_nil]
  by_cases h : id = other
  · simp only [if_pos h, List.getLast?_concat]
  · simp only [if_neg h, List.append_nil]

-- A record of another preparation is no later record of this one, and a use is none at all.
theorem latestWeight_append_of_none {id : String} {between : List PreparationEvent}
    (h : ∀ event ∈ between, event.weight? id = none) (history : List PreparationEvent) :
    latestWeight id (history ++ between) = latestWeight id history := by
  have hnone : between.filterMap (PreparationEvent.weight? id) = [] :=
    List.filterMap_eq_nil_iff.2 h
  rw [latestWeight, latestWeight, List.filterMap_append, hnone, List.append_nil]

/-- The uses of preparations among items, in order. Those inside alternatives count as any
    other. -/
def usesIn (items : List Item) (us : List Usage) : List PreparationEvent :=
  (singlePairs items us).filterMap fun pair =>
    pair.1.drawsOn?.map fun id => .use id pair.1 pair.2

/-- The history of a step: the uses in it, and the weight of the preparation it declares, once all
    of its content is known. -/
def stepEvents (node : StepNode) (step : Step) : List PreparationEvent :=
  usesIn node.items step.usages
    ++ ((lastDeclared node.items).map fun name =>
      .record (slugify name) (stepWeight step.content)).toList

/-- The history of a section: that of its steps, and the weight of the preparation it produces, once
    all of its ingredients are known. -/
def sectionEvents (header : SectionHeader) (children : List Block) (s : Section) :
    List PreparationEvent :=
  ((directSteps children).zip s.steps).flatMap (fun pair => stepEvents pair.1 pair.2)
    ++ (header.produces.map fun name =>
      .record (slugify name) (sectionWeight s.ingredients)).toList

/-- The history of a document: that of its sections. -/
def preparationHistory (weighing : Weighing) (blocks : List Block) : List PreparationEvent :=
  (sectionPairs weighing blocks).flatMap fun pair => sectionEvents pair.1.1 pair.1.2 pair.2

theorem usesIn_nil (us : List Usage) : usesIn [] us = [] := rfl

theorem usesIn_append {items : List Item} {us : List Usage} (h : YieldsAll items us)
    (items' : List Item) (us' : List Usage) :
    usesIn (items ++ items') (us ++ us') = usesIn items us ++ usesIn items' us' := by
  rw [usesIn, singlePairs_append h, List.filterMap_append]
  rfl

theorem usesIn_alternative (options : List Item) (us : List Usage) :
    usesIn [.alternative options] [.alternative us] = usesIn options us := by
  rw [usesIn, singlePairs_alternative]
  rfl

/-- An item that uses a preparation leaves a usage behind. -/
theorem isUsed_of_drawsOn {item : Item} (h : item.drawsOn?.isSome) : item.isUsed := by
  cases item with
  | text s => exact absurd h Bool.false_ne_true
  | declaration name => exact absurd h Bool.false_ne_true
  | _ => rfl

/-- Every single item that uses a preparation is found in the history of the items, in its place. -/
theorem users_usesIn {items : List Item} {us : List Usage} (h : YieldsAll items us) :
    (usesIn items us).filterMap PreparationEvent.user?
      = (Item.singlesOf items).filter fun item => item.drawsOn?.isSome := by
  -- The filter for uses makes the one for usages superfluous.
  have hfilter : (Item.singlesOf items).filter (fun item => item.drawsOn?.isSome)
      = ((singlePairs items us).map Prod.fst).filter fun item => item.drawsOn?.isSome := by
    rw [map_fst_singlePairs h, List.filter_filter]
    refine List.filter_congr fun item _ => ?_
    by_cases hdraws : item.drawsOn?.isSome
    · rw [hdraws, isUsed_of_drawsOn hdraws, Bool.and_true]
    · rw [Bool.not_eq_true] at hdraws
      rw [hdraws, Bool.false_and]
  rw [hfilter, usesIn]
  induction singlePairs items us with
  | nil => rfl
  | cons pair pairs ih =>
      rw [List.filterMap_cons, List.map_cons, List.filter_cons]
      cases hdraws : pair.1.drawsOn? with
      | none => exact ih
      | some id => exact congrArg (pair.1 :: ·) ih

theorem users_stepEvents {node : StepNode} {step : Step} (h : YieldsAll node.items step.usages) :
    (stepEvents node step).filterMap PreparationEvent.user?
      = (Item.singlesOf node.items).filter fun item => item.drawsOn?.isSome := by
  rw [stepEvents, List.filterMap_append, users_usesIn h]
  cases lastDeclared node.items <;> exact List.append_nil _

/-- The single items in a section that use a preparation. -/
def sectionUsers (children : List Block) : List Item :=
  (directSteps children).flatMap fun node =>
    (Item.singlesOf node.items).filter fun item => item.drawsOn?.isSome

/-- The single items in a document that use a preparation. -/
def preparationUsers (blocks : List Block) : List Item :=
  (outerSections (sectioned blocks)).flatMap fun part => sectionUsers part.2

theorem users_sectionEvents (header : SectionHeader) {children : List Block} {s : Section}
    (h : List.Forall₂ (fun node step => YieldsAll node.items step.usages) (directSteps children)
      s.steps) :
    (sectionEvents header children s).filterMap PreparationEvent.user? = sectionUsers children := by
  have hrecord : ((header.produces.map fun name =>
      PreparationEvent.record (slugify name) (sectionWeight s.ingredients)).toList).filterMap
        PreparationEvent.user? = [] := by
    cases header.produces <;> rfl
  rw [sectionEvents, List.filterMap_append, hrecord, List.append_nil, sectionUsers]
  generalize directSteps children = nodes at h ⊢
  generalize s.steps = steps at h ⊢
  induction h with
  | nil => rfl
  | cons hyields _ ih =>
      rw [List.zip_cons_cons, List.flatMap_cons, List.flatMap_cons, List.filterMap_append,
        users_stepEvents hyields, ih]

/-- The history of a document has every single item that uses a preparation, in order. -/
theorem users_preparationHistory (weighing : Weighing) (blocks : List Block) :
    (preparationHistory weighing blocks).filterMap PreparationEvent.user?
      = preparationUsers blocks := by
  have hsections := compileSections_forall₂ weighing
    (fun part s => (sectionEvents part.1 part.2 s).filterMap PreparationEvent.user?
      = sectionUsers part.2)
    (fun header children walk =>
      users_sectionEvents header (yields_compileSection weighing header children walk))
    blocks
  rw [preparationHistory, preparationUsers, sectionPairs]
  generalize outerSections (sectioned blocks) = parts at hsections ⊢
  generalize (compileSections weighing blocks).sections = sections at hsections ⊢
  induction hsections with
  | nil => rfl
  | cons husers _ ih =>
      rw [List.zip_cons_cons, List.flatMap_cons, List.flatMap_cons, List.filterMap_append, husers,
        ih]

/-- What a use shows of the weight that was recorded last. A mention takes it over as its mass, if
    there is one. A share of it is a number of grams; a share of nothing is a ghost. -/
inductive Draws : Item → Usage → Option PreparationWeight → Prop
  | mention {m : Mention} {u : MentionUsage} {weight : Option PreparationWeight}
      (id : u.id = slugify m.name)
      (mass : u.mass = weight.map fun w => ⟨w.grams, .preparation, w.partly⟩) :
      Draws (.mention m) (.mention u) weight
  | share {i : IngredientItem} {s : Share} {u : ItemUsage} {w : PreparationWeight}
      (quantity : i.quantity = some (.share s)) (id : u.id = slugify i.name)
      (amount : u.quantity = some (.number (round2 (w.grams * s.percent / 100.0))))
      (known : u.isGhost = false) : Draws (.ingredient i) (.ingredient u) (some w)
  | ghost {i : IngredientItem} {s : Share} {u : ItemUsage}
      (quantity : i.quantity = some (.share s)) (id : u.id = slugify i.name)
      (ghost : u.isGhost = true) : Draws (.ingredient i) (.ingredient u) none

/-- Every use in a history shows the weight recorded last before it, whatever comes after. -/
def Faithful (history : List PreparationEvent) : Prop :=
  ∀ before id item usage after, history = before ++ .use id item usage :: after →
    Draws item usage (latestWeight id before)

theorem faithful_nil : Faithful [] := by
  intro before id item usage after h
  exact absurd h.symm (List.append_ne_nil_of_right_ne_nil _ (List.cons_ne_nil _ _))

/-- A history stays faithful if its next use shows the weight recorded last so far. -/
theorem Faithful.concat {history : List PreparationEvent} (h : Faithful history)
    {event : PreparationEvent}
    (hevent : ∀ id item usage, event = .use id item usage →
      Draws item usage (latestWeight id history)) :
    Faithful (history ++ [event]) := by
  intro before id item usage after hsplit
  rcases after.eq_nil_or_concat with rfl | ⟨after', last, rfl⟩
  · -- The use is the new event.
    rcases List.append_inj' hsplit rfl with ⟨hbefore, hlast⟩
    rw [← hbefore]
    exact hevent id item usage (List.cons.inj hlast).1
  · -- The use stands in the old history, and so does what comes before it.
    rw [List.concat_eq_append, ← List.cons_append, ← List.append_assoc] at hsplit
    exact h before id item usage after' (List.append_inj' hsplit rfl).1

end Mise
