import Mise.Proofs.Preparation.History

/-!
# Weights Follow the History

The scope of a walk holds the weights of preparations as they are at one moment, and each record
replaces an earlier one. That this amounts to looking back in the history is an invariant: at every
point, the weight in the scope is the one recorded last so far, and every use so far has shown the
weight recorded last before it. A later record cannot change an earlier use, because a use only
looks at the part of the history before it.

Nothing else can change a weight. An item may enter names and raise warnings, and a declaration only
opens a preparation; the weight is set when the step is complete.

## Main definitions

* `preparationWarnings`: The warnings about preparations that were not found.
* `Tracks`: The weights in the scope are those recorded last in a history.

## Theorems

* `tracks_resolveItem`, `tracks_compileStep`, `tracks_compileSection`: The parts of a document keep
  this true.
* `uses_follow_history`: Every use of a preparation in a document shows the weight recorded last
  before it.
-/

namespace Mise

/-- The warnings about preparations that were not found. -/
def preparationWarnings (warnings : List Warning) : List Warning :=
  warnings.filter fun warning => warning.code == "VARIABLE_NOT_FOUND"

theorem preparationWarnings_append (warnings warnings' : List Warning) :
    preparationWarnings (warnings ++ warnings')
      = preparationWarnings warnings ++ preparationWarnings warnings' :=
  List.filter_append warnings warnings'

/-- The weights in the scope are those recorded last, the uses have shown what they should, and
    there is one warning for each ghost. -/
structure Tracks (history : List PreparationEvent) (walk : Walk) : Prop where
  weights : ∀ id, walk.scope.weight? id = latestWeight id history
  faithful : Faithful history
  warnings : preparationWarnings walk.warnings = history.filterMap PreparationEvent.warning?

theorem warnings_concat (history : List PreparationEvent) (event : PreparationEvent) :
    (history ++ [event]).filterMap PreparationEvent.warning?
      = history.filterMap PreparationEvent.warning? ++ event.warning?.toList := by
  rw [List.filterMap_append, List.filterMap_cons]
  cases event.warning? <;> rfl

theorem tracks_start : Tracks [] .start :=
  ⟨fun _ => rfl, faithful_nil, rfl⟩

/-- What concerns no preparation is not in the history. -/
theorem Tracks.pass {history : List PreparationEvent} {walk walk' : Walk}
    (h : Tracks history walk) (hweights : ∀ id, walk'.scope.weight? id = walk.scope.weight? id)
    (hwarnings : preparationWarnings walk'.warnings = preparationWarnings walk.warnings) :
    Tracks history walk' where
  weights id := (hweights id).trans (h.weights id)
  faithful := h.faithful
  warnings := hwarnings.trans h.warnings

/-- A use that shows the weight in the scope. -/
theorem Tracks.use {history : List PreparationEvent} {walk walk' : Walk} (h : Tracks history walk)
    {id : String} {item : Item} {usage : Usage}
    (hdraws : Draws item usage (walk.scope.weight? id))
    (hweights : ∀ other, walk'.scope.weight? other = walk.scope.weight? other)
    (hwarnings : preparationWarnings walk'.warnings = preparationWarnings walk.warnings
      ++ (PreparationEvent.use id item usage).warning?.toList) :
    Tracks (history ++ [.use id item usage]) walk' where
  weights other := by rw [latestWeight_use, hweights, h.weights]
  faithful := by
    -- The scope holds what was recorded last, so the use is right about the history, too.
    refine h.faithful.concat fun id' item' usage' heq => ?_
    cases heq
    rw [← h.weights]
    exact hdraws
  warnings := by rw [hwarnings, h.warnings, warnings_concat]

/-- A record that replaces the weight in the scope. -/
theorem Tracks.record {history : List PreparationEvent} {walk walk' : Walk}
    (h : Tracks history walk) {id : String} {weight : PreparationWeight}
    (hweights : ∀ other,
      walk'.scope.weight? other = if other = id then some weight else walk.scope.weight? other)
    (hwarnings : walk'.warnings = walk.warnings) :
    Tracks (history ++ [.record id weight]) walk' where
  weights other := by rw [latestWeight_record, hweights, h.weights]
  faithful := h.faithful.concat fun _ _ _ heq => by cases heq
  warnings := by
    rw [hwarnings, h.warnings, warnings_concat]
    exact (List.append_nil _).symm

/-- A share of an ingredient may fail, but not for want of a preparation. -/
theorem preparationWarnings_share {s : Share} (h : s.of = .ingredient) (i : IngredientItem)
    (listed : Listed) (scope : Scope) : preparationWarnings (s.warnings i listed scope) = [] := by
  rw [Share.warnings, preparationWarnings_append, shareBase, h]
  simp only
  split_ifs <;> rfl

theorem preparationWarnings_measurement (kind : Measurement) (name : Option String)
    (quantity : Option Quantity) : preparationWarnings (kind.warnings name quantity) = [] := by
  cases quantity with
  | none => rfl
  | some quantity =>
      cases quantity with
      | measured m =>
          simp only [Measurement.warnings]
          split_ifs <;> rfl
      | share s => rfl
      | words text => rfl

/-- An item that uses no preparation misses none. -/
theorem preparationWarnings_of_not_draws {item : Item} (h : item.drawsOn? = none) (listed : Listed)
    (walk : Walk) : preparationWarnings (item.warnings listed walk) = [] := by
  cases item with
  | ingredient i =>
      simp only [Item.drawsOn?] at h
      simp only [Item.warnings]
      cases hquantity : i.quantity with
      | none => split_ifs <;> rfl
      | some quantity =>
          cases quantity with
          | measured m => split_ifs <;> rfl
          | words text => split_ifs <;> rfl
          | share s =>
              rcases s with ⟨percent, target, _ | _⟩
              · rw [hquantity] at h
                exact absurd h (Option.some_ne_none _)
              · exact preparationWarnings_share rfl i listed walk.scope
  | mention m =>
      simp only [Item.warnings]
      split_ifs <;> rfl
  | timer t => exact preparationWarnings_measurement .timer t.name t.quantity
  | temperature t => exact preparationWarnings_measurement .temperature t.name t.quantity
  | _ => rfl

variable (weighing : Weighing)

/-- A mention gives no amount if its quantity is written without one. -/
theorem Mention.isBare_eq_isNone (m : Mention) :
    m.isBare = (writtenQuantity m.quantity).1.isNone := by
  unfold isBare
  cases m.quantity with
  | none => rfl
  | some quantity =>
      cases quantity with
      | measured q => exact Option.isNone_map.symm
      | share s => rfl
      | words text => rfl

/-- A mention without an amount shows the weight in the scope. -/
theorem draws_mention {m : Mention} (hbare : m.isBare) (walk : Walk) :
    Draws (.mention m) (.mention (resolveMention weighing m walk).1)
      (walk.scope.weight? (slugify m.name)) := by
  rw [m.isBare_eq_isNone, Option.isNone_iff_eq_none] at hbare
  refine .mention rfl ?_
  simp only [resolveMention, hbare, Walk.warnIf_eq, Walk.inScope, Scope.weight?_noteUse]
  rfl

/-- A share of a preparation shows the weight in the scope, and without one is a ghost with a
    warning. -/
theorem draws_share {i : IngredientItem} {s : Share} (hquantity : i.quantity = some (.share s))
    (hof : s.of = .preparation) (listed : Listed) (walk : Walk) :
    Draws (.ingredient i) (.ingredient (resolveShare weighing i s listed walk).1)
        (walk.scope.weight? (slugify s.target))
      ∧ preparationWarnings (s.warnings i listed walk.scope)
        = (PreparationEvent.use (slugify s.target) (.ingredient i)
            (.ingredient (resolveShare weighing i s listed walk).1)).warning?.toList := by
  -- A share of itself is worth another warning, of another code.
  have hcircular : preparationWarnings
      (if slugify s.target == slugify i.name then [.shareOfItself i.name] else []) = [] := by
    split_ifs <;> rfl
  rw [Share.warnings, preparationWarnings_append, hcircular, List.append_nil]
  simp only [PreparationEvent.warning?, hquantity, resolveShare, shareBase, hof]
  cases walk.scope.weight? (slugify s.target) with
  | none => exact ⟨.ghost hquantity rfl rfl, rfl⟩
  | some weight => exact ⟨.share hquantity rfl rfl rfl, rfl⟩

/-- A single item that uses no preparation is not in the history. -/
theorem usesIn_of_not_draws {item : Item} (hsingle : ∀ options, item ≠ .alternative options)
    (h : item.drawsOn? = none) (us : List Usage) : usesIn [item] us = [] := by
  have hsingles : Item.singlesOf [item] = [item] := by
    rw [Item.singlesOf, Item.singlesOf, List.append_nil, Item.singles_of_single hsingle]
  rw [usesIn, List.filterMap_eq_nil_iff]
  rintro ⟨other, usage⟩ hmem
  have hother := List.mem_of_mem_filter (List.of_mem_zip hmem).1
  rw [hsingles, List.mem_singleton] at hother
  rw [hother, h, Option.map_none]

/-- A single item that uses a preparation is in the history with what it was resolved to. -/
theorem usesIn_of_draws {item : Item} {id : String} (h : item.drawsOn? = some id) {usage : Usage}
    (hyields : item.Yields usage) : usesIn [item] [usage] = [.use id item usage] := by
  have hpairs : singlePairs [item] [usage] = [(item, usage)] := by
    cases hyields with
    | alternative _ => exact absurd h.symm (Option.some_ne_none id)
    | _ => rfl
  rw [usesIn, hpairs, List.filterMap_cons, h]
  rfl

/-- Only mentions without an amount and shares use a preparation. -/
theorem eq_of_drawsOn {item : Item} {id : String} (h : item.drawsOn? = some id) :
    (∃ m, item = .mention m ∧ m.isBare)
      ∨ ∃ i s, item = .ingredient i ∧ i.quantity = some (.share s) ∧ s.of = .preparation := by
  cases item with
  | mention m =>
      simp only [Item.drawsOn?] at h
      by_cases hbare : m.isBare
      · exact Or.inl ⟨m, rfl, hbare⟩
      · rw [if_neg hbare] at h
        exact absurd h.symm (Option.some_ne_none id)
  | ingredient i =>
      simp only [Item.drawsOn?] at h
      split at h
      · next percent target hquantity => exact Or.inr ⟨i, _, rfl, hquantity, rfl⟩
      · exact absurd h.symm (Option.some_ne_none id)
  | _ => exact absurd h.symm (Option.some_ne_none id)

theorem tracks_mention {m : Mention} (hbare : m.isBare) {history : List PreparationEvent}
    (listed : Listed) {walk : Walk} (h : Tracks history walk) :
    Tracks (history ++ usesIn [.mention m] [.mention (resolveMention weighing m walk).1])
      ((Item.mention m).passed listed walk) := by
  have hdraws : (Item.mention m).drawsOn? = some (slugify m.name) := by
    rw [Item.drawsOn?, if_pos hbare]
  rw [usesIn_of_draws hdraws (.mention rfl rfl)]
  refine h.use (draws_mention weighing hbare walk) (weight?_notes _ walk.scope) ?_
  -- A mention may be undefined, which is another matter.
  rw [Item.passed, preparationWarnings_append, Item.warnings]
  split_ifs <;> rfl

theorem tracks_share {i : IngredientItem} {s : Share} (hquantity : i.quantity = some (.share s))
    (hof : s.of = .preparation) {history : List PreparationEvent} (listed : Listed) {walk : Walk}
    (h : Tracks history walk) :
    Tracks (history ++ usesIn [.ingredient i] [(resolveIngredient weighing i listed walk).1])
      ((Item.ingredient i).passed listed walk) := by
  have hdraws : (Item.ingredient i).drawsOn? = some (slugify s.target) := by
    rcases s with ⟨percent, target, kind⟩
    cases hof
    rw [Item.drawsOn?, hquantity]
  -- The ingredient is entered first, which changes neither weights nor warnings.
  have hshare := draws_share weighing hquantity hof listed (walk.inRegistry (·.enter i))
  rw [resolveIngredient_share weighing hquantity, usesIn_of_draws hdraws (.ingredient rfl rfl)]
  refine h.use hshare.1 (weight?_notes _ walk.scope) ?_
  rw [Item.passed, preparationWarnings_append, Item.warnings, hquantity]
  exact congrArg (preparationWarnings walk.warnings ++ ·) hshare.2

/-- A single item keeps the weights in step with the history. -/
theorem tracks_single {item : Item} (hsingle : ∀ options, item ≠ .alternative options)
    {history : List PreparationEvent} (listed : Listed) {walk : Walk} (h : Tracks history walk) :
    Tracks (history ++ usesIn [item] (resolveItem weighing item listed walk).1.usages)
      (resolveItem weighing item listed walk).2.2 := by
  rw [walk_resolveItem weighing hsingle]
  cases hdraws : item.drawsOn? with
  | none =>
      -- The weights stay as they are, and whatever is worth a warning is of another kind.
      rw [usesIn_of_not_draws hsingle hdraws, List.append_nil]
      refine h.pass (weight?_notes item walk.scope) ?_
      rw [Item.passed, preparationWarnings_append, preparationWarnings_of_not_draws hdraws,
        List.append_nil]
  | some id =>
      rcases eq_of_drawsOn hdraws with ⟨m, rfl, hbare⟩ | ⟨i, s, rfl, hquantity, hof⟩
      · exact tracks_mention weighing hbare listed h
      · exact tracks_share weighing hquantity hof listed h

/-- An item keeps the weights in step with the history. -/
theorem tracks_resolveItem (item : Item) {history : List PreparationEvent} (listed : Listed)
    {walk : Walk} (h : Tracks history walk) :
    Tracks (history ++ usesIn [item] (resolveItem weighing item listed walk).1.usages)
      (resolveItem weighing item listed walk).2.2 := by
  induction item using Item.induction generalizing history listed walk with
  | single item hsingle => exact tracks_single weighing hsingle listed h
  | alternative options ih =>
      have hkeeps := resolveOptions_keeps weighing
        (fun done us _ w => YieldsAll done us ∧ Tracks (history ++ usesIn done us) w) options
        (fun option hmem done us l w hw => by
          have hyields := yields_resolveItem weighing option l w
          rw [usesIn_append hw.1, ← List.append_assoc]
          exact ⟨yieldsAll_append hw.1 hyields, ih option hmem l hw.2⟩)
        [] [] listed walk ⟨.nil, by rwa [usesIn_nil, List.append_nil]⟩
      -- The group itself uses nothing: its uses are those of its options.
      rcases hkeeps with ⟨-, -, htracks⟩
      rw [resolveItem_alternative, Resolved.usages, usesIn_alternative]
      exact htracks

/-- The items of a step keep the weights in step with the history, and leave open the preparation
    that they declare. -/
theorem tracks_compileItems (items : List Item) {history : List PreparationEvent}
    (listed : Listed) {walk : Walk} (h : Tracks history walk)
    (hopen : walk.scope.openPreparation = none) :
    Tracks (history ++ usesIn items (compileItems weighing items .empty listed walk).1.usages)
        (compileItems weighing items .empty listed walk).2.2
      ∧ (compileItems weighing items .empty listed walk).2.2.scope.openPreparation
        = (lastDeclared items).map slugify := by
  have hitems := compileItems_keeps weighing
    (fun done p _ w => YieldsAll done p.usages ∧ Tracks (history ++ usesIn done p.usages) w
      ∧ w.scope.openPreparation = (lastDeclared done).map slugify)
    (fun done item p l w hw => by
      have hyields := yields_resolveItem weighing item l w
      have hscope := scope_takeIn (resolveItem weighing item l w).1 p
        (resolveItem weighing item l w).2.2
      have htracks := tracks_resolveItem weighing item l hw.2.1
      -- Taking the item in lets time pass, which is nothing that the scope knows of.
      rw [usages_takeIn, usesIn_append hw.1, ← List.append_assoc, hscope.1]
      refine ⟨yieldsAll_append hw.1 hyields, ?_, ?_⟩
      · exact htracks.pass (fun id => by rw [hscope.1]) (by rw [hscope.2])
      · rw [openPreparation_resolveItem, hw.2.2, lastDeclared_append, Option.map_or])
    items [] .empty listed walk
    ⟨.nil, by rwa [usesIn_nil, List.append_nil], hopen⟩
  exact hitems.2

/-- A step keeps the weights in step with the history. -/
theorem tracks_compileStep {history : List PreparationEvent} (node : StepNode) (listed : Listed)
    {walk : Walk} (h : Tracks history walk) :
    Tracks (history ++ stepEvents node (compileStep weighing node listed walk).1)
      (compileStep weighing node listed walk).2.2 := by
  have hopened : Tracks history (openStep walk) := h.pass (fun _ => rfl) rfl
  rcases tracks_compileItems weighing node.items listed hopened rfl with ⟨hitems, hopen⟩
  rw [stepEvents, ← List.append_assoc]
  simp only [compileStep, Step.usages, ← openStep.eq_def]
  generalize compileItems weighing node.items .empty listed (openStep walk) = result
    at hitems hopen
  rcases result with ⟨p, listed', walk'⟩
  simp only at hitems hopen ⊢
  cases hdeclared : lastDeclared node.items with
  | none =>
      -- Nothing is declared, and nothing recorded.
      rw [hdeclared] at hopen
      have hrecord : recordStep p.content walk'.scope = walk'.scope := by
        rw [recordStep, hopen]
        rfl
      rw [Option.map_none, Option.toList_none, List.append_nil]
      exact hitems.pass (fun id => by simp only [hrecord]) rfl
  | some name =>
      -- The content is complete, and what is open is what was declared last.
      rw [hdeclared] at hopen
      refine hitems.record (fun other => ?_) rfl
      simp only [recordStep, hopen]
      exact Scope.weight?_setWeight walk'.scope _ other _ _

theorem tracks_openSection {history : List PreparationEvent} (header : SectionHeader) {walk : Walk}
    (h : Tracks history walk) : Tracks history (openSection header walk) := by
  cases hproduces : header.produces with
  | none => simpa only [openSection, hproduces] using h
  | some name =>
      refine h.pass (fun id => ?_) ?_
      · simp only [openSection, hproduces, Walk.warnIf_eq, Walk.inRegistry, Walk.inScope]
        rfl
      · simp only [openSection, hproduces, Walk.warnIf_eq, Walk.inRegistry, Walk.inScope,
          preparationWarnings_append]
        -- A second declaration is worth a warning, but of another code.
        split_ifs <;> exact List.append_nil _

/-- A section keeps the weights in step with the history. -/
theorem tracks_compileSection {history : List PreparationEvent} (header : SectionHeader)
    (children : List Block) {walk : Walk} (h : Tracks history walk) :
    Tracks
      (history ++ sectionEvents header children (compileSection weighing header children walk).1)
      (compileSection weighing header children walk).2 := by
  have hblocks := compileBlocks_keeps weighing
    (fun done _ w =>
      Tracks (history ++ done.flatMap fun pair => stepEvents pair.1 pair.2) w)
    (fun done node l w hw => by
      rw [List.flatMap_append, List.flatMap_singleton, ← List.append_assoc]
      exact tracks_compileStep weighing node l hw)
    children [] .empty (openSection header walk)
    (by simpa only [List.flatMap_nil, List.append_nil] using tracks_openSection header h)
  rw [sectionEvents, ← List.append_assoc]
  cases hproduces : header.produces with
  | none =>
      rw [Option.map_none, Option.toList_none, List.append_nil]
      refine hblocks.pass (fun id => ?_) ?_
      · simp only [compileSection, closeSection, hproduces]
      · simp only [compileSection, closeSection, hproduces]
  | some name =>
      -- What the steps have recorded under this identity is replaced.
      refine hblocks.record (fun other => ?_) ?_
      · simp only [compileSection, closeSection, hproduces]
        exact Scope.weight?_setWeight _ _ other _ _
      · simp only [compileSection, closeSection, hproduces, Walk.inScope]

/-- The weights at the end of a document are those recorded last. -/
theorem tracks_compileSections (blocks : List Block) :
    Tracks (preparationHistory weighing blocks) (finalWalk weighing blocks) := by
  have hsections := compileSections_keeps weighing
    (fun (done : List ((SectionHeader × List Block) × Section)) w =>
      Tracks (done.flatMap fun pair => sectionEvents pair.1.1 pair.1.2 pair.2) w)
    tracks_start
    (fun done header children w hw => by
      rw [List.flatMap_append, List.flatMap_singleton]
      exact tracks_compileSection weighing header children hw)
    blocks
  exact hsections

/-- Every use of a preparation in a document shows the weight recorded last before it, whatever is
    recorded later. A weight is recorded by a step for the last preparation it declares, and by a
    section for the preparation it produces, each when it is complete; the history says so, and at
    the end the scope holds what the history does. There is a warning for each share that is a
    ghost and for nothing else. The history misses no item that uses a preparation, wherever it
    stands. -/
theorem uses_follow_history (blocks : List Block) :
    let history := preparationHistory weighing blocks
    (∀ before id item usage after, history = before ++ .use id item usage :: after →
        Draws item usage (latestWeight id before))
      ∧ (∀ id, (finalWalk weighing blocks).scope.weight? id = latestWeight id history)
      ∧ preparationWarnings (compileSections weighing blocks).warnings
        = history.filterMap PreparationEvent.warning?
      ∧ history.filterMap PreparationEvent.user? = preparationUsers blocks := by
  have htracks := tracks_compileSections weighing blocks
  exact ⟨htracks.faithful, htracks.weights, htracks.warnings,
    users_preparationHistory weighing blocks⟩

end Mise
