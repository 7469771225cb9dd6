import Mise.Resolution

/-!
# What Resolving an Item Does

The resolvers of the different kinds of items, each seen by its effect on the walk. An item that is
not an alternative enters names into the registry, changes what can be referred to, and adds
warnings at the end; it never touches the timeline. `walk_resolveItem` puts this into one equation,
so nothing that follows a walk through a document has to look into a resolver again.

An alternative has no effect of its own. Its options are resolved one after another, and
`resolveOptions_keeps` carries along whatever each of them keeps.

## Main definitions

* `Item.entries`: The registry after an item.
* `Item.notes`: The scope after an item.
* `Item.warnings`: The warnings that an item adds.
* `Item.passed`: The walk after an item.

## Theorems

* `weight?_notes`: An item changes no weight.
* `resolveShare_ok`, `resolveShare_error`: What a share turns into.
* `walk_resolveItem`: Resolving an item other than an alternative has these effects.
* `resolveItem_alternative`: Resolving an alternative is resolving its options.
* `resolveOptions_keeps`: What each option keeps is kept by all of them.
-/

namespace Mise

/-- The registry after an item. -/
def Item.entries (item : Item) (r : Registry) : Registry :=
  match item with
  | .ingredient i => r.enter i
  | .cookware c => r.internCookware (slugify c.name) c.name
  | .declaration name => r.markPreparation (slugify name) name
  | _ => r

/-- Whether an ingredient is marked as a mention of one that was used before. -/
def IngredientItem.isMention (i : IngredientItem) : Bool :=
  (writtenIngredient i).hasModifier .reference

/-- The scope after an item. A share is not something a later mention can refer to. -/
def Item.notes (item : Item) (s : Scope) : Scope :=
  match item with
  | .ingredient i =>
    match i.quantity with
    | some (.share _) => s
    | _ => if i.isMention then s.noteUse i.name else s.see i.name
  | .mention m => s.noteUse m.name
  | .declaration name => { s.define name with openPreparation := some (slugify name) }
  | _ => s

/-- Items never change a weight. -/
theorem weight?_notes (item : Item) (s : Scope) (id : String) :
    (item.notes s).weight? id = s.weight? id := by
  cases item with
  | ingredient i =>
      simp only [Item.notes]
      split
      · rfl
      · split
        · exact Scope.weight?_noteUse s i.name id
        · rfl
  | mention m => exact Scope.weight?_noteUse s m.name id
  | _ => rfl

/-- The warnings about a share. -/
def Share.warnings (s : Share) (i : IngredientItem) (listed : Listed) (scope : Scope) :
    List Warning :=
  (match shareBase s i.name listed scope with
    | .ok _ => []
    | .error warning => [warning])
  ++ if slugify s.target == slugify i.name then [.shareOfItself i.name] else []

/-- The warnings about what a timer or a temperature is measured by. -/
def Measurement.warnings (kind : Measurement) (name : Option String) (quantity : Option Quantity) :
    List Warning :=
  match quantity with
  | none => []
  | some (.measured m) => if (nonBlank? m.unit).isNone then [.unitMissing kind name] else []
  | some (.words text) => [.wordsMeasured kind text]
  | some (.share s) => [.shareMeasured kind s.target]

/-- The warnings that an item adds. -/
def Item.warnings (item : Item) (listed : Listed) (walk : Walk) : List Warning :=
  match item with
  | .ingredient i =>
    match i.quantity with
    | some (.share s) => s.warnings i listed walk.scope
    | _ =>
      if i.isMention then
        if !walk.scope.seen.has i.name then [.undefinedIngredient i.name] else []
      else []
  | .mention m =>
    if !walk.registry.hasIngredient (slugify m.name) then [.undefinedMention m.name] else []
  | .timer t => Measurement.timer.warnings t.name t.quantity
  | .temperature t => Measurement.temperature.warnings t.name t.quantity
  | _ => []

/-- The walk after an item. -/
def Item.passed (item : Item) (listed : Listed) (walk : Walk) : Walk where
  registry := item.entries walk.registry
  scope := item.notes walk.scope
  schedule := walk.schedule
  warnings := walk.warnings ++ item.warnings listed walk

variable (weighing : Weighing)

theorem walk_resolveShare (i : IngredientItem) (s : Share) (listed : Listed) (walk : Walk) :
    (resolveShare weighing i s listed walk).2
      = { walk with warnings := walk.warnings ++ s.warnings i listed walk.scope } := by
  simp only [resolveShare, Share.warnings]
  -- A share that fails warns of that first, and then of being a share of itself.
  cases shareBase s i.name listed walk.scope with
  | ok grams => simp only [Walk.warnIf_eq, List.nil_append]
  | error warning => simp only [Walk.warnIf_eq, Walk.warn, List.append_assoc]

/-- A share is circular if its target is its own ingredient. -/
theorem circular_resolveShare (i : IngredientItem) (s : Share) (listed : Listed) (walk : Walk) :
    (resolveShare weighing i s listed walk).1.circular
      = (slugify s.target == slugify i.name) := rfl

/-- A share with a base is not a ghost, and its grams are that part of the base. -/
theorem resolveShare_ok {i : IngredientItem} {s : Share} {listed : Listed} {walk : Walk}
    {grams : Float} (h : shareBase s i.name listed walk.scope = .ok grams) :
    (resolveShare weighing i s listed walk).1.isGhost = false
      ∧ (resolveShare weighing i s listed walk).1.quantity = some (.number (s.grams grams)) := by
  simp only [resolveShare, h, and_true]
  rfl

/-- A share without a base is a ghost. -/
theorem resolveShare_error {i : IngredientItem} {s : Share} {listed : Listed} {walk : Walk}
    {w : Warning} (h : shareBase s i.name listed walk.scope = .error w) :
    (resolveShare weighing i s listed walk).1.isGhost = true := by
  simp only [resolveShare, h]
  rfl

/-- The usage of an ingredient as it is written, with its mass. -/
def weighedIngredient (i : IngredientItem) : ItemUsage :=
  { writtenIngredient i with
    mass := (writtenIngredient i).number?.bind fun x =>
      weighing.mass? x ((writtenIngredient i).unit.getD "") i.name }

/-- A bare mention of an ingredient, which is not listed. -/
def IngredientItem.isBareMention (i : IngredientItem) : Bool :=
  i.isMention && !i.quantity.any Quantity.isPresent

/-- An ingredient without a share is weighed as it is written, and listed unless it is a bare
    mention. -/
theorem resolveWritten_eq (i : IngredientItem) (listed : Listed) (walk : Walk) :
    resolveWritten weighing i listed walk
      = (.ingredient (weighedIngredient weighing i),
          if i.isBareMention then listed
          else listed.addIngredient (.ingredient (weighedIngredient weighing i)),
          { walk with
            scope := if i.isMention then walk.scope.noteUse i.name else walk.scope.see i.name
            warnings := walk.warnings ++
              if i.isMention then
                if !walk.scope.seen.has i.name then [.undefinedIngredient i.name] else []
              else [] }) := by
  rw [resolveWritten, ← IngredientItem.isMention, IngredientItem.isBareMention]
  cases i.isMention with
  | false =>
      simp only [Bool.false_eq_true, if_false, Walk.inScope, List.append_nil, Bool.false_and]
      rfl
  | true =>
      -- A mention is noted as a use, whether or not it is listed.
      simp only [if_true, Walk.warnIf_eq, Walk.inScope, Bool.true_and]
      cases i.quantity.any Quantity.isPresent <;> rfl

theorem resolveIngredient_share {i : IngredientItem} {s : Share}
    (h : i.quantity = some (.share s)) (listed : Listed) (walk : Walk) :
    resolveIngredient weighing i listed walk
      = (.ingredient (resolveShare weighing i s listed (walk.inRegistry (·.enter i))).1,
          listed.addIngredient
            (.ingredient (resolveShare weighing i s listed (walk.inRegistry (·.enter i))).1),
          (resolveShare weighing i s listed (walk.inRegistry (·.enter i))).2) := by
  simp only [resolveIngredient, h]

/-- A share turns into what it is resolved to after it has been entered. -/
theorem usage_share {i : IngredientItem} {s : Share} (h : i.quantity = some (.share s))
    (listed : Listed) (walk : Walk) :
    (resolveItem weighing (.ingredient i) listed walk).1
      = .usage (.ingredient
          (resolveShare weighing i s listed (walk.inRegistry (·.enter i))).1) := by
  simp only [resolveItem, resolveIngredient_share weighing h]

theorem resolveIngredient_written {i : IngredientItem} (h : ∀ s, i.quantity ≠ some (.share s))
    (listed : Listed) (walk : Walk) :
    resolveIngredient weighing i listed walk
      = resolveWritten weighing i listed (walk.inRegistry (·.enter i)) := by
  simp only [resolveIngredient]

theorem IngredientItem.share_or_written (i : IngredientItem) :
    (∃ s, i.quantity = some (.share s)) ∨ ∀ s, i.quantity ≠ some (.share s) := by
  by_cases h : ∃ s, i.quantity = some (.share s)
  · exact Or.inl h
  · exact Or.inr fun s hs => h ⟨s, hs⟩

theorem walk_resolveIngredient (i : IngredientItem) (listed : Listed) (walk : Walk) :
    (resolveIngredient weighing i listed walk).2.2 = (Item.ingredient i).passed listed walk := by
  simp only [Item.passed, Item.entries, Item.notes, Item.warnings]
  rcases i.share_or_written with ⟨s, hshare⟩ | hwritten
  · rw [resolveIngredient_share weighing hshare, hshare, walk_resolveShare]
    rfl
  · rw [resolveIngredient_written weighing hwritten, resolveWritten_eq]
    simp only [Walk.inRegistry]
    rfl

theorem walk_resolveMention (m : Mention) (listed : Listed) (walk : Walk) :
    (resolveMention weighing m walk).2 = (Item.mention m).passed listed walk := by
  simp only [resolveMention, Walk.warnIf_eq, Walk.inScope, Item.passed, Item.entries, Item.notes,
    Item.warnings]

theorem walk_resolveMeasured (kind : Measurement) (name : Option String)
    (quantity : Option Quantity) (walk : Walk) :
    (resolveMeasured kind name quantity walk).2.2
      = { walk with warnings := walk.warnings ++ kind.warnings name quantity } := by
  cases quantity with
  | none => simp only [resolveMeasured, Measurement.warnings, List.append_nil]
  | some quantity =>
      cases quantity with
      | measured m => simp only [resolveMeasured, Measurement.warnings, Walk.warnIf_eq]
      | share s => rfl
      | words text => rfl

/-- Resolving an item other than an alternative enters names, changes the scope and adds
    warnings. -/
theorem walk_resolveItem {item : Item} (hsingle : ∀ options, item ≠ .alternative options)
    (listed : Listed) (walk : Walk) :
    (resolveItem weighing item listed walk).2.2 = item.passed listed walk := by
  cases item with
  | ingredient i => exact walk_resolveIngredient weighing i listed walk
  | mention m => exact walk_resolveMention weighing m listed walk
  | alternative options => exact absurd rfl (hsingle options)
  | timer t => exact walk_resolveMeasured .timer t.name t.quantity walk
  | temperature t => exact walk_resolveMeasured .temperature t.name t.quantity walk
  | _ =>
      simp only [resolveItem, resolveCookware, declarePreparation, Walk.inRegistry, Walk.inScope,
        Item.passed, Item.entries, Item.notes, Item.warnings, List.append_nil]

/-- Resolving an alternative is resolving its options, and listing the group by the kind of the
    first. -/
theorem resolveItem_alternative (options : List Item) (listed : Listed) (walk : Walk) :
    resolveItem weighing (.alternative options) listed walk
      = (.usage (.alternative (resolveOptions weighing options listed walk).1),
          listed.addAlternative options
            (.alternative (resolveOptions weighing options listed walk).1),
          (resolveOptions weighing options listed walk).2) := rfl

/-- The usages that an item contributes to the content of its step, at most one. -/
def Resolved.usages : Resolved → List Usage
  | .usage u => [u]
  | .text _ => []
  | .nothing => []

theorem resolveOptions_cons (option : Item) (options : List Item) (listed : Listed) (walk : Walk) :
    resolveOptions weighing (option :: options) listed walk
      = ((resolveItem weighing option listed walk).1.usages
            ++ (resolveOptions weighing options (resolveItem weighing option listed walk).2.1
                (resolveItem weighing option listed walk).2.2).1,
          (resolveOptions weighing options (resolveItem weighing option listed walk).2.1
            (resolveItem weighing option listed walk).2.2).2) := by
  rw [resolveOptions]
  rcases resolveItem weighing option listed walk with ⟨resolved, listed', walk'⟩
  cases resolved <;> rfl

/-- What each option keeps is kept by all of them. The property may speak of the options resolved
    so far and of the usages they have turned into. -/
theorem resolveOptions_keeps (P : List Item → List Usage → Listed → Walk → Prop)
    (options : List Item)
    (hoption : ∀ option ∈ options, ∀ done us listed walk, P done us listed walk →
      P (done ++ [option]) (us ++ (resolveItem weighing option listed walk).1.usages)
        (resolveItem weighing option listed walk).2.1
        (resolveItem weighing option listed walk).2.2)
    (done : List Item) (us : List Usage) (listed : Listed) (walk : Walk)
    (h : P done us listed walk) :
    ∃ listed', P (done ++ options) (us ++ (resolveOptions weighing options listed walk).1) listed'
      (resolveOptions weighing options listed walk).2 := by
  induction options generalizing done us listed walk with
  | nil =>
      -- The lists at the end are those that the group drops.
      refine ⟨listed, ?_⟩
      simpa only [resolveOptions, List.append_nil] using h
  | cons option options ih =>
      have hfirst := hoption option List.mem_cons_self done us listed walk h
      have hrest := ih (fun o ho => hoption o (List.mem_cons_of_mem _ ho)) _ _ _ _ hfirst
      rw [resolveOptions_cons]
      simpa only [List.append_assoc, List.singleton_append] using hrest

end Mise
