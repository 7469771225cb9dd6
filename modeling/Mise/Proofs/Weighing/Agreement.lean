import Mise.Proofs.Registry.Document

/-!
# Weighing Alike

Overrides and properties enter a compilation in one way only: a quantity of something with a name is
weighed. So two ways of weighing that agree on all names in a document lead to the same walk through
it. They agree on an identity if no spelling of it makes a difference, because the registry may have
another spelling than the place where something is weighed.

The names of a document are those that it enters into the registry and those that it mentions.

## Main definitions

* `Weighing.Agree`: Two ways of weighing make no difference for an identity.
* `Item.names`, `documentNames`: The names in an item and in a document.

## Theorems

* `resolveItem_agree`: An item is resolved to the same.
* `compileSections_agree`: A document is compiled to the same.
-/

namespace Mise

/-- Two ways of weighing make no difference for what has a given identity, whatever its spelling. -/
def Weighing.Agree (w w' : Weighing) (id : String) : Prop :=
  ∀ name, slugify name = id → ∀ amount unit, w.mass? amount unit name = w'.mass? amount unit name

/-- The name that an item mentions. -/
def Item.mentions? : Item → Option String
  | .mention m => some m.name
  | _ => none

/-- The names in a single item: those that it enters, and the one that it mentions. -/
def Item.names (item : Item) : List String :=
  item.registers ++ item.mentions?.toList

/-- The names in a document: what its sections produce, and the names in its single items. -/
def documentNames (blocks : List Block) : List String :=
  (outerSections (sectioned blocks)).flatMap fun part =>
    part.1.produces.toList ++ (sectionItems part.2).flatMap Item.names

/-- Two ways of weighing agree on the names in single items. -/
def Weighing.AgreeOn (w w' : Weighing) (items : List Item) : Prop :=
  ∀ item ∈ items, ∀ name ∈ item.names, w.Agree w' (slugify name)

section Loops

variable {w w' : Weighing}

-- Each loop is told by its turns.
theorem resolveOptions_congr {options : List Item}
    (h : ∀ option ∈ options, ∀ listed walk,
      resolveItem w option listed walk = resolveItem w' option listed walk)
    (listed : Listed) (walk : Walk) :
    resolveOptions w options listed walk = resolveOptions w' options listed walk := by
  induction options generalizing listed walk with
  | nil => rfl
  | cons option options ih =>
      have hrest := ih fun other hmem => h other (List.mem_cons_of_mem option hmem)
      rw [resolveOptions_cons, resolveOptions_cons, h option List.mem_cons_self, hrest]

theorem compileItems_congr {items : List Item}
    (h : ∀ item ∈ items, ∀ listed walk,
      resolveItem w item listed walk = resolveItem w' item listed walk)
    (p : StepProgress) (listed : Listed) (walk : Walk) :
    compileItems w items p listed walk = compileItems w' items p listed walk := by
  induction items generalizing p listed walk with
  | nil => rfl
  | cons item items ih =>
      have hrest := ih fun other hmem => h other (List.mem_cons_of_mem item hmem)
      rw [compileItems_cons, compileItems_cons, h item List.mem_cons_self, hrest]

theorem compileBlocks_congr {blocks : List Block}
    (h : ∀ node ∈ directSteps blocks, ∀ listed walk,
      compileStep w node listed walk = compileStep w' node listed walk)
    (listed : Listed) (walk : Walk) :
    compileBlocks w blocks listed walk = compileBlocks w' blocks listed walk := by
  induction blocks generalizing listed walk with
  | nil => rfl
  | cons block blocks ih =>
      cases block with
      | comment c => simp only [compileBlocks, ih h]
      | «section» header children => exact ih h listed walk
      | step node =>
          have hrest := ih fun other hmem => h other (List.mem_cons_of_mem node hmem)
          rw [compileBlocks_step, compileBlocks_step, h node List.mem_cons_self, hrest]

theorem compileSectionsFrom_congr {blocks : List Block}
    (h : ∀ part ∈ outerSections blocks, ∀ walk,
      compileSection w part.1 part.2 walk = compileSection w' part.1 part.2 walk)
    (walk : Walk) : compileSectionsFrom w blocks walk = compileSectionsFrom w' blocks walk := by
  induction blocks generalizing walk with
  | nil => rfl
  | cons block blocks ih =>
      cases block with
      | comment c => exact ih h walk
      | step node => exact ih h walk
      | «section» header children =>
          have hfirst := h (header, children) List.mem_cons_self
          have hrest := ih fun other hmem => h other (List.mem_cons_of_mem _ hmem)
          rw [compileSectionsFrom_section, compileSectionsFrom_section, hfirst, hrest]

end Loops

section Names

variable {w w' : Weighing}

-- An ingredient is weighed under its own name, whether or not it is a share.
theorem resolveIngredient_agree {i : IngredientItem} (h : w.Agree w' (slugify i.name))
    (listed : Listed) (walk : Walk) :
    resolveIngredient w i listed walk = resolveIngredient w' i listed walk := by
  have hmass := h i.name rfl
  rcases i.share_or_written with ⟨s, hshare⟩ | hwritten
  · rw [resolveIngredient_share w hshare, resolveIngredient_share w' hshare]
    simp only [resolveShare, hmass]
  · rw [resolveIngredient_written w hwritten, resolveIngredient_written w' hwritten,
      resolveWritten_eq, resolveWritten_eq]
    simp only [weighedIngredient, hmass]

/-- An item is resolved to the same, if the names in it are weighed alike. -/
theorem resolveItem_agree {item : Item} (h : w.AgreeOn w' item.singles) (listed : Listed)
    (walk : Walk) : resolveItem w item listed walk = resolveItem w' item listed walk := by
  induction item using Item.induction generalizing listed walk with
  | single item hsingle =>
      rw [Item.singles_of_single hsingle] at h
      have hnames := h item (List.mem_singleton_self item)
      cases item with
      | alternative options => exact absurd rfl (hsingle options)
      | ingredient i =>
          have hname := hnames i.name (List.mem_append_left _ List.mem_cons_self)
          simp only [resolveItem, resolveIngredient_agree hname]
      | mention m =>
          have hname := hnames m.name (List.mem_append_right _ (List.mem_singleton_self m.name))
          have hmass := hname m.name rfl
          simp only [resolveItem, resolveMention, hmass]
      | _ => rfl
  | alternative options ih =>
      have hoption : ∀ option ∈ options, ∀ listed walk,
          resolveItem w option listed walk = resolveItem w' option listed walk := by
        intro option hmem listed walk
        refine ih option hmem (fun single hsingle => h single ?_) listed walk
        rw [Item.singles, Item.singlesOf_eq_flatMap]
        exact List.mem_flatMap_of_mem hmem hsingle
      rw [resolveItem_alternative, resolveItem_alternative, resolveOptions_congr hoption]

theorem compileStep_agree {node : StepNode} (h : w.AgreeOn w' (Item.singlesOf node.items))
    (listed : Listed) (walk : Walk) :
    compileStep w node listed walk = compileStep w' node listed walk := by
  have hitem : ∀ item ∈ node.items, ∀ listed walk,
      resolveItem w item listed walk = resolveItem w' item listed walk := by
    intro item hmem
    refine resolveItem_agree fun single hsingle => h single ?_
    rw [Item.singlesOf_eq_flatMap]
    exact List.mem_flatMap_of_mem hmem hsingle
  simp only [compileStep, compileItems_congr hitem]

theorem compileSection_agree {children : List Block} (h : w.AgreeOn w' (sectionItems children))
    (header : SectionHeader) (walk : Walk) :
    compileSection w header children walk = compileSection w' header children walk := by
  have hstep : ∀ node ∈ directSteps children, ∀ listed walk,
      compileStep w node listed walk = compileStep w' node listed walk := by
    intro node hmem
    exact compileStep_agree fun single hsingle => h single (List.mem_flatMap_of_mem hmem hsingle)
  simp only [compileSection, compileBlocks_congr hstep]

/-- A document is compiled to the same, if the names in it are weighed alike. -/
theorem compileSections_agree {blocks : List Block} (h : w.AgreeOn w' (documentItems blocks)) :
    compileSections w blocks = compileSections w' blocks := by
  have hsection : ∀ part ∈ outerSections (sectioned blocks), ∀ walk,
      compileSection w part.1 part.2 walk = compileSection w' part.1 part.2 walk := by
    intro part hmem
    exact compileSection_agree
      (fun single hsingle => h single (List.mem_flatMap_of_mem hmem hsingle)) part.1
  simp only [compileSections, compileSectionsFrom_congr hsection]

end Names

end Mise
