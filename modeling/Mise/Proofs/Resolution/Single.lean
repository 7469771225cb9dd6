import Mise.Proofs.Resolution.Content

/-!
# Single Items

Alternatives group items, and a group may hold further groups. A statement about each item of a
kind, wherever it stands, is one about the single items, which are what is left of a step when all
groups are opened. The usages of a step are opened in the same way, and they still stand in the
order of their items, so a single item can be paired with what it was resolved to.

## Main definitions

* `Item.singlesOf`, `Usage.singlesOf`: Items and usages with all groups opened.
* `singlePairs`: Single items with their usages.
* `lastDeclared`: The preparation that items declare.
* `sectionItems`, `documentItems`: The single items of a section and of a document.

## Theorems

* `YieldsAll.singles`: Opening all groups keeps each usage with its item.
* `singlePairs_append`: The pairs of a step are those of its parts.
-/

namespace Mise

mutual

/-- The single items inside an item, in order. -/
def Item.singles : Item → List Item
  | .alternative options => Item.singlesOf options
  | item => [item]

/-- The single items inside items, in order. -/
def Item.singlesOf : List Item → List Item
  | [] => []
  | item :: items => item.singles ++ Item.singlesOf items

end

mutual

/-- The single usages inside a usage, in order. -/
def Usage.singles : Usage → List Usage
  | .alternative options => Usage.singlesOf options
  | usage => [usage]

/-- The single usages inside usages, in order. -/
def Usage.singlesOf : List Usage → List Usage
  | [] => []
  | usage :: usages => usage.singles ++ Usage.singlesOf usages

end

/-- An item that is no alternative is the single item in it. -/
theorem Item.singles_of_single {item : Item} (hsingle : ∀ options, item ≠ .alternative options) :
    item.singles = [item] := by
  cases item with
  | alternative options => exact absurd rfl (hsingle options)
  | _ => rfl

theorem Item.singlesOf_append (items items' : List Item) :
    Item.singlesOf (items ++ items') = Item.singlesOf items ++ Item.singlesOf items' := by
  induction items with
  | nil => rw [Item.singlesOf, List.nil_append, List.nil_append]
  | cons item items ih =>
      rw [List.cons_append, Item.singlesOf, Item.singlesOf, ih, List.append_assoc]

theorem Usage.singlesOf_append (us us' : List Usage) :
    Usage.singlesOf (us ++ us') = Usage.singlesOf us ++ Usage.singlesOf us' := by
  induction us with
  | nil => rw [Usage.singlesOf, List.nil_append, List.nil_append]
  | cons u us ih =>
      rw [List.cons_append, Usage.singlesOf, Usage.singlesOf, ih, List.append_assoc]

theorem Item.singlesOf_eq_flatMap (items : List Item) :
    Item.singlesOf items = items.flatMap Item.singles := by
  induction items with
  | nil => rfl
  | cons item items ih => rw [Item.singlesOf, List.flatMap_cons, ih]

theorem Usage.singlesOf_eq_flatMap (us : List Usage) :
    Usage.singlesOf us = us.flatMap Usage.singles := by
  induction us with
  | nil => rfl
  | cons u us ih => rw [Usage.singlesOf, List.flatMap_cons, ih]

/-- An item that leaves no usage behind is a single one, and contains none that does. -/
theorem filter_singles_of_not_isUsed {item : Item} (h : item.isUsed = false) :
    item.singles.filter Item.isUsed = [] := by
  cases item with
  | text s => rfl
  | declaration name => rfl
  | _ => exact absurd h.symm Bool.false_ne_true

/-- A list is opened item by item. -/
theorem yields_singlesOf {items : List Item}
    (hitems : ∀ item ∈ items, ∀ u, item.Yields u →
      List.Forall₂ Item.Yields (item.singles.filter Item.isUsed) u.singles)
    {us : List Usage} (h : YieldsAll items us) :
    List.Forall₂ Item.Yields ((Item.singlesOf items).filter Item.isUsed) (Usage.singlesOf us) := by
  induction items generalizing us with
  | nil =>
      cases h
      exact .nil
  | cons item items ih =>
      have htail := fun other hmem => hitems other (List.mem_cons_of_mem item hmem)
      rw [YieldsAll, List.filter_cons] at h
      rw [Item.singlesOf, List.filter_append]
      by_cases hused : item.isUsed
      · rw [if_pos hused] at h
        cases h with
        | cons hyields hus =>
            have hfirst := hitems item List.mem_cons_self _ hyields
            exact List.rel_append hfirst (ih htail hus)
      · -- An item without a usage is missing on both sides.
        rw [if_neg hused] at h
        rw [Bool.not_eq_true] at hused
        rw [filter_singles_of_not_isUsed hused, List.nil_append]
        exact ih htail h

theorem yields_singles {item : Item} {u : Usage} (h : item.Yields u) :
    List.Forall₂ Item.Yields (item.singles.filter Item.isUsed) u.singles := by
  induction item using Item.induction generalizing u with
  | single item hsingle =>
      cases h with
      | alternative _ => exact absurd rfl (hsingle _)
      | ingredient id name => exact .cons (.ingredient id name) .nil
      | cookware id name => exact .cons (.cookware id name) .nil
      | mention id name => exact .cons (.mention id name) .nil
      | timer name background => exact .cons (.timer name background) .nil
      | temperature name => exact .cons (.temperature name) .nil
      | comment c => exact .cons (.comment c) .nil
  | alternative options ih =>
      cases h with
      | alternative hus => exact yields_singlesOf (fun option hmem u => ih option hmem) hus

/-- Opening all groups keeps each usage with its item. -/
theorem YieldsAll.singles {items : List Item} {us : List Usage} (h : YieldsAll items us) :
    List.Forall₂ Item.Yields ((Item.singlesOf items).filter Item.isUsed) (Usage.singlesOf us) :=
  yields_singlesOf (fun _ _ _ hyields => yields_singles hyields) h

/-- Single items with their usages, taken from items and the usages that these have turned into. -/
def singlePairs (items : List Item) (us : List Usage) : List (Item × Usage) :=
  ((Item.singlesOf items).filter Item.isUsed).zip (Usage.singlesOf us)

theorem singlePairs_append {items : List Item} {us : List Usage} (h : YieldsAll items us)
    (items' : List Item) (us' : List Usage) :
    singlePairs (items ++ items') (us ++ us') = singlePairs items us ++ singlePairs items' us' := by
  rw [singlePairs, Item.singlesOf_append, Usage.singlesOf_append, List.filter_append,
    List.zip_append h.singles.length_eq]
  rfl

theorem singlePairs_alternative (options : List Item) (us : List Usage) :
    singlePairs [.alternative options] [.alternative us] = singlePairs options us := by
  simp only [singlePairs, Item.singlesOf, Item.singles, Usage.singlesOf, Usage.singles,
    List.append_nil]

theorem map_fst_singlePairs {items : List Item} {us : List Usage} (h : YieldsAll items us) :
    (singlePairs items us).map Prod.fst = (Item.singlesOf items).filter Item.isUsed :=
  List.map_fst_zip (Nat.le_of_eq h.singles.length_eq)

/-- The preparation that an item declares. -/
def Item.declared? : Item → Option String
  | .declaration name => some name
  | _ => none

/-- The preparation that items declare, the last one if there are several. A declaration inside an
    alternative counts as any other. -/
def lastDeclared (items : List Item) : Option String :=
  ((Item.singlesOf items).filterMap Item.declared?).getLast?

theorem lastDeclared_append (items items' : List Item) :
    lastDeclared (items ++ items') = (lastDeclared items').or (lastDeclared items) := by
  rw [lastDeclared, Item.singlesOf_append, List.filterMap_append, List.getLast?_append]
  rfl

theorem lastDeclared_alternative (options : List Item) :
    lastDeclared [.alternative options] = lastDeclared options := by
  simp only [lastDeclared, Item.singlesOf, Item.singles, List.append_nil]

/-- The single items in the steps of a section, in order. -/
def sectionItems (children : List Block) : List Item :=
  (directSteps children).flatMap fun node => Item.singlesOf node.items

/-- The single items in the steps of a document, in order. -/
def documentItems (blocks : List Block) : List Item :=
  (outerSections (sectioned blocks)).flatMap fun part => sectionItems part.2

variable (weighing : Weighing)

/-- Resolving an item leaves the preparation that the item declares open, or else the one that was
    open before. -/
theorem openPreparation_resolveItem (item : Item) (listed : Listed) (walk : Walk) :
    (resolveItem weighing item listed walk).2.2.scope.openPreparation
      = ((lastDeclared [item]).map slugify).or walk.scope.openPreparation := by
  induction item using Item.induction generalizing listed walk with
  | single item hsingle =>
      rw [walk_resolveItem weighing hsingle, Item.passed]
      cases item with
      | alternative options => exact absurd rfl (hsingle options)
      | declaration name => rfl
      | ingredient i =>
          simp only [Item.notes]
          split
          · rfl
          · split
            · exact Scope.openPreparation_noteUse walk.scope i.name
            · rfl
      | mention m => exact Scope.openPreparation_noteUse walk.scope m.name
      | _ => rfl
  | alternative options ih =>
      have hkeeps := resolveOptions_keeps weighing
        (fun done _ _ w => w.scope.openPreparation
          = ((lastDeclared done).map slugify).or walk.scope.openPreparation)
        options
        (fun option hmem done _ l w hw => by
          rw [ih option hmem l w, hw, lastDeclared_append, Option.map_or, Option.or_assoc])
        [] [] listed walk rfl
      -- The last declaration among the options counts, and without one the group opens nothing.
      rcases hkeeps with ⟨-, hopen⟩
      rw [lastDeclared_alternative]
      exact hopen

end Mise
