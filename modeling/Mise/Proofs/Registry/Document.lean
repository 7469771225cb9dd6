import Mise.Proofs.Registry.Naming
import Mise.Proofs.Resolution.Turn

/-!
# The Registry of a Document

A registry is entered on the way through a document, from the sections that produce something and
from single items, those inside alternatives included. What an alternative lists is dropped, but
what its options enter is not. So the registry can be read off the document: its keys are the
identities of all names in it, and each entry is what the document says about that identity.

## Main definitions

* `Item.registers`, `registeredNames`: The names that are entered, in order.
* `documentIngredients`, `declaredNames`, `cookwareNames`: The ingredients, preparations and pieces
  of cookware of a document.
* `IngredientItem.writtenUnit?`: The unit that an ingredient is written with.
* `IngredientEntry.ReadOff`: An entry is what a document says.

## Theorems

* `keptByTurns_registry`: Each turn of a document enters its namings.
* `registry_compileSections`: The registry is made by the namings of the document.
* `registry_read_off`: The registry of a document can be read off it.
-/

namespace Mise

/-- The ingredient that an item is. -/
def Item.ingredient? : Item → Option IngredientItem
  | .ingredient i => some i
  | _ => none

/-- The names that a single item enters: that of an ingredient and then that of its parent, or that
    of a preparation. -/
def Item.registers : Item → List String
  | .ingredient i => i.name :: (i.origin.map Origin.parent).toList
  | .declaration name => [name]
  | _ => []

/-- The names that a document enters. A section enters what it produces before its steps. -/
def registeredNames (blocks : List Block) : List String :=
  (outerSections (sectioned blocks)).flatMap fun part =>
    part.1.produces.toList ++ (sectionItems part.2).flatMap Item.registers

/-- The ingredients in the steps of a document. -/
def documentIngredients (blocks : List Block) : List IngredientItem :=
  (documentItems blocks).filterMap Item.ingredient?

/-- The preparations that a document declares, in steps and for whole sections. -/
def declaredNames (blocks : List Block) : List String :=
  (outerSections (sectioned blocks)).flatMap fun part =>
    part.1.produces.toList ++ (sectionItems part.2).filterMap Item.declared?

/-- The names of the cookware in the steps of a document. -/
def cookwareNames (blocks : List Block) : List String :=
  (documentItems blocks).filterMap Item.cookwareName?

/-- The unit that an ingredient is written with: that of its measured quantity, unless there is
    nothing but white space in it. -/
def IngredientItem.writtenUnit? (i : IngredientItem) : Option String :=
  match i.quantity with
  | some (.measured m) => m.unit.filter fun unit => unit.toList.any fun c => !Text.isBlank c
  | _ => none

/-- An entry is what a document says about an identity. The name is the first one. The unit is the
    first that an ingredient is written with, and the parent the last that an ingredient is a part
    of. -/
structure IngredientEntry.ReadOff (blocks : List Block) (id : String) (e : IngredientEntry) : Prop
    where
  key : e.id = id
  slug : slugify e.name = id
  name : (registeredNames blocks).find? (fun name => slugify name = id) = some e.name
  defaultUnit : e.defaultUnit
    = ((documentIngredients blocks).filter fun i => slugify i.name = id).findSome?
        IngredientItem.writtenUnit?
  composite : e.composite ↔ ∃ i ∈ documentIngredients blocks, ∃ o, i.origin = some o
    ∧ (slugify i.name = id ∨ slugify o.parent = id)
  parent : e.parent
    = (((documentIngredients blocks).filter fun i => slugify i.name = id).filterMap
        IngredientItem.parentId?).getLast?
  preparation : e.preparation ↔ ∃ name ∈ declaredNames blocks, slugify name = id

/-- The namings of a section: what it produces, and then those of its single items. -/
def sectionNamings (header : SectionHeader) (items : List Item) : List Naming :=
  (header.produces.map Naming.ofPreparation).toList ++ items.flatMap Item.namings

/-- The namings of a document. -/
def documentNamings (blocks : List Block) : List Naming :=
  (outerSections (sectioned blocks)).flatMap fun part =>
    sectionNamings part.1 (sectionItems part.2)

/-- The namings of a turn: that of what a section produces, or those of a single item. -/
def Turn.namings : Turn → List Naming
  | .opens header => (header.produces.map Naming.ofPreparation).toList
  | .item single => single.namings

/-- The name of the cookware that a turn brings up. -/
def Turn.cookwareName? : Turn → Option String
  | .opens _ => none
  | .item single => single.cookwareName?

theorem registry_openSection (header : SectionHeader) {ns : List Naming} {names : List String}
    {walk : Walk} (h : walk.registry = registryOf ns names) :
    (openSection header walk).registry
      = registryOf (ns ++ (header.produces.map Naming.ofPreparation).toList) names := by
  cases hproduces : header.produces with
  | none => simpa only [openSection, hproduces, Option.map_none, Option.toList_none,
      List.append_nil] using h
  | some name =>
      simp only [openSection, hproduces, Walk.warnIf_eq, Walk.inRegistry, Walk.inScope, h,
        Option.map_some, Option.toList_some]
      exact entriesOf_markPreparation ns name (cookwareEntriesOf names)

/-- Each turn enters its namings. -/
theorem keptByTurns_registry : KeptByTurns fun done walk =>
    walk.registry = registryOf (done.flatMap Turn.namings)
      (done.filterMap Turn.cookwareName?) where
  opens done header walk h := by
    -- A section that opens brings up no cookware.
    rw [List.flatMap_append, List.flatMap_singleton, List.filterMap_append]
    exact (registry_openSection header h).trans (congrArg _ (List.append_nil _).symm)
  item done item listed walk _ h := by
    rw [Item.passed, h, registryOf_item, List.flatMap_append, List.flatMap_singleton,
      List.filterMap_append, List.filterMap_cons, List.filterMap_nil, Turn.namings,
      Turn.cookwareName?]
    cases item.cookwareName? <;> rfl
  aside _ _ _ hsame h := hsame.registry.trans h

theorem namings_documentTurns (blocks : List Block) :
    (documentTurns blocks).flatMap Turn.namings = documentNamings blocks := by
  rw [documentTurns, turnsOf, List.flatMap_assoc, documentNamings]
  refine List.flatMap_congr fun part _ => ?_
  rw [sectionTurns, List.flatMap_cons, List.flatMap_map]
  rfl

theorem cookware_documentTurns (blocks : List Block) :
    (documentTurns blocks).filterMap Turn.cookwareName? = cookwareNames blocks := by
  rw [documentTurns, turnsOf, List.filterMap_flatMap, cookwareNames, documentItems,
    List.filterMap_flatMap]
  refine List.flatMap_congr fun part _ => ?_
  rw [sectionTurns, List.filterMap_cons_none rfl, List.filterMap_map]
  rfl

/-- The registry of a document is made by its namings. -/
theorem registry_compileSections (weighing : Weighing) (blocks : List Block) :
    (compileSections weighing blocks).registry
      = registryOf (documentNamings blocks) (cookwareNames blocks) := by
  have hturns := keptByTurns_registry.compileSectionsFrom weighing (sectioned blocks) [] .start rfl
  rw [List.nil_append, ← documentTurns, namings_documentTurns, cookware_documentTurns] at hturns
  exact hturns

section Reading

/-- The names of the namings of a document are those that it enters. -/
theorem names_documentNamings (blocks : List Block) :
    (documentNamings blocks).map Naming.name = registeredNames blocks := by
  have hitem : ∀ item : Item, item.namings.map Naming.name = item.registers := by
    intro item
    cases item with
    | ingredient i =>
        rw [Item.namings, Item.registers]
        cases i.origin <;> rfl
    | _ => rfl
  rw [documentNamings, registeredNames, List.map_flatMap]
  refine List.flatMap_congr fun part _ => ?_
  rw [sectionNamings, List.map_append, List.map_flatMap]
  refine congrArg₂ (· ++ ·) ?_ (List.flatMap_congr fun item _ => hitem item)
  cases part.1.produces <;> rfl

/-- What only the naming of an ingredient tells is told by the ingredients among items. -/
theorem filterMap_namings {β : Type} {tell : Naming → Option β}
    (hparent : ∀ name, tell (.ofParent name) = none)
    (hpreparation : ∀ name, tell (.ofPreparation name) = none) (items : List Item) :
    (items.flatMap Item.namings).filterMap tell
      = (items.filterMap Item.ingredient?).filterMap fun i => tell (.ofIngredient i) := by
  induction items with
  | nil => rfl
  | cons item items ih =>
      rw [List.flatMap_cons, List.filterMap_append, ih]
      cases item with
      | ingredient i =>
          have hrest : ((i.origin.map fun o => Naming.ofParent o.parent).toList).filterMap tell
              = [] := by
            cases i.origin with
            | none => rfl
            | some o => exact List.filterMap_cons_none (hparent o.parent)
          rw [Item.namings,
            List.filterMap_cons_some (rfl : (Item.ingredient i).ingredient? = some i),
            List.filterMap_cons, List.filterMap_cons, hrest]
          cases tell (.ofIngredient i) <;> rfl
      | declaration name =>
          rw [Item.namings, List.filterMap_cons_none (hpreparation name)]
          rfl
      | _ => rfl

/-- What only namings of ingredients tell is told by the ingredients of a document, in order. -/
theorem filterMap_documentNamings {β : Type} {tell : Naming → Option β}
    (hparent : ∀ name, tell (.ofParent name) = none)
    (hpreparation : ∀ name, tell (.ofPreparation name) = none) (blocks : List Block) :
    (documentNamings blocks).filterMap tell
      = (documentIngredients blocks).filterMap fun i => tell (.ofIngredient i) := by
  rw [documentNamings, documentIngredients, documentItems, List.filterMap_flatMap,
    List.filterMap_flatMap, List.filterMap_flatMap]
  refine List.flatMap_congr fun part _ => ?_
  have hproduces :
      ((part.1.produces.map Naming.ofPreparation).toList).filterMap tell = [] := by
    cases part.1.produces with
    | none => rfl
    | some name => exact List.filterMap_cons_none (hpreparation name)
  rw [sectionNamings, List.filterMap_append, hproduces, List.nil_append,
    filterMap_namings hparent hpreparation]

/-- The namings of a single item are those of the preparation, the ingredient or the parent. -/
theorem mem_namings {item : Item} {n : Naming} :
    n ∈ item.namings
      ↔ (∃ name, item.declared? = some name ∧ n = .ofPreparation name)
        ∨ ∃ i, item.ingredient? = some i
            ∧ (n = .ofIngredient i ∨ ∃ o, i.origin = some o ∧ n = .ofParent o.parent) := by
  cases item with
  | ingredient i =>
      simp only [Item.namings, Item.declared?, Item.ingredient?, List.mem_cons, Option.mem_toList,
        Option.map_eq_some_iff, reduceCtorEq, false_and, exists_false, false_or, Option.some.injEq,
        exists_eq_left', eq_comm (b := n)]
  | declaration name =>
      simp only [Item.namings, Item.declared?, Item.ingredient?, List.mem_singleton, reduceCtorEq,
        false_and, exists_false, or_false, Option.some.injEq, exists_eq_left']
  | _ =>
      simp only [Item.namings, Item.declared?, Item.ingredient?, List.not_mem_nil, reduceCtorEq,
        false_and, exists_false, or_false]

/-- The namings of a document are those of its preparations, its ingredients and their parents. -/
theorem mem_documentNamings {blocks : List Block} {n : Naming} :
    n ∈ documentNamings blocks
      ↔ (∃ name ∈ declaredNames blocks, n = .ofPreparation name)
        ∨ ∃ i ∈ documentIngredients blocks,
            n = .ofIngredient i ∨ ∃ o, i.origin = some o ∧ n = .ofParent o.parent := by
  simp only [documentNamings, sectionNamings, declaredNames, documentIngredients, documentItems,
    List.mem_flatMap, List.mem_append, List.mem_filterMap, Option.mem_toList,
    Option.map_eq_some_iff, mem_namings]
  constructor
  · rintro ⟨part, hpart, ⟨name, hname, rfl⟩ | ⟨item, hitem, ⟨name, hname, rfl⟩ | ⟨i, hi, hn⟩⟩⟩
    · exact Or.inl ⟨name, ⟨part, hpart, Or.inl hname⟩, rfl⟩
    · exact Or.inl ⟨name, ⟨part, hpart, Or.inr ⟨item, hitem, hname⟩⟩, rfl⟩
    · exact Or.inr ⟨i, ⟨item, ⟨part, hpart, hitem⟩, hi⟩, hn⟩
  · rintro (⟨name, ⟨part, hpart, hname | ⟨item, hitem, hname⟩⟩, rfl⟩
      | ⟨i, ⟨item, ⟨part, hpart, hitem⟩, hi⟩, hn⟩)
    · exact ⟨part, hpart, Or.inl ⟨name, hname, rfl⟩⟩
    · exact ⟨part, hpart, Or.inr ⟨item, hitem, Or.inl ⟨name, hname, rfl⟩⟩⟩
    · exact ⟨part, hpart, Or.inr ⟨item, hitem, Or.inr ⟨i, hi, hn⟩⟩⟩

/-- What the namings of one identity tell about ingredients is told by the ingredients of that
    identity. -/
theorem filterMap_own {β : Type} {tell : Naming → Option β}
    (hparent : ∀ name, tell (.ofParent name) = none)
    (hpreparation : ∀ name, tell (.ofPreparation name) = none) (blocks : List Block)
    (id : String) :
    ((documentNamings blocks).filter fun n => n.id = id).filterMap tell
      = ((documentIngredients blocks).filter fun i => slugify i.name = id).filterMap fun i =>
          tell (.ofIngredient i) := by
  rw [List.filterMap_filter, List.filterMap_filter]
  refine filterMap_documentNamings (fun name => ?_) (fun name => ?_) blocks
  · rw [hparent, ite_self]
  · rw [hpreparation, ite_self]

/-- What some naming of an identity says is said by a preparation, an ingredient or a parent of that
    identity. -/
theorem any_own (test : Naming → Bool) (blocks : List Block) (id : String) :
    ((documentNamings blocks).filter fun n => n.id = id).any test
      ↔ (∃ name ∈ declaredNames blocks, slugify name = id ∧ test (.ofPreparation name))
        ∨ ∃ i ∈ documentIngredients blocks, (slugify i.name = id ∧ test (.ofIngredient i))
            ∨ ∃ o, i.origin = some o ∧ slugify o.parent = id ∧ test (.ofParent o.parent) := by
  simp only [List.any_filter, List.any_eq_true, Bool.and_eq_true, decide_eq_true_eq,
    mem_documentNamings]
  constructor
  · rintro ⟨n, ⟨name, hname, rfl⟩ | ⟨i, hi, rfl | ⟨o, ho, rfl⟩⟩, htest⟩
    · exact Or.inl ⟨name, hname, htest⟩
    · exact Or.inr ⟨i, hi, Or.inl htest⟩
    · exact Or.inr ⟨i, hi, Or.inr ⟨o, ho, htest⟩⟩
  · rintro (⟨name, hname, htest⟩ | ⟨i, hi, htest | ⟨o, ho, htest⟩⟩)
    · exact ⟨.ofPreparation name, Or.inl ⟨name, hname, rfl⟩, htest⟩
    · exact ⟨.ofIngredient i, Or.inr ⟨i, hi, Or.inl rfl⟩, htest⟩
    · exact ⟨.ofParent o.parent, Or.inr ⟨i, hi, Or.inr ⟨o, ho, rfl⟩⟩, htest⟩

theorem writtenUnit?_eq (i : IngredientItem) :
    i.writtenUnit? = i.quantity.bind Quantity.unit? := by
  rw [IngredientItem.writtenUnit?]
  cases i.quantity with
  | none => rfl
  | some q =>
      cases q with
      | measured m =>
          -- There is a character besides white space exactly if not all of them are white space.
          rw [Option.bind_some, Quantity.unit?, nonBlank?]
          simp only [Text.isBlankText, List.not_all_eq_any_not]
      | share s => rfl
      | words text => rfl

theorem slugify_of_find? {names : List String} {id name : String}
    (h : names.find? (fun name => slugify name = id) = some name) : slugify name = id := by
  simpa only [decide_eq_true_eq] using List.find?_some h

/-- An entry is what the document says about its identity. -/
theorem readOff_of_get? {blocks : List Block} {id : String} {e : IngredientEntry}
    (h : (entriesOf (documentNamings blocks)).get? id = some e) : e.ReadOff blocks id := by
  rcases get?_entriesOf h with ⟨hkey, hname, hunit, hcomposite, hparent, hpreparation⟩
  have hfirst : (registeredNames blocks).find? (fun name => slugify name = id) = some e.name := by
    rw [← names_documentNamings, List.find?_map, ← List.head?_filter]
    exact hname
  refine ⟨hkey, slugify_of_find? hfirst, hfirst, ?_, ?_, ?_, ?_⟩
  · rw [hunit, ← List.head?_filterMap, ← List.head?_filterMap,
      filterMap_own (fun _ => rfl) (fun _ => rfl)]
    exact congrArg List.head? (List.filterMap_congr fun i _ => (writtenUnit?_eq i).symm)
  · rw [hcomposite, any_own]
    simp only [Naming.ofPreparation, Naming.ofIngredient, Naming.ofParent, Bool.false_eq_true,
      and_false, exists_false, false_or, and_true, Option.isSome_iff_exists]
    -- An ingredient says so if it has a parent, and its parent does if there is one.
    refine exists_congr fun i => and_congr_right fun _ => ⟨?_, ?_⟩
    · rintro (⟨hid, o, ho⟩ | ⟨o, ho, hid⟩)
      · exact ⟨o, ho, Or.inl hid⟩
      · exact ⟨o, ho, Or.inr hid⟩
    · rintro ⟨o, ho, hid | hid⟩
      · exact Or.inl ⟨hid, o, ho⟩
      · exact Or.inr ⟨o, ho, hid⟩
  · rw [hparent, filterMap_own (fun _ => rfl) (fun _ => rfl)]
    rfl
  · rw [hpreparation, any_own]
    simp only [Naming.ofPreparation, Naming.ofIngredient, Naming.ofParent, Bool.false_eq_true,
      and_false, exists_false, or_false, and_true]

/-- The keys of the registry are the identities of the names in a document. -/
theorem keys_entriesOf_document (blocks : List Block) :
    (entriesOf (documentNamings blocks)).keys
      = ((registeredNames blocks).map slugify).eraseDups := by
  rw [entriesOf, Ledger.keys_collect, ← names_documentNamings, List.map_map]
  rfl

theorem readOff_of_mem {blocks : List Block} {id : String} {e : IngredientEntry}
    (h : (id, e) ∈ entriesOf (documentNamings blocks)) : e.ReadOff blocks id :=
  readOff_of_get? (Ledger.get?_of_mem (Ledger.nodup_keys_collect _ _ _ _) h)

theorem keys_cookwareEntriesOf (names : List String) :
    (cookwareEntriesOf names).keys = (names.map slugify).eraseDups :=
  Ledger.keys_collect _ _ _ names

/-- The parent of an ingredient of a document is in its registry. -/
theorem parent_mem_keys {blocks : List Block} {i : IngredientItem}
    (hi : i ∈ documentIngredients blocks) {o : Origin} (ho : i.origin = some o) :
    slugify o.parent ∈ (entriesOf (documentNamings blocks)).keys := by
  have hnaming : Naming.ofParent o.parent ∈ documentNamings blocks :=
    mem_documentNamings.2 (Or.inr ⟨i, hi, Or.inr ⟨o, ho, rfl⟩⟩)
  rw [entriesOf, Ledger.keys_collect, List.mem_eraseDups]
  exact List.mem_map_of_mem (f := Naming.id) hnaming

/-- The parent of an entry is in the registry, as something that has parts. -/
theorem parent_registered {blocks : List Block} {id parent : String} {e : IngredientEntry}
    (h : e.ReadOff blocks id) (hparent : e.parent = some parent) :
    ∃ whole, (parent, whole) ∈ entriesOf (documentNamings blocks) ∧ whole.composite := by
  rw [h.parent] at hparent
  rcases List.mem_filterMap.1 (List.mem_of_getLast? hparent) with ⟨i, hi, hpart⟩
  rcases Option.map_eq_some_iff.1 hpart with ⟨o, ho, hid⟩
  have hingredient : i ∈ documentIngredients blocks := (List.mem_filter.1 hi).1
  have hkey : parent ∈ (entriesOf (documentNamings blocks)).keys :=
    hid ▸ parent_mem_keys hingredient ho
  rcases List.mem_map.1 hkey with ⟨⟨key, whole⟩, hmem, rfl⟩
  have hwhole := readOff_of_mem hmem
  exact ⟨whole, hmem, hwhole.composite.2 ⟨i, hingredient, o, ho, Or.inr hid⟩⟩

/-- The registry of a document can be read off it. The keys are the identities of the names in it,
    in the order in which they first come up, and an entry is what the document says about its
    identity. The parent of an entry has an entry too. -/
theorem registry_read_off (weighing : Weighing) (blocks : List Block) :
    let registry := (compileSections weighing blocks).registry
    registry.ingredients.keys = ((registeredNames blocks).map slugify).eraseDups
      ∧ (∀ id e, (id, e) ∈ registry.ingredients → e.ReadOff blocks id)
      ∧ (∀ id e parent, (id, e) ∈ registry.ingredients → e.parent = some parent →
          ∃ whole, (parent, whole) ∈ registry.ingredients ∧ whole.composite)
      ∧ registry.cookware.keys = ((cookwareNames blocks).map slugify).eraseDups
      ∧ ∀ id e, (id, e) ∈ registry.cookware → e.id = id ∧ slugify e.name = id
          ∧ (cookwareNames blocks).find? (fun name => slugify name = id) = some e.name := by
  intro registry
  have hregistry : registry = registryOf (documentNamings blocks) (cookwareNames blocks) :=
    registry_compileSections weighing blocks
  have hcookware := keys_cookwareEntriesOf (cookwareNames blocks)
  rw [hregistry]
  refine ⟨keys_entriesOf_document blocks, fun id e hmem => readOff_of_mem hmem,
    fun id e parent hmem hparent => ?_, hcookware, fun id e hmem => ?_⟩
  · exact parent_registered (readOff_of_mem hmem) hparent
  · have hget := Ledger.get?_of_mem (hcookware ▸ nodup_eraseDups _) hmem
    rcases get?_cookwareEntriesOf hget with ⟨hid, hname⟩
    exact ⟨hid, slugify_of_find? hname, hname⟩

end Reading

end Mise
