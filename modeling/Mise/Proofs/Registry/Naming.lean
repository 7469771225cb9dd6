import Mise.Proofs.Ledger.Group
import Mise.Proofs.Resolution.Item

/-!
# What a Name Says

The registry is changed from several places, and an ingredient with a parent changes two entries,
one of them twice. All of these are of one kind: a name comes up, and something is said about what
it names. A `Naming` is a name with what is said, and the entries of a registry are those that
namings make, so each entry is made by the namings of its identity alone.

What the namings of one identity say adds up. The name and the unit are the first ones given, the
parent is the last one given, and the two properties hold if some naming says so.

## Main definitions

* `Naming`: A name with what is said about it.
* `entriesOf`, `cookwareEntriesOf`: The entries that namings make.
* `registryOf`: The registry of namings and names of cookware.
* `Item.namings`, `Item.cookwareName?`: What an item adds to a registry.

## Theorems

* `registryOf_item`: An item enters its namings.
* `get?_entriesOf`: An entry is what the namings of its identity say.
-/

namespace Mise

/-- The identity of the parent that an ingredient is a part of. -/
def IngredientItem.parentId? (i : IngredientItem) : Option String :=
  i.origin.map fun o => slugify o.parent

/-- A name with what is said about it: a unit, whether it is a parent or a part, the identity of
    its parent, and whether it is a preparation. -/
structure Naming where
  name : String
  unit : Option String
  composite : Bool
  parent : Option String
  preparation : Bool

namespace Naming

/-- The identity that is named. -/
def id (n : Naming) : String :=
  slugify n.name

/-- The naming of an ingredient. -/
def ofIngredient (i : IngredientItem) : Naming :=
  ⟨i.name, i.quantity.bind Quantity.unit?, i.origin.isSome, i.parentId?, false⟩

/-- The naming of something that has parts. -/
def ofParent (name : String) : Naming :=
  ⟨name, none, true, none, false⟩

/-- The naming of a preparation. -/
def ofPreparation (name : String) : Naming :=
  ⟨name, none, false, none, true⟩

/-- An entry after one more naming of its identity. -/
def describe (n : Naming) (e : IngredientEntry) : IngredientEntry where
  id := e.id
  name := e.name
  defaultUnit := e.defaultUnit.or n.unit
  composite := e.composite || n.composite
  parent := n.parent.or e.parent
  preparation := e.preparation || n.preparation

/-- What several namings say adds up. -/
theorem foldl_describe (ns : List Naming) (e : IngredientEntry) :
    ns.foldl (fun e n => n.describe e) e
      = ⟨e.id, e.name, e.defaultUnit.or (ns.findSome? unit), e.composite || ns.any composite,
          (ns.filterMap parent).getLast?.or e.parent, e.preparation || ns.any preparation⟩ := by
  induction ns generalizing e with
  | nil =>
      simp only [List.foldl_nil, List.findSome?_nil, Option.or_none, List.any_nil, Bool.or_false,
        List.filterMap_nil, List.getLast?_nil, Option.none_or]
  | cons n ns ih =>
      -- A later parent replaces an earlier one; everything else is kept once it is said.
      have hparent : ((n :: ns).filterMap parent).getLast?
          = (ns.filterMap parent).getLast?.or n.parent := by
        cases hn : n.parent with
        | none => rw [List.filterMap_cons_none hn, Option.or_none]
        | some p => rw [List.filterMap_cons_some hn, List.getLast?_cons, Option.or_some]
      rw [List.foldl_cons, ih, hparent, List.findSome?_cons, List.any_cons, List.any_cons]
      simp only [describe, Option.or_assoc, Bool.or_assoc]
      cases n.unit <;> rfl

end Naming

/-- The entries that namings make. -/
def entriesOf (ns : List Naming) : Ledger String IngredientEntry :=
  Ledger.collect Naming.id (fun n => .fresh n.id n.name) Naming.describe ns

/-- The entries that names of cookware make. -/
def cookwareEntriesOf (names : List String) : Ledger String CookwareEntry :=
  Ledger.collect slugify (fun name => ⟨slugify name, name⟩) (fun _ e => e) names

/-- The registry of namings and names of cookware. -/
def registryOf (ns : List Naming) (names : List String) : Registry :=
  ⟨entriesOf ns, cookwareEntriesOf names⟩

/-- The namings of a single item: an ingredient, then its parent if it has one, or a
    preparation. -/
def Item.namings : Item → List Naming
  | .ingredient i => .ofIngredient i :: (i.origin.map fun o => .ofParent o.parent).toList
  | .declaration name => [.ofPreparation name]
  | _ => []

/-- The name of the cookware that an item is. -/
def Item.cookwareName? : Item → Option String
  | .cookware c => some c.name
  | _ => none

theorem entriesOf_concat (ns : List Naming) (n : Naming) :
    entriesOf (ns ++ [n]) = (entriesOf ns).alter n.id (.fresh n.id n.name) n.describe :=
  Ledger.collect_concat _ _ _ ns n

/-- Entering an ingredient is entering its namings. -/
theorem entriesOf_enter (ns : List Naming) (i : IngredientItem) (c : Ledger String CookwareEntry) :
    (Registry.mk (entriesOf ns) c).enter i
      = ⟨entriesOf (ns ++ (Item.ingredient i).namings), c⟩ := by
  have hunit : ∀ e : IngredientEntry, (e.defaultUnit <|> i.quantity.bind Quantity.unit?)
      = e.defaultUnit.or (i.quantity.bind Quantity.unit?) := by
    intro e
    cases e.defaultUnit <;> rfl
  rw [Registry.enter]
  cases horigin : i.origin with
  | none =>
      have hdescribe : (fun e : IngredientEntry =>
          { e with defaultUnit := e.defaultUnit <|> i.quantity.bind Quantity.unit? })
          = (Naming.ofIngredient i).describe := by
        funext e
        simp only [Naming.describe, Naming.ofIngredient, IngredientItem.parentId?, horigin, hunit,
          Option.isSome_none, Option.map_none, Option.none_or, Bool.or_false]
      simp only [Registry.intern, Registry.change, hdescribe, Item.namings, horigin,
        Option.map_none, Option.toList_none, entriesOf_concat]
      rfl
  | some origin =>
      -- The unit and the parent are said in one naming, although they are entered in turn.
      have hdescribe : (fun e : IngredientEntry =>
          { e with
            defaultUnit := e.defaultUnit <|> i.quantity.bind Quantity.unit?
            composite := true
            parent := some (slugify origin.parent) })
          = (Naming.ofIngredient i).describe := by
        funext e
        simp only [Naming.describe, Naming.ofIngredient, IngredientItem.parentId?, horigin, hunit,
          Option.isSome_some, Option.map_some, Option.some_or, Bool.or_true, Bool.or_false]
      have hwhole : (fun e : IngredientEntry => { e with composite := true })
          = (Naming.ofParent origin.parent).describe := by
        funext e
        simp only [Naming.describe, Naming.ofParent, Option.or_none, Option.none_or, Bool.or_true,
          Bool.or_false]
      simp only [Registry.intern, Registry.markPart, Registry.markWhole, Registry.change,
        Ledger.alter_alter, hdescribe, hwhole, Item.namings, horigin, Option.map_some,
        Option.toList_some]
      rw [← List.singleton_append, ← List.append_assoc, entriesOf_concat, entriesOf_concat]
      rfl

/-- A preparation is entered by its naming. -/
theorem entriesOf_markPreparation (ns : List Naming) (name : String)
    (c : Ledger String CookwareEntry) :
    (Registry.mk (entriesOf ns) c).markPreparation (slugify name) name
      = ⟨entriesOf (ns ++ [.ofPreparation name]), c⟩ := by
  have hdescribe : (fun e : IngredientEntry => { e with preparation := true })
      = (Naming.ofPreparation name).describe := by
    funext e
    simp only [Naming.describe, Naming.ofPreparation, Option.or_none, Option.none_or, Bool.or_true,
      Bool.or_false]
  rw [Registry.markPreparation, Registry.change, hdescribe, entriesOf_concat]
  rfl

/-- An item enters its namings, or its name if it is cookware. -/
theorem registryOf_item (item : Item) (ns : List Naming) (names : List String) :
    item.entries (registryOf ns names)
      = registryOf (ns ++ item.namings) (names ++ item.cookwareName?.toList) := by
  cases item with
  | ingredient i =>
      simp only [Item.cookwareName?, Option.toList_none, List.append_nil]
      exact entriesOf_enter ns i (cookwareEntriesOf names)
  | declaration name =>
      simp only [Item.cookwareName?, Option.toList_none, List.append_nil]
      exact entriesOf_markPreparation ns name (cookwareEntriesOf names)
  | cookware c =>
      simp only [Item.entries, Registry.internCookware, Item.namings, Item.cookwareName?,
        Option.toList_some, List.append_nil, registryOf, cookwareEntriesOf, Ledger.collect_concat]
  | _ =>
      simp only [Item.entries, Item.namings, Item.cookwareName?, Option.toList_none,
        List.append_nil]

/-- An entry is what the namings of its identity say. -/
theorem get?_entriesOf {ns : List Naming} {id : String} {e : IngredientEntry}
    (h : (entriesOf ns).get? id = some e) :
    let own := ns.filter fun n => n.id = id
    e.id = id
      ∧ own.head?.map Naming.name = some e.name
      ∧ e.defaultUnit = own.findSome? Naming.unit
      ∧ e.composite = own.any Naming.composite
      ∧ e.parent = (own.filterMap Naming.parent).getLast?
      ∧ e.preparation = own.any Naming.preparation := by
  intro own
  rw [entriesOf, Ledger.get?_collect] at h
  change Ledger.total _ _ own = some e at h
  have hsame : ∀ n ∈ own, n.id = id := fun n hn => of_decide_eq_true (List.mem_filter.1 hn).2
  cases hown : own with
  | nil =>
      rw [hown] at h
      exact absurd h.symm (Option.some_ne_none e)
  | cons first rest =>
      rw [hown, Ledger.total, Naming.foldl_describe, Option.some.injEq] at h
      have hid : first.id = id := hsame first (hown ▸ List.mem_cons_self)
      rw [← h]
      refine ⟨hid, rfl, ?_, ?_, ?_, ?_⟩ <;>
        simp only [IngredientEntry.fresh, Option.none_or, Bool.false_or, Option.or_none]

/-- The entry of a piece of cookware has its identity and the name that came up first. -/
theorem get?_cookwareEntriesOf {names : List String} {id : String} {e : CookwareEntry}
    (h : (cookwareEntriesOf names).get? id = some e) :
    e.id = id ∧ names.find? (fun name => slugify name = id) = some e.name := by
  rw [cookwareEntriesOf, Ledger.get?_collect] at h
  have hfold : ∀ (rest : List String) (e : CookwareEntry), rest.foldl (fun e _ => e) e = e := by
    intro rest e
    induction rest with
    | nil => rfl
    | cons _ rest ih => exact ih
  rw [← List.head?_filter]
  cases hown : names.filter fun name => slugify name = id with
  | nil =>
      rw [hown] at h
      exact absurd h.symm (Option.some_ne_none e)
  | cons first rest =>
      have hid : slugify first = id := by
        have hmem : first ∈ names.filter fun name => slugify name = id := hown ▸ List.mem_cons_self
        exact of_decide_eq_true (List.mem_filter.1 hmem).2
      rw [hown, Ledger.total, hfold, Option.some.injEq] at h
      rw [← h]
      exact ⟨hid, rfl⟩

end Mise
