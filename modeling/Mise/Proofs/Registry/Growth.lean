import Mise.Proofs.Resolution.Walk

/-!
# Growing Registries

A registry only grows. Entries are never dropped or put into another order, and an entry only gains:
its identity and its name stay, a default unit is never replaced, and neither of the two properties
is taken back. The parent is the exception, as a later one replaces an earlier one, but an entry
that has a parent always has one.

All of this is a relation between a registry and a later one. It is transitive, so it need only be
shown for a single change.

## Main definitions

* `Ledger.Grows`: The entries of a ledger come first in another, each of them further on.
* `IngredientEntry.Gains`: What an entry can turn into.
* `Registry.Grows`: What a registry can turn into.

## Theorems

* `Ledger.grows_alter`: A ledger grows by a change.
* `Ledger.Grows.keys_prefix`, `Ledger.Grows.exists_of_mem`: What the entries of a grown ledger are.
* `grows_entries`, `grows_openSection`: A registry grows by an item, and by a section that opens.
-/

namespace Mise

/-- The entries of a ledger come first in another, under the same keys and in the same order, and
    the value of each has turned into one that is related to it. -/
inductive Ledger.Grows {κ α : Type} (R : α → α → Prop) : Ledger κ α → Ledger κ α → Prop
  | nil (l : Ledger κ α) : Grows R [] l
  | cons {key : κ} {value value' : α} {l l' : Ledger κ α} (value_grows : R value value')
      (rest : Grows R l l') : Grows R ((key, value) :: l) ((key, value') :: l')

namespace Ledger

variable {κ α : Type} {R : α → α → Prop}

theorem grows_refl (hrefl : ∀ value, R value value) (l : Ledger κ α) : Grows R l l := by
  induction l with
  | nil => exact .nil []
  | cons entry l ih => exact .cons (hrefl entry.2) ih

theorem Grows.trans (htrans : ∀ a b c, R a b → R b c → R a c) {first second third : Ledger κ α}
    (h : Grows R first second) (h' : Grows R second third) : Grows R first third := by
  induction h generalizing third with
  | nil _ => exact .nil third
  | cons hvalue _ ih =>
      cases h' with
      | cons hvalue' hrest' => exact .cons (htrans _ _ _ hvalue hvalue') (ih hrest')

/-- A ledger grows by a change, which is made to the entry of a key or adds it at the end. -/
theorem grows_alter [DecidableEq κ] (hrefl : ∀ value, R value value) {change : α → α}
    (hchange : ∀ value, R value (change value)) (key : κ) (fresh : α) (l : Ledger κ α) :
    Grows R l (l.alter key fresh change) := by
  induction l with
  | nil => exact .nil _
  | cons entry l ih =>
      rcases entry with ⟨other, value⟩
      rw [alter]
      -- Either this entry is changed and the rest stays, or it is the other way round.
      by_cases hkey : other = key
      · rw [if_pos hkey, hkey]
        exact .cons (hchange value) (grows_refl hrefl l)
      · rw [if_neg hkey]
        exact .cons (hrefl value) ih

/-- The keys of a ledger come first in a grown one, in the same order. -/
theorem Grows.keys_prefix {l l' : Ledger κ α} (h : Grows R l l') : l.keys <+: l'.keys := by
  induction h with
  | nil l => exact List.nil_prefix
  | cons _ _ ih => exact List.cons_prefix_cons.2 ⟨rfl, ih⟩

/-- Each entry of a ledger is found in a grown one, with a related value. -/
theorem Grows.exists_of_mem {l l' : Ledger κ α} (h : Grows R l l') {key : κ} {value : α}
    (hmem : (key, value) ∈ l) : ∃ value', (key, value') ∈ l' ∧ R value value' := by
  induction h with
  | nil _ => exact absurd hmem List.not_mem_nil
  | @cons first old new rest rest' hvalue _ ih =>
      rcases List.mem_cons.1 hmem with heq | hrest
      · cases heq
        exact ⟨new, List.mem_cons_self, hvalue⟩
      · rcases ih hrest with ⟨value', hfound, hgrown⟩
        exact ⟨value', List.mem_cons_of_mem _ hfound, hgrown⟩

-- A ledger whose values never change grows at its end.
theorem Grows.isPrefix {l l' : Ledger κ α} (h : Grows (· = ·) l l') : l <+: l' := by
  induction h with
  | nil l => exact List.nil_prefix
  | cons hvalue _ ih => exact List.cons_prefix_cons.2 ⟨congrArg _ hvalue, ih⟩

end Ledger

/-- What an entry can turn into: its identity and its name stay, a default unit stays, the two
    properties are never taken back, and a parent can only be replaced. -/
structure IngredientEntry.Gains (e e' : IngredientEntry) : Prop where
  id : e'.id = e.id
  name : e'.name = e.name
  defaultUnit : ∀ unit, e.defaultUnit = some unit → e'.defaultUnit = some unit
  composite : e.composite → e'.composite
  preparation : e.preparation → e'.preparation
  parent : e.parent.isSome → e'.parent.isSome

theorem gains_refl (e : IngredientEntry) : e.Gains e :=
  ⟨rfl, rfl, fun _ h => h, fun h => h, fun h => h, fun h => h⟩

theorem gains_trans (first second third : IngredientEntry) (h : first.Gains second)
    (h' : second.Gains third) : first.Gains third where
  id := h'.id.trans h.id
  name := h'.name.trans h.name
  defaultUnit unit hunit := h'.defaultUnit unit (h.defaultUnit unit hunit)
  composite hcomposite := h'.composite (h.composite hcomposite)
  preparation hpreparation := h'.preparation (h.preparation hpreparation)
  parent hparent := h'.parent (h.parent hparent)

/-- What a registry can turn into: the entries of ingredients only gain, those of cookware stay, and
    new ones are added at the end. -/
structure Registry.Grows (r r' : Registry) : Prop where
  ingredients : Ledger.Grows IngredientEntry.Gains r.ingredients r'.ingredients
  cookware : r.cookware <+: r'.cookware

namespace Registry

theorem grows_refl (r : Registry) : r.Grows r where
  ingredients := Ledger.grows_refl gains_refl r.ingredients
  cookware := List.prefix_refl r.cookware

theorem Grows.trans {first second third : Registry} (h : first.Grows second)
    (h' : second.Grows third) : first.Grows third where
  ingredients := h.ingredients.trans gains_trans h'.ingredients
  cookware := h.cookware.trans h'.cookware

-- Every entry gains by such a change, so it does not matter which one it is made to.
theorem grows_change (r : Registry) (id name : String) {f : IngredientEntry → IngredientEntry}
    (hf : ∀ e : IngredientEntry, e.Gains (f e)) : r.Grows (r.change id name f) where
  ingredients := Ledger.grows_alter gains_refl hf id (.fresh id name) r.ingredients
  cookware := List.prefix_refl r.cookware

theorem grows_intern (r : Registry) (id name : String) (unit : Option String) :
    r.Grows (r.intern id name unit) := by
  -- A default unit is only given to an entry that has none.
  refine r.grows_change id name fun e => ⟨rfl, rfl, fun old hold => ?_, fun h => h, fun h => h,
    fun h => h⟩
  simp only [hold]
  rfl

theorem grows_markPart (r : Registry) (id name parent : String) :
    r.Grows (r.markPart id name parent) :=
  r.grows_change id name fun _ => ⟨rfl, rfl, fun _ h => h, fun _ => rfl, fun h => h, fun _ => rfl⟩

theorem grows_markWhole (r : Registry) (id name : String) : r.Grows (r.markWhole id name) :=
  r.grows_change id name fun _ => ⟨rfl, rfl, fun _ h => h, fun _ => rfl, fun h => h, fun h => h⟩

theorem grows_markPreparation (r : Registry) (id name : String) :
    r.Grows (r.markPreparation id name) :=
  r.grows_change id name fun _ => ⟨rfl, rfl, fun _ h => h, fun h => h, fun _ => rfl, fun h => h⟩

theorem grows_internCookware (r : Registry) (id name : String) :
    r.Grows (r.internCookware id name) where
  ingredients := Ledger.grows_refl gains_refl r.ingredients
  cookware := by
    have hgrows : Ledger.Grows (· = ·) r.cookware (r.cookware.alter id ⟨id, name⟩ fun e => e) :=
      Ledger.grows_alter (fun _ => rfl) (fun _ => rfl) id ⟨id, name⟩ r.cookware
    exact hgrows.isPrefix

theorem grows_enter (r : Registry) (i : IngredientItem) : r.Grows (r.enter i) := by
  have hintern := r.grows_intern (slugify i.name) i.name (i.quantity.bind Quantity.unit?)
  rw [enter]
  cases i.origin with
  | none => exact hintern
  | some origin =>
      -- A part is entered again with its parent, and then the parent itself.
      have hpart := grows_markPart
        (r.intern (slugify i.name) i.name (i.quantity.bind Quantity.unit?)) (slugify i.name) i.name
        (slugify origin.parent)
      exact (hintern.trans hpart).trans (grows_markWhole _ _ _)

/-- A registry grows by an item. -/
theorem grows_entries (r : Registry) (item : Item) : r.Grows (item.entries r) := by
  cases item with
  | ingredient i => exact r.grows_enter i
  | cookware c => exact r.grows_internCookware (slugify c.name) c.name
  | declaration name => exact r.grows_markPreparation (slugify name) name
  | _ => exact r.grows_refl

end Registry

/-- A registry grows by a section that opens. -/
theorem grows_openSection (header : SectionHeader) (walk : Walk) :
    walk.registry.Grows (openSection header walk).registry := by
  cases hproduces : header.produces with
  | none =>
      simp only [openSection, hproduces]
      exact walk.registry.grows_refl
  | some name =>
      simp only [openSection, hproduces, Walk.warnIf_eq, Walk.inRegistry, Walk.inScope]
      exact walk.registry.grows_markPreparation (slugify name) name

end Mise
