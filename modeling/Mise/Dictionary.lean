/-!
# Dictionaries

Finite maps. There are two kinds, and which one is used shows in the results: a `Dictionary` lists
its entries in ascending order of their keys, which are strings, and a `Ledger` in the order in
which the keys first came up, whatever they are.

A dictionary carries the proof that its keys ascend. Two dictionaries with the same entries are
therefore equal, whatever the order of the insertions. A ledger has no such canonical form: it is a
list, and its operations keep the place of a key that is already there.

## Main definitions

* `Dictionary`: Entries with ascending keys.
* `Dictionary.get?`, `Dictionary.insert`, `Dictionary.ofList`, `Dictionary.overlay`: Looking up,
  replacing, building, and laying one dictionary over another.
* `Names`: Sets of strings.
* `Ledger`: Entries in the order of their first insertion.
* `Ledger.alter`: Changing the entry of a key, or making one.

## Theorems

* `Dictionary.ordered_insertEntry`: Insertion keeps the keys ascending.
* `Dictionary.get?_insert`: An insertion changes the value of its key and of no other.
* `Dictionary.get?_overlay`: The values of the upper dictionary win.
* `Dictionary.ext_get?`: Dictionaries with the same values are equal.
* `Names.has_add`: The members of a set after an addition.
* `Ledger.get?_alter`: A change concerns the entry of its key and no other.
-/

namespace Mise

theorem lookup_cons_ite {κ α : Type} [DecidableEq κ] (e : κ × α) (es : List (κ × α)) (key : κ) :
    (e :: es).lookup key = if key = e.1 then some e.2 else es.lookup key := by
  rw [List.lookup_cons]
  by_cases h : key = e.1
  · rw [if_pos h, beq_iff_eq.2 h]
  · rw [if_neg h, beq_eq_false_iff_ne.2 h]

/-- Entries with ascending keys. -/
structure Dictionary (α : Type) where
  entries : List (String × α)
  ordered : entries.Pairwise fun a b => a.1 < b.1

namespace Dictionary

variable {α : Type}

/-- The dictionary without entries. -/
def empty : Dictionary α := ⟨[], .nil⟩

instance : Inhabited (Dictionary α) := ⟨empty⟩

/-- The value of a key. -/
def get? (d : Dictionary α) (key : String) : Option α :=
  d.entries.lookup key

/-- The keys in ascending order. -/
def keys (d : Dictionary α) : List String :=
  d.entries.map Prod.fst

/-- The number of entries. -/
def size (d : Dictionary α) : Nat :=
  d.entries.length

/-- Ascending entries with the value of one key set. -/
def insertEntry (key : String) (value : α) : List (String × α) → List (String × α)
  | [] => [(key, value)]
  | e :: es =>
    if key < e.1 then (key, value) :: e :: es
    else if key = e.1 then (key, value) :: es
    else e :: insertEntry key value es

theorem mem_insertEntry {key : String} {value : α} {es : List (String × α)} {e : String × α}
    (h : e ∈ insertEntry key value es) : e.1 = key ∨ e ∈ es := by
  induction es with
  | nil =>
      simp only [insertEntry, List.mem_singleton] at h
      exact Or.inl (by rw [h])
  | cons head tail ih =>
      simp only [insertEntry] at h
      split at h
      · rcases List.mem_cons.1 h with rfl | hmem
        · exact Or.inl rfl
        · exact Or.inr hmem
      · split at h
        · rcases List.mem_cons.1 h with rfl | hmem
          · exact Or.inl rfl
          · exact Or.inr (List.mem_cons_of_mem _ hmem)
        · rcases List.mem_cons.1 h with rfl | hmem
          · exact Or.inr List.mem_cons_self
          · rcases ih hmem with hkey | htail
            · exact Or.inl hkey
            · exact Or.inr (List.mem_cons_of_mem _ htail)

theorem ordered_insertEntry (key : String) (value : α) {es : List (String × α)}
    (h : es.Pairwise fun a b => a.1 < b.1) :
    (insertEntry key value es).Pairwise fun a b => a.1 < b.1 := by
  induction es with
  | nil => exact List.pairwise_singleton _ _
  | cons head tail ih =>
      have htail := List.pairwise_cons.1 h
      simp only [insertEntry]
      split
      · next hlt =>
        refine List.pairwise_cons.2 ⟨fun e he => ?_, h⟩
        rcases List.mem_cons.1 he with rfl | hmem
        · exact hlt
        · exact String.lt_trans hlt (htail.1 e hmem)
      · next hnlt =>
        split
        · next heq =>
          exact List.pairwise_cons.2 ⟨fun e he => heq ▸ htail.1 e he, htail.2⟩
        · next hne =>
          refine List.pairwise_cons.2 ⟨fun e he => ?_, ih htail.2⟩
          rcases mem_insertEntry he with hkey | hmem
          · -- Neither above nor equal to the head, the new key comes after it.
            rw [hkey]
            exact Decidable.byContradiction fun hge =>
              hne (String.le_antisymm (String.not_lt.1 hge) (String.not_lt.1 hnlt))
          · exact htail.1 e hmem

/-- Set the value of a key, replacing the one it has. -/
def insert (d : Dictionary α) (key : String) (value : α) : Dictionary α :=
  ⟨insertEntry key value d.entries, ordered_insertEntry key value d.ordered⟩

theorem lookup_insertEntry (key other : String) (value : α) (es : List (String × α)) :
    (insertEntry key value es).lookup other
      = if other = key then some value else es.lookup other := by
  induction es with
  | nil => rw [insertEntry, lookup_cons_ite]
  | cons head tail ih =>
      simp only [insertEntry]
      split
      · rw [lookup_cons_ite]
      · split
        · next heq =>
          rw [lookup_cons_ite, lookup_cons_ite, ← heq]
          by_cases h : other = key
          · rw [if_pos h, if_pos h]
          · rw [if_neg h, if_neg h, if_neg h]
        · next hne =>
          rw [lookup_cons_ite, lookup_cons_ite, ih]
          by_cases hhead : other = head.1
          · rw [if_pos hhead, if_neg (fun h => hne (h.symm.trans hhead)), if_pos hhead]
          · rw [if_neg hhead, if_neg hhead]

@[simp] theorem get?_empty (key : String) : (empty : Dictionary α).get? key = none := rfl

/-- An insertion changes the value of its key and of no other. -/
theorem get?_insert (d : Dictionary α) (key other : String) (value : α) :
    (d.insert key value).get? other = if other = key then some value else d.get? other :=
  lookup_insertEntry key other value d.entries

/-- The dictionary that arises from inserting entries one after another, so that the last value of
    a key counts. -/
def ofList (es : List (String × α)) : Dictionary α :=
  es.foldl (fun d e => d.insert e.1 e.2) empty

/-- One dictionary laid over another: its values win. -/
def overlay (d upper : Dictionary α) : Dictionary α :=
  upper.entries.foldl (fun d e => d.insert e.1 e.2) d

-- In ascending entries, a key in front of all of them has no value.
theorem lookup_eq_none_of_lt {key : String} {es : List (String × α)} (h : ∀ e ∈ es, key < e.1) :
    es.lookup key = none := by
  rw [List.lookup_eq_none_iff]
  intro e he
  rw [bne_iff_ne]
  exact String.ne_of_lt (h e he)

theorem entries_eq_of_lookup {es fs : List (String × α)} (hes : es.Pairwise fun a b => a.1 < b.1)
    (hfs : fs.Pairwise fun a b => a.1 < b.1) (h : ∀ key, es.lookup key = fs.lookup key) :
    es = fs := by
  induction es generalizing fs with
  | nil =>
      cases fs with
      | nil => rfl
      | cons f fs =>
          have hkey := h f.1
          rw [lookup_cons_ite, if_pos rfl] at hkey
          exact absurd hkey.symm (Option.some_ne_none f.2)
  | cons e es ih =>
      cases fs with
      | nil =>
          have hkey := h e.1
          rw [lookup_cons_ite, if_pos rfl] at hkey
          exact absurd hkey (Option.some_ne_none e.2)
      | cons f fs =>
          rcases List.pairwise_cons.1 hes with ⟨hbelow, hes⟩
          rcases List.pairwise_cons.1 hfs with ⟨hbelow', hfs⟩
          -- The smaller one of two different first keys would have a value on one side only.
          have hfirst : e.1 = f.1 := by
            refine String.le_antisymm (String.not_lt.1 fun hlt => ?_)
              (String.not_lt.1 fun hlt => ?_)
            · have hnone := lookup_eq_none_of_lt fun x hx => String.lt_trans hlt (hbelow x hx)
              have hkey := h f.1
              rw [lookup_cons_ite, lookup_cons_ite, if_neg (String.ne_of_lt hlt), hnone,
                if_pos rfl] at hkey
              exact absurd hkey.symm (Option.some_ne_none f.2)
            · have hnone := lookup_eq_none_of_lt fun x hx => String.lt_trans hlt (hbelow' x hx)
              have hkey := h e.1
              rw [lookup_cons_ite, lookup_cons_ite, if_neg (String.ne_of_lt hlt), hnone,
                if_pos rfl] at hkey
              exact absurd hkey (Option.some_ne_none e.2)
          have hvalue : e.2 = f.2 := by
            have hkey := h e.1
            rw [lookup_cons_ite, lookup_cons_ite, if_pos rfl, if_pos hfirst] at hkey
            exact Option.some.inj hkey
          have hrest : ∀ key, es.lookup key = fs.lookup key := by
            intro key
            by_cases heq : key = e.1
            · rw [heq, lookup_eq_none_of_lt hbelow, hfirst, lookup_eq_none_of_lt hbelow']
            · have hkey := h key
              rw [lookup_cons_ite, lookup_cons_ite, if_neg heq, if_neg (hfirst ▸ heq)] at hkey
              exact hkey
          rw [Prod.ext hfirst hvalue, ih hes hfs hrest]

/-- Dictionaries with the same values are equal. -/
theorem ext_get? {d e : Dictionary α} (h : ∀ key, d.get? key = e.get? key) : d = e := by
  rcases d with ⟨es, hes⟩
  rcases e with ⟨fs, hfs⟩
  rw [mk.injEq]
  exact entries_eq_of_lookup hes hfs h

/-- The upper dictionary is looked into first, and then the one below it. -/
theorem get?_overlay (d upper : Dictionary α) (key : String) :
    (d.overlay upper).get? key = (upper.get? key).or (d.get? key) := by
  have hentries : ∀ (es : List (String × α)) (d : Dictionary α),
      es.Pairwise (fun a b => a.1 < b.1) →
      (es.foldl (fun d e => d.insert e.1 e.2) d).get? key = (es.lookup key).or (d.get? key) := by
    intro es
    induction es with
    | nil => exact fun d _ => rfl
    | cons e es ih =>
        intro d hordered
        rcases List.pairwise_cons.1 hordered with ⟨hfirst, hrest⟩
        rw [List.foldl_cons, ih (d.insert e.1 e.2) hrest, get?_insert, lookup_cons_ite]
        by_cases hkey : key = e.1
        · -- The entry of the key is the only one, as all others come after it.
          have hnone : es.lookup key = none := lookup_eq_none_of_lt (hkey ▸ hfirst)
          rw [if_pos hkey, if_pos hkey, hnone, Option.none_or, Option.some_or]
        · rw [if_neg hkey, if_neg hkey]
  exact hentries upper.entries d upper.ordered

end Dictionary

/-- A set of strings: a dictionary that tells nothing about its keys. -/
abbrev Names := Dictionary Unit

namespace Names

/-- The set with one more string. -/
def add (n : Names) (s : String) : Names :=
  n.insert s ()

/-- Whether a string is in the set. -/
def has (n : Names) (s : String) : Bool :=
  (n.get? s).isSome

@[simp] theorem has_empty (s : String) : has Dictionary.empty s = false := rfl

/-- The members of a set after an addition. -/
theorem has_add (n : Names) (s t : String) : (n.add s).has t ↔ t = s ∨ n.has t := by
  rw [has, add, Dictionary.get?_insert]
  by_cases h : t = s <;> simp [h, has]

/-- Sets with the same members are equal. -/
theorem ext_has {n m : Names} (h : ∀ s, n.has s = m.has s) : n = m := by
  refine Dictionary.ext_get? fun s => ?_
  -- There is only one value that a member can have.
  have hs := h s
  rw [has, has] at hs
  cases hn : n.get? s with
  | none =>
      rw [hn, Option.isSome_none, eq_comm, Option.isSome_eq_false_iff] at hs
      exact (Option.isNone_iff_eq_none.1 hs).symm
  | some value =>
      rw [hn, Option.isSome_some, eq_comm, Option.isSome_iff_exists] at hs
      rcases hs with ⟨_, hm⟩
      exact hm.symm

theorem eq_empty {n : Names} (h : ∀ s, n.has s = false) : n = Dictionary.empty := by
  rcases n with ⟨entries, ordered⟩
  cases entries with
  | nil => rfl
  | cons head tail =>
      have hhead := h head.1
      rw [has, Dictionary.get?, lookup_cons_ite, if_pos rfl] at hhead
      exact absurd hhead (by simp only [Option.isSome_some, reduceCtorEq, not_false_eq_true])

end Names

/-- Entries in the order in which their keys were first inserted. -/
abbrev Ledger (κ α : Type) := List (κ × α)

namespace Ledger

variable {κ α : Type} [DecidableEq κ]

/-- The value of a key. -/
def get? (l : Ledger κ α) (key : κ) : Option α :=
  l.lookup key

/-- Whether a key has an entry. -/
def has (l : Ledger κ α) (key : κ) : Bool :=
  (l.get? key).isSome

/-- The keys in the order of their first insertion. -/
def keys (l : Ledger κ α) : List κ :=
  l.map Prod.fst

/-- Change the entry of a key; a key without one gets what `change` makes of `fresh`, at the
    end. -/
def alter (l : Ledger κ α) (key : κ) (fresh : α) (change : α → α) : Ledger κ α :=
  match l with
  | [] => [(key, change fresh)]
  | e :: es => if e.1 = key then (key, change e.2) :: es else e :: alter es key fresh change

/-- A change concerns the entry of its key and no other. -/
theorem get?_alter (l : Ledger κ α) (key other : κ) (fresh : α) (change : α → α) :
    (l.alter key fresh change).get? other
      = if other = key then some (change ((l.get? key).getD fresh)) else l.get? other := by
  simp only [get?]
  induction l with
  | nil => rw [alter, lookup_cons_ite]; rfl
  | cons head tail ih =>
      simp only [alter]
      split
      · next heq =>
        rw [lookup_cons_ite, lookup_cons_ite, lookup_cons_ite, if_pos heq.symm, heq]
        by_cases h : other = key
        · rw [if_pos h, if_pos h, Option.getD_some]
        · rw [if_neg h, if_neg h, if_neg h]
      · next hne =>
        rw [lookup_cons_ite, lookup_cons_ite, lookup_cons_ite, if_neg (Ne.symm hne), ih]
        by_cases hhead : other = head.1
        · rw [if_pos hhead, if_neg (fun h => hne (hhead.symm.trans h)), if_pos hhead]
        · rw [if_neg hhead, if_neg hhead]

theorem mem_keys_iff (l : Ledger κ α) (key : κ) : key ∈ l.keys ↔ l.has key := by
  simp only [keys, has, get?]
  induction l with
  | nil => simp only [List.map_nil, List.not_mem_nil, List.lookup_nil, Option.isSome_none,
      Bool.false_eq_true]
  | cons head tail ih =>
      rw [lookup_cons_ite, List.map_cons, List.mem_cons, ih]
      by_cases h : key = head.1
      · rw [if_pos h]
        simp only [h, true_or, Option.isSome_some]
      · rw [if_neg h]
        simp only [h, false_or]

/-- Set the value of a key, in its place if it has one. -/
def set (l : Ledger κ α) (key : κ) (value : α) : Ledger κ α :=
  l.alter key value fun _ => value

end Ledger

end Mise
