import Mise.Ingredient.Table

/-!
# Extended Tables

A name is looked up under its key, and then under the key without a final `s`. The staples that
extend a table answer for the keys that the table does not have, and they do so key by key. Thus a
name in the plural is found among the staples before the table is asked for the singular.

For most names that makes no difference: the answer of the table stays what it was, and the staples
answer where the table has nothing to say. The exception are the staples that are known under a
plural. A table with a row for `egg` answers for `eggs` too, but once it is extended, the staple
`eggs` stands in front of the row.

## Main definitions

* `pluralStaples`: The names of staples that end with an `s`.
* `IngredientTable.IsOvershadowed`: The staples have a name that the table knows in the singular.

## Theorems

* `lookup?_eq_or`: A look-up is one of two look-ups by key.
* `extended_of_read`: A table that is read is not extended.
* `mem_pluralStaples`: A name that is overshadowed is a plural among the staples.
* `lookup?_extend`: What an extended table answers for a name that is not overshadowed.
* `answers_kept_unless_overshadowed`: When an extension keeps the answers of a table.
* `duckEgg_kept`: A table that keeps its answer for the egg.
* `duckEgg_overshadowed`: The same table loses its answer for eggs.
-/

namespace Mise

/-- A look-up is one of two look-ups by key. -/
theorem lookup?_eq_or (source : IngredientSource) (name : String) :
    source.lookup? name
      = (source.byKey? (nameKey name)).or ((singular? (nameKey name)).bind source.byKey?) := by
  unfold IngredientSource.lookup?
  cases source.byKey? (nameKey name) with
  | none => simp only [Option.none_or]
  | some data => simp only [Option.some_or]

namespace IngredientTable

/-- A table that is read is not extended. -/
theorem extended_of_read {text : String} {table : IngredientTable} (h : read text = .ok table) :
    table.extended = false := by
  unfold read at h
  cases hrecords : Csv.records text with
  | nil =>
      rw [hrecords] at h
      rw [← Except.ok.inj h]
  | cons header records =>
      simp only [hrecords] at h
      cases hrows : checkedRows header 1 records with
      | error e =>
          rw [hrows] at h
          exact absurd h (by simp only [reduceCtorEq, not_false_eq_true])
      | ok rows =>
          rw [hrows] at h
          rw [← Except.ok.inj h]

theorem byKey?_of_not_extended {table : IngredientTable} (h : table.extended = false)
    (key : String) : table.byKey? key = table.rows.get? key := by
  unfold byKey?
  cases table.rows.get? key with
  | none => simp only [h, Bool.false_eq_true, if_false]
  | some data => rfl

theorem byKey?_extend {table : IngredientTable} (h : table.extended = false) (key : String) :
    table.extend.byKey? key = (table.byKey? key).or (staple? key) := by
  rw [byKey?_of_not_extended h]
  unfold byKey? extend
  cases table.rows.get? key with
  | none => simp only [if_true, Option.none_or]
  | some data => rfl

/-- The staples have a name, and the table has it too, but only without the `s` it ends with. -/
def IsOvershadowed (table : IngredientTable) (name : String) : Prop :=
  table.byKey? (nameKey name) = none ∧ (staple? (nameKey name)).isSome
    ∧ ((singular? (nameKey name)).bind table.byKey?).isSome

end IngredientTable

/-- The names of staples that end with an `s`. -/
def pluralStaples : List String :=
  (staples.flatMap Staple.names).filter fun name => (singular? name).isSome

theorem mem_names_of_staple? {key : String} (h : (staple? key).isSome) :
    key ∈ staples.flatMap Staple.names := by
  rw [staple?, Option.isSome_map, List.find?_isSome] at h
  rcases h with ⟨s, hs, hkey⟩
  exact List.mem_flatMap.2 ⟨s, hs, List.contains_iff_mem.1 hkey⟩

/-- A name that is overshadowed is a plural among the staples. -/
theorem mem_pluralStaples {table : IngredientTable} {name : String}
    (h : table.IsOvershadowed name) : nameKey name ∈ pluralStaples := by
  rcases h with ⟨-, hstaple, hsingular⟩
  refine List.mem_filter.2 ⟨mem_names_of_staple? hstaple, ?_⟩
  cases hkey : singular? (nameKey name) with
  | none =>
      rw [hkey] at hsingular
      exact absurd hsingular (by simp only [Option.bind_none, Option.isSome_none,
        Bool.false_eq_true, not_false_eq_true])
  | some key => simp only [Option.isSome_some]

namespace IngredientTable

variable {table : IngredientTable} (hplain : table.extended = false) {name : String}
include hplain

/-- The answer of an extended table is that of the table, and else that of the staples, unless the
    name is overshadowed. -/
theorem lookup?_extend (h : ¬ table.IsOvershadowed name) :
    table.extend.source.lookup? name
      = (table.source.lookup? name).or (stapleSource.lookup? name) := by
  have hextended : table.extend.byKey? = fun key => (table.byKey? key).or (staple? key) :=
    funext (byKey?_extend hplain)
  simp only [lookup?_eq_or, source, stapleSource, hextended]
  cases hkey : table.byKey? (nameKey name) with
  | some data => simp only [Option.some_or]
  | none =>
      simp only [Option.none_or]
      cases hstaple : staple? (nameKey name) with
      | none =>
          simp only [Option.none_or]
          cases singular? (nameKey name) with
          | none => simp only [Option.bind_none, Option.none_or]
          | some key => simp only [Option.bind_some]
      | some data =>
          -- The staples have the name itself, so the table must not have its singular.
          have hnone : (singular? (nameKey name)).bind table.byKey? = none := by
            cases hsome : (singular? (nameKey name)).bind table.byKey? with
            | none => rfl
            | some data => exact absurd ⟨hkey, hstaple ▸ rfl, hsome ▸ rfl⟩ h
          rw [hnone, Option.none_or, Option.some_or, Option.some_or]

/-- The answer for a name that is overshadowed is that of the staples. -/
theorem lookup?_extend_of_overshadowed (h : table.IsOvershadowed name) :
    table.extend.source.lookup? name = staple? (nameKey name) := by
  rcases h with ⟨hkey, hstaple, -⟩
  rcases Option.isSome_iff_exists.1 hstaple with ⟨data, hdata⟩
  simp only [lookup?_eq_or, source, byKey?_extend hplain, hkey, hdata, Option.none_or,
    Option.some_or]

end IngredientTable

/-- An extension keeps an answer of the table just if the name is not overshadowed, or the staple
    in front of the row happens to be the same; only the plurals among the staples are ever
    overshadowed. And it is the staples that answer for the names that the table lacks. -/
theorem answers_kept_unless_overshadowed {text : String} {table : IngredientTable}
    (hread : IngredientTable.read text = .ok table) (name : String) :
    (∀ data, table.source.lookup? name = some data →
        (table.extend.source.lookup? name = some data
          ↔ ¬ table.IsOvershadowed name ∨ staple? (nameKey name) = some data))
      ∧ (table.source.lookup? name = none →
          table.extend.source.lookup? name = stapleSource.lookup? name)
      ∧ (table.IsOvershadowed name → nameKey name ∈ pluralStaples) := by
  have hplain := IngredientTable.extended_of_read hread
  refine ⟨?_, ?_, mem_pluralStaples⟩
  · intro data hdata
    by_cases hover : table.IsOvershadowed name
    · rw [IngredientTable.lookup?_extend_of_overshadowed hplain hover]
      simp only [hover, not_true_eq_false, false_or]
    · rw [IngredientTable.lookup?_extend hplain hover, hdata, Option.some_or]
      simp only [hover, not_false_eq_true, true_or]
  · intro hnone
    have hover : ¬ table.IsOvershadowed name := by
      intro hover
      rw [lookup?_eq_or, Option.or_eq_none_iff] at hnone
      exact Option.isSome_iff_ne_none.1 hover.2.2 hnone.2
    rw [IngredientTable.lookup?_extend hplain hover, hnone, Option.none_or]

/-- A table is told by its entries and by whether it is extended. -/
theorem IngredientTable.read_eq_of_entries {text : String} {table : IngredientTable}
    (h : (read text).toOption.map (fun t => (t.rows.entries, t.extended))
      = some (table.rows.entries, table.extended)) : read text = .ok table := by
  cases hread : read text with
  | error e =>
      rw [hread] at h
      exact absurd h (Option.some_ne_none _).symm
  | ok other =>
      rw [hread] at h
      rcases other with ⟨⟨entries, ordered⟩, extended⟩
      rcases Prod.mk.inj (Option.some.inj h) with ⟨rfl, rfl⟩
      rfl

/-- A table with the egg of a duck. -/
def duckText : String := "name,unit_weight\negg,70\n"

/-- What is known of the egg: nothing but what it weighs. -/
def duckEgg : Properties := ⟨none, some 70.0, none⟩

/-- The table that the text is. -/
def duckTable : IngredientTable :=
  ⟨⟨[("egg", duckEgg)], List.pairwise_singleton _ _⟩, false⟩

theorem read_duckText : IngredientTable.read duckText = .ok duckTable :=
  IngredientTable.read_eq_of_entries (by decide +kernel)

/-- The table keeps its answer for the egg, which is a row of its own. -/
theorem duckEgg_kept :
    IngredientTable.read duckText = .ok duckTable
      ∧ duckTable.source.lookup? "Egg" = some duckEgg
      ∧ duckTable.extend.source.lookup? "Egg" = some duckEgg := by
  have hegg : duckTable.source.lookup? "Egg" = some duckEgg := by decide +kernel
  have hover : ¬ duckTable.IsOvershadowed "Egg" := by
    intro hover
    exact absurd hover.1 (by decide +kernel)
  exact ⟨read_duckText, hegg,
    ((answers_kept_unless_overshadowed read_duckText "Egg").1 duckEgg hegg).2 (Or.inl hover)⟩

/-- The table has an answer for eggs, but extended it answers with the eggs of a hen: these are a
    staple under that very name, while the row is found for the singular only. -/
theorem duckEgg_overshadowed :
    IngredientTable.read duckText = .ok duckTable
      ∧ duckTable.source.lookup? "eggs" = some duckEgg
      ∧ duckTable.extend.source.lookup? "eggs" = stapleSource.lookup? "eggs"
      ∧ duckTable.extend.source.lookup? "eggs" ≠ some duckEgg :=
  ⟨read_duckText, by decide +kernel, by decide +kernel, by decide +kernel⟩

end Mise
