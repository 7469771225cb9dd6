import Mise.Proofs.Decimal.Number
import Mise.Proofs.Ingredient.Row

/-!
# Densities and Weights of Pieces

Tables are checked so that nothing is weighed with a figure that is not greater than zero. The check
refuses a figure that is zero or less. What is not a number is neither zero or less nor greater than
zero, so a row with it gets past the check, and it is handed out like any other figure.

Thus every figure of a table is greater than zero, unless its cell is the word for what is not a
number. A table that is extended hands out the figures of the staples as well, which are all greater
than zero.

## Main definitions

* `weightColumns`, `IsWeightCell`: The cells of densities and of weights of pieces.

## Theorems

* `weight_of_inOrder`: The figures of a row, and the cells that they are read from.
* `exists_inOrder_of_read`: What is found under a key is said by a record.
* `pos_of_staple?`: The figures of staples are greater than zero.
* `weights_positive_unless_nan`: The same for all figures that a table hands out, but for one word.
* `weather_positive_unless_nan`: A table with that word, and a figure that is greater than zero.
* `fog_not_positive`: A table with a figure that is not.
-/

namespace Mise

/-- The columns of the figures that ingredients are weighed with. -/
def weightColumns : List String :=
  ["density", "unit_weight"]

/-- A cell of a table for a figure that ingredients are weighed with. -/
def IsWeightCell (text cell : String) : Prop :=
  ∃ record ∈ tableRecords text, ∃ column ∈ weightColumns,
    cellsOf ((tableHeader text).zip record) column = [cell]

section Rows

theorem StatesFigure.exists_cell {cells : List (String × String)} {column : String} {x : Float}
    (h : StatesFigure cells column (some x)) :
    ∃ cell, cellsOf cells column = [cell] ∧ parseNumber? cell.toList = some x := by
  cases h with
  | number h _ hparse => exact ⟨_, h, hparse⟩

/-- The figures of a row, and the cells that they are read from. -/
theorem weight_of_inOrder {header record : List String} {row : String × Properties}
    (h : InOrder header record row) {x : Float} (hx : row.2.HasWeight x) :
    ∃ column ∈ weightColumns, ∃ cell, cellsOf (header.zip record) column = [cell]
      ∧ parseNumber? cell.toList = some x ∧ (0.0 < x ↔ ¬ SpellsNaN cell) := by
  have hpos : ∀ cell : String, parseNumber? cell.toList = some x →
      (0.0 < x ↔ ¬ SpellsNaN cell) := by
    intro cell hparse
    rw [pos_iff, ← isNaN_parseNumber? hparse, Bool.not_eq_true]
    exact and_iff_left (h.weights x hx)
  rcases h.states with ⟨name, hstates, -, -⟩
  rcases hx with hx | hx
  · rcases (hx ▸ hstates.density).exists_cell with ⟨cell, hcell, hparse⟩
    exact ⟨"density", List.mem_cons_self, cell, hcell, hparse, hpos cell hparse⟩
  · rcases (hx ▸ hstates.pieceWeight).exists_cell with ⟨cell, hcell, hparse⟩
    exact ⟨"unit_weight", List.mem_cons_of_mem _ List.mem_cons_self, cell, hcell, hparse,
      hpos cell hparse⟩

end Rows

section Tables

variable {text : String} {table : IngredientTable} (hread : IngredientTable.read text = .ok table)

include hread

/-- What is found under a key is said by a record. -/
theorem exists_inOrder_of_read {key : String} {data : Properties}
    (hdata : table.byKey? key = some data) :
    ∃ record ∈ tableRecords text, InOrder (tableHeader text) record (key, data) := by
  rcases (read_eq_ok_iff text table).1 hread with ⟨rows, hrows, rfl⟩
  rw [byKey?_ofList] at hdata
  -- The row that is found stands in the place of its record.
  rcases List.mem_iff_get.1 (mem_of_lastOf? hdata) with ⟨i, hi⟩
  rcases List.forall₂_iff_get.1 hrows with ⟨hlength, hget⟩
  have hrow := hget i (i.isLt.trans_eq hlength.symm) i.isLt
  rw [Fin.eta, hi] at hrow
  exact ⟨_, List.get_mem _ _, hrow⟩

theorem weight_of_read {key : String} {data : Properties} {x : Float}
    (hdata : table.byKey? key = some data) (hx : data.HasWeight x) :
    ∃ cell, IsWeightCell text cell ∧ parseNumber? cell.toList = some x
      ∧ (0.0 < x ↔ ¬ SpellsNaN cell) := by
  rcases exists_inOrder_of_read hread hdata with ⟨record, hrecord, hrow⟩
  rcases weight_of_inOrder hrow hx with ⟨column, hcolumn, cell, hcell, hparse, hpos⟩
  exact ⟨cell, ⟨record, hrecord, column, hcolumn, hcell⟩, hparse, hpos⟩

end Tables

section Sources

/-- The figures of staples are greater than zero. -/
theorem pos_of_staple? {key : String} {data : Properties} {x : Float}
    (hdata : staple? key = some data) (hx : data.HasWeight x) : 0.0 < x := by
  have hall : ∀ s ∈ staples, (∀ y ∈ s.properties.density, (0.0 : Float) < y)
      ∧ ∀ y ∈ s.properties.pieceWeight, (0.0 : Float) < y := by decide +kernel
  rcases Option.map_eq_some_iff.1 hdata with ⟨s, hs, rfl⟩
  rcases hall s (List.mem_of_find?_eq_some hs) with ⟨hdensity, hweight⟩
  exact hx.elim (hdensity x) (hweight x)

/-- Whatever a source knows of a name it knows under some key. -/
theorem exists_key_of_lookup? {source : IngredientSource} {name : String} {data : Properties}
    (h : source.lookup? name = some data) : ∃ key, source.byKey? key = some data := by
  rw [lookup?_eq_or, Option.or_eq_some_iff] at h
  rcases h with h | ⟨-, h⟩
  · exact ⟨_, h⟩
  · rcases Option.bind_eq_some_iff.1 h with ⟨key, -, hkey⟩
    exact ⟨key, hkey⟩

end Sources

/-- Whatever is found in a table, by key or by name, its density and its weight of a piece are
    greater than zero, unless they are read from a cell with the word for what is not a number. In
    an extended table the same holds, with the staples, whose figures are greater than zero. -/
theorem weights_positive_unless_nan {text : String} {table : IngredientTable}
    (hread : IngredientTable.read text = .ok table) (name : String) :
    (∀ data x, table.byKey? name = some data ∨ table.source.lookup? name = some data →
      data.HasWeight x →
        ∃ cell, IsWeightCell text cell ∧ parseNumber? cell.toList = some x
          ∧ (0.0 < x ↔ ¬ SpellsNaN cell))
      ∧ ∀ data x,
        table.extend.byKey? name = some data ∨ table.extend.source.lookup? name = some data →
        data.HasWeight x →
          0.0 < x ∨ ∃ cell, IsWeightCell text cell ∧ parseNumber? cell.toList = some x
            ∧ SpellsNaN cell := by
  constructor
  · intro data x hdata hx
    have hkey : ∃ key, table.byKey? key = some data :=
      hdata.elim (fun h => ⟨name, h⟩) exists_key_of_lookup?
    rcases hkey with ⟨key, hkey⟩
    exact weight_of_read hread hkey hx
  · intro data x hdata hx
    have hkey : ∃ key, table.extend.byKey? key = some data :=
      hdata.elim (fun h => ⟨name, h⟩) exists_key_of_lookup?
    rcases hkey with ⟨key, hkey⟩
    rw [IngredientTable.byKey?_extend (IngredientTable.extended_of_read hread),
      Option.or_eq_some_iff] at hkey
    rcases hkey with hkey | ⟨-, hkey⟩
    · rcases weight_of_read hread hkey hx with ⟨cell, hcell, hparse, hpos⟩
      by_cases hnan : SpellsNaN cell
      · exact Or.inr ⟨cell, hcell, hparse, hnan⟩
      · exact Or.inl (hpos.2 hnan)
    · exact Or.inl (pos_of_staple? hkey hx)

/-- A table with two figures, one of them the word for what is not a number. -/
def weatherText : String := "name,density,unit_weight\nmist,0.02,\nfog,,-NaN\n"

/-- What is known of mist. -/
def mist : Properties := ⟨some 0.02, none, none⟩

/-- What is known of fog. -/
def fog : Properties := ⟨none, some (-notANumber), none⟩

/-- The table that the text is. -/
def weatherTable : IngredientTable :=
  ⟨Dictionary.ofList [("mist", mist), ("fog", fog)], false⟩

/-- The density of mist is read from a number, and the weight of a piece of fog from the word. -/
theorem weather_positive_unless_nan :
    IngredientTable.read weatherText = .ok weatherTable
      ∧ weatherTable.source.lookup? "Mist" = some mist
      ∧ weatherTable.source.lookup? "fogs" = some fog
      ∧ (∃ cell, IsWeightCell weatherText cell ∧ parseNumber? cell.toList = some 0.02
        ∧ ¬ SpellsNaN cell)
      ∧ ∃ cell, IsWeightCell weatherText cell ∧ parseNumber? cell.toList = some (-notANumber)
        ∧ SpellsNaN cell := by
  have hread : IngredientTable.read weatherText = .ok weatherTable :=
    IngredientTable.read_eq_of_entries (by decide +kernel)
  have hmist : weatherTable.source.lookup? "Mist" = some mist := by decide +kernel
  have hfog : weatherTable.source.lookup? "fogs" = some fog := by decide +kernel
  rcases (weights_positive_unless_nan hread "Mist").1 mist 0.02 (Or.inr hmist) (Or.inl rfl)
    with ⟨cell, hcell, hparse, hpos⟩
  rcases (weights_positive_unless_nan hread "fogs").1 fog (-notANumber) (Or.inr hfog) (Or.inr rfl)
    with ⟨other, hother, hword, hnot⟩
  exact ⟨hread, hmist, hfog, ⟨cell, hcell, hparse, hpos.1 (by decide +kernel)⟩,
    other, hother, hword, not_not.1 (mt hnot.2 (by decide +kernel))⟩

/-- A table is read, and the density that it hands out is not greater than zero. -/
theorem fog_not_positive :
    ∃ table data x, IngredientTable.read "name,density\nfog,nan\n" = .ok table
      ∧ table.source.lookup? "fog" = some data ∧ data.density = some x ∧ ¬ 0.0 < x := by
  have hread : IngredientTable.read "name,density\nfog,nan\n"
      = .ok ⟨Dictionary.ofList [("fog", ⟨some notANumber, none, none⟩)], false⟩ :=
    IngredientTable.read_eq_of_entries (by decide +kernel)
  exact ⟨_, ⟨some notANumber, none, none⟩, notANumber, hread, by decide +kernel, rfl,
    by decide +kernel⟩

end Mise
