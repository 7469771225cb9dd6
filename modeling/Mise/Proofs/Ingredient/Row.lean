import Mise.Proofs.Dictionary.Insertion
import Mise.Proofs.Ingredient.Extension
import Mise.Proofs.Text.Part

/-!
# Rows of Tables

A record of a table is decoded under the header. It has as many cells as the header, exactly one of
them for the name and at most one for each figure, and the cell of a figure is empty or a number.
Whatever else fails to be decoded. A record that can be decoded still has to make sense: its name is
not blank, and neither its density nor its weight of a piece is zero or less.

A table is refused for its first record that is not in order, whatever comes after it. Without such
a record it consists of one row per record. Rows and names that are looked up get their keys in the
same way, so what is found is always what the last row with a key says.

## Main definitions

* `tableHeader`, `tableRecords`: The records of a table.
* `StatesFigure`, `StatesRow`: What the cells of a record say.
* `Undecodable`: What keeps a record from being decoded.
* `Offends`: What is wrong with a record.
* `InOrder`: What a record that is in order says, and under which key.

## Theorems

* `ofCells?_eq_some_iff`, `ofCells?_eq_none_iff`: Which records are decoded.
* `checkedRow_eq_error_iff`, `checkedRow_eq_ok_iff`: Which records are in order.
* `checkedRows_eq_error_iff`, `checkedRows_eq_ok_iff`: The same for all records of a table.
* `tables_by_rows`: Which tables are refused and why, and what is found in the others.
* `orchard_by_rows`: A table with two rows for one key.
-/

namespace Mise

/-- The header of a table. -/
def tableHeader (text : String) : List String :=
  (Csv.records text).headD []

/-- The records of a table, under its header. -/
def tableRecords (text : String) : List (List String) :=
  (Csv.records text).tail

/-- The columns of figures. -/
def figureColumns : List String :=
  ["density", "unit_weight", "calories", "protein", "carbs", "fat"]

/-- The cells of a column. -/
def cellsOf (cells : List (String × String)) (column : String) : List String :=
  (cells.filter fun cell => cell.1 = column).map Prod.snd

/-- What cells say of a figure: nothing if there is no cell for it or an empty one, and otherwise
    the number in its cell. -/
inductive StatesFigure (cells : List (String × String)) (column : String) : Option Float → Prop
  | missing (h : cellsOf cells column = []) : StatesFigure cells column none
  | empty (h : cellsOf cells column = [""]) : StatesFigure cells column none
  | number {cell : String} {x : Float} (h : cellsOf cells column = [cell]) (hne : cell ≠ "")
      (hparse : parseNumber? cell.toList = some x) : StatesFigure cells column (some x)

/-- What a record says under a header: a name, and what is known of it. Nutrients are known just if
    the calories are, and those that are missing are zero. -/
structure StatesRow (header record : List String) (name : String) (data : Properties) : Prop where
  length : record.length = header.length
  name : cellsOf (header.zip record) "name" = [name]
  density : StatesFigure (header.zip record) "density" data.density
  pieceWeight : StatesFigure (header.zip record) "unit_weight" data.pieceWeight
  macros : ∃ calories protein carbs fat,
    StatesFigure (header.zip record) "calories" calories
      ∧ StatesFigure (header.zip record) "protein" protein
      ∧ StatesFigure (header.zip record) "carbs" carbs
      ∧ StatesFigure (header.zip record) "fat" fat
      ∧ data.macros
        = calories.map fun x => ⟨x, protein.getD 0.0, carbs.getD 0.0, fat.getD 0.0⟩

/-- What keeps a record from being decoded. -/
inductive Undecodable (header record : List String) : Prop
  | length (h : record.length ≠ header.length)
  | name (h : (cellsOf (header.zip record) "name").length ≠ 1)
  | repeated {column : String} (hcolumn : column ∈ figureColumns)
      (h : 1 < (cellsOf (header.zip record) column).length)
  | noNumber {column cell : String} (hcolumn : column ∈ figureColumns)
      (h : cellsOf (header.zip record) column = [cell]) (hne : cell ≠ "")
      (hparse : parseNumber? cell.toList = none)

/-- A figure that ingredients are weighed with. -/
def Properties.HasWeight (data : Properties) (x : Float) : Prop :=
  data.density = some x ∨ data.pieceWeight = some x

/-- What is wrong with the record that has a number in a table. -/
inductive Offends (header record : List String) (number : Nat) : TableError → Prop
  | malformed (h : Undecodable header record) : Offends header record number .malformed
  | emptyName {name : String} {data : Properties} (h : StatesRow header record name data)
      (hblank : ∀ c ∈ name.toList, Text.isBlank c) :
      Offends header record number (.emptyName number)
  | notPositive {name : String} {data : Properties} {x : Float}
      (h : StatesRow header record name data) (hname : ¬ ∀ c ∈ name.toList, Text.isBlank c)
      (hweight : data.HasWeight x) (hx : x ≤ 0.0) :
      Offends header record number (.notPositive (nameKey name))

/-- What a record that is in order says, and under which key. -/
structure InOrder (header record : List String) (row : String × Properties) : Prop where
  states : ∃ name, StatesRow header record name row.2 ∧ nameKey name = row.1
    ∧ ¬ ∀ c ∈ name.toList, Text.isBlank c
  weights : ∀ x, row.2.HasWeight x → ¬ x ≤ 0.0

section Cells

variable {cells : List (String × String)} {column : String}

theorem column?_eq : column? cells column
    = match cellsOf cells column with
      | [] => some none
      | [cell] => some (some cell)
      | _ => none := by
  simp only [column?, cellsOf, beq_eq_decide]
  generalize (cells.filter fun cell => cell.1 = column) = found
  rcases found with _ | ⟨cell, _ | ⟨other, rest⟩⟩ <;> rfl

theorem column?_eq_some_iff (cell : String) :
    column? cells column = some (some cell) ↔ cellsOf cells column = [cell] := by
  rw [column?_eq]
  rcases cellsOf cells column with _ | ⟨first, _ | ⟨other, rest⟩⟩ <;>
    simp only [Option.some.injEq, reduceCtorEq, List.cons.injEq, and_true, and_false]

theorem numberColumn?_eq_some_iff (figure : Option Float) :
    numberColumn? cells column = some figure ↔ StatesFigure cells column figure := by
  rw [numberColumn?, column?_eq]
  constructor
  · intro h
    rcases hcells : cellsOf cells column with _ | ⟨cell, _ | ⟨other, rest⟩⟩
    · rw [hcells] at h
      rw [← Option.some.inj h]
      exact .missing hcells
    · simp only [hcells] at h
      by_cases hempty : cell.isEmpty
      · rw [if_pos hempty] at h
        rw [String.isEmpty_iff] at hempty
        rw [← Option.some.inj h]
        exact .empty (hempty ▸ hcells)
      · rw [if_neg hempty] at h
        rw [String.isEmpty_iff] at hempty
        rcases Option.map_eq_some_iff.1 h with ⟨x, hparse, rfl⟩
        exact .number hcells hempty hparse
    · simp only [hcells, reduceCtorEq] at h
  · intro h
    cases h with
    | missing h => rw [h]
    | empty h => rw [h]; rfl
    | number h hne hparse =>
        have hfull := fun hempty => hne (String.isEmpty_iff.1 hempty)
        simp only [h, if_neg hfull, hparse, Option.map_some]

theorem numberColumn?_eq_none (h : numberColumn? cells column = none) :
    1 < (cellsOf cells column).length
      ∨ ∃ cell, cellsOf cells column = [cell] ∧ cell ≠ "" ∧ parseNumber? cell.toList = none := by
  rw [numberColumn?, column?_eq] at h
  rcases hcells : cellsOf cells column with _ | ⟨cell, _ | ⟨other, rest⟩⟩
  · simp only [hcells, reduceCtorEq] at h
  · simp only [hcells] at h
    by_cases hempty : cell.isEmpty
    · simp only [if_pos hempty, reduceCtorEq] at h
    · rw [if_neg hempty, Option.map_eq_none_iff] at h
      rw [String.isEmpty_iff] at hempty
      exact Or.inr ⟨cell, rfl, hempty, h⟩
  · exact Or.inl (by simp only [List.length_cons]; omega)

theorem StatesFigure.length_le {figure : Option Float} (h : StatesFigure cells column figure) :
    (cellsOf cells column).length ≤ 1 := by
  cases h with
  | missing h => rw [h]; exact Nat.zero_le 1
  | empty h => rw [h]; exact le_rfl
  | number h => rw [h]; exact le_rfl

theorem StatesFigure.parse_ne_none {figure : Option Float} (h : StatesFigure cells column figure)
    {cell : String} (hcell : cellsOf cells column = [cell]) (hne : cell ≠ "") :
    parseNumber? cell.toList ≠ none := by
  cases h with
  | missing h => rw [h] at hcell; cases hcell
  | empty h =>
      rw [h, List.singleton_inj] at hcell
      exact absurd hcell.symm hne
  | number h _ hparse =>
      rw [h, List.singleton_inj] at hcell
      rw [← hcell, hparse]
      exact Option.some_ne_none _

end Cells

section Records

variable {header record : List String}

theorem StatesRow.figure {name : String} {data : Properties}
    (h : StatesRow header record name data) {column : String} (hcolumn : column ∈ figureColumns) :
    ∃ figure, StatesFigure (header.zip record) column figure := by
  rcases h.macros with ⟨calories, protein, carbs, fat, hcalories, hprotein, hcarbs, hfat, -⟩
  simp only [figureColumns, List.mem_cons, List.not_mem_nil, or_false] at hcolumn
  rcases hcolumn with rfl | rfl | rfl | rfl | rfl | rfl
  · exact ⟨_, h.density⟩
  · exact ⟨_, h.pieceWeight⟩
  · exact ⟨_, hcalories⟩
  · exact ⟨_, hprotein⟩
  · exact ⟨_, hcarbs⟩
  · exact ⟨_, hfat⟩

/-- The rows that records are decoded to. -/
theorem ofCells?_eq_some_iff (row : TableRow) :
    TableRow.ofCells? header record = some row
      ↔ ∃ name, StatesRow header record name row.properties ∧ nameKey name = row.key := by
  constructor
  · intro h
    rw [TableRow.ofCells?] at h
    by_cases hlength : header.length ≠ record.length
    · rw [if_pos hlength] at h
      cases h
    · rw [if_neg hlength] at h
      dsimp only at h
      split at h
      · next name density pieceWeight calories protein carbs fat hname hdensity hweight hcalories
          hprotein hcarbs hfat =>
        rw [column?_eq_some_iff] at hname
        rw [numberColumn?_eq_some_iff] at hdensity hweight hcalories hprotein hcarbs hfat
        rcases Option.some.inj h with rfl
        exact ⟨name, ⟨(not_not.1 hlength).symm, hname, hdensity, hweight,
          _, _, _, _, hcalories, hprotein, hcarbs, hfat, rfl⟩, rfl⟩
      · cases h
  · rintro ⟨name, hstates, hkey⟩
    rcases row with ⟨key, density, pieceWeight, macros⟩
    rcases hstates with ⟨hlength, hname, hdensity, hweight, calories, protein, carbs, fat,
      hcalories, hprotein, hcarbs, hfat, hmacros⟩
    rw [← column?_eq_some_iff] at hname
    rw [← numberColumn?_eq_some_iff] at hdensity hweight hcalories hprotein hcarbs hfat
    dsimp only at hkey hmacros
    rw [TableRow.ofCells?, if_neg (not_not.2 hlength.symm)]
    simp only [hname, hdensity, hweight, hcalories, hprotein, hcarbs, hfat, hkey, hmacros]

/-- The records that cannot be decoded. -/
theorem ofCells?_eq_none_iff :
    TableRow.ofCells? header record = none ↔ Undecodable header record := by
  constructor
  · intro h
    by_contra hdecodable
    -- If nothing is in the way of decoding, every column says something.
    have hlength : record.length = header.length := not_not.1 fun hne => hdecodable (.length hne)
    have hname : (cellsOf (header.zip record) "name").length = 1 :=
      not_not.1 fun hne => hdecodable (.name hne)
    have hfigure : ∀ column ∈ figureColumns,
        ∃ figure, StatesFigure (header.zip record) column figure := by
      intro column hcolumn
      cases hnumber : numberColumn? (header.zip record) column with
      | some figure => exact ⟨figure, (numberColumn?_eq_some_iff figure).1 hnumber⟩
      | none =>
          rcases numberColumn?_eq_none hnumber with hmore | ⟨cell, hcell, hne, hparse⟩
          · exact absurd (.repeated hcolumn hmore) hdecodable
          · exact absurd (.noNumber hcolumn hcell hne hparse) hdecodable
    rcases List.length_eq_one_iff.1 hname with ⟨name, hname⟩
    simp only [figureColumns, List.forall_mem_cons] at hfigure
    rcases hfigure with ⟨⟨density, hdensity⟩, ⟨pieceWeight, hweight⟩, ⟨calories, hcalories⟩,
      ⟨protein, hprotein⟩, ⟨carbs, hcarbs⟩, ⟨fat, hfat⟩, -⟩
    have hrow := (ofCells?_eq_some_iff ⟨nameKey name, density, pieceWeight, _⟩).2
      ⟨name, ⟨hlength, hname, hdensity, hweight, calories, protein, carbs, fat, hcalories, hprotein,
        hcarbs, hfat, rfl⟩, rfl⟩
    rw [h] at hrow
    cases hrow
  · intro h
    by_contra hne
    rcases Option.ne_none_iff_exists'.1 hne with ⟨row, hrow⟩
    rcases (ofCells?_eq_some_iff row).1 hrow with ⟨name, hstates, -⟩
    -- A record that says something has none of the faults.
    cases h with
    | length h => exact h hstates.length
    | name h => exact h (by rw [hstates.name]; rfl)
    | repeated hcolumn h =>
        rcases hstates.figure hcolumn with ⟨figure, hfigure⟩
        exact absurd h (not_lt.2 hfigure.length_le)
    | noNumber hcolumn h hne hparse =>
        rcases hstates.figure hcolumn with ⟨figure, hfigure⟩
        exact hfigure.parse_ne_none h hne hparse

/-- A record cannot be decoded, or it says something. -/
theorem undecodable_or_states :
    Undecodable header record ∨ ∃ name data, StatesRow header record name data := by
  cases hrow : TableRow.ofCells? header record with
  | none => exact Or.inl (ofCells?_eq_none_iff.1 hrow)
  | some row =>
      rcases (ofCells?_eq_some_iff row).1 hrow with ⟨name, hstates, -⟩
      exact Or.inr ⟨name, row.properties, hstates⟩

end Records

section Checks

-- Every character has a lower case, of one character or two.
theorem Text.lowerAfter_eq_nil_iff (before cs : List Char) :
    lowerAfter before cs = [] ↔ cs = [] := by
  cases cs with
  | nil => exact iff_of_true rfl rfl
  | cons c cs =>
      rw [lowerAfter, lowerChar]
      split
      · exact iff_of_false (List.cons_ne_nil _ _) (List.cons_ne_nil _ _)
      · split <;> exact iff_of_false (List.cons_ne_nil _ _) (List.cons_ne_nil _ _)

/-- The names with an empty key are those of white space. -/
theorem isEmpty_nameKey (name : String) :
    (nameKey name).isEmpty ↔ ∀ c ∈ name.toList, Text.isBlank c := by
  rw [String.isEmpty_iff, nameKey, ← String.toList_inj, String.toList_ofList, String.toList_empty,
    Text.lower, Text.lowerAfter_eq_nil_iff, Text.trim_eq_nil_iff]

theorem isNonPositive_iff (figure : Option Float) :
    isNonPositive figure ↔ ∃ x, figure = some x ∧ x ≤ 0.0 := by
  rw [isNonPositive, Option.any_eq_true]
  simp only [decide_eq_true_eq]

theorem nonPositive_iff (data : Properties) :
    (isNonPositive data.density || isNonPositive data.pieceWeight)
      ↔ ∃ x, data.HasWeight x ∧ x ≤ 0.0 := by
  simp only [Bool.or_eq_true, isNonPositive_iff, Properties.HasWeight, or_and_right, exists_or]

variable {header record : List String} {number : Nat}

theorem checkedRow_of_undecodable (h : Undecodable header record) :
    checkedRow header record number = .error .malformed := by
  rw [checkedRow, ofCells?_eq_none_iff.2 h]

theorem checkedRow_of_states {name : String} {data : Properties}
    (h : StatesRow header record name data) :
    checkedRow header record number
      = if (nameKey name).isEmpty then .error (.emptyName number)
        else if isNonPositive data.density || isNonPositive data.pieceWeight then
          .error (.notPositive (nameKey name))
        else .ok ⟨nameKey name, data⟩ := by
  rw [checkedRow, (ofCells?_eq_some_iff ⟨nameKey name, data⟩).2 ⟨name, h, rfl⟩]

/-- The records that are not in order, and what is wrong with them. -/
theorem checkedRow_eq_error_iff (e : TableError) :
    checkedRow header record number = .error e ↔ Offends header record number e := by
  constructor
  · intro h
    rcases undecodable_or_states with hundecodable | ⟨name, data, hstates⟩
    · rw [checkedRow_of_undecodable hundecodable, Except.error.injEq] at h
      exact h ▸ .malformed hundecodable
    · rw [checkedRow_of_states hstates] at h
      split at h
      · next hblank =>
        exact Except.error.inj h ▸ .emptyName hstates ((isEmpty_nameKey name).1 hblank)
      · next hname =>
        split at h
        · next hweights =>
          rcases (nonPositive_iff data).1 hweights with ⟨x, hweight, hx⟩
          exact Except.error.inj h
            ▸ .notPositive hstates (mt (isEmpty_nameKey name).2 hname) hweight hx
        · cases h
  · intro h
    cases h with
    | malformed h => exact checkedRow_of_undecodable h
    | emptyName h hblank => rw [checkedRow_of_states h, if_pos ((isEmpty_nameKey _).2 hblank)]
    | notPositive h hname hweight hx =>
        rw [checkedRow_of_states h, if_neg (mt (isEmpty_nameKey _).1 hname),
          if_pos ((nonPositive_iff _).2 ⟨_, hweight, hx⟩)]

/-- The records that are in order, and the rows that are made of them. -/
theorem checkedRow_eq_ok_iff (row : TableRow) :
    checkedRow header record number = .ok row
      ↔ InOrder header record (row.key, row.properties) := by
  constructor
  · intro h
    rcases undecodable_or_states with hundecodable | ⟨name, data, hstates⟩
    · rw [checkedRow_of_undecodable hundecodable] at h
      cases h
    · rw [checkedRow_of_states hstates] at h
      split at h
      · cases h
      · next hname =>
        split at h
        · cases h
        · next hweights =>
          rcases Except.ok.inj h with rfl
          exact ⟨⟨name, hstates, rfl, mt (isEmpty_nameKey name).2 hname⟩,
            fun x hweight hx => hweights ((nonPositive_iff data).2 ⟨x, hweight, hx⟩)⟩
  · rintro ⟨⟨name, hstates, hkey, hname⟩, hweights⟩
    have hpositive : ¬ ∃ x, row.properties.HasWeight x ∧ x ≤ 0.0 :=
      fun ⟨x, hweight, hx⟩ => hweights x hweight hx
    dsimp only at hstates hkey
    rw [checkedRow_of_states hstates, if_neg (mt (isEmpty_nameKey name).1 hname),
      if_neg (mt (nonPositive_iff _).1 hpositive), hkey]

end Checks

section Tables

variable {header : List String}

theorem checkedRows_cons_of_offends {record : List String} {number : Nat} {e : TableError}
    (h : Offends header record number e) (records : List (List String)) :
    checkedRows header number (record :: records) = .error e := by
  rw [checkedRows, (checkedRow_eq_error_iff e).2 h]

theorem checkedRows_cons_of_inOrder {record : List String} {row : String × Properties}
    (h : InOrder header record row) (number : Nat) (records : List (List String)) :
    checkedRows header number (record :: records)
      = (checkedRows header (number + 1) records).map (TableRow.mk row.1 row.2 :: ·) := by
  rw [checkedRows, (checkedRow_eq_ok_iff ⟨row.1, row.2⟩).2 h]
  cases checkedRows header (number + 1) records <;> rfl

theorem offends_or_inOrder (record : List String) (number : Nat) :
    (∃ e, Offends header record number e) ∨ ∃ row, InOrder header record row := by
  cases hrow : checkedRow header record number with
  | error e => exact Or.inl ⟨e, (checkedRow_eq_error_iff e).1 hrow⟩
  | ok row => exact Or.inr ⟨_, (checkedRow_eq_ok_iff row).1 hrow⟩

/-- Records that are in order leave it to those after them whether a table is refused. -/
theorem checkedRows_append {before : List (List String)}
    (h : ∀ record ∈ before, ∃ row, InOrder header record row) (number : Nat)
    (records : List (List String)) (e : TableError) :
    checkedRows header number (before ++ records) = .error e
      ↔ checkedRows header (number + before.length) records = .error e := by
  induction before generalizing number with
  | nil => exact Iff.rfl
  | cons record before ih =>
      rcases List.forall_mem_cons.1 h with ⟨⟨row, hrow⟩, hbefore⟩
      have hlength : number + (record :: before).length = number + 1 + before.length := by
        rw [List.length_cons]
        omega
      rw [List.cons_append, checkedRows_cons_of_inOrder hrow, hlength, ← ih hbefore]
      cases checkedRows header (number + 1) (before ++ records) with
      | error fault => exact Iff.rfl
      | ok rows => exact iff_of_false nofun nofun

/-- Records are refused for the first one that is not in order. -/
theorem checkedRows_eq_error_iff (number : Nat) (records : List (List String)) (e : TableError) :
    checkedRows header number records = .error e
      ↔ ∃ before record after, records = before ++ record :: after
        ∧ (∀ other ∈ before, ∃ row, InOrder header other row)
        ∧ Offends header record (number + before.length) e := by
  constructor
  · intro h
    induction records generalizing number with
    | nil => cases h
    | cons record records ih =>
        rcases offends_or_inOrder record number with ⟨fault, hfault⟩ | ⟨row, hrow⟩
        · rw [checkedRows_cons_of_offends hfault, Except.error.injEq] at h
          exact ⟨[], record, records, rfl, nofun, h ▸ hfault⟩
        · -- The record is one more of those in front of the first fault.
          rw [← List.singleton_append, checkedRows_append
            (fun other hother => ⟨row, List.mem_singleton.1 hother ▸ hrow⟩)] at h
          rcases ih _ h with ⟨before, first, after, hrecords, hbefore, hoffends⟩
          refine ⟨record :: before, first, after, hrecords ▸ rfl,
            List.forall_mem_cons.2 ⟨⟨row, hrow⟩, hbefore⟩, ?_⟩
          rw [List.length_cons, Nat.add_comm before.length, ← Nat.add_assoc]
          exact hoffends
  · rintro ⟨before, record, after, rfl, hbefore, hoffends⟩
    rw [checkedRows_append hbefore]
    exact checkedRows_cons_of_offends hoffends after

/-- Records that are all in order make one row each. -/
theorem checkedRows_eq_ok_iff (number : Nat) (records : List (List String))
    (rows : List TableRow) :
    checkedRows header number records = .ok rows
      ↔ List.Forall₂ (InOrder header) records (rows.map fun r => (r.key, r.properties)) := by
  induction records generalizing number rows with
  | nil =>
      rw [List.forall₂_nil_left_iff, List.map_eq_nil_iff, checkedRows, Except.ok.injEq, eq_comm]
  | cons record records ih =>
      rw [List.forall₂_cons_left_iff]
      constructor
      · intro h
        rcases offends_or_inOrder record number with ⟨fault, hfault⟩ | ⟨row, hrow⟩
        · rw [checkedRows_cons_of_offends hfault] at h
          cases h
        · rw [checkedRows_cons_of_inOrder hrow] at h
          cases hrest : checkedRows header (number + 1) records with
          | error fault => rw [hrest] at h; cases h
          | ok rest =>
              rw [hrest] at h
              rcases Except.ok.inj h with rfl
              exact ⟨row, _, hrow, (ih _ rest).1 hrest, rfl⟩
      · rintro ⟨row, rest, hrow, hrest, hrows⟩
        rcases List.map_eq_cons_iff.1 hrows with ⟨first, others, rfl, rfl, rfl⟩
        rw [checkedRows_cons_of_inOrder hrow, (ih _ others).2 hrest]
        rfl

/-- A table is made of the rows of its records, if there is any. -/
theorem read_eq (text : String) :
    IngredientTable.read text
      = (checkedRows (tableHeader text) 1 (tableRecords text)).map fun rows =>
          ⟨Dictionary.ofList (rows.map fun r => (r.key, r.properties)), false⟩ := by
  rw [IngredientTable.read, tableHeader, tableRecords]
  cases Csv.records text with
  | nil => rfl
  | cons header records =>
      rw [List.headD_cons, List.tail_cons]
      dsimp only
      cases checkedRows header 1 records <;> rfl

theorem read_eq_error_iff (text : String) (e : TableError) :
    IngredientTable.read text = .error e
      ↔ checkedRows (tableHeader text) 1 (tableRecords text) = .error e := by
  rw [read_eq]
  cases checkedRows (tableHeader text) 1 (tableRecords text) with
  | error fault => rw [Except.map, Except.error.injEq, Except.error.injEq]
  | ok rows => exact iff_of_false nofun nofun

/-- What is made of the records of a table, if they are all in order. -/
theorem read_eq_ok_iff (text : String) (table : IngredientTable) :
    IngredientTable.read text = .ok table
      ↔ ∃ rows, List.Forall₂ (InOrder (tableHeader text)) (tableRecords text) rows
        ∧ ⟨Dictionary.ofList rows, false⟩ = table := by
  rw [read_eq]
  constructor
  · intro h
    cases hrows : checkedRows (tableHeader text) 1 (tableRecords text) with
    | error fault => rw [hrows] at h; cases h
    | ok rows =>
        rw [hrows] at h
        exact ⟨_, (checkedRows_eq_ok_iff 1 _ rows).1 hrows, Except.ok.inj h⟩
  · rintro ⟨rows, hrows, rfl⟩
    have hpairs : (rows.map fun r => TableRow.mk r.1 r.2).map (fun r => (r.key, r.properties))
        = rows := by
      rw [List.map_map]
      exact List.map_id rows
    rw [← hpairs, ← checkedRows_eq_ok_iff 1] at hrows
    rw [hrows, Except.map, hpairs]

/-- A table is read just if its records are in order. -/
theorem exists_read_iff (text : String) :
    (∃ table, IngredientTable.read text = .ok table)
      ↔ ∀ record ∈ tableRecords text, ∃ row, InOrder (tableHeader text) record row := by
  constructor
  · rintro ⟨table, htable⟩
    rcases (read_eq_ok_iff text table).1 htable with ⟨rows, hrows, -⟩
    exact ((List.forall₂_and_left _ _).1 (hrows.imp fun _ row h => ⟨⟨row, h⟩, h⟩)).1
  · intro h
    cases hread : IngredientTable.read text with
    | ok table => exact ⟨table, rfl⟩
    | error e =>
        -- Records that are in order leave it to those after them, and there are none.
        rw [read_eq_error_iff, ← List.append_nil (tableRecords text), checkedRows_append h] at hread
        cases hread

/-- What is found in a table under a key is what the last row with the key says. -/
theorem byKey?_ofList (rows : List (String × Properties)) (key : String) :
    (IngredientTable.mk (Dictionary.ofList rows) false).byKey? key = lastOf? rows key := by
  rw [IngredientTable.byKey?_of_not_extended rfl, Dictionary.get?_ofList]

theorem lookup?_ofList (rows : List (String × Properties)) (name : String) :
    (IngredientTable.mk (Dictionary.ofList rows) false).source.lookup? name
      = (lastOf? rows (nameKey name)).or ((singular? (nameKey name)).bind (lastOf? rows)) := by
  have hsource : (IngredientTable.mk (Dictionary.ofList rows) false).source = ⟨lastOf? rows⟩ :=
    congrArg IngredientSource.mk (funext (byKey?_ofList rows))
  rw [hsource, lookup?_eq_or]

end Tables

/-- A table is refused exactly for the first of its records that is not in order, with what is wrong
    with that record, and it is read if all of them are in order. Then it has one row for each
    record. Under a key it has what the last row with the key says, and it has as many keys as there
    are different ones among the rows. A name finds what is under its key, or else what is under the
    key without the `s` at its end. -/
theorem tables_by_rows (text : String) :
    (∀ e, IngredientTable.read text = .error e
      ↔ ∃ before record after, tableRecords text = before ++ record :: after
        ∧ (∀ other ∈ before, ∃ row, InOrder (tableHeader text) other row)
        ∧ Offends (tableHeader text) record (before.length + 1) e)
      ∧ ((∃ table, IngredientTable.read text = .ok table)
        ↔ ∀ record ∈ tableRecords text, ∃ row, InOrder (tableHeader text) record row)
      ∧ ∀ table, IngredientTable.read text = .ok table →
        ∃ rows, List.Forall₂ (InOrder (tableHeader text)) (tableRecords text) rows
          ∧ (∀ key, table.byKey? key = lastOf? rows key)
          ∧ table.rows.size = (rows.map Prod.fst).eraseDups.length
          ∧ ∀ name, table.source.lookup? name
            = (lastOf? rows (nameKey name)).or
                ((singular? (nameKey name)).bind (lastOf? rows)) := by
  refine ⟨fun e => ?_, exists_read_iff text, fun table htable => ?_⟩
  · rw [read_eq_error_iff, checkedRows_eq_error_iff]
    simp only [Nat.add_comm 1]
  · rcases (read_eq_ok_iff text table).1 htable with ⟨rows, hrows, rfl⟩
    exact ⟨rows, hrows, byKey?_ofList rows, Dictionary.size_ofList rows, lookup?_ofList rows⟩

/-- A table with two rows for the quince. -/
def orchardText : String := "name,density,calories\nQuince,0.8,57\nsaffron,,\n QUINCE ,0.9,40\n"

/-- What the second row says of the quince. -/
def quince : Properties := ⟨some 0.9, none, some ⟨40.0, 0.0, 0.0, 0.0⟩⟩

/-- The table that the text is. -/
def orchard : IngredientTable :=
  ⟨Dictionary.ofList [("quince", quince), ("saffron", ⟨none, none, none⟩)], false⟩

/-- Each record of the table is a row, and the last one of the quince is found. -/
theorem orchard_by_rows :
    IngredientTable.read orchardText = .ok orchard
      ∧ orchard.source.lookup? "Quinces" = some quince
      ∧ ∃ rows, List.Forall₂ (InOrder ["name", "density", "calories"])
          [["Quince", "0.8", "57"], ["saffron", "", ""], ["QUINCE", "0.9", "40"]] rows
        ∧ lastOf? rows "quince" = some quince := by
  have hread : IngredientTable.read orchardText = .ok orchard :=
    IngredientTable.read_eq_of_entries (by decide +kernel)
  have hheader : tableHeader orchardText = ["name", "density", "calories"] := by decide +kernel
  have hrecords : tableRecords orchardText
      = [["Quince", "0.8", "57"], ["saffron", "", ""], ["QUINCE", "0.9", "40"]] := by decide +kernel
  rcases (tables_by_rows orchardText).2.2 orchard hread with ⟨rows, hrows, hkeys, -, -⟩
  rw [hheader, hrecords] at hrows
  exact ⟨hread, by decide +kernel, rows, hrows, (hkeys "quince").symm.trans (by decide +kernel)⟩

end Mise
