import Tabular.Proofs.Grid
import Tabular.Store.Capacity

/-!
# Sheets

A sheet is what a table holds, seen from outside: a list of columns, each with its name, if it has
one, and its cells by row. A name is a part of its column, so no edit of a sheet has to care for the
names of the columns behind it.

The cells of a sheet are a grid with rows and columns exchanged (`Sheet.grid`). An edit of the sheet
is on that grid the edit with rows and columns exchanged.
-/

namespace Tabular

/-- A column with its name, if it has one, and its cells by row. -/
structure Sheet.Column (α : Type u) where
  name : Option String := none
  cells : List (Option α) := []
deriving Repr, DecidableEq

/-- Columns of `rowCount` cells each. -/
structure Sheet (α : Type u) where
  rowCount : Nat := 0
  columns : List (Sheet.Column α) := []
deriving Repr, DecidableEq

namespace Sheet

variable {α : Type u} {s : Sheet α}

/-- The sheet without rows and columns. -/
def empty : Sheet α := {}

/-! ## Reading -/

/-- The name of a column, if it has one. -/
def name? (s : Sheet α) (column : Nat) : Option String := s.columns[column]?.bind Column.name

/-- The cells of a sheet, column by column. -/
def grid (s : Sheet α) : Grid α where
  columnCount := s.rowCount
  rows := s.columns.map Column.cells

/-! ## Padding -/

/-- Edits the cells of every column. The names stay. -/
def mapCells (columns : List (Column α)) (edit : Nat → List (Option α) → List (Option α)) :
    List (Column α) :=
  columns.mapIdx fun index column => { column with cells := edit index column.cells }

/-- Appends empty rows until there are at least `count`. -/
def withRows (s : Sheet α) (count : Nat) : Sheet α where
  rowCount := max s.rowCount count
  columns := mapCells s.columns fun _ cells => Grid.padded count cells

/-- An unnamed column with as many empty cells. -/
def Column.blank (rowCount : Nat) : Column α where
  cells := Grid.padded rowCount []

/-- Appends unnamed columns until there are at least `count`. -/
def withColumns (s : Sheet α) (count : Nat) : Sheet α :=
  { s with
    columns := s.columns ++ List.replicate (count - s.columns.length) (.blank s.rowCount) }

/-! ## Edits -/

/-- Names a column, padding the sheet to have it. -/
def setHeader (s : Sheet α) (column : Nat) (text : String) : Sheet α :=
  let s := s.withColumns (column + 1)
  { s with columns := s.columns.modify column fun column => { column with name := some text } }

/-- Replaces the content of a cell of the sheet. -/
def put (s : Sheet α) (row column : Nat) (content : Option α) : Sheet α :=
  { s with
    columns := mapCells s.columns fun index cells =>
      if index = column then cells.set row content else cells }

/-- Writes a cell, padding the sheet to hold it, unless a coordinate is beyond what an axis can
have. -/
def set (s : Sheet α) (row column : Nat) (value : α) : Sheet α :=
  if Capacity.maxSlots ≤ row ∨ Capacity.maxSlots ≤ column then s
  else ((s.withColumns (column + 1)).withRows (row + 1)).put row column (some value)

/-- Inserts a row in front of `row`, which may be the end of the sheet, padding the sheet to the
width of the values. -/
def insertRow (s : Sheet α) (row : Nat) (values : List α) : Sheet α :=
  if s.rowCount < row then s
  else
    let s := s.withColumns values.length
    { rowCount := s.rowCount + 1
      columns := mapCells s.columns fun index cells => cells.insertIdx row values[index]? }

/-- Inserts an unnamed column in front of `column`, which may be the end of the sheet, padding the
sheet to the height of the values. -/
def insertColumn (s : Sheet α) (column : Nat) (values : List α) : Sheet α :=
  if s.columns.length < column then s
  else
    let s := s.withRows values.length
    let new := { cells := Grid.padded s.rowCount (values.map some) }
    { s with columns := s.columns.insertIdx column new }

/-- Removes a row. -/
def removeRow (s : Sheet α) (row : Nat) : Sheet α :=
  if row < s.rowCount then
    { rowCount := s.rowCount - 1
      columns := mapCells s.columns fun _ cells => cells.eraseIdx row }
  else s

/-- Removes a column with its name. -/
def removeColumn (s : Sheet α) (column : Nat) : Sheet α :=
  { s with columns := s.columns.eraseIdx column }

/-! ## The cells after an edit -/

/-- The rows of the grid are the columns of the sheet. -/
theorem rowCount_grid (s : Sheet α) : s.grid.rowCount = s.columns.length := List.length_map _

/-- The cells of a column are edited, whatever its name is. -/
theorem cells_mapCells (s : Sheet α) (edit : Nat → List (Option α) → List (Option α))
    (index : Nat) :
    ((mapCells s.columns edit).map Column.cells)[index]?
      = s.grid.rows[index]?.map (edit index) := by
  unfold mapCells grid
  rw [List.getElem?_map, List.getElem?_mapIdx, List.getElem?_map, Option.map_map, Option.map_map]
  rfl

/-- A sheet that has enough columns is not padded. -/
theorem withColumns_of_le {count : Nat} (enough : count ≤ s.columns.length) :
    s.withColumns count = s := by
  unfold withColumns
  rw [Nat.sub_eq_zero_of_le enough, List.replicate_zero, List.append_nil]

/-- Columns are only added when there are too few. -/
theorem length_withColumns (s : Sheet α) (count : Nat) :
    (s.withColumns count).columns.length = max s.columns.length count := by
  unfold withColumns
  rw [List.length_append, List.length_replicate]
  omega

/-- Naming a column makes the columns up to it. -/
theorem length_setHeader (s : Sheet α) (column : Nat) (text : String) :
    (s.setHeader column text).columns.length = max s.columns.length (column + 1) :=
  (List.length_modify _ _ _).trans (s.length_withColumns (column + 1))

/-- A name behind the last column makes a named column. -/
theorem setHeader_length (s : Sheet α) (text : String) :
    s.setHeader s.columns.length text
      = { s with columns := s.columns ++ [{ Column.blank s.rowCount with name := some text }] } := by
  have one : s.columns.length + 1 - s.columns.length = 1 := Nat.add_sub_cancel_left _ _
  unfold setHeader withColumns
  rw [one, List.replicate_one]
  dsimp only
  rw [List.modify_eq_take_drop, List.take_left, List.drop_left]
  rfl

/-- A name pads a sheet, unless that was done before. -/
theorem setHeader_withColumns (s : Sheet α) (column : Nat) (text : String) :
    (s.withColumns (column + 1)).setHeader column text = s.setHeader column text := by
  have enough : column + 1 ≤ (s.withColumns (column + 1)).columns.length := by
    rw [s.length_withColumns]
    exact Nat.le_max_right _ _
  unfold setHeader
  rw [withColumns_of_le enough]

/-- More rows of the sheet are more columns of the grid. -/
theorem grid_withRows (s : Sheet α) (count : Nat) :
    (s.withRows count).grid = s.grid.withColumns count := by
  refine congrArg (Grid.mk (max s.rowCount count)) (List.ext_getElem? fun index => ?_)
  rw [withRows, cells_mapCells, List.getElem?_map]

/-- More columns of the sheet are more rows of the grid. -/
theorem grid_withColumns (s : Sheet α) (count : Nat) :
    (s.withColumns count).grid = s.grid.withRows count := by
  refine congrArg (Grid.mk s.rowCount) ?_
  show (s.columns ++ List.replicate (count - s.columns.length) _).map Column.cells = _
  rw [List.map_append, List.map_replicate, ← s.rowCount_grid]
  rfl

/-- A name changes no cell. -/
theorem grid_setHeader (s : Sheet α) (column : Nat) (text : String) :
    (s.setHeader column text).grid = s.grid.withRows (column + 1) := by
  rw [← grid_withColumns]
  refine congrArg (Grid.mk s.rowCount) (List.ext_getElem? fun index => ?_)
  rw [setHeader, List.getElem?_map, List.getElem?_map, List.getElem?_modify, Option.map_eq_map,
    Option.map_map]
  congr 1
  funext found
  rw [Function.comp_apply]
  split <;> rfl

/-- A write to the sheet is one to the grid, with rows and columns exchanged. -/
theorem grid_put (s : Sheet α) (row column : Nat) (content : Option α) :
    (s.put row column content).grid = s.grid.put column row content := by
  refine congrArg (Grid.mk s.rowCount) (List.ext_getElem? fun index => ?_)
  rw [put, cells_mapCells, List.getElem?_modify, Option.map_eq_map]
  simp only [eq_comm]

/-- A write that is not too far out grows the grid as it grows the sheet. -/
theorem grid_set {row column : Nat} (hr : row < Capacity.maxSlots) (hc : column < Capacity.maxSlots)
    (s : Sheet α) (value : α) :
    (s.set row column value).grid = (s.grid.set column row value).2 := by
  unfold set Grid.set
  rw [if_neg (by omega), grid_put, grid_withRows, grid_withColumns]

/-- A row is inserted where the grid of the columns gets a column. -/
theorem grid_insertRow (h : s.grid.Rectangular) {row : Nat} (inside : row ≤ s.rowCount)
    (values : List α) :
    (s.insertRow row values).grid = s.grid.insertColumn row values := by
  unfold insertRow Grid.insertColumn
  rw [if_neg (Nat.not_lt_of_le inside), h.withColumns_of_le inside, ← grid_withColumns]
  refine congrArg (Grid.mk (s.rowCount + 1)) (List.ext_getElem? fun index => ?_)
  rw [cells_mapCells, List.getElem?_mapIdx]

/-- An inserted column of the sheet is an inserted row of the grid. -/
theorem grid_insertColumn {column : Nat} (inside : column ≤ s.columns.length) (values : List α) :
    (s.insertColumn column values).grid = s.grid.insertRow column values := by
  unfold insertColumn Grid.insertRow
  rw [if_neg (Nat.not_lt_of_le inside), Grid.withRows_of_le (s.rowCount_grid ▸ inside),
    ← grid_withRows]
  exact congrArg (Grid.mk _) (List.map_insertIdx _ _ _ _)

/-- A removed row of the sheet is a removed column of the grid. -/
theorem grid_removeRow {row : Nat} (inside : row < s.rowCount) :
    (s.removeRow row).grid = (s.grid.removeColumn row).2 := by
  unfold removeRow Grid.removeColumn
  rw [if_pos inside, if_pos (show row < s.grid.columnCount from inside)]
  refine congrArg (Grid.mk (s.rowCount - 1)) (List.ext_getElem? fun index => ?_)
  rw [cells_mapCells, List.getElem?_map]

/-- A removed column of the sheet is a removed row of the grid. -/
theorem grid_removeColumn (s : Sheet α) (column : Nat) :
    (s.removeColumn column).grid = (s.grid.removeRow column).2 :=
  congrArg (Grid.mk s.rowCount) (List.eraseIdx_map _ _ _).symm

/-! ## The names after an edit -/

/-- Where only cells are edited, the names stay. -/
theorem name?_mapCells (s : Sheet α) (rowCount : Nat)
    (edit : Nat → List (Option α) → List (Option α)) :
    ({ rowCount, columns := mapCells s.columns edit } : Sheet α).name? = s.name? := by
  funext index
  unfold name?
  rw [mapCells, List.getElem?_mapIdx]
  cases s.columns[index]? <;> rfl

/-- More rows change no name. -/
theorem name?_withRows (s : Sheet α) (count : Nat) : (s.withRows count).name? = s.name? :=
  name?_mapCells s _ _

/-- The columns that are appended have no names. -/
theorem name?_withColumns (s : Sheet α) (count : Nat) : (s.withColumns count).name? = s.name? := by
  funext index
  unfold name? withColumns
  dsimp only
  rw [List.getElem?_append]
  split
  · rfl
  · next outside =>
    rw [List.getElem?_eq_none (Nat.le_of_not_lt outside), List.getElem?_replicate]
    split <;> rfl

/-- A write to a cell that is there changes no name. -/
theorem name?_put (s : Sheet α) (row column : Nat) (content : Option α) :
    (s.put row column content).name? = s.name? := name?_mapCells s _ _

/-- A write changes no name: the columns that it makes have none. -/
theorem name?_set (s : Sheet α) (row column : Nat) (value : α) :
    (s.set row column value).name? = s.name? := by
  unfold set
  split
  · rfl
  · rw [name?_put, name?_withRows, name?_withColumns]

/-- An inserted row changes no name: the columns that it makes have none. -/
theorem name?_insertRow (s : Sheet α) (row : Nat) (values : List α) :
    (s.insertRow row values).name? = s.name? := by
  unfold insertRow
  split
  · rfl
  · rw [← s.name?_withColumns values.length]
    exact name?_mapCells _ _ _

/-- A removed row changes no name. -/
theorem name?_removeRow (s : Sheet α) (row : Nat) : (s.removeRow row).name? = s.name? := by
  unfold removeRow
  split
  · exact name?_mapCells s _ _
  · rfl

/-- Naming a column changes the name of this column only. -/
theorem name?_setHeader (s : Sheet α) (column : Nat) (text : String) (index : Nat) :
    (s.setHeader column text).name? index
      = if index = column then some text else s.name? index := by
  rw [← s.name?_withColumns (column + 1)]
  unfold setHeader name?
  dsimp only
  rw [List.getElem?_modify, Option.map_eq_map]
  by_cases named : index = column
  · have inside : index < (s.withColumns (column + 1)).columns.length := by
      unfold withColumns
      rw [List.length_append, List.length_replicate]
      omega
    rw [if_pos named, List.getElem?_eq_getElem inside, Option.map_some, if_pos named.symm]
    rfl
  · rw [if_neg named]
    simp only [if_neg (Ne.symm named)]
    cases (s.withColumns (column + 1)).columns[index]? <;> rfl

/-- The names behind an inserted column move up with their columns. -/
theorem name?_insertColumn {column : Nat} (inside : column ≤ s.columns.length) (values : List α)
    (index : Nat) :
    (s.insertColumn column values).name? index
      = if index < column then s.name? index
        else if index = column then none else s.name? (index - 1) := by
  have length : (s.withRows values.length).columns.length = s.columns.length := List.length_mapIdx
  rw [← s.name?_withRows values.length]
  unfold insertColumn name?
  rw [if_neg (Nat.not_lt_of_le inside)]
  dsimp only
  rw [List.getElem?_insertIdx]
  split
  · rfl
  · split
    · rw [if_pos (by omega)]
      rfl
    · rfl

/-- The names behind a removed column move down with their columns. -/
theorem name?_removeColumn (s : Sheet α) (column index : Nat) :
    (s.removeColumn column).name? index
      = if index < column then s.name? index else s.name? (index + 1) := by
  unfold removeColumn name?
  dsimp only
  rw [List.getElem?_eraseIdx]
  split <;> rfl

end Sheet

end Tabular
