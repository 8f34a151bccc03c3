/-!
# Dense grids

A grid is what a store holds, seen from outside: rows of equal width, each cell with its content or
empty. An edit first pads the grid with empty lines as far as it needs. A grid has no slots and no
capacities, so each edit here is a plain list edit, and it says what the same edit of a store does.
-/

namespace Tabular

/-- Rows of `columnCount` cells each. -/
structure Grid (α : Type u) where
  columnCount : Nat := 0
  rows : List (List (Option α)) := []
deriving Repr, DecidableEq

namespace Grid

variable {α : Type u}

/-- The grid without rows and columns. -/
def empty : Grid α := {}

/-! ## Reading -/

/-- The number of rows. -/
def rowCount (g : Grid α) : Nat := g.rows.length

/-- The content of a cell. -/
def get? (g : Grid α) (row column : Nat) : Option α := (g.rows.getD row [])[column]?.join

/-- The cells of a row in column order. -/
def row? (g : Grid α) (row : Nat) : Option (List (Option α)) := g.rows[row]?

/-- The cells of a column in row order. -/
def column? (g : Grid α) (column : Nat) : Option (List (Option α)) :=
  if column < g.columnCount then some (g.rows.map fun cells => cells[column]?.join) else none

/-! ## Padding -/

/-- A row with empty cells at its end, up to `count`. -/
def padded (count : Nat) (line : List (Option α)) : List (Option α) :=
  line ++ List.replicate (count - line.length) none

/-- Appends empty rows until there are at least `count`. -/
def withRows (g : Grid α) (count : Nat) : Grid α :=
  { g with rows := g.rows ++ List.replicate (count - g.rowCount) (padded g.columnCount []) }

/-- Appends empty columns until there are at least `count`. -/
def withColumns (g : Grid α) (count : Nat) : Grid α where
  columnCount := max g.columnCount count
  rows := g.rows.map (padded count)

/-! ## Edits -/

/-- Replaces the content of a cell of the grid. -/
def put (g : Grid α) (row column : Nat) (content : Option α) : Grid α :=
  { g with rows := g.rows.modify row fun line => line.set column content }

/-- Writes a cell, padding the grid to hold it, and returns what it held. -/
def set (g : Grid α) (row column : Nat) (value : α) : Option α × Grid α :=
  (g.get? row column, ((g.withRows (row + 1)).withColumns (column + 1)).put row column (some value))

/-- Empties a cell and returns what it held. -/
def unset (g : Grid α) (row column : Nat) : Option α × Grid α :=
  (g.get? row column, g.put row column none)

/-- Inserts a row in front of `row`, padding the grid up to it and to the width of the values. -/
def insertRow (g : Grid α) (row : Nat) (values : List α) : Grid α :=
  let g := (g.withRows row).withColumns values.length
  { g with rows := g.rows.insertIdx row (padded g.columnCount (values.map some)) }

/-- Inserts a column in front of `column`, padding the grid up to it and to the height of the
values. -/
def insertColumn (g : Grid α) (column : Nat) (values : List α) : Grid α :=
  let g := (g.withColumns column).withRows values.length
  { columnCount := g.columnCount + 1
    rows := g.rows.mapIdx fun row line => line.insertIdx column values[row]? }

/-- Removes a row and returns its cells. -/
def removeRow (g : Grid α) (row : Nat) : Option (List (Option α)) × Grid α :=
  (g.row? row, { g with rows := g.rows.eraseIdx row })

/-- Removes a column and returns its cells. -/
def removeColumn (g : Grid α) (column : Nat) : Option (List (Option α)) × Grid α :=
  if column < g.columnCount then
    (g.column? column,
      { columnCount := g.columnCount - 1, rows := g.rows.map (·.eraseIdx column) })
  else (none, g)

end Grid

end Tabular
