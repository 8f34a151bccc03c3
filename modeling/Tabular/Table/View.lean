import Tabular.Table.Basic

/-!
# Views of rows and columns

A view is one row or one column of a table, named by its index. It is given out for a line that the
table has.
-/

namespace Tabular

/-- One row of a table. -/
structure RowView (α : Type u) where
  table : Table α
  index : Nat

/-- One column of a table. -/
structure ColumnView (α : Type u) where
  table : Table α
  index : Nat

namespace RowView

variable {α : Type u}

/-- The number of cells, one per column of the table. -/
def size (v : RowView α) : Nat := v.table.columnCount

/-- Whether the row has no cells. -/
def isEmpty (v : RowView α) : Bool := v.size == 0

/-- The content of the cell in a column. -/
def get? (v : RowView α) (column : Nat) : Option α := v.table.cell v.index column

/-- The cells one by one, in column order. -/
def cells (v : RowView α) : List (Option α) := (List.range v.size).map v.get?

/-- The row as the store keeps it, in column order. -/
def toList (v : RowView α) : List (Option α) := (v.table.store.row? v.index).getD []

end RowView

namespace ColumnView

variable {α : Type u}

/-- The name of the column, if it has one. -/
def header (v : ColumnView α) : Option String := v.table.header v.index

/-- The number of cells, one per row of the table. -/
def size (v : ColumnView α) : Nat := v.table.rowCount

/-- Whether the column has no cells. -/
def isEmpty (v : ColumnView α) : Bool := v.size == 0

/-- The content of the cell in a row. -/
def get? (v : ColumnView α) (row : Nat) : Option α := v.table.cell row v.index

/-- The cells one by one, in row order. -/
def cells (v : ColumnView α) : List (Option α) := (List.range v.size).map v.get?

/-- The column as the store keeps it, in row order. -/
def toList (v : ColumnView α) : List (Option α) := (v.table.store.column? v.index).getD []

end ColumnView

namespace Table

variable {α : Type u}

/-- The view of a row of the table. -/
def row (t : Table α) (index : Nat) : Except TableError (RowView α) :=
  match t.checkRow index with
  | .ok () => .ok ⟨t, index⟩
  | .error e => .error e

/-- The view of a column of the table. -/
def column (t : Table α) (index : Nat) : Except TableError (ColumnView α) :=
  match t.checkColumn index with
  | .ok () => .ok ⟨t, index⟩
  | .error e => .error e

/-- The rows in order. -/
def rows (t : Table α) : List (RowView α) := (List.range t.rowCount).map fun index => ⟨t, index⟩

/-- The columns in order. -/
def columns (t : Table α) : List (ColumnView α) :=
  (List.range t.columnCount).map fun index => ⟨t, index⟩

end Table

end Tabular
