import Tabular.Store.Basic
import Tabular.SortedIndex
import Tabular.Table.Error

/-!
# Tables

A table is a store whose columns can have names. A name stays with its column when columns are
inserted or removed in front of it. Access comes in two kinds. The tolerant kind reads nothing
outside the table and grows the table when it writes there. The validated kind refuses coordinates
outside the table with a `TableError`.

Edits return their result beside the table as it is then.
-/

namespace Tabular

/-- Cells in rows and columns, with optional column names. -/
structure Table (α : Type u) where
  store : Store α
  /-- The names of the first columns; there may be fewer names than columns. -/
  headers : Array (Option String) := #[]

namespace Table

variable {α : Type u}

/-! ## Construction and sizes -/

/-- A table over a store, without column names. -/
def ofStore (store : Store α) : Table α := { store }

/-- An empty table. -/
def empty : Table α := ofStore .empty

/-- An empty table with room for the requested rows and columns. -/
def withCapacity (rows columns : Nat) : Table α := ofStore (.withCapacity rows columns)

instance : Inhabited (Table α) := ⟨empty⟩

/-- The number of rows. -/
def rowCount (t : Table α) : Nat := t.store.rowCount

/-- The number of columns. -/
def columnCount (t : Table α) : Nat := t.store.columnCount

/-- The number of cells. -/
def cellCount (t : Table α) : Nat := t.store.cellCount

/-- Whether there are no cells. -/
def isEmpty (t : Table α) : Bool := t.store.isEmpty

/-- Accepts the index of a row of the table. -/
def checkRow (t : Table α) (row : Nat) : Except TableError Unit :=
  if row < t.rowCount then .ok () else .error (.rowOutOfBounds row t.rowCount)

/-- Accepts the index of a column of the table. -/
def checkColumn (t : Table α) (column : Nat) : Except TableError Unit :=
  if column < t.columnCount then .ok () else .error (.columnOutOfBounds column t.columnCount)

/-- Accepts the coordinates of a cell of the table. The row is checked first. -/
def checkCell (t : Table α) (row column : Nat) : Except TableError Unit :=
  match t.checkRow row with
  | .ok () => t.checkColumn column
  | .error e => .error e

/-! ## Column names -/

/-- The name of a column, if it has one. -/
def header (t : Table α) (column : Nat) : Option String := t.headers[column]?.join

/-- Names a column of the table. -/
def name (t : Table α) (column : Nat) (text : String) : Table α :=
  let missing := column + 1 - t.headers.size
  { t with headers := (t.headers ++ Array.replicate missing none).setIfInBounds column (some text) }

/-- Names a column and grows the table to include it. -/
def setHeader (t : Table α) (column : Nat) (text : String) : Except TableError Unit × Table α :=
  if column < t.columnCount then (.ok (), t.name column text)
  else
    match t.store.insertColumn column [] with
    | (some _, store) => (.ok (), { t with store }.name column text)
    | (none, store) => (.error (.slotUnavailable .column), { t with store })

/-- Names the columns from `column` on, until one cannot be created. -/
def setHeaders (t : Table α) (column : Nat) : List String → Except TableError Unit × Table α
  | [] => (.ok (), t)
  | text :: texts =>
    match t.setHeader column text with
    | (.ok (), t) => t.setHeaders (column + 1) texts
    | (.error e, t) => (.error e, t)

/-- An empty table whose columns have the given names. -/
def withHeaders (names : List String) : Except TableError (Table α) :=
  match (empty : Table α).setHeaders 0 names with
  | (.ok (), t) => .ok t
  | (.error e, _) => .error e

/-- The first column with a name. -/
def columnNamed? (t : Table α) (text : String) : Option Nat :=
  t.headers.findIdx? fun header => header == some text

/-- The first column with a name, which must exist. -/
def requireColumn (t : Table α) (text : String) : Except TableError Nat :=
  match t.columnNamed? text with
  | some column => .ok column
  | none => .error (.columnNotFound text)

/-! ## Tolerant access -/

/-- The content of a cell. -/
def cell (t : Table α) (row column : Nat) : Option α := t.store.get? row column

/-- Writes a cell, growing the table to hold it, and returns what it held. -/
def set (t : Table α) (row column : Nat) (value : α) : Option α × Table α :=
  let (old, store) := t.store.set row column value
  (old, { t with store })

/-- Empties a cell and returns what it held. -/
def unset (t : Table α) (row column : Nat) : Option α × Table α :=
  let (old, store) := t.store.unset row column
  (old, { t with store })

/-! ## Validated access -/

/-- The content of a cell of the table. -/
def get (t : Table α) (row column : Nat) : Except TableError (Option α) :=
  match t.checkCell row column with
  | .ok () => .ok (t.cell row column)
  | .error e => .error e

/-- Writes a cell of the table and returns what it held. -/
def replace (t : Table α) (row column : Nat) (value : α) : Except TableError (Option α) × Table α :=
  match t.checkCell row column with
  | .ok () =>
    let (old, t) := t.set row column value
    (.ok old, t)
  | .error e => (.error e, t)

/-- Appends a row and returns its index. -/
def pushRow (t : Table α) (values : List α) : Except TableError Nat × Table α :=
  match t.store.addRow values with
  | (some row, store) => (.ok row, { t with store })
  | (none, store) => (.error (.slotUnavailable .row), { t with store })

/-- Appends a column and returns its index. -/
def pushColumn (t : Table α) (values : List α) : Except TableError Nat × Table α :=
  match t.store.addColumn values with
  | (some column, store) => (.ok column, { t with store })
  | (none, store) => (.error (.slotUnavailable .column), { t with store })

/-- Inserts a row in front of `row`, which may be the end of the table, and returns its index. -/
def insertRow (t : Table α) (row : Nat) (values : List α) : Except TableError Nat × Table α :=
  if t.rowCount < row then (.error (.rowOutOfBounds row t.rowCount), t)
  else
    match t.store.insertRow row values with
    | (some row, store) => (.ok row, { t with store })
    | (none, store) => (.error (.slotUnavailable .row), { t with store })

/-- Inserts an unnamed column in front of `column`, which may be the end of the table, and returns
its index. -/
def insertColumn (t : Table α) (column : Nat) (values : List α) : Except TableError Nat × Table α :=
  if t.columnCount < column then (.error (.columnOutOfBounds column t.columnCount), t)
  else
    match t.store.insertColumn column values with
    | (some column, store) =>
      let headers :=
        if column < t.headers.size then t.headers.insertIdxIfInBounds column none else t.headers
      (.ok column, { store, headers })
    | (none, store) => (.error (.slotUnavailable .column), { t with store })

/-- Removes a row and returns its cells. -/
def removeRow (t : Table α) (row : Nat) : Except TableError (List (Option α)) × Table α :=
  match t.checkRow row with
  | .error e => (.error e, t)
  | .ok () =>
    match t.store.removeRow row with
    | (some cells, store) => (.ok cells, { t with store })
    | (none, store) => (.error (.rowOutOfBounds row t.rowCount), { t with store })

/-- Removes a column with its name and returns its cells. -/
def removeColumn (t : Table α) (column : Nat) : Except TableError (List (Option α)) × Table α :=
  match t.checkColumn column with
  | .error e => (.error e, t)
  | .ok () =>
    match t.store.removeColumn column with
    | (some cells, store) => (.ok cells, { store, headers := t.headers.eraseIdxIfInBounds column })
    | (none, store) => (.error (.columnOutOfBounds column t.columnCount), { t with store })

/-- Removes every row, column and name. -/
def clear (t : Table α) : Table α := ofStore t.store.clear

/-! ## Indexing -/

/-- The sorted index of a column's contents, by row. Later edits of the table do not change it. -/
def indexColumn [Ord α] (t : Table α) (column : Nat) : Except TableError (SortedIndex (Option α)) :=
  match t.checkColumn column with
  | .ok () => .ok (.ofList ((List.range t.rowCount).map fun row => t.cell row column))
  | .error e => .error e

end Table

end Tabular
