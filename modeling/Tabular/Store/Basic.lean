import Tabular.Store.Axis
import Tabular.Store.Cells

/-!
# The store

A two-dimensional store of cells whose rows and columns have logical positions that stay contiguous
under insertion and removal. Each axis maps its positions to slots of the backing cells, so that an
insertion or a removal in the middle moves no cell. Reading outside the store finds nothing; writing
outside it grows it. Capacities are powers of two: they double on demand, and a removal that leaves
less than a quarter of a capacity in use packs that axis and halves the capacity.

An operation that can fail returns its result beside the store as it is then, because it may have
grown the store before it failed.
-/

namespace Tabular

/-- Cells with logical row and column positions. -/
structure Store (α : Type u) where
  cells : Cells α
  rows : Axis
  columns : Axis
  /-- The row capacity that clearing returns to. -/
  initialRows : Nat
  /-- The column capacity that clearing returns to. -/
  initialColumns : Nat

namespace Store

variable {α : Type u}

/-! ## Construction -/

/-- The capacity of both axes of a store for which none is requested. -/
def defaultCapacity : Nat := 8

/-- An empty store with room for the requested rows and columns. Whether it can be constructed is a
matter of `construct`. -/
def withCapacity (rows columns : Nat) : Store α :=
  let rows := Capacity.rounded rows
  let columns := Capacity.rounded columns
  { cells := .blank rows columns
    rows := { capacity := rows }
    columns := { capacity := columns }
    initialRows := rows
    initialColumns := columns }

/-- Why a store cannot be constructed. -/
inductive ConstructionFault
  /-- A rounded capacity is no size. -/
  | rounding
  /-- Something takes more bytes than can be asked for. -/
  | bytes
deriving Repr, DecidableEq

/-- The text of a fault. -/
def ConstructionFault.message : ConstructionFault → String
  | rounding => "attempt to add with overflow"
  | bytes => "capacity overflow"

/-- The most bytes that can be asked for at once. -/
def maxBytes : Nat := 0x7FFFFFFFFFFFFFFF

/-- The bytes of a row without its cells. -/
def rowBytes : Nat := 24

/-- The bytes of the slot of a position. -/
def slotBytes : Nat := 8

/-- The capacity that a requested one is rounded up to. -/
def round (requested : Nat) : Except ConstructionFault Nat :=
  match Capacity.rounded? requested with
  | some capacity => .ok capacity
  | none => .error .rounding

/-- Asks for room for `count` things of `bytes` bytes. -/
def askFor (bytes count : Nat) : Except ConstructionFault Unit :=
  if bytes * count ≤ maxBytes then .ok () else .error .bytes

/-- Asks for what an empty store takes whose cells have `cellBytes` bytes each. Both capacities are
rounded before room is asked for: for the rows, for the cells of a row, and for the positions of
each axis. -/
def askForCapacities (cellBytes rows columns : Nat) : Except ConstructionFault Unit := do
  let rows ← round rows
  let columns ← round columns
  askFor rowBytes rows
  askFor cellBytes columns
  askFor slotBytes rows
  askFor slotBytes columns

/-- Constructs an empty store whose cells have `cellBytes` bytes each. -/
def construct (cellBytes rows columns : Nat) : Except ConstructionFault (Store α) :=
  (askForCapacities cellBytes rows columns).map fun () => withCapacity rows columns

/-- An empty store. -/
def empty : Store α := withCapacity defaultCapacity defaultCapacity

instance : Inhabited (Store α) := ⟨empty⟩

/-- Drops every cell and returns to the initial capacities. -/
def clear (s : Store α) : Store α := withCapacity s.initialRows s.initialColumns

/-! ## Reading -/

/-- The number of rows. -/
def rowCount (s : Store α) : Nat := s.rows.size

/-- The number of columns. -/
def columnCount (s : Store α) : Nat := s.columns.size

/-- The number of cells. -/
def cellCount (s : Store α) : Nat := s.rowCount * s.columnCount

/-- Whether there are no cells. -/
def isEmpty (s : Store α) : Bool := s.cellCount == 0

/-- The number of row slots. -/
def rowCapacity (s : Store α) : Nat := s.rows.capacity

/-- The number of column slots. -/
def columnCapacity (s : Store α) : Nat := s.columns.capacity

/-- The content of a cell. -/
def get? (s : Store α) (row column : Nat) : Option α :=
  match s.rows.slots[row]?, s.columns.slots[column]? with
  | some r, some c => s.cells.get r c
  | _, _ => none

/-- The cells of a row in column order. -/
def row? (s : Store α) (row : Nat) : Option (List (Option α)) :=
  s.rows.slots[row]?.map fun r => s.columns.slots.toList.map fun c => s.cells.get r c

/-- The cells of a column in row order. -/
def column? (s : Store α) (column : Nat) : Option (List (Option α)) :=
  s.columns.slots[column]?.map fun c => s.rows.slots.toList.map fun r => s.cells.get r c

/-- All cells, row by row. -/
def toRows (s : Store α) : List (List (Option α)) :=
  (List.range s.rowCount).filterMap s.row?

/-! ## Growing -/

/-- Replaces the row axis by a grown one and adds the cells behind its new slots. -/
def withRows (s : Store α) (rows : Axis) : Store α :=
  if rows.capacity = s.rows.capacity then { s with rows }
  else { s with rows, cells := s.cells.growRows rows.capacity s.columns.capacity }

/-- Replaces the column axis by a grown one and adds the cells behind its new slots. -/
def withColumns (s : Store α) (columns : Axis) : Store α :=
  if columns.capacity = s.columns.capacity then { s with columns }
  else { s with columns, cells := s.cells.growColumns columns.capacity }

/-- Appends empty rows until there are at least `count`. -/
def extendRows (s : Store α) (count : Nat) : Option (Store α) :=
  (s.rows.extend count).map s.withRows

/-- Appends empty columns until there are at least `count`. -/
def extendColumns (s : Store α) (count : Nat) : Option (Store α) :=
  (s.columns.extend count).map s.withColumns

/-! ## Writing -/

/-- Replaces the content of a cell of the store and returns what it held. Outside the store nothing
changes. -/
def exchange (s : Store α) (row column : Nat) (content : Option α) : Option α × Store α :=
  match s.rows.slots[row]?, s.columns.slots[column]? with
  | some r, some c => (s.cells.get r c, { s with cells := s.cells.put r c content })
  | _, _ => (none, s)

/-- Writes a value and returns what the cell held. The store grows to hold the cell, unless a
coordinate is beyond what an axis can have. -/
def set (s : Store α) (row column : Nat) (value : α) : Option α × Store α :=
  if Capacity.maxSlots ≤ row ∨ Capacity.maxSlots ≤ column then (none, s)
  else
    match s.extendRows (row + 1) with
    | none => (none, s)
    | some s =>
      match s.extendColumns (column + 1) with
      | none => (none, s)
      | some s => s.exchange row column (some value)

/-- Empties a cell and returns what it held. -/
def unset (s : Store α) (row column : Nat) : Option α × Store α := s.exchange row column none

/-! ## Inserting -/

/-- Writes values into the row on `slot`, from `column` on, growing the columns to fit. The flag
says whether all were written. -/
def fillRow (slot : Nat) : Nat → List α → Store α → Bool × Store α
  | _, [], s => (true, s)
  | column, value :: values, s =>
    match s.extendColumns (column + 1) with
    | none => (false, s)
    | some s =>
      match s.columns.slots[column]? with
      | none => (false, s)
      | some c => fillRow slot (column + 1) values { s with cells := s.cells.put slot c (some value) }

/-- Writes values into the column on `slot`, from `row` on, growing the rows to fit. The flag says
whether all were written. -/
def fillColumn (slot : Nat) : Nat → List α → Store α → Bool × Store α
  | _, [], s => (true, s)
  | row, value :: values, s =>
    match s.extendRows (row + 1) with
    | none => (false, s)
    | some s =>
      match s.rows.slots[row]? with
      | none => (false, s)
      | some r => fillColumn slot (row + 1) values { s with cells := s.cells.put r slot (some value) }

/-- Inserts a row in front of `row` and returns its position. Inserting past the end first appends
empty rows up to it. -/
def insertRow (s : Store α) (row : Nat) (values : List α) : Option Nat × Store α :=
  match s.extendRows row with
  | none => (none, s)
  | some s =>
    match s.rows.insert row with
    | none => (none, s)
    | some (slot, rows) =>
      match fillRow slot 0 values (s.withRows rows) with
      | (true, s) => (some row, s)
      | (false, s) => (none, s)

/-- Inserts a column in front of `column` and returns its position. Inserting past the end first
appends empty columns up to it. -/
def insertColumn (s : Store α) (column : Nat) (values : List α) : Option Nat × Store α :=
  match s.extendColumns column with
  | none => (none, s)
  | some s =>
    match s.columns.insert column with
    | none => (none, s)
    | some (slot, columns) =>
      match fillColumn slot 0 values (s.withColumns columns) with
      | (true, s) => (some column, s)
      | (false, s) => (none, s)

/-- Appends a row. -/
def addRow (s : Store α) (values : List α) : Option Nat × Store α := s.insertRow s.rowCount values

/-- Appends a column. -/
def addColumn (s : Store α) (values : List α) : Option Nat × Store α :=
  s.insertColumn s.columnCount values

/-! ## Removing -/

/-- Packs the rows when that lowers their capacity. -/
def packRows (s : Store α) : Store α :=
  if s.rows.packingDue then
    let cells := s.rows.packingMoves.foldl (fun cells m => cells.swapRows m.source m.target) s.cells
    { s with rows := s.rows.pack, cells := cells.takeRows s.rows.packedCapacity }
  else s

/-- Packs the columns when that lowers their capacity. -/
def packColumns (s : Store α) : Store α :=
  if s.columns.packingDue then
    let cells :=
      s.columns.packingMoves.foldl (fun cells m => cells.swapColumns m.source m.target) s.cells
    { s with columns := s.columns.pack, cells := cells.takeColumns s.columns.packedCapacity }
  else s

/-- Removes a row and returns its cells. -/
def removeRow (s : Store α) (row : Nat) : Option (List (Option α)) × Store α :=
  match s.rows.slots[row]? with
  | none => (none, s)
  | some r =>
    let removed := s.columns.slots.toList.map fun c => s.cells.get r c
    let cells := s.columns.slots.foldl (fun cells c => cells.put r c none) s.cells
    (some removed, packRows { s with cells, rows := s.rows.remove row })

/-- Removes a column and returns its cells. -/
def removeColumn (s : Store α) (column : Nat) : Option (List (Option α)) × Store α :=
  match s.columns.slots[column]? with
  | none => (none, s)
  | some c =>
    let removed := s.rows.slots.toList.map fun r => s.cells.get r c
    let cells := s.rows.slots.foldl (fun cells r => cells.put r c none) s.cells
    (some removed, packColumns { s with cells, columns := s.columns.remove column })

end Store

end Tabular
