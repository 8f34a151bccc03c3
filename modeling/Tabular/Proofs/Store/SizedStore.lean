import Tabular.Proofs.Store.SizedAxis
import Tabular.Proofs.Store.Run

/-!
# Sized operations of a store

The construction, the reads and the edits of a store with every sum, every product, every slot and
every loop sized as on its axes. While both axes are limited to slots that have numbers, no number
is too large for an edit, whatever positions it is given (`Store.Within.applySized`). A position
that is too far is refused before anything is added up to it.
-/

namespace Tabular.Store

variable {α : Type}

/-! ## Construction and reads -/

/-- An empty store, of which both rounded capacities have to be sizes. This is the arithmetic of the
construction only; whether there can be room for so much is up to `construct`. -/
def withCapacitySized (rows columns : Nat) : Except Excess (Store α) := do
  let rows ← Capacity.roundedSized rows
  let columns ← Capacity.roundedSized columns
  return { cells := .blank rows columns
           rows := { capacity := rows }
           columns := { capacity := columns }
           initialRows := rows
           initialColumns := columns }

/-- The number of cells, a product that has to be a size. -/
def cellCountSized (s : Store α) : Except Excess Nat :=
  Size.productSized s.rowCount s.columnCount

/-- Reads a cell: the slots of both positions have to have numbers, under which they are asserted to
be active. -/
def getSized (s : Store α) (row column : Nat) : Except Excess (Option α) := do
  match ← s.rows.slotSized row with
  | none => return none
  | some r =>
    match ← s.columns.slotSized column with
    | none => return none
    | some c => return s.cells.get r c

/-- Reads a row, whose slot has to have a number. -/
def rowSized (s : Store α) (row : Nat) : Except Excess (Option (List (Option α))) := do
  match ← s.rows.slotSized row with
  | none => return none
  | some r => return some (s.columns.slots.toList.map fun c => s.cells.get r c)

/-- Reads a column, whose slot has to have a number. -/
def columnSized (s : Store α) (column : Nat) : Except Excess (Option (List (Option α))) := do
  match ← s.columns.slotSized column with
  | none => return none
  | some c => return some (s.rows.slots.toList.map fun r => s.cells.get r c)

/-! ## Edits -/

/-- Appends rows until there are at least `count`, with the rows sized. -/
def extendRowsSized (s : Store α) (count : Nat) : Except Excess (Option (Store α)) :=
  return (← s.rows.extendSized count).map s.withRows

/-- Appends columns until there are at least `count`, with the columns sized. -/
def extendColumnsSized (s : Store α) (count : Nat) : Except Excess (Option (Store α)) :=
  return (← s.columns.extendSized count).map s.withColumns

/-- Writes a cell: the counts of lines up to it have to be sizes, and both axes are extended with
their numbers sized. -/
def setSized (s : Store α) (row column : Nat) (value : α) : Except Excess (Option α × Store α) :=
  if Capacity.maxSlots ≤ row ∨ Capacity.maxSlots ≤ column then .ok (none, s)
  else do
    match ← s.extendRowsSized (← Size.sumSized row 1) with
    | none => return (none, s)
    | some s =>
      match ← s.extendColumnsSized (← Size.sumSized column 1) with
      | none => return (none, s)
      | some s => return s.exchange row column (some value)

/-- Empties a cell: the slots of both positions have to have numbers. -/
def unsetSized (s : Store α) (row column : Nat) : Except Excess (Option α × Store α) := do
  match ← s.rows.slotSized row with
  | none => return (none, s)
  | some r =>
    match ← s.columns.slotSized column with
    | none => return (none, s)
    | some c => return (s.cells.get r c, { s with cells := s.cells.put r c none })

/-- Fills values into the row of a slot: the count of columns up to each of them has to be a size,
and the columns are extended with their numbers sized. -/
def fillRowSized (slot : Nat) : Nat → List α → Store α → Except Excess (Bool × Store α)
  | _, [], s => .ok (true, s)
  | column, value :: values, s => do
    let next ← Size.sumSized column 1
    match ← s.extendColumnsSized next with
    | none => return (false, s)
    | some s =>
      match s.columns.slots[column]? with
      | none => return (false, s)
      | some c => fillRowSized slot next values { s with cells := s.cells.put slot c (some value) }

/-- Fills values into the column of a slot: the count of rows up to each of them has to be a size,
and the rows are extended with their numbers sized. -/
def fillColumnSized (slot : Nat) : Nat → List α → Store α → Except Excess (Bool × Store α)
  | _, [], s => .ok (true, s)
  | row, value :: values, s => do
    let next ← Size.sumSized row 1
    match ← s.extendRowsSized next with
    | none => return (false, s)
    | some s =>
      match s.rows.slots[row]? with
      | none => return (false, s)
      | some r => fillColumnSized slot next values { s with cells := s.cells.put r slot (some value) }

/-- Inserts a row, with the extension of the rows, the insertion and the filling sized. -/
def insertRowSized (s : Store α) (row : Nat) (values : List α) :
    Except Excess (Option Nat × Store α) := do
  match ← s.extendRowsSized row with
  | none => return (none, s)
  | some s =>
    match ← s.rows.insertSized row with
    | none => return (none, s)
    | some (slot, rows) =>
      match ← fillRowSized slot 0 values (s.withRows rows) with
      | (true, s) => return (some row, s)
      | (false, s) => return (none, s)

/-- Inserts a column, with the extension of the columns, the insertion and the filling sized. -/
def insertColumnSized (s : Store α) (column : Nat) (values : List α) :
    Except Excess (Option Nat × Store α) := do
  match ← s.extendColumnsSized column with
  | none => return (none, s)
  | some s =>
    match ← s.columns.insertSized column with
    | none => return (none, s)
    | some (slot, columns) =>
      match ← fillColumnSized slot 0 values (s.withColumns columns) with
      | (true, s) => return (some column, s)
      | (false, s) => return (none, s)

/-- Packs the rows: halving has to end within its rounds, and every slot that the packing loop looks
up has to have a number. -/
def packRowsSized (s : Store α) : Except Excess (Store α) := do
  match ← s.rows.packSized with
  | none => return s
  | some (moves, rows) =>
    let cells := moves.foldl (fun cells m => cells.swapRows m.source m.target) s.cells
    return { s with cells := cells.takeRows rows.capacity, rows }

/-- Packs the columns: halving has to end within its rounds, and every slot that the packing loop
looks up has to have a number. -/
def packColumnsSized (s : Store α) : Except Excess (Store α) := do
  match ← s.columns.packSized with
  | none => return s
  | some (moves, columns) =>
    let cells := moves.foldl (fun cells m => cells.swapColumns m.source m.target) s.cells
    return { s with cells := cells.takeColumns columns.capacity, columns }

/-- Removes a row: its slot has to have a number, the slots that are counted after its release have
to be a size, and packing is sized. -/
def removeRowSized (s : Store α) (row : Nat) :
    Except Excess (Option (List (Option α)) × Store α) := do
  match ← s.rows.slotSized row with
  | none => return (none, s)
  | some r =>
    let removed := s.columns.slots.toList.map fun c => s.cells.get r c
    let cells := s.columns.slots.foldl (fun cells c => cells.put r c none) s.cells
    let rows ← s.rows.removeSized row r
    return (some removed, ← packRowsSized { s with cells, rows })

/-- Removes a column: its slot has to have a number, the slots that are counted after its release
have to be a size, and packing is sized. -/
def removeColumnSized (s : Store α) (column : Nat) :
    Except Excess (Option (List (Option α)) × Store α) := do
  match ← s.columns.slotSized column with
  | none => return (none, s)
  | some c =>
    let removed := s.rows.slots.toList.map fun r => s.cells.get r c
    let cells := s.rows.slots.foldl (fun cells r => cells.put r c none) s.cells
    let columns ← s.columns.removeSized column c
    return (some removed, ← packColumnsSized { s with cells, columns })

/-- Performs an edit with every number sized. -/
def applySized (s : Store α) : Edit α → Except Excess (Edit.Answer α × Store α)
  | .addRow values => return (← s.insertRowSized s.rowCount values).map .position id
  | .addColumn values => return (← s.insertColumnSized s.columnCount values).map .position id
  | .insertRow row values => return (← s.insertRowSized row values).map .position id
  | .insertColumn column values => return (← s.insertColumnSized column values).map .position id
  | .set row column value => return (← s.setSized row column value).map .content id
  | .unset row column => return (← s.unsetSized row column).map .content id
  | .removeRow row => return (← s.removeRowSized row).map .line id
  | .removeColumn column => return (← s.removeColumnSized column).map .line id
  | .clear => return (.done, ← withCapacitySized s.initialRows s.initialColumns)

/-- Performs a list of edits with every number sized, up to the first excess. -/
def runSized (s : Store α) (edits : List (Edit α)) : Except Excess (Store α) :=
  edits.foldlM (fun s edit => return (← s.applySized edit).2) s

/-! ## No number is too large -/

/-- Capacities up to the largest power of two are rounded to sizes. -/
theorem withCapacitySized_of_le {rows columns : Nat} (hr : rows ≤ Capacity.largest)
    (hc : columns ≤ Capacity.largest) :
    (withCapacitySized rows columns : Except Excess (Store α)) = .ok (withCapacity rows columns) := by
  unfold withCapacitySized
  rw [Capacity.roundedSized_of_le hr, Capacity.roundedSized_of_le hc]
  rfl

section Within

variable {m n : Nat} {s : Store α} (h : s.Within m n)
include h

/-- The slot of a row has a number. -/
theorem Within.slotSized_rows (row : Nat) : s.rows.slotSized row = .ok s.rows.slots[row]? :=
  h.rows.slotSized h.rows.capacity.le_slotNumbers row

/-- The slot of a column has a number. -/
theorem Within.slotSized_columns (column : Nat) :
    s.columns.slotSized column = .ok s.columns.slots[column]? :=
  h.columns.slotSized h.columns.capacity.le_slotNumbers column

/-- Reading a cell is never too large. -/
theorem Within.getSized (row column : Nat) : s.getSized row column = .ok (s.get? row column) := by
  unfold Store.getSized get?
  rw [h.slotSized_rows, Excess.ok_bind, h.slotSized_columns]
  cases s.rows.slots[row]? with
  | none => rfl
  | some r => cases s.columns.slots[column]? <;> rfl

/-- Reading a row is never too large. -/
theorem Within.rowSized (row : Nat) : s.rowSized row = .ok (s.row? row) := by
  unfold Store.rowSized row?
  rw [h.slotSized_rows, Excess.ok_bind]
  cases s.rows.slots[row]? <;> rfl

/-- Reading a column is never too large. -/
theorem Within.columnSized (column : Nat) : s.columnSized column = .ok (s.column? column) := by
  unfold Store.columnSized column?
  rw [h.slotSized_columns, Excess.ok_bind]
  cases s.columns.slots[column]? <;> rfl

/-- Extending the rows is never too large, to any count. -/
theorem Within.extendRowsSized (count : Nat) :
    s.extendRowsSized count = .ok (s.extendRows count) := by
  unfold Store.extendRowsSized
  rw [h.rows.extendSized]
  rfl

/-- Extending the columns is never too large, to any count. -/
theorem Within.extendColumnsSized (count : Nat) :
    s.extendColumnsSized count = .ok (s.extendColumns count) := by
  unfold Store.extendColumnsSized
  rw [h.columns.extendSized]
  rfl

/-- A write is never too large: what is too far is refused before anything is added to it. -/
theorem Within.setSized (row column : Nat) (value : α) :
    s.setSized row column value = .ok (s.set row column value) := by
  unfold Store.setSized Store.set
  split
  · rfl
  · next near =>
    -- Only here are positions bounded: one more than a position is a size from here on.
    simp only [Capacity.maxSlots] at near
    rw [Size.sumSized_eq (by omega) (by decide), Excess.ok_bind, h.extendRowsSized,
      Excess.ok_bind]
    cases extended : s.extendRows (row + 1) with
    | none => rfl
    | some s₁ =>
      have within := h.extendRows extended
      dsimp only
      rw [Size.sumSized_eq (by omega) (by decide), Excess.ok_bind,
        within.extendColumnsSized, Excess.ok_bind]
      cases s₁.extendColumns (column + 1) with
      | none => rfl
      | some s₂ => rfl

/-- Emptying a cell is never too large. -/
theorem Within.unsetSized (row column : Nat) :
    s.unsetSized row column = .ok (s.unset row column) := by
  unfold Store.unsetSized unset Store.exchange
  rw [h.slotSized_rows, Excess.ok_bind, h.slotSized_columns]
  cases s.rows.slots[row]? with
  | none => rfl
  | some r => cases s.columns.slots[column]? <;> rfl

/-- The columns that are filled are counted as long as they are columns of the store. -/
theorem Within.fillRowSized (slot : Nat) {column : Nat} (inside : column ≤ s.columnCount)
    (values : List α) :
    fillRowSized slot column values s = .ok (Store.fillRow slot column values s) := by
  induction values generalizing s column with
  | nil => rfl
  | cons value values ih =>
    have le : column ≤ Capacity.slotNumbers :=
      Nat.le_trans inside (Nat.le_trans h.columns.size_le h.columns.capacity.limit_le)
    rw [Store.fillRowSized, Store.fillRow, Size.sumSized_eq le (by decide), Excess.ok_bind,
      h.extendColumnsSized, Excess.ok_bind]
    cases extended : s.extendColumns (column + 1) with
    | none => rfl
    | some s' =>
      have within := h.extendColumns extended
      have reached := (grown_extendColumns extended).2
      dsimp only
      cases s'.columns.slots[column]? with
      | none => rfl
      -- The store now has the column, which carries the induction to the next value.
      | some c => exact ih (within.withCells _) reached

/-- The rows that are filled are counted as long as they are rows of the store. -/
theorem Within.fillColumnSized (slot : Nat) {row : Nat} (inside : row ≤ s.rowCount)
    (values : List α) :
    fillColumnSized slot row values s = .ok (Store.fillColumn slot row values s) := by
  induction values generalizing s row with
  | nil => rfl
  | cons value values ih =>
    have le : row ≤ Capacity.slotNumbers :=
      Nat.le_trans inside (Nat.le_trans h.rows.size_le h.rows.capacity.limit_le)
    rw [Store.fillColumnSized, Store.fillColumn, Size.sumSized_eq le (by decide), Excess.ok_bind,
      h.extendRowsSized, Excess.ok_bind]
    cases extended : s.extendRows (row + 1) with
    | none => rfl
    | some s' =>
      have within := h.extendRows extended
      have reached := (grown_extendRows extended).2
      dsimp only
      cases s'.rows.slots[row]? with
      | none => rfl
      | some r => exact ih (within.withCells _) reached

/-- Inserting a row is never too large, at any position and with any values. -/
theorem Within.insertRowSized (row : Nat) (values : List α) :
    s.insertRowSized row values = .ok (s.insertRow row values) := by
  unfold Store.insertRowSized Store.insertRow
  rw [h.extendRowsSized, Excess.ok_bind]
  cases extended : s.extendRows row with
  | none => rfl
  | some s₁ =>
    have within := h.extendRows extended
    have inside := (grown_extendRows extended).2
    dsimp only
    rw [within.rows.insertSized, Excess.ok_bind]
    cases inserted : s₁.rows.insert row with
    | none => rfl
    | some result =>
      obtain ⟨slot, b⟩ := result
      -- The new row is filled from the first column on, which is inside whatever the store is.
      have within' := within.withRows (within.rows.insert inside inserted)
      dsimp only
      rw [within'.fillRowSized slot (Nat.zero_le _), Excess.ok_bind]
      generalize Store.fillRow slot 0 values (s₁.withRows b) = outcome
      obtain ⟨flag, s'⟩ := outcome
      cases flag <;> rfl

/-- Inserting a column is never too large, at any position and with any values. -/
theorem Within.insertColumnSized (column : Nat) (values : List α) :
    s.insertColumnSized column values = .ok (s.insertColumn column values) := by
  unfold Store.insertColumnSized Store.insertColumn
  rw [h.extendColumnsSized, Excess.ok_bind]
  cases extended : s.extendColumns column with
  | none => rfl
  | some s₁ =>
    have within := h.extendColumns extended
    have inside := (grown_extendColumns extended).2
    dsimp only
    rw [within.columns.insertSized, Excess.ok_bind]
    cases inserted : s₁.columns.insert column with
    | none => rfl
    | some result =>
      obtain ⟨slot, b⟩ := result
      have within' := within.withColumns (within.columns.insert inside inserted)
      dsimp only
      rw [within'.fillColumnSized slot (Nat.zero_le _), Excess.ok_bind]
      generalize Store.fillColumn slot 0 values (s₁.withColumns b) = outcome
      obtain ⟨flag, s'⟩ := outcome
      cases flag <;> rfl

/-- Packing the rows is never too large. -/
theorem Within.packRowsSized : s.packRowsSized = .ok s.packRows := by
  unfold Store.packRowsSized Store.packRows
  rw [h.rows.packSized, Excess.ok_bind]
  by_cases due : s.rows.packingDue = true
  · rw [if_pos due, if_pos due]
    rfl
  · rw [if_neg due, if_neg due]
    rfl

/-- Packing the columns is never too large. -/
theorem Within.packColumnsSized : s.packColumnsSized = .ok s.packColumns := by
  unfold Store.packColumnsSized Store.packColumns
  rw [h.columns.packSized, Excess.ok_bind]
  by_cases due : s.columns.packingDue = true
  · rw [if_pos due, if_pos due]
    rfl
  · rw [if_neg due, if_neg due]
    rfl

/-- Removing a row is never too large, whether or not it is there. -/
theorem Within.removeRowSized (row : Nat) :
    s.removeRowSized row = .ok (s.removeRow row) := by
  unfold Store.removeRowSized Store.removeRow
  rw [h.slotSized_rows, Excess.ok_bind]
  cases found : s.rows.slots[row]? with
  | none => rfl
  | some r =>
    dsimp only
    rw [h.rows.removeSized found, Excess.ok_bind]
    -- The store that is packed is the one without the row, which is within its limits.
    have packed := (h.withoutRow found).packRowsSized
    unfold Store.withoutRow at packed
    rw [packed]
    rfl

/-- Removing a column is never too large, whether or not it is there. -/
theorem Within.removeColumnSized (column : Nat) :
    s.removeColumnSized column = .ok (s.removeColumn column) := by
  unfold Store.removeColumnSized Store.removeColumn
  rw [h.slotSized_columns, Excess.ok_bind]
  cases found : s.columns.slots[column]? with
  | none => rfl
  | some c =>
    dsimp only
    rw [h.columns.removeSized found, Excess.ok_bind]
    have packed := (h.withoutColumn found).packColumnsSized
    unfold Store.withoutColumn at packed
    rw [packed]
    rfl

/-- The initial capacities are small enough to be rounded once more. -/
theorem Within.clearSized :
    withCapacitySized s.initialRows s.initialColumns = .ok s.clear := by
  have rows := h.initialRows.le_slotNumbers
  have columns := h.initialColumns.le_slotNumbers
  exact withCapacitySized_of_le (Nat.le_trans rows (by decide)) (Nat.le_trans columns (by decide))

/-- No number is too large for an edit, and the edit does what it does on unlimited numbers. -/
theorem Within.applySized (e : Edit α) : s.applySized e = .ok (s.apply e) := by
  cases e with
  | addRow values =>
    rw [Store.applySized, h.insertRowSized]
    rfl
  | addColumn values =>
    rw [Store.applySized, h.insertColumnSized]
    rfl
  | insertRow row values =>
    rw [Store.applySized, h.insertRowSized]
    rfl
  | insertColumn column values =>
    rw [Store.applySized, h.insertColumnSized]
    rfl
  | set row column value =>
    rw [Store.applySized, h.setSized]
    rfl
  | unset row column =>
    rw [Store.applySized, h.unsetSized]
    rfl
  | removeRow row =>
    rw [Store.applySized, h.removeRowSized]
    rfl
  | removeColumn column =>
    rw [Store.applySized, h.removeColumnSized]
    rfl
  | clear =>
    rw [Store.applySized, h.clearSized]
    rfl

/-- A run is never too large. -/
theorem Within.runSized (edits : List (Edit α)) : s.runSized edits = .ok (s.run edits) := by
  induction edits generalizing s with
  | nil => rfl
  | cons e edits ih =>
    unfold Store.runSized
    rw [List.foldlM_cons, h.applySized]
    exact ih (h.apply e)

end Within

/-! ## The states of a run -/

/-- No run from capacities up to `maxSlots` meets a number that is too large, neither in an edit, of
whatever positions and values, nor in a read of its last state. The lines and the slots of either
axis are at most `maxSlots`. -/
theorem run_never_exceeds {rows columns : Nat} (hr : rows ≤ Capacity.maxSlots)
    (hc : columns ≤ Capacity.maxSlots) (edits : List (Edit α)) :
    let start : Store α := withCapacity rows columns
    let s := start.run edits
    (withCapacitySized rows columns = .ok start ∧ start.runSized edits = .ok s) ∧
      (s.rowCount ≤ Capacity.maxSlots ∧ s.columnCount ≤ Capacity.maxSlots) ∧
      (s.rowCapacity ≤ Capacity.maxSlots ∧ s.columnCapacity ≤ Capacity.maxSlots) ∧
      s.cellCountSized = .ok s.cellCount ∧
      (∀ row column, s.getSized row column = .ok (s.get? row column)) ∧
      (∀ row, s.rowSized row = .ok (s.row? row)) ∧
      ∀ column, s.columnSized column = .ok (s.column? column) := by
  intro start s
  have numbers : Capacity.maxSlots ≤ Capacity.slotNumbers := by decide
  have empty : start.Within Capacity.maxSlots Capacity.maxSlots := by
    have within : start.Within (Capacity.limit rows) (Capacity.limit columns) :=
      within_withCapacity (Nat.le_trans hr numbers) (Nat.le_trans hc numbers)
    rwa [Capacity.limit_of_le hr, Capacity.limit_of_le hc] at within
  have h : s.Within Capacity.maxSlots Capacity.maxSlots := empty.run edits
  have rounded : Capacity.maxSlots ≤ Capacity.largest := by decide
  refine ⟨⟨?_, empty.runSized edits⟩, ⟨h.rows.size_le, h.columns.size_le⟩,
    ⟨h.rows.capacity.le_limit, h.columns.capacity.le_limit⟩, ?_, h.getSized, h.rowSized, h.columnSized⟩
  · exact withCapacitySized_of_le (Nat.le_trans hr rounded) (Nat.le_trans hc rounded)
  · exact Size.productSized_eq h.rows.size_le h.columns.size_le

/-- Positions as large as any size are refused without being added to. -/
theorem run_never_exceeds_far :
    let far : List (Edit Nat) := [.set Size.max 0 1, .insertRow Size.max [2], .removeRow Size.max]
    withCapacitySized 1 2 = .ok (withCapacity 1 2 : Store Nat) ∧
      (withCapacity 1 2).runSized (churn ++ far) = .ok ((withCapacity 1 2).run (churn ++ far)) := by
  have capacity : 1 ≤ Capacity.maxSlots ∧ 2 ≤ Capacity.maxSlots := by decide
  exact (run_never_exceeds capacity.1 capacity.2 _).1

end Tabular.Store
