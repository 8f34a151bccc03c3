import Tabular.Proofs.Store.CheckedAxis
import Tabular.Proofs.Store.Run

/-!
# Checked operations of a store

The reads and the edits of a store with every index into the slots and the backing cells checked,
and every assertion made. On a well-formed store no check fails and the outcome is that of the plain
operation, so a run from an empty store never meets a fault.
-/

namespace Tabular

/-! ## Cells -/

namespace Cells

variable {α : Type} {c : Cells α} {rows columns : Nat}

/-- A line of cells, which has to be there. -/
def lineChecked (c : Cells α) (row : Nat) : Except Fault (Array (Option α)) :=
  match c.lines[row]? with
  | none => .error .cell
  | some lane => .ok lane

/-- The content of a cell of a line, which has to be there. -/
def cellChecked (lane : Array (Option α)) (column : Nat) : Except Fault (Option α) :=
  match lane[column]? with
  | none => .error .cell
  | some content => .ok content

/-- The content of a cell, which has to be there. -/
def getChecked (c : Cells α) (row column : Nat) : Except Fault (Option α) := do
  let lane ← c.lineChecked row
  cellChecked lane column

/-- A write to a cell, which has to be there. -/
def putChecked (c : Cells α) (row column : Nat) (content : Option α) : Except Fault (Cells α) := do
  let lane ← c.lineChecked row
  if column < lane.size then return c.put row column content else throw .cell

/-- Empties cells one after the other and returns what they held. -/
def takeChecked : List (Nat × Nat) → Cells α → Except Fault (List (Option α) × Cells α)
  | [], c => .ok ([], c)
  | (row, column) :: rest, c => do
    let content ← c.getChecked row column
    let c ← c.putChecked row column none
    let (contents, c) ← takeChecked rest c
    return (content :: contents, c)

/-- An exchange of two rows, which have to be there. -/
def swapRowsChecked (c : Cells α) (move : Axis.Move) : Except Fault (Cells α) :=
  if move.source < c.lines.size ∧ move.target < c.lines.size then
    .ok (c.swapRows move.source move.target)
  else .error .cell

/-- An exchange of two cells in every row, which have to be there. -/
def swapColumnsChecked (c : Cells α) (move : Axis.Move) : Except Fault (Cells α) :=
  if c.lines.all fun lane => move.source < lane.size && move.target < lane.size then
    .ok (c.swapColumns move.source move.target)
  else .error .cell

/-- A line within the rectangle is in bounds. -/
theorem Shaped.lineChecked (h : c.Shaped rows columns) {row : Nat} (hr : row < rows) :
    ∃ lane, c.lineChecked row = .ok lane ∧ c.lines[row]? = some lane ∧ lane.size = columns := by
  rw [← h.size_lines] at hr
  have found : c.lines[row]? = some c.lines[row] := Array.getElem?_eq_getElem hr
  refine ⟨_, ?_, found, h.size_line row _ found⟩
  unfold Cells.lineChecked
  rw [found]

/-- A read within the rectangle is in bounds. -/
theorem Shaped.getChecked (h : c.Shaped rows columns) {row column : Nat} (hr : row < rows)
    (hc : column < columns) : c.getChecked row column = .ok (c.get row column) := by
  obtain ⟨lane, checked, found, size⟩ := h.lineChecked hr
  have at_column : lane[column]? = some lane[column] := Array.getElem?_eq_getElem (by omega)
  unfold Cells.getChecked
  rw [checked, get_eq, found]
  show cellChecked lane column = .ok (lane[column]?.join)
  unfold cellChecked
  rw [at_column]
  rfl

/-- A write within the rectangle is in bounds. -/
theorem Shaped.putChecked (h : c.Shaped rows columns) {row column : Nat} (hr : row < rows)
    (hc : column < columns) (content : Option α) :
    c.putChecked row column content = .ok (c.put row column content) := by
  obtain ⟨lane, checked, -, size⟩ := h.lineChecked hr
  unfold Cells.putChecked
  rw [checked]
  exact if_pos (by omega)

/-- Different cells are emptied without one of them showing in what another held. -/
theorem Shaped.takeChecked (h : c.Shaped rows columns) {emptied : List (Nat × Nat)}
    (nodup : emptied.Nodup) (inside : ∀ k ∈ emptied, k.1 < rows ∧ k.2 < columns) :
    takeChecked emptied c = .ok (emptied.map fun k => c.get k.1 k.2,
      emptied.foldl (fun cells k => cells.put k.1 k.2 none) c) := by
  induction emptied generalizing c with
  | nil => rfl
  | cons first rest ih =>
    obtain ⟨row, column⟩ := first
    obtain ⟨hr, hc⟩ := inside (row, column) List.mem_cons_self
    obtain ⟨fresh, nodup⟩ := List.nodup_cons.1 nodup
    have later := ih (h.put row column none) nodup fun k mem =>
      inside k (List.mem_cons_of_mem _ mem)
    -- The first cell is not among the others, so they still hold what they held.
    have same : (rest.map fun k => (c.put row column none).get k.1 k.2)
        = rest.map fun k => c.get k.1 k.2 := by
      refine List.map_congr_left fun k mem => ?_
      rw [(h.within hr hc).get_put, if_neg]
      rintro ⟨rfl, rfl⟩
      exact fresh mem
    unfold Cells.takeChecked
    rw [h.getChecked hr hc, h.putChecked hr hc]
    show (do
      let (contents, cells) ← Cells.takeChecked rest (c.put row column none)
      return (c.get row column :: contents, cells)) = _
    rw [later, same]
    rfl

/-- Exchanges of lines within the rectangle are in bounds, one after the other. -/
theorem Shaped.foldlM_swapRowsChecked (h : c.Shaped rows columns) {moves : List Axis.Move}
    (inside : ∀ m ∈ moves, m.source < rows ∧ m.target < rows) :
    moves.foldlM swapRowsChecked c
      = .ok (moves.foldl (fun cells m => cells.swapRows m.source m.target) c) := by
  induction moves generalizing c with
  | nil => rfl
  | cons first rest ih =>
    obtain ⟨hs, ht⟩ := inside first List.mem_cons_self
    have step : c.swapRowsChecked first = .ok (c.swapRows first.source first.target) := by
      unfold swapRowsChecked
      rw [h.size_lines]
      exact if_pos ⟨hs, ht⟩
    rw [List.foldlM_cons, step]
    exact ih (h.swapRows hs ht) fun m mem => inside m (List.mem_cons_of_mem _ mem)

/-- Exchanges of columns within the rectangle are in bounds, one after the other. -/
theorem Shaped.foldlM_swapColumnsChecked (h : c.Shaped rows columns) {moves : List Axis.Move}
    (inside : ∀ m ∈ moves, m.source < columns ∧ m.target < columns) :
    moves.foldlM swapColumnsChecked c
      = .ok (moves.foldl (fun cells m => cells.swapColumns m.source m.target) c) := by
  induction moves generalizing c with
  | nil => rfl
  | cons first rest ih =>
    obtain ⟨hs, ht⟩ := inside first List.mem_cons_self
    have wide : (c.lines.all fun lane => first.source < lane.size && first.target < lane.size)
        = true := by
      rw [Array.all_eq_true]
      intro i lt
      have size := h.size_line i _ (Array.getElem?_eq_getElem lt)
      rw [size, decide_eq_true hs, decide_eq_true ht]
      rfl
    have step : c.swapColumnsChecked first = .ok (c.swapColumns first.source first.target) :=
      if_pos wide
    rw [List.foldlM_cons, step]
    exact ih (h.swapColumns _ _) fun m mem => inside m (List.mem_cons_of_mem _ mem)

end Cells

namespace Store

variable {α : Type} {s : Store α}

/-! ## Reads -/

/-- Reads a cell: the slots of both positions are asserted to be active, and the cell behind them
has to be there. -/
def getChecked (s : Store α) (row column : Nat) : Except Fault (Option α) := do
  match ← s.rows.slotChecked row with
  | none => return none
  | some r =>
    match ← s.columns.slotChecked column with
    | none => return none
    | some c => s.cells.getChecked r c

/-- Reads a row: its slot is asserted to be active, its line has to be there, and so does the cell
of each column in it. -/
def rowChecked (s : Store α) (row : Nat) : Except Fault (Option (List (Option α))) := do
  match ← s.rows.slotChecked row with
  | none => return none
  | some r =>
    let lane ← s.cells.lineChecked r
    return some (← s.columns.slots.toList.mapM fun c => Cells.cellChecked lane c)

/-- Reads a column: its slot is asserted to be active, and the cell of each row has to be there. -/
def columnChecked (s : Store α) (column : Nat) : Except Fault (Option (List (Option α))) := do
  match ← s.columns.slotChecked column with
  | none => return none
  | some c => return some (← s.rows.slots.toList.mapM fun r => s.cells.getChecked r c)

/-! ## Edits -/

/-- Writes a cell: after the axes are extended, both positions are indexed without looking, and the
cell behind them has to be there for the read of the old content and for the write. -/
def setChecked (s : Store α) (row column : Nat) (value : α) :
    Except Fault (Option α × Store α) :=
  if Capacity.maxSlots ≤ row ∨ Capacity.maxSlots ≤ column then .ok (none, s)
  else
    match s.extendRows (row + 1) with
    | none => .ok (none, s)
    | some s =>
      match s.extendColumns (column + 1) with
      | none => .ok (none, s)
      | some s => do
        let r ← s.rows.indexChecked row
        let c ← s.columns.indexChecked column
        let old ← s.cells.getChecked r c
        let cells ← s.cells.putChecked r c (some value)
        return (old, { s with cells })

/-- Empties a cell: the slots of both positions are asserted to be active, and the cell behind them
has to be there for the read and for the write. -/
def unsetChecked (s : Store α) (row column : Nat) : Except Fault (Option α × Store α) := do
  match ← s.rows.slotChecked row with
  | none => return (none, s)
  | some r =>
    match ← s.columns.slotChecked column with
    | none => return (none, s)
    | some c =>
      let old ← s.cells.getChecked r c
      let cells ← s.cells.putChecked r c none
      return (old, { s with cells })

/-- Fills values into the row of a slot: for each of them, the column is indexed without looking
after the columns are extended, and the cell has to be there. -/
def fillRowChecked (slot : Nat) : Nat → List α → Store α → Except Fault (Bool × Store α)
  | _, [], s => .ok (true, s)
  | column, value :: values, s =>
    match s.extendColumns (column + 1) with
    | none => .ok (false, s)
    | some s => do
      let c ← s.columns.indexChecked column
      let cells ← s.cells.putChecked slot c (some value)
      fillRowChecked slot (column + 1) values { s with cells }

/-- Fills values into the column of a slot: for each of them, the row is indexed without looking
after the rows are extended, and the cell has to be there. -/
def fillColumnChecked (slot : Nat) : Nat → List α → Store α → Except Fault (Bool × Store α)
  | _, [], s => .ok (true, s)
  | row, value :: values, s =>
    match s.extendRows (row + 1) with
    | none => .ok (false, s)
    | some s => do
      let r ← s.rows.indexChecked row
      let cells ← s.cells.putChecked r slot (some value)
      fillColumnChecked slot (row + 1) values { s with cells }

/-- Inserts a row: its position must be at most the end of the extended rows, and the checks of
filling are made. -/
def insertRowChecked (s : Store α) (row : Nat) (values : List α) :
    Except Fault (Option Nat × Store α) :=
  match s.extendRows row with
  | none => .ok (none, s)
  | some s => do
    match ← s.rows.insertChecked row with
    | none => return (none, s)
    | some (slot, rows) =>
      match ← fillRowChecked slot 0 values (s.withRows rows) with
      | (true, s) => return (some row, s)
      | (false, s) => return (none, s)

/-- Inserts a column: its position must be at most the end of the extended columns, and the checks
of filling are made. -/
def insertColumnChecked (s : Store α) (column : Nat) (values : List α) :
    Except Fault (Option Nat × Store α) :=
  match s.extendColumns column with
  | none => .ok (none, s)
  | some s => do
    match ← s.columns.insertChecked column with
    | none => return (none, s)
    | some (slot, columns) =>
      match ← fillColumnChecked slot 0 values (s.withColumns columns) with
      | (true, s) => return (some column, s)
      | (false, s) => return (none, s)

/-- Packs the rows: each moved slot must have a position in the table, and both lines of each
exchange have to be there. -/
def packRowsChecked (s : Store α) : Except Fault (Store α) :=
  if s.rows.packingDue then do
    let rows ← s.rows.packChecked
    let cells ← s.rows.packingMoves.foldlM Cells.swapRowsChecked s.cells
    return { s with rows, cells := cells.takeRows s.rows.packedCapacity }
  else .ok s

/-- Packs the columns: each moved slot must have a position in the table, and both cells of each
exchange have to be there in every line. -/
def packColumnsChecked (s : Store α) : Except Fault (Store α) :=
  if s.columns.packingDue then do
    let columns ← s.columns.packChecked
    let cells ← s.columns.packingMoves.foldlM Cells.swapColumnsChecked s.cells
    return { s with columns, cells := cells.takeColumns s.columns.packedCapacity }
  else .ok s

/-- Removes a row: its slot is asserted to be active, each cell that is emptied has to be there, no
slot may be lost when this one is released, and the checks of packing are made. -/
def removeRowChecked (s : Store α) (row : Nat) :
    Except Fault (Option (List (Option α)) × Store α) := do
  match ← s.rows.slotChecked row with
  | none => return (none, s)
  | some r =>
    let (removed, cells) ← Cells.takeChecked (s.columns.slots.toList.map fun c => (r, c)) s.cells
    let rows ← s.rows.removeChecked row r
    return (some removed, ← packRowsChecked { s with cells, rows })

/-- Removes a column: its slot is asserted to be active, each cell that is emptied has to be there,
no slot may be lost when this one is released, and the checks of packing are made. -/
def removeColumnChecked (s : Store α) (column : Nat) :
    Except Fault (Option (List (Option α)) × Store α) := do
  match ← s.columns.slotChecked column with
  | none => return (none, s)
  | some c =>
    let (removed, cells) ← Cells.takeChecked (s.rows.slots.toList.map fun r => (r, c)) s.cells
    let columns ← s.columns.removeChecked column c
    return (some removed, ← packColumnsChecked { s with cells, columns })

/-- Performs an edit with every check made. -/
def applyChecked (s : Store α) : Edit α → Except Fault (Edit.Answer α × Store α)
  | .addRow values => return (← s.insertRowChecked s.rowCount values).map .position id
  | .addColumn values => return (← s.insertColumnChecked s.columnCount values).map .position id
  | .insertRow row values => return (← s.insertRowChecked row values).map .position id
  | .insertColumn column values => return (← s.insertColumnChecked column values).map .position id
  | .set row column value => return (← s.setChecked row column value).map .content id
  | .unset row column => return (← s.unsetChecked row column).map .content id
  | .removeRow row => return (← s.removeRowChecked row).map .line id
  | .removeColumn column => return (← s.removeColumnChecked column).map .line id
  | .clear => return (.done, s.clear)

/-- Performs a list of edits with every check made, up to the first fault. -/
def runChecked (s : Store α) (edits : List (Edit α)) : Except Fault (Store α) :=
  edits.foldlM (fun s edit => return (← s.applyChecked edit).2) s

/-! ## No read faults -/

/-- The backing cell behind two positions is within the rectangle. -/
theorem WellFormed.inside (h : s.WellFormed) {row column r c : Nat}
    (found : s.rows.slots[row]? = some r) (found' : s.columns.slots[column]? = some c) :
    r < s.rows.capacity ∧ c < s.columns.capacity :=
  ⟨h.rows.lt_capacity found, h.columns.lt_capacity found'⟩

/-- Reading a cell meets no fault. -/
theorem WellFormed.getChecked (h : s.WellFormed) (row column : Nat) :
    s.getChecked row column = .ok (s.get? row column) := by
  unfold Store.getChecked get?
  rw [h.rows.slotChecked, h.columns.slotChecked]
  cases found : s.rows.slots[row]? with
  | none => rfl
  | some r =>
    cases found' : s.columns.slots[column]? with
    | none => rfl
    | some c =>
      obtain ⟨hr, hc⟩ := h.inside found found'
      exact h.shaped.getChecked hr hc

/-- Steps of which none fails give all their results. -/
theorem mapM_of_ok {β γ : Type} {f : β → Except Fault γ} {g : β → γ} {xs : List β}
    (ok : ∀ x ∈ xs, f x = .ok (g x)) : xs.mapM f = .ok (xs.map g) := by
  induction xs with
  | nil => rfl
  | cons x xs ih =>
    have rest := ih fun y mem => ok y (List.mem_cons_of_mem _ mem)
    rw [List.mapM_cons, ok x List.mem_cons_self, rest]
    rfl

/-- Reading a row meets no fault. -/
theorem WellFormed.rowChecked (h : s.WellFormed) (row : Nat) :
    s.rowChecked row = .ok (s.row? row) := by
  unfold Store.rowChecked row?
  rw [h.rows.slotChecked]
  cases found : s.rows.slots[row]? with
  | none => rfl
  | some r =>
    obtain ⟨lane, checked, at_r, size⟩ := h.shaped.lineChecked (h.rows.lt_capacity found)
    -- The line is as long as the capacity, and every column slot is below it.
    have cells : s.columns.slots.toList.mapM (fun c => Cells.cellChecked lane c)
        = .ok (s.columns.slots.toList.map fun c => s.cells.get r c) := by
      refine mapM_of_ok fun c mem => ?_
      have lt := h.columns.lt_highWater mem
      have le := h.columns.highWater_le
      have at_c : lane[c]? = some lane[c] := Array.getElem?_eq_getElem (by omega)
      unfold Cells.cellChecked
      rw [Cells.get_eq, at_r, Option.bind_some, at_c]
      rfl
    show (do
      let lane ← s.cells.lineChecked r
      return some (← s.columns.slots.toList.mapM fun c => Cells.cellChecked lane c)) = _
    rw [checked]
    show (do return some (← s.columns.slots.toList.mapM fun c => Cells.cellChecked lane c)) = _
    rw [cells]
    rfl

/-- Reading a column meets no fault. -/
theorem WellFormed.columnChecked (h : s.WellFormed) (column : Nat) :
    s.columnChecked column = .ok (s.column? column) := by
  unfold Store.columnChecked column?
  rw [h.columns.slotChecked]
  cases found : s.columns.slots[column]? with
  | none => rfl
  | some c =>
    have cells : s.rows.slots.toList.mapM (fun r => s.cells.getChecked r c)
        = .ok (s.rows.slots.toList.map fun r => s.cells.get r c) := by
      refine mapM_of_ok fun r mem => ?_
      have lt := h.rows.lt_highWater mem
      have le := h.rows.highWater_le
      exact h.shaped.getChecked (by omega) (h.columns.lt_capacity found)
    show (do return some (← s.rows.slots.toList.mapM fun r => s.cells.getChecked r c)) = _
    rw [cells]
    rfl

/-! ## No edit faults -/

/-- Writing a cell meets no fault: both positions are there after the axes are extended. -/
theorem WellFormed.setChecked (h : s.WellFormed) (row column : Nat) (value : α) :
    s.setChecked row column value = .ok (s.set row column value) := by
  unfold Store.setChecked Store.set
  split
  · rfl
  · cases extended : s.extendRows (row + 1) with
    | none => rfl
    | some s₁ =>
      have holds := (h.of_extendRows extended).1
      dsimp only
      cases extended' : s₁.extendColumns (column + 1) with
      | none => rfl
      | some s₂ =>
        obtain ⟨holds', rows, -⟩ := holds.wellFormed.of_extendColumns extended'
        -- Both axes now have the position, so both have a slot to index with.
        have inRows : row < s₂.rowCount := by
          rw [holds'.rowCount, holds.rowCount]
          omega
        have inColumns : column < s₂.columnCount := by
          rw [holds'.columnCount]
          omega
        obtain ⟨r, found⟩ := s₂.rows.exists_found inRows
        obtain ⟨c, found'⟩ := s₂.columns.exists_found inColumns
        obtain ⟨hr, hc⟩ := holds'.wellFormed.inside found found'
        dsimp only
        rw [Axis.indexChecked_of_found found, Axis.indexChecked_of_found found',
          exchange_of_found found found']
        show (do
          let old ← s₂.cells.getChecked r c
          let cells ← s₂.cells.putChecked r c (some value)
          return (old, { s₂ with cells })) = _
        rw [holds'.wellFormed.shaped.getChecked hr hc, holds'.wellFormed.shaped.putChecked hr hc]
        rfl

/-- Emptying a cell meets no fault. -/
theorem WellFormed.unsetChecked (h : s.WellFormed) (row column : Nat) :
    s.unsetChecked row column = .ok (s.unset row column) := by
  unfold Store.unsetChecked unset Store.exchange
  rw [h.rows.slotChecked, h.columns.slotChecked]
  cases found : s.rows.slots[row]? with
  | none => rfl
  | some r =>
    cases found' : s.columns.slots[column]? with
    | none => rfl
    | some c =>
      obtain ⟨hr, hc⟩ := h.inside found found'
      show (do
        let old ← s.cells.getChecked r c
        let cells ← s.cells.putChecked r c none
        return (old, { s with cells })) = _
      rw [h.shaped.getChecked hr hc, h.shaped.putChecked hr hc]
      rfl

/-- Every value of an inserted row is written within the rectangle. -/
theorem WellFormed.fillRowChecked (h : s.WellFormed) {row slot : Nat}
    (found : s.rows.slots[row]? = some slot) (column : Nat) (values : List α) :
    fillRowChecked slot column values s = .ok (Store.fillRow slot column values s) := by
  induction values generalizing s column with
  | nil => rfl
  | cons value values ih =>
    cases extended : s.extendColumns (column + 1) with
    | none =>
      rw [Store.fillRowChecked, Store.fillRow, extended]
    | some s' =>
      obtain ⟨holds, rows, -⟩ := h.of_extendColumns extended
      have inColumns : column < s'.columnCount := by
        rw [holds.columnCount]
        omega
      have found₁ : s'.rows.slots[row]? = some slot := rows ▸ found
      obtain ⟨c, found'⟩ := s'.columns.exists_found inColumns
      obtain ⟨hr, hc⟩ := holds.wellFormed.inside found₁ found'
      -- A write keeps the invariant, which carries the induction to the next value.
      have wf := holds.wellFormed.exchange row column (some value)
      have next : Store.fillRow slot column (value :: values) s = _ := h.fillRow_cons found extended
      rw [exchange_of_found found₁ found'] at wf next
      rw [Store.fillRowChecked, next, extended]
      dsimp only
      rw [Axis.indexChecked_of_found found']
      show (do
        let cells ← s'.cells.putChecked slot c (some value)
        Store.fillRowChecked slot (column + 1) values { s' with cells }) = _
      rw [holds.wellFormed.shaped.putChecked hr hc]
      exact ih wf found₁ (column + 1)

/-- Every value of an inserted column is written within the rectangle. -/
theorem WellFormed.fillColumnChecked (h : s.WellFormed) {column slot : Nat}
    (found : s.columns.slots[column]? = some slot) (row : Nat) (values : List α) :
    fillColumnChecked slot row values s = .ok (fillColumn slot row values s) := by
  induction values generalizing s row with
  | nil => rfl
  | cons value values ih =>
    cases extended : s.extendRows (row + 1) with
    | none =>
      rw [Store.fillColumnChecked, fillColumn, extended]
    | some s' =>
      obtain ⟨holds, columns, -⟩ := h.of_extendRows extended
      have inRows : row < s'.rowCount := by
        rw [holds.rowCount]
        omega
      have found₁ : s'.columns.slots[column]? = some slot := columns ▸ found
      obtain ⟨r, found'⟩ := s'.rows.exists_found inRows
      obtain ⟨hr, hc⟩ := holds.wellFormed.inside found' found₁
      have wf := holds.wellFormed.exchange row column (some value)
      have next : fillColumn slot row (value :: values) s = _ := h.fillColumn_cons found extended
      rw [exchange_of_found found' found₁] at wf next
      rw [Store.fillColumnChecked, next, extended]
      dsimp only
      rw [Axis.indexChecked_of_found found']
      show (do
        let cells ← s'.cells.putChecked r slot (some value)
        Store.fillColumnChecked slot (row + 1) values { s' with cells }) = _
      rw [holds.wellFormed.shaped.putChecked hr hc]
      exact ih wf found₁ (row + 1)

/-- Inserting a row meets no fault, at any position. -/
theorem WellFormed.insertRowChecked (h : s.WellFormed) (row : Nat) (values : List α) :
    s.insertRowChecked row values = .ok (s.insertRow row values) := by
  unfold Store.insertRowChecked Store.insertRow
  cases extended : s.extendRows row with
  | none => rfl
  | some s₁ =>
    have holds := (h.of_extendRows extended).1
    have inside : row ≤ s₁.rowCount := by
      rw [holds.rowCount]
      omega
    dsimp only
    rw [Axis.insertChecked_of_le inside]
    cases inserted : s₁.rows.insert row with
    | none => rfl
    | some result =>
      obtain ⟨slot, b⟩ := result
      -- The values are written into the new row of a store that is well formed already.
      obtain ⟨new, found⟩ := holds.wellFormed.of_insert inside inserted
      have filled := new.wellFormed.fillRowChecked found 0 values
      show (do
        match ← Store.fillRowChecked slot 0 values (s₁.withRows b) with
        | (true, s) => return (some row, s)
        | (false, s) => return (none, s)) = _
      rw [filled]
      dsimp only
      generalize Store.fillRow slot 0 values (s₁.withRows b) = outcome
      obtain ⟨flag, s'⟩ := outcome
      cases flag with
      | true => rfl
      | false => rfl

/-- Inserting a column meets no fault, at any position. -/
theorem WellFormed.insertColumnChecked (h : s.WellFormed) (column : Nat) (values : List α) :
    s.insertColumnChecked column values = .ok (s.insertColumn column values) := by
  unfold Store.insertColumnChecked Store.insertColumn
  cases extended : s.extendColumns column with
  | none => rfl
  | some s₁ =>
    have holds := (h.of_extendColumns extended).1
    have inside : column ≤ s₁.columnCount := by
      rw [holds.columnCount]
      omega
    dsimp only
    rw [Axis.insertChecked_of_le inside]
    cases inserted : s₁.columns.insert column with
    | none => rfl
    | some result =>
      obtain ⟨slot, b⟩ := result
      obtain ⟨new, found⟩ := holds.wellFormed.of_insertColumn inside inserted
      have filled := new.fillColumnChecked found 0 values
      show (do
        match ← Store.fillColumnChecked slot 0 values (s₁.withColumns b) with
        | (true, s) => return (some column, s)
        | (false, s) => return (none, s)) = _
      rw [filled]
      dsimp only
      generalize fillColumn slot 0 values (s₁.withColumns b) = outcome
      obtain ⟨flag, s'⟩ := outcome
      cases flag with
      | true => rfl
      | false => rfl

/-- Packing the rows meets no fault. -/
theorem WellFormed.packRowsChecked (h : s.WellFormed) : s.packRowsChecked = .ok s.packRows := by
  unfold Store.packRowsChecked packRows
  split
  · rw [h.rows.packChecked, h.shaped.foldlM_swapRowsChecked h.rows.assigned.moves_lt]
    rfl
  · rfl

/-- Packing the columns meets no fault. -/
theorem WellFormed.packColumnsChecked (h : s.WellFormed) :
    s.packColumnsChecked = .ok s.packColumns := by
  unfold Store.packColumnsChecked packColumns
  split
  · rw [h.columns.packChecked, h.shaped.foldlM_swapColumnsChecked h.columns.assigned.moves_lt]
    rfl
  · rfl

/-- Removing a row meets no fault, whether or not it is there. -/
theorem WellFormed.removeRowChecked (h : s.WellFormed) (row : Nat) :
    s.removeRowChecked row = .ok (s.removeRow row) := by
  unfold Store.removeRowChecked
  rw [h.rows.slotChecked]
  cases found : s.rows.slots[row]? with
  | none =>
    rw [removeRow_of_outside (Array.getElem?_eq_none_iff.1 found)]
    rfl
  | some r =>
    -- No cell of the row is emptied twice, because no slot stands for two columns.
    have nodup : (s.columns.slots.toList.map fun c => (r, c)).Nodup :=
      h.columns.nodup.map fun c c' eq => congrArg Prod.snd eq
    have taken := h.shaped.takeChecked nodup (h.inside_of_row found)
    rw [List.map_map, List.foldl_map, Array.foldl_toList] at taken
    show (do
      let (removed, cells) ← Cells.takeChecked (s.columns.slots.toList.map fun c => (r, c)) s.cells
      let rows ← s.rows.removeChecked row r
      return (some removed, ← Store.packRowsChecked { s with cells, rows })) = _
    rw [taken, h.rows.removeChecked found, removeRow_of_found found, row?, found]
    show (do return (some _, ← (s.withoutRow row r).packRowsChecked)) = _
    rw [(h.holds_withoutRow found).wellFormed.packRowsChecked]
    rfl

/-- Removing a column meets no fault, whether or not it is there. -/
theorem WellFormed.removeColumnChecked (h : s.WellFormed) (column : Nat) :
    s.removeColumnChecked column = .ok (s.removeColumn column) := by
  unfold Store.removeColumnChecked Store.removeColumn
  rw [h.columns.slotChecked]
  cases found : s.columns.slots[column]? with
  | none => rfl
  | some c =>
    -- No cell of the column is emptied twice, because no slot stands for two rows.
    have nodup : (s.rows.slots.toList.map fun r => (r, c)).Nodup :=
      h.rows.nodup.map fun r r' eq => congrArg Prod.fst eq
    have taken := h.shaped.takeChecked nodup (h.inside_of_column found)
    rw [List.map_map, List.foldl_map, Array.foldl_toList] at taken
    show (do
      let (removed, cells) ← Cells.takeChecked (s.rows.slots.toList.map fun r => (r, c)) s.cells
      let columns ← s.columns.removeChecked column c
      return (some removed, ← Store.packColumnsChecked { s with cells, columns })) = _
    rw [taken, h.columns.removeChecked found]
    show (do return (some _, ← (s.withoutColumn column c).packColumnsChecked)) = _
    rw [(h.wellFormed_withoutColumn found).packColumnsChecked]
    rfl

/-- On a well-formed store no check of an edit fails, and the edit does what it does unchecked. -/
theorem WellFormed.applyChecked (h : s.WellFormed) (e : Edit α) :
    s.applyChecked e = .ok (s.apply e) := by
  cases e with
  | addRow values =>
    rw [Store.applyChecked, h.insertRowChecked]
    rfl
  | addColumn values =>
    rw [Store.applyChecked, h.insertColumnChecked]
    rfl
  | insertRow row values =>
    rw [Store.applyChecked, h.insertRowChecked]
    rfl
  | insertColumn column values =>
    rw [Store.applyChecked, h.insertColumnChecked]
    rfl
  | set row column value =>
    rw [Store.applyChecked, h.setChecked]
    rfl
  | unset row column =>
    rw [Store.applyChecked, h.unsetChecked]
    rfl
  | removeRow row =>
    rw [Store.applyChecked, h.removeRowChecked]
    rfl
  | removeColumn column =>
    rw [Store.applyChecked, h.removeColumnChecked]
    rfl
  | clear => rfl

/-- On a well-formed store no check of a run fails. -/
theorem WellFormed.runChecked (h : s.WellFormed) (edits : List (Edit α)) :
    s.runChecked edits = .ok (s.run edits) := by
  induction edits generalizing s with
  | nil => rfl
  | cons e edits ih =>
    unfold Store.runChecked
    rw [List.foldlM_cons, h.applyChecked]
    exact ih (h.apply e)

/-! ## The states of a run -/

/-- Every run from an empty store, of any edits with any arguments, keeps the invariant, and neither
an edit of the run nor a read of its last state fails a check. -/
theorem run_wellFormed_and_checked {rows columns : Nat} (hr : rows ≤ Capacity.maxSlots)
    (hc : columns ≤ Capacity.maxSlots) (edits : List (Edit α)) :
    let start : Store α := withCapacity rows columns
    let s := start.run edits
    (s.WellFormed ∧ s.rows.size ≤ s.rows.highWater ∧ s.columns.size ≤ s.columns.highWater) ∧
      start.runChecked edits = .ok s ∧
      (∀ row column, s.getChecked row column = .ok (s.get? row column)) ∧
      (∀ row, s.rowChecked row = .ok (s.row? row)) ∧
      ∀ column, s.columnChecked column = .ok (s.column? column) := by
  intro start s
  have empty : start.WellFormed := wellFormed_withCapacity hr hc
  have h : s.WellFormed := empty.run edits
  exact ⟨⟨h, h.rows.size_le_highWater, h.columns.size_le_highWater⟩, empty.runChecked edits,
    h.getChecked, h.rowChecked, h.columnChecked⟩

/-- A run that fills a store, removes from it and packs it. -/
theorem run_wellFormed_and_checked_churn :
    ((withCapacity 1 2).run churn).WellFormed ∧
      (withCapacity 1 2).runChecked churn = .ok ((withCapacity 1 2).run churn) := by
  have capacity : 1 ≤ Capacity.maxSlots ∧ 2 ≤ Capacity.maxSlots := by decide
  obtain ⟨⟨wellFormed, -⟩, checked, -⟩ := run_wellFormed_and_checked capacity.1 capacity.2 churn
  exact ⟨wellFormed, checked⟩

end Store

end Tabular
