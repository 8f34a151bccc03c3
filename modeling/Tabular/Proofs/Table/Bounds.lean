import Tabular.Proofs.Store.Refinement
import Tabular.Proofs.Table.Run
import Tabular.Table.View

/-!
# The bounds of validated access

Validated access to a table fails for its coordinates only. The error that is due is a function of
the coordinates and of the sizes at that time (`Table.cellError?`, with the row before the column),
and an operation fails exactly if there is one, with it (`FailsAs`). Each operation is its check
followed by what tolerant access does, and a check fails as it is due. A refused edit leaves the
table as it was (`Validates`). An insertion can fail for want of a slot as well, but its position is
checked likewise, one place further (`ValidatesPosition`).

A view reads its line in two ways, cell by cell and through the slots of the store, and both show
the cells of the table.
-/

namespace Tabular

/-! ## Failing as it is due -/

/-- The result is an error exactly if one is due, and then it is that one. -/
def FailsAs {ε : Type u} {β : Type v} (due : Option ε) (result : Except ε β) : Prop :=
  ∀ e, result = .error e ↔ due = some e

section FailsAs

variable {ε : Type u} {β : Type v} {γ : Type w} {due : Option ε} {result : Except ε β}

/-- A result is no error where none is due. -/
theorem failsAs_ok (b : β) : FailsAs (none : Option ε) (.ok b) := by simp [FailsAs]

/-- An error is the one that is due. -/
theorem failsAs_error (e : ε) : FailsAs (some e) (.error e : Except ε β) := by simp [FailsAs]

/-- Where there is a result no error is due. -/
theorem FailsAs.due_eq_none (fails : FailsAs due result) {b : β} (ok : result = .ok b) :
    due = none := by
  cases eq : due with
  | none => rfl
  | some e =>
    have failed : result = .error e := (fails e).2 eq
    rw [ok] at failed
    cases failed

/-- What a result is used for does not matter. -/
theorem FailsAs.map (fails : FailsAs due result) (f : β → γ) : FailsAs due (result.map f) := by
  intro e
  rw [← fails e]
  cases result <;> simp [Except.map]

/-- What is answered past a check. -/
theorem of_map_eq_ok {check : Except ε Unit} {b b' : β} (ok : check.map (fun _ => b) = .ok b') :
    check = .ok () ∧ b' = b := by
  cases check with
  | error e => cases ok
  | ok accepted =>
    cases ok
    exact ⟨rfl, rfl⟩

end FailsAs

/-- The error is about a coordinate. -/
def TableError.isOutOfBounds : TableError → Bool
  | rowOutOfBounds .. | columnOutOfBounds .. => true
  | columnNotFound _ | slotUnavailable _ => false

namespace Table

section Validates

variable {α : Type u} {β : Type v}

/-- The outcome of an edit that fails as it is due, and then leaves the table as it was. -/
structure Validates (t : Table α) (due : Option TableError)
    (outcome : Except TableError β × Table α) : Prop where
  fails : FailsAs due outcome.1
  kept : AllOrNothing t outcome

/-- The outcome of an edit that fails for its coordinates as it is due, and then leaves the table as
it was. It may fail for another reason as well. -/
structure ValidatesPosition (t : Table α) (due : Option TableError)
    (outcome : Except TableError β × Table α) : Prop where
  fails : ∀ e, e.isOutOfBounds = true → (outcome.1 = .error e ↔ due = some e)
  kept : ∀ e, e.isOutOfBounds = true → outcome.1 = .error e → outcome.2 = t

end Validates

variable {α : Type u} {t : Table α}

/-! ## The error that is due -/

/-- The error for a row that is not below the limit. -/
def rowError? (t : Table α) (row limit : Nat) : Option TableError :=
  if row < limit then none else some (.rowOutOfBounds row t.rowCount)

/-- The error for a column that is not below the limit. -/
def columnError? (t : Table α) (column limit : Nat) : Option TableError :=
  if column < limit then none else some (.columnOutOfBounds column t.columnCount)

/-- The error for the coordinates of a cell, that of the row first. -/
def cellError? (t : Table α) (row column : Nat) : Option TableError :=
  (t.rowError? row t.rowCount).or (t.columnError? column t.columnCount)

/-- A row that passes its check is inside. -/
theorem inside_of_checkRow {row : Nat} {accepted : Unit} (checked : t.checkRow row = .ok accepted) :
    row < t.rowCount := by
  unfold checkRow at checked
  split at checked
  · assumption
  · cases checked

/-- A column that passes its check is inside. -/
theorem inside_of_checkColumn {column : Nat} {accepted : Unit}
    (checked : t.checkColumn column = .ok accepted) : column < t.columnCount := by
  unfold checkColumn at checked
  split at checked
  · assumption
  · cases checked

/-- A cell that passes its check is inside. -/
theorem inside_of_checkCell {row column : Nat} {accepted : Unit}
    (checked : t.checkCell row column = .ok accepted) :
    row < t.rowCount ∧ column < t.columnCount := by
  unfold checkCell at checked
  split at checked
  · next first => exact ⟨inside_of_checkRow first, inside_of_checkColumn checked⟩
  · cases checked

/-- The check of a row fails exactly past the rows. -/
theorem failsAs_checkRow (t : Table α) (row : Nat) :
    FailsAs (t.rowError? row t.rowCount) (t.checkRow row) := by
  unfold checkRow rowError?
  split
  · exact failsAs_ok ()
  · exact failsAs_error _

/-- The check of a column fails exactly past the columns. -/
theorem failsAs_checkColumn (t : Table α) (column : Nat) :
    FailsAs (t.columnError? column t.columnCount) (t.checkColumn column) := by
  unfold checkColumn columnError?
  split
  · exact failsAs_ok ()
  · exact failsAs_error _

/-- The check of a cell fails for its row first. -/
theorem failsAs_checkCell (t : Table α) (row column : Nat) :
    FailsAs (t.cellError? row column) (t.checkCell row column) := by
  have rows := t.failsAs_checkRow row
  unfold checkCell cellError?
  cases checked : t.checkRow row with
  | error e =>
    have due : t.rowError? row t.rowCount = some e := (rows e).1 checked
    rw [due, Option.some_or]
    exact failsAs_error e
  | ok accepted =>
    -- The row is not refused, so the column decides.
    rw [rows.due_eq_none checked, Option.none_or]
    exact t.failsAs_checkColumn column

/-! ## Each operation as its check and tolerant access -/

/-- Reading a cell is its check and the plain read. -/
theorem get_eq (t : Table α) (row column : Nat) :
    t.get row column = (t.checkCell row column).map fun _ => t.cell row column := by
  unfold get
  cases t.checkCell row column <;> rfl

/-- Taking a view of a row is its check and the view. -/
theorem row_eq (t : Table α) (row : Nat) : t.row row = (t.checkRow row).map fun _ => ⟨t, row⟩ := by
  unfold Table.row
  cases t.checkRow row <;> rfl

/-- Taking a view of a column is its check and the view. -/
theorem column_eq (t : Table α) (column : Nat) :
    t.column column = (t.checkColumn column).map fun _ => ⟨t, column⟩ := by
  unfold Table.column
  cases t.checkColumn column <;> rfl

/-- Indexing a column is its check and the index of its cells. -/
theorem indexColumn_eq [Ord α] (t : Table α) (column : Nat) :
    t.indexColumn column = (t.checkColumn column).map fun _ =>
      .ofList ((List.range t.rowCount).map fun row => t.cell row column) := by
  unfold indexColumn
  cases t.checkColumn column <;> rfl

/-- Replacing a cell answers what the plain write does, behind the check of the cell. -/
theorem fst_replace (t : Table α) (row column : Nat) (value : α) :
    (t.replace row column value).1
      = (t.checkCell row column).map fun _ => (t.set row column value).1 := by
  unfold replace
  cases t.checkCell row column <;> rfl

/-- A removal answers the row as the store keeps it. -/
theorem fst_removeRow (t : Table α) (row : Nat) :
    (t.removeRow row).1 = (t.checkRow row).map fun _ => (RowView.mk t row).toList := by
  by_cases inside : row < t.rowCount
  · obtain ⟨r, found⟩ := t.store.rows.exists_found inside
    obtain ⟨cells, kept⟩ : ∃ cells, t.store.row? row = some cells := by
      rw [Store.row?, found]
      exact ⟨_, rfl⟩
    have answer : t.store.removeRow row = (some cells, (t.store.removeRow row).2) :=
      Prod.ext ((t.store.fst_removeRow row).trans kept) rfl
    unfold removeRow checkRow RowView.toList
    rw [if_pos inside, answer, kept]
    rfl
  · unfold removeRow checkRow
    rw [if_neg inside]
    rfl

/-- A removal answers the column as the store keeps it. -/
theorem fst_removeColumn (t : Table α) (column : Nat) :
    (t.removeColumn column).1
      = (t.checkColumn column).map fun _ => (ColumnView.mk t column).toList := by
  by_cases inside : column < t.columnCount
  · obtain ⟨c, found⟩ := t.store.columns.exists_found inside
    obtain ⟨cells, kept⟩ : ∃ cells, t.store.column? column = some cells := by
      rw [Store.column?, found]
      exact ⟨_, rfl⟩
    have answer : t.store.removeColumn column = (some cells, (t.store.removeColumn column).2) :=
      Prod.ext ((t.store.fst_removeColumn column).trans kept) rfl
    unfold removeColumn checkColumn ColumnView.toList
    rw [if_pos inside, answer, kept]
    rfl
  · unfold removeColumn checkColumn
    rw [if_neg inside]
    rfl

/-! ## Replacing and removing -/

/-- Replacing a cell fails as it is due. -/
theorem validates_replace (t : Table α) (row column : Nat) (value : α) :
    t.Validates (t.cellError? row column) (t.replace row column value) where
  fails := t.fst_replace row column value ▸ (t.failsAs_checkCell row column).map _
  kept := by
    unfold replace
    cases t.checkCell row column with
    | error e => exact allOrNothing_of_eq rfl
    | ok accepted => exact allOrNothing_of_ok rfl

/-- Removing a row fails as it is due. -/
theorem validates_removeRow (t : Table α) (row : Nat) :
    t.Validates (t.rowError? row t.rowCount) (t.removeRow row) where
  fails := t.fst_removeRow row ▸ (t.failsAs_checkRow row).map _
  kept := t.allOrNothing_removeRow row

/-- Removing a column fails as it is due. -/
theorem validates_removeColumn (t : Table α) (column : Nat) :
    t.Validates (t.columnError? column t.columnCount) (t.removeColumn column) where
  fails := t.fst_removeColumn column ▸ (t.failsAs_checkColumn column).map _
  kept := t.allOrNothing_removeColumn column

/-- A replacement that is made is a write. -/
theorem set_of_replace {row column : Nat} {value : α} {old : Option α} {t' : Table α}
    (replaced : t.replace row column value = (.ok old, t')) :
    t.set row column value = (old, t') := by
  unfold replace at replaced
  cases eq : t.checkCell row column with
  | error e =>
    rw [eq] at replaced
    cases replaced
  | ok accepted =>
    rw [eq] at replaced
    cases replaced
    rfl

/-- A replacement does not resize the table. -/
theorem size_replace (h : t.store.WellFormed) (row column : Nat) (value : α) :
    (t.replace row column value).2.rowCount = t.rowCount ∧
      (t.replace row column value).2.columnCount = t.columnCount := by
  by_cases inside : row < t.rowCount ∧ column < t.columnCount
  · obtain ⟨hr, hc⟩ := inside
    have possible : row < Capacity.maxSlots := Nat.lt_of_lt_of_le hr h.rows.size_le_maxSlots
    have possible' : column < Capacity.maxSlots :=
      Nat.lt_of_lt_of_le hc h.columns.size_le_maxSlots
    have written := (h.set_spec possible possible' value).2
    rw [replace_of_inside hr hc]
    exact ⟨written.rowCount.trans (Nat.max_eq_left hr),
      written.columnCount.trans (Nat.max_eq_left hc)⟩
  · have kept : (t.replace row column value).2 = t := by
      unfold replace
      cases checked : t.checkCell row column with
      | error e => rfl
      | ok accepted => exact absurd (inside_of_checkCell checked) inside
    rw [kept]
    exact ⟨rfl, rfl⟩

/-! ## Inserting -/

/-- An insertion of a row is out of bounds only past the end. -/
theorem rowCount_lt_of_rowError? {row : Nat} {e : TableError}
    (due : t.rowError? row (t.rowCount + 1) = some e) : t.rowCount < row := by
  by_contra inside
  rw [rowError?, if_pos (by omega)] at due
  cases due

/-- An insertion of a column is out of bounds only past the end. -/
theorem columnCount_lt_of_columnError? {column : Nat} {e : TableError}
    (due : t.columnError? column (t.columnCount + 1) = some e) : t.columnCount < column := by
  by_contra inside
  rw [columnError?, if_pos (by omega)] at due
  cases due

/-- An insertion fails for its position exactly if the position is past the end. -/
theorem insertRow_eq_error_iff {e : TableError} (bounds : e.isOutOfBounds = true) (row : Nat)
    (values : List α) :
    (t.insertRow row values).1 = .error e ↔ t.rowError? row (t.rowCount + 1) = some e := by
  unfold insertRow rowError?
  split
  · next outside =>
    rw [if_neg (by omega)]
    simp
  · next inside =>
    rw [if_pos (by omega)]
    -- Past the check only a slot can be missing.
    split
    · simp
    · have other : TableError.slotUnavailable .row ≠ e := by
        rintro rfl
        cases bounds
      simp [other]

/-- An insertion of a column is out of bounds exactly as it is due. -/
theorem insertColumn_eq_error_iff {e : TableError} (bounds : e.isOutOfBounds = true)
    (column : Nat) (values : List α) :
    (t.insertColumn column values).1 = .error e
      ↔ t.columnError? column (t.columnCount + 1) = some e := by
  unfold insertColumn columnError?
  split
  · next outside =>
    rw [if_neg (by omega)]
    simp
  · next inside =>
    rw [if_pos (by omega)]
    split
    · simp
    · have other : TableError.slotUnavailable .column ≠ e := by
        rintro rfl
        cases bounds
      simp [other]

/-- Inserting a row fails for its position as it is due. -/
theorem validatesPosition_insertRow (t : Table α) (row : Nat) (values : List α) :
    t.ValidatesPosition (t.rowError? row (t.rowCount + 1)) (t.insertRow row values) where
  fails e bounds := insertRow_eq_error_iff bounds row values
  kept e bounds failed := by
    have due := (insertRow_eq_error_iff bounds row values).1 failed
    unfold insertRow
    rw [if_pos (rowCount_lt_of_rowError? due)]

/-- Inserting a column fails for its position as it is due. -/
theorem validatesPosition_insertColumn (t : Table α) (column : Nat) (values : List α) :
    t.ValidatesPosition (t.columnError? column (t.columnCount + 1))
      (t.insertColumn column values) where
  fails e bounds := insertColumn_eq_error_iff bounds column values
  kept e bounds failed := by
    have due := (insertColumn_eq_error_iff bounds column values).1 failed
    unfold insertColumn
    rw [if_pos (columnCount_lt_of_columnError? due)]

end Table

/-! ## Views -/

/-- The list has the contents of the first `count` places, and behind them there is nothing. -/
structure Lists {α : Type u} (cells : List (Option α)) (count : Nat) (content : Nat → Option α) :
    Prop where
  length : cells.length = count
  inside : ∀ k, k < count → cells[k]? = some (content k)
  behind : ∀ k, count ≤ k → content k = none

/-- Listing the places one by one lists them. -/
theorem lists_map_range {α : Type u} {count : Nat} {content : Nat → Option α}
    (behind : ∀ k, count ≤ k → content k = none) :
    Lists ((List.range count).map content) count content where
  length := by simp
  inside k lt := by simp [lt]
  behind := behind

/-- The view shows a row of the table, cell by cell and as a whole. -/
structure RowView.Shows {α : Type u} (v : RowView α) (t : Table α) (row : Nat) : Prop where
  size : v.size = t.columnCount
  get? : ∀ column, v.get? column = t.cell row column
  cells : Lists v.cells t.columnCount (t.cell row)
  toList : Lists v.toList t.columnCount (t.cell row)

/-- The view shows a column of the table, cell by cell and as a whole. -/
structure ColumnView.Shows {α : Type u} (v : ColumnView α) (t : Table α) (column : Nat) : Prop where
  size : v.size = t.rowCount
  get? : ∀ row, v.get? row = t.cell row column
  cells : Lists v.cells t.rowCount fun row => t.cell row column
  toList : Lists v.toList t.rowCount fun row => t.cell row column

namespace Table

variable {α : Type u} {t : Table α}

/-- The slots of the store give the cells of a row. -/
theorem toList_row {row : Nat} (inside : row < t.rowCount) :
    (RowView.mk t row).toList = (RowView.mk t row).cells := by
  have inside' : row < t.store.rowCount := inside
  unfold RowView.toList
  rw [Store.row?_eq, if_pos inside']
  rfl

/-- The slots of the store give the cells of a column. -/
theorem toList_column (h : t.store.WellFormed) {column : Nat} (inside : column < t.columnCount) :
    (ColumnView.mk t column).toList = (ColumnView.mk t column).cells := by
  have inside' : column < t.store.columnCount := inside
  unfold ColumnView.toList
  rw [h.column?_eq, if_pos inside']
  rfl

/-- The view of a row inside shows the row. -/
theorem shows_row {row : Nat} (inside : row < t.rowCount) : (RowView.mk t row).Shows t row := by
  have cells : Lists (RowView.mk t row).cells t.columnCount (t.cell row) :=
    lists_map_range fun _ behind => t.store.get?_eq_none_of_columnCount_le row behind
  refine ⟨rfl, fun column => rfl, cells, ?_⟩
  rw [toList_row inside]
  exact cells

/-- The view of a column inside shows the column. -/
theorem shows_column (h : t.store.WellFormed) {column : Nat} (inside : column < t.columnCount) :
    (ColumnView.mk t column).Shows t column := by
  have cells : Lists (ColumnView.mk t column).cells t.rowCount fun row => t.cell row column :=
    lists_map_range fun _ behind => t.store.get?_eq_none_of_rowCount_le behind column
  refine ⟨rfl, fun row => rfl, cells, ?_⟩
  rw [toList_column h inside]
  exact cells

/-! ## Validated access -/

/-- Validated access to a table that edits lead to checks exactly the bounds. Each operation but an
insertion fails exactly if an index is not below the count at that time, with the error of the row
before that of the column. An insertion fails for its position exactly if that is above the count. A
refused operation leaves the table as it was. What is not refused is what tolerant access reads and
writes: a replacement does not resize the table, a view shows its line in every way, and a removal
answers the line as the view gave it. -/
theorem Reachable.checks_bounds [Ord α] (reachable : t.Reachable) (row column : Nat) (value : α)
    (values : List α) :
    (FailsAs (t.cellError? row column) (t.get row column) ∧
      FailsAs (t.rowError? row t.rowCount) (t.row row) ∧
      FailsAs (t.columnError? column t.columnCount) (t.column column) ∧
      FailsAs (t.columnError? column t.columnCount) (t.indexColumn column)) ∧
    (t.Validates (t.cellError? row column) (t.replace row column value) ∧
      t.Validates (t.rowError? row t.rowCount) (t.removeRow row) ∧
      t.Validates (t.columnError? column t.columnCount) (t.removeColumn column)) ∧
    (t.ValidatesPosition (t.rowError? row (t.rowCount + 1)) (t.insertRow row values) ∧
      t.ValidatesPosition (t.columnError? column (t.columnCount + 1))
        (t.insertColumn column values)) ∧
    (∀ content, t.get row column = .ok content → content = t.cell row column) ∧
    (∀ old t', t.replace row column value = (.ok old, t') →
      t.set row column value = (old, t') ∧ t'.rowCount = t.rowCount ∧
        t'.columnCount = t.columnCount) ∧
    (∀ v, t.row row = .ok v → v.Shows t row ∧ (t.removeRow row).1 = .ok v.toList) ∧
    ∀ v, t.column column = .ok v → v.Shows t column ∧ (t.removeColumn column).1 = .ok v.toList := by
  have h : t.store.WellFormed := reachable.wellFormed
  have rows := t.failsAs_checkRow row
  have columns := t.failsAs_checkColumn column
  have cells := t.failsAs_checkCell row column
  refine ⟨⟨?_, ?_, ?_, ?_⟩,
    ⟨t.validates_replace row column value, t.validates_removeRow row,
      t.validates_removeColumn column⟩,
    ⟨t.validatesPosition_insertRow row values, t.validatesPosition_insertColumn column values⟩,
    fun content read => ?_, fun old t' replaced => ?_, fun v given => ?_, fun v given => ?_⟩
  · exact t.get_eq row column ▸ cells.map _
  · exact t.row_eq row ▸ rows.map _
  · exact t.column_eq column ▸ columns.map _
  · exact t.indexColumn_eq column ▸ columns.map _
  · rw [t.get_eq] at read
    exact (of_map_eq_ok read).2
  · obtain ⟨rowCount, columnCount⟩ := size_replace h row column value
    rw [replaced] at rowCount columnCount
    exact ⟨set_of_replace replaced, rowCount, columnCount⟩
  · rw [t.row_eq] at given
    obtain ⟨checked, rfl⟩ := of_map_eq_ok given
    refine ⟨shows_row (inside_of_checkRow checked), ?_⟩
    rw [t.fst_removeRow, checked]
    rfl
  · rw [t.column_eq] at given
    obtain ⟨checked, rfl⟩ := of_map_eq_ok given
    refine ⟨shows_column h (inside_of_checkColumn checked), ?_⟩
    rw [t.fst_removeColumn, checked]
    rfl

/-- Three rows and three columns: each operation past them fails with its own error, the row before
the column, and the others succeed. -/
theorem Reachable.checks_bounds_churn :
    let t : Table Nat := ofStore ((Store.withCapacity 1 2).run Store.churn)
    t.get 7 9 = .error (.rowOutOfBounds 7 3) ∧ t.get 2 9 = .error (.columnOutOfBounds 9 3) ∧
      (t.replace 2 9 1).2 = t ∧ (t.insertRow 4 [1]).1 = .error (.rowOutOfBounds 4 3) ∧
      (t.insertColumn 4 [1]).2 = t ∧ (t.removeRow 0).1 = .ok [none, some 6, some 8] ∧
      ∃ v, t.row 0 = .ok v ∧ v.Shows t 0 := by
  intro t
  have hr : 1 ≤ Capacity.maxSlots := by decide
  have hc : 2 ≤ Capacity.maxSlots := by decide
  have reachable : t.Reachable := ⟨t, _, .ofStore hr hc Store.churn, [], rfl⟩
  have sizes : t.rowCount = 3 ∧ t.columnCount = 3 := by
    unfold t Store.churn
    cbv
  have kept : (RowView.mk t 0).toList = [none, some 6, some 8] := by
    unfold t Store.churn
    cbv
  have given : t.row 0 = .ok ⟨t, 0⟩ := by
    unfold Table.row checkRow
    rw [sizes.1]
    rfl
  have noRow : t.cellError? 7 9 = some (.rowOutOfBounds 7 3) := by
    rw [cellError?, rowError?, columnError?, sizes.1, sizes.2]
    rfl
  have noColumn : t.cellError? 2 9 = some (.columnOutOfBounds 9 3) := by
    rw [cellError?, rowError?, columnError?, sizes.1, sizes.2]
    rfl
  have pastRows : t.rowError? 4 (t.rowCount + 1) = some (.rowOutOfBounds 4 3) := by
    rw [rowError?, sizes.1]
    rfl
  have pastColumns : t.columnError? 4 (t.columnCount + 1) = some (.columnOutOfBounds 4 3) := by
    rw [columnError?, sizes.2]
    rfl
  obtain ⟨⟨getFar, -⟩, -⟩ := reachable.checks_bounds 7 9 0 []
  obtain ⟨⟨getWide, -⟩, ⟨replaceWide, -⟩, -⟩ := reachable.checks_bounds 2 9 1 []
  obtain ⟨-, -, ⟨rowInsertion, columnInsertion⟩, -⟩ := reachable.checks_bounds 4 4 1 [1]
  obtain ⟨-, -, -, -, -, views, -⟩ := reachable.checks_bounds 0 0 1 []
  obtain ⟨shows, removed⟩ := views _ given
  refine ⟨(getFar _).2 noRow, (getWide _).2 noColumn, ?_, ?_, ?_, kept ▸ removed, _, given, shows⟩
  · exact replaceWide.kept _ ((replaceWide.fails _).2 noColumn)
  · exact (rowInsertion.fails _ rfl).2 pastRows
  · exact columnInsertion.kept _ rfl ((columnInsertion.fails _ rfl).2 pastColumns)

end Table

end Tabular
