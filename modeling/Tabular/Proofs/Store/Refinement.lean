import Mathlib.Data.List.Infix
import Tabular.Proofs.Grid
import Tabular.Proofs.Store.Run

/-!
# A store refines a dense grid

From outside, a store and a dense grid cannot be told apart by edits, as long as the grid has at
most `maxSlots` rows and columns. The relation that a run keeps is `Store.Represents`: the store is
well formed and holds, cell by cell, what the grid holds. One edit keeps it
(`Represents.apply`), because both sides make the same of the content; a run keeps it by induction.
-/

namespace Tabular

variable {α : Type u}

/-- The rows and the columns of the grid are at most as many as an axis can have. -/
def Grid.Fits (g : Grid α) : Prop :=
  g.rowCount ≤ Capacity.maxSlots ∧ g.columnCount ≤ Capacity.maxSlots

instance (g : Grid α) : Decidable g.Fits := inferInstanceAs (Decidable (_ ∧ _))

/-- The last edit of a run is made on the grid that the others leave. -/
theorem Grid.run_concat (g : Grid α) (edits : List (Edit α)) (e : Edit α) :
    g.run (edits ++ [e]) = ((g.run edits).apply e).2 := by
  unfold run
  rw [List.foldl_append]
  rfl

namespace Store

variable {s : Store α} {g : Grid α}

/-- Every read of the store gives what it gives of the grid, also at coordinates outside. -/
structure Shows (s : Store α) (g : Grid α) : Prop where
  rowCount : s.rowCount = g.rowCount
  columnCount : s.columnCount = g.columnCount
  get? : ∀ row column, s.get? row column = g.get? row column
  row? : ∀ row, s.row? row = g.row? row
  column? : ∀ column, s.column? column = g.column? column

/-- The store is well formed and holds what the grid holds. -/
structure Represents (s : Store α) (g : Grid α) : Prop where
  rectangular : g.Rectangular
  holds : s.Holds g.rowCount g.columnCount g.get?

/-- A store and a grid that hold the same. -/
theorem represents_of_holds {rowCount columnCount : Nat} {content : Content α}
    (h : s.Holds rowCount columnCount content) (h' : g.Holds rowCount columnCount content) :
    s.Represents g where
  rectangular := h'.rectangular
  holds := by
    rw [h'.rowCount, h'.columnCount, h'.content_eq]
    exact h

/-- A column that is read is read cell by cell. -/
theorem WellFormed.column?_eq (h : s.WellFormed) (column : Nat) :
    s.column? column = if column < s.columnCount
      then some ((List.range s.rowCount).map fun row => s.get? row column) else none := by
  have m := h.mirrors
  rw [← m.row?, row?_eq, m.rowCount, m.columnCount, m.content]
  rfl

/-- A store shows the grid that it represents. -/
theorem Represents.shows (r : s.Represents g) : s.Shows g where
  rowCount := r.holds.rowCount
  columnCount := r.holds.columnCount
  get? := r.holds.get?
  row? row := by
    rw [row?_eq, r.rectangular.row?_eq, r.holds.rowCount, r.holds.columnCount, r.holds.content_eq]
  column? column := by
    rw [r.holds.wellFormed.column?_eq, g.column?_eq, r.holds.rowCount, r.holds.columnCount,
      r.holds.content_eq]

/-- A store without rows and columns represents the empty grid. -/
theorem represents_withCapacity {rows columns : Nat} (hr : rows ≤ Capacity.maxSlots)
    (hc : columns ≤ Capacity.maxSlots) :
    (withCapacity rows columns : Store α).Represents Grid.empty where
  rectangular line mem := by cases mem
  holds := by
    refine ⟨wellFormed_withCapacity hr hc, rfl, rfl, fun row column => ?_⟩
    rw [get?_eq_none_of_rowCount_le _ (Nat.zero_le row)]
    rfl

/-! ## One edit -/

/-- Inserting a row into a store inserts it into the grid, if it fits. -/
theorem Represents.insertRow (r : s.Represents g) {row : Nat} {values : List α}
    (fits : (g.insertRow row values).Fits) :
    (s.insertRow row values).1 = some row ∧
      (s.insertRow row values).2.Represents (g.insertRow row values) := by
  have onGrid := r.rectangular.insertRow row values
  -- That the grid fits afterwards is what the store needs to succeed.
  obtain ⟨fitRows, fitColumns⟩ := fits
  rw [onGrid.rowCount] at fitRows
  rw [onGrid.columnCount] at fitColumns
  have room : max s.rowCount row < Capacity.maxSlots := by
    rw [r.holds.rowCount]
    omega
  have short : values.length ≤ Capacity.maxSlots := by omega
  have onStore := r.holds.wellFormed.insertRow_spec room short
  rw [r.holds.rowCount, r.holds.columnCount, r.holds.content_eq] at onStore
  exact ⟨onStore.1, represents_of_holds onStore.2 onGrid⟩

/-- Inserting a column into a store inserts it into the grid, if it fits. -/
theorem Represents.insertColumn (r : s.Represents g) {column : Nat} {values : List α}
    (fits : (g.insertColumn column values).Fits) :
    (s.insertColumn column values).1 = some column ∧
      (s.insertColumn column values).2.Represents (g.insertColumn column values) := by
  have onGrid := r.rectangular.insertColumn column values
  obtain ⟨fitRows, fitColumns⟩ := fits
  rw [onGrid.rowCount] at fitRows
  rw [onGrid.columnCount] at fitColumns
  have room : max s.columnCount column < Capacity.maxSlots := by
    rw [r.holds.columnCount]
    omega
  have short : values.length ≤ Capacity.maxSlots := by omega
  have onStore := r.holds.wellFormed.insertColumn_spec room short
  rw [r.holds.rowCount, r.holds.columnCount, r.holds.content_eq] at onStore
  exact ⟨onStore.1, represents_of_holds onStore.2 onGrid⟩

/-- A write to a store is one to the grid, with the same old content, if it fits. -/
theorem Represents.set (r : s.Represents g) {row column : Nat} {value : α}
    (fits : (g.set row column value).2.Fits) :
    (s.set row column value).1 = (g.set row column value).1 ∧
      (s.set row column value).2.Represents (g.set row column value).2 := by
  have onGrid := r.rectangular.set row column value
  obtain ⟨fitRows, fitColumns⟩ := fits
  rw [onGrid.rowCount] at fitRows
  rw [onGrid.columnCount] at fitColumns
  have hr : row < Capacity.maxSlots := by omega
  have hc : column < Capacity.maxSlots := by omega
  have onStore := r.holds.wellFormed.set_spec hr hc value
  rw [r.holds.rowCount, r.holds.columnCount, r.holds.content_eq] at onStore
  exact ⟨onStore.1, represents_of_holds onStore.2 onGrid⟩

/-- Emptying a cell of a store empties it in the grid, with the same old content. -/
theorem Represents.unset (r : s.Represents g) (row column : Nat) :
    (s.unset row column).1 = (g.unset row column).1 ∧
      (s.unset row column).2.Represents (g.unset row column).2 := by
  refine ⟨(fst_exchange s row column none).trans (r.holds.get? row column), ?_⟩
  -- Outside, neither side does anything.
  by_cases inside : row < g.rowCount ∧ column < g.columnCount
  · have onGrid := r.rectangular.put inside.1 inside.2 none
    have hr : row < s.rowCount := r.holds.rowCount ▸ inside.1
    have hc : column < s.columnCount := r.holds.columnCount ▸ inside.2
    have onStore := r.holds.wellFormed.holds_exchange hr hc none
    rw [r.holds.rowCount, r.holds.columnCount, r.holds.content_eq] at onStore
    exact represents_of_holds onStore onGrid
  · have outside : s.rowCount ≤ row ∨ s.columnCount ≤ column := by
      rw [r.holds.rowCount, r.holds.columnCount]
      omega
    unfold Store.unset Grid.unset
    rw [exchange_of_outside outside, r.rectangular.put_of_outside (by omega)]
    exact r

/-- Removing a row from a store removes it from the grid, with the same cells. -/
theorem Represents.removeRow (r : s.Represents g) (row : Nat) :
    (s.removeRow row).1 = (g.removeRow row).1 ∧
      (s.removeRow row).2.Represents (g.removeRow row).2 := by
  refine ⟨(fst_removeRow s row).trans (r.shows.row? row), ?_⟩
  by_cases inside : row < g.rowCount
  · have hr : row < s.rowCount := r.holds.rowCount ▸ inside
    have onStore := r.holds.wellFormed.removeRow_spec hr
    rw [r.holds.rowCount, r.holds.columnCount, r.holds.content_eq] at onStore
    exact represents_of_holds onStore (r.rectangular.removeRow inside)
  · have outside : s.rowCount ≤ row := by
      rw [r.holds.rowCount]
      omega
    rw [removeRow_of_outside outside, Grid.removeRow_of_outside (Nat.le_of_not_lt inside)]
    exact r

/-- Removing a column from a store removes it from the grid, with the same cells. -/
theorem Represents.removeColumn (r : s.Represents g) (column : Nat) :
    (s.removeColumn column).1 = (g.removeColumn column).1 ∧
      (s.removeColumn column).2.Represents (g.removeColumn column).2 := by
  have answer := (fst_removeColumn s column).trans (r.shows.column? column)
  -- The grid removes a column only where it has one, and answers it then.
  by_cases inside : column < g.columnCount
  · have onGrid := r.rectangular.removeColumn inside
    have hc : column < s.columnCount := r.holds.columnCount ▸ inside
    have onStore := r.holds.wellFormed.removeColumn_spec hc
    rw [r.holds.rowCount, r.holds.columnCount, r.holds.content_eq] at onStore
    refine ⟨?_, represents_of_holds onStore onGrid⟩
    unfold Grid.removeColumn
    rw [answer, if_pos inside]
  · have outside : s.columnCount ≤ column := by
      rw [r.holds.columnCount]
      omega
    unfold Grid.removeColumn
    rw [removeColumn_of_outside outside, if_neg inside]
    exact ⟨rfl, r⟩

/-- Clearing a store goes back to the empty grid, at the capacities of its beginning. -/
theorem Represents.clear (r : s.Represents g) : s.clear.Represents Grid.empty :=
  represents_withCapacity r.holds.wellFormed.initialRows.le_maxSlots
    r.holds.wellFormed.initialColumns.le_maxSlots

/-- An edit of a store answers what it answers on the grid, and does what it does there. -/
theorem Represents.apply (r : s.Represents g) (e : Edit α) (fits : (g.apply e).2.Fits) :
    (s.apply e).1 = (g.apply e).1 ∧ (s.apply e).2.Represents (g.apply e).2 := by
  cases e with
  | addRow values =>
    have added : s.addRow values = s.insertRow g.rowCount values := by
      unfold addRow
      rw [r.holds.rowCount]
    obtain ⟨answer, r'⟩ := r.insertRow fits
    rw [← added] at answer r'
    exact ⟨congrArg Edit.Answer.position answer, r'⟩
  | addColumn values =>
    have added : s.addColumn values = s.insertColumn g.columnCount values := by
      unfold addColumn
      rw [r.holds.columnCount]
    obtain ⟨answer, r'⟩ := r.insertColumn fits
    rw [← added] at answer r'
    exact ⟨congrArg Edit.Answer.position answer, r'⟩
  | insertRow row values =>
    obtain ⟨answer, r'⟩ := r.insertRow fits
    exact ⟨congrArg Edit.Answer.position answer, r'⟩
  | insertColumn column values =>
    obtain ⟨answer, r'⟩ := r.insertColumn fits
    exact ⟨congrArg Edit.Answer.position answer, r'⟩
  | set row column value =>
    obtain ⟨answer, r'⟩ := r.set fits
    exact ⟨congrArg Edit.Answer.content answer, r'⟩
  | unset row column =>
    obtain ⟨answer, r'⟩ := r.unset row column
    exact ⟨congrArg Edit.Answer.content answer, r'⟩
  | removeRow row =>
    obtain ⟨answer, r'⟩ := r.removeRow row
    exact ⟨congrArg Edit.Answer.line answer, r'⟩
  | removeColumn column =>
    obtain ⟨answer, r'⟩ := r.removeColumn column
    exact ⟨congrArg Edit.Answer.line answer, r'⟩
  | clear => exact ⟨rfl, r.clear⟩

/-! ## A run of edits -/

/-- A run of a store is one of the grid, as long as every grid on the way fits. -/
theorem Represents.run (r : s.Represents g) {edits : List (Edit α)}
    (fits : ∀ done, done <+: edits → (g.run done).Fits) :
    (s.run edits).Represents (g.run edits) := by
  induction edits generalizing s g with
  | nil => exact r
  | cons e edits ih =>
    have first : (g.apply e).2.Fits := fits [e] (List.prefix_append [e] edits)
    refine ih (r.apply e first).2 fun done before => ?_
    exact fits (e :: done) ((List.prefix_cons_inj e).2 before)

/-- A store started at any capacities up to `maxSlots` cannot be told from a dense grid by a run of
edits in which the grid keeps at most `maxSlots` rows and columns: after every step each read
agrees, and so does what each step answers. -/
theorem run_shows_grid {rows columns : Nat} (hr : rows ≤ Capacity.maxSlots)
    (hc : columns ≤ Capacity.maxSlots) (edits : List (Edit α))
    (fits : ∀ done, done <+: edits → (Grid.empty.run done).Fits) :
    (∀ done, done <+: edits →
      ((withCapacity rows columns).run done).Shows (Grid.empty.run done)) ∧
    ∀ done e, done ++ [e] <+: edits →
      (((withCapacity rows columns).run done).apply e).1 = ((Grid.empty.run done).apply e).1 := by
  -- What has been done at any time is a run of its own, with the same bound on the grid.
  have represents : ∀ done, done <+: edits →
      ((withCapacity rows columns).run done).Represents (Grid.empty.run done) :=
    fun done before => (represents_withCapacity hr hc).run fun part within =>
      fits part (within.trans before)
  refine ⟨fun done before => (represents done before).shows, fun done e before => ?_⟩
  have after := fits (done ++ [e]) before
  rw [Grid.run_concat] at after
  exact ((represents done ((List.prefix_append done [e]).trans before)).apply e after).1

/-- What a run leaves that grows both axes, shifts columns and packs the rows. -/
theorem run_shows_grid_churn :
    ((withCapacity 1 2).run churn).row? 0 = some [none, some 6, some 8] ∧
      (((withCapacity 1 2).run churn).apply (.removeRow 2)).1
        = .line (some [some 7, none, none]) := by
  have fits : ∀ done ∈ (churn ++ [Edit.removeRow 2]).inits, (Grid.empty.run done).Fits := by decide
  have capacity : 1 ≤ Capacity.maxSlots ∧ 2 ≤ Capacity.maxSlots := by decide
  obtain ⟨shows, answers⟩ := run_shows_grid capacity.1 capacity.2 (churn ++ [Edit.removeRow 2])
    fun done before => fits done ((List.mem_inits _ _).2 before)
  constructor
  · exact ((shows churn (List.prefix_append _ _)).row? 0).trans (by decide)
  · exact (answers churn (.removeRow 2) List.prefix_rfl).trans (by decide)

end Store

end Tabular
