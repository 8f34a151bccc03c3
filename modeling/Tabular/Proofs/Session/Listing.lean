import Tabular.Proofs.Session.Failure
import Tabular.Proofs.Session.Query
import Tabular.Proofs.Table.Bounds

/-!
# Listings of rows

Five commands answer with rows: one row, the first rows, the rows that a query finds, one column,
and the row that is removed. Three of them show rows of the table whole (`Table.Listing`), a column
shows one cell of each row, and a removed row is shown as it was, under the names of the columns as
they are then (`Session.Lists`). In all of them the rows are as long as the headers, and they
ascend.
-/

namespace Tabular

/-! ## Rows of a table -/

namespace Table

/-- The names of the columns as they are shown, in order. -/
def shownNames (t : Table String) : List String :=
  (List.range t.columnCount).map fun column => (t.header column).getD ("#" ++ toString column)

/-- The cells of a row, in column order. -/
def rowCells (t : Table String) (row : Nat) : List (Option String) :=
  (List.range t.columnCount).map (t.cell row)

/-- The listing shows the given rows of a table whole, under the names of its columns. -/
structure Listing (t : Table String) (indices : List Nat) (headers : List String)
    (rows : List RowOutput) : Prop where
  headers : headers = t.shownNames
  rows : rows = indices.map fun row => { index := row, cells := t.rowCells row }
  inside : ∀ row ∈ indices, row < t.rowCount

variable {t : Table String} {indices : List Nat} {headers : List String} {rows : List RowOutput}

/-- There is one name for each column. -/
theorem length_shownNames (t : Table String) : t.shownNames.length = t.columnCount := by
  rw [shownNames, List.length_map, List.length_range]

/-- A whole row has one cell for each column. -/
theorem length_rowCells (t : Table String) (row : Nat) :
    (t.rowCells row).length = t.columnCount := by
  rw [rowCells, List.length_map, List.length_range]

/-- Every listed row is as long as the headers. -/
theorem Listing.length_cells (h : t.Listing indices headers rows) :
    ∀ row ∈ rows, row.cells.length = headers.length := by
  rw [h.rows, h.headers, List.forall_mem_map]
  exact fun row _ => (t.length_rowCells row).trans t.length_shownNames.symm

/-- The rows are listed under their indices. -/
theorem Listing.map_index (h : t.Listing indices headers rows) :
    rows.map RowOutput.index = indices := by
  rw [h.rows, List.map_map]
  exact List.map_id _

end Table

namespace Session

variable {s : Session} {headers : List String} {rows : List RowOutput}

/-- The headers of a session are the names of the columns of its table. -/
theorem shownHeaders_eq (s : Session) : s.shownHeaders = s.table.shownNames := by
  unfold shownHeaders Table.columns Table.shownNames
  rw [List.map_map]
  rfl

/-- A shown row of the table is the whole row. -/
theorem shownRow_eq {row : Nat} (inside : row < s.table.rowCount) :
    s.shownRow row = { index := row, cells := s.table.rowCells row } :=
  congrArg (RowOutput.mk row) (Table.toList_row inside)

/-- Rows of the table are listed. -/
theorem listing_showRows {indices : List Nat} (inside : ∀ row ∈ indices, row < s.table.rowCount)
    (shown : s.showRows indices = .rows headers rows) : s.table.Listing indices headers rows := by
  rw [s.showRows_of_inside inside] at shown
  cases shown
  exact ⟨s.shownHeaders_eq, List.map_congr_left fun row mem => shownRow_eq (inside row mem), inside⟩

/-! ## Commands that list rows -/

/-- What a command lists that leads from one session to another. -/
def Lists (s s' : Session) (headers : List String) (rows : List RowOutput) : Command → Prop
  | .row index => s.table.Listing [index] headers rows
  | .list limit =>
    s.table.Listing (List.range (limit.elim s.table.rowCount (min s.table.rowCount))) headers rows
  | .query ref check =>
    ∃ column, s.column ref = .ok column ∧
      s.table.Listing (s.table.select (.test column check)) headers rows
  | .column ref =>
    ∃ column, s.column ref = .ok column ∧ column < s.table.columnCount ∧
      headers = [(s.table.header column).getD ("#" ++ toString column)] ∧
      rows = (List.range s.table.rowCount).map fun row =>
        { index := row, cells := [s.table.cell row column] }
  | .removeRow index =>
    index < s.table.rowCount ∧ headers = s'.table.shownNames ∧
      s'.table.columnCount = s.table.columnCount ∧
      rows = [{ index, cells := s.table.rowCells index }]
  | _ => False

section Run

/-- A result of the table that is passed on. -/
theorem eq_ok_of_lift_map {α : Type} {result : Except TableError α} {f : α → Output}
    {output : Output} (answer : lift (result.map f) = .ok output) :
    ∃ a, result = .ok a ∧ f a = output := by
  cases result with
  | error e => cases answer
  | ok a =>
    cases answer
    exact ⟨a, rfl, rfl⟩

/-- The answer of a command on a column comes from the column that is meant. -/
theorem eq_ok_of_onColumn {ref : ColumnRef} {outcome : Nat → Except CommandError Output}
    {output : Output} (answer : (s.onColumn ref outcome).1 = .ok output) :
    ∃ column, s.column ref = .ok column ∧ outcome column = .ok output := by
  unfold onColumn at answer
  split at answer
  · cases answer
  · next column meant => exact ⟨column, meant, answer⟩

/-- A row that is answered is listed alone. -/
theorem listing_row {index : Nat} (answer : (s.run (.row index)).1 = .ok (.rows headers rows)) :
    s.table.Listing [index] headers rows := by
  obtain ⟨view, found, shown⟩ := eq_ok_of_lift_map answer
  unfold Table.row at found
  split at found
  · next checked =>
    cases found
    refine listing_showRows (fun row mem => ?_) shown
    rw [List.mem_singleton.1 mem]
    exact Table.inside_of_checkRow checked
  · cases found

/-- The rows that are answered are the first ones up to the limit. -/
theorem listing_list {limit : Option Nat}
    (answer : (s.run (.list limit)).1 = .ok (.rows headers rows)) :
    s.table.Listing (List.range (limit.elim s.table.rowCount (min s.table.rowCount))) headers
      rows := by
  have shown : s.showRows (List.range (limit.elim s.table.rowCount (min s.table.rowCount)))
      = .rows headers rows := by
    cases limit <;> exact Except.ok.inj answer
  refine listing_showRows (fun row mem => Nat.lt_of_lt_of_le (List.mem_range.1 mem) ?_) shown
  cases limit with
  | none => exact Nat.le_refl _
  | some limit => exact Nat.min_le_left _ _

/-- The rows that a query answers are those that a scan selects. -/
theorem listing_query {column : Nat} {check : CellTest String}
    (answer : s.query column check = .ok (.rows headers rows)) :
    s.table.Listing (s.table.select (.test column check)) headers rows := by
  by_cases inside : column < s.table.columnCount
  · rw [s.query_eq_scan inside] at answer
    cases answer
    have selected := (s.table.select_ascending (.test column check)).2
    exact ⟨s.shownHeaders_eq, List.map_congr_left fun row mem => shownRow_eq (selected row mem),
      selected⟩
  · unfold query Table.indexColumn Table.checkColumn at answer
    rw [if_neg inside] at answer
    cases answer

/-- The entries of a list that is made from positions are numbered by them. -/
theorem zipIdx_map_range {α : Type u} (f : Nat → α) (count : Nat) :
    ((List.range count).map f).zipIdx = (List.range count).map fun i => (f i, i) :=
  List.ext_getElem (by simp) (by simp)

/-- A column that is answered is listed cell by cell, under its name alone. -/
theorem lists_column {ref : ColumnRef}
    (answer : (s.run (.column ref)).1 = .ok (.rows headers rows)) (s' : Session) :
    s.Lists s' headers rows (.column ref) := by
  obtain ⟨column, meant, answer⟩ := eq_ok_of_onColumn answer
  obtain ⟨view, found, shown⟩ := eq_ok_of_lift_map answer
  unfold Table.column at found
  split at found
  · next checked =>
    cases found
    cases shown
    refine ⟨column, meant, Table.inside_of_checkColumn checked, rfl, ?_⟩
    unfold ColumnView.cells
    rw [zipIdx_map_range, List.map_map]
    rfl
  · cases found

/-- The removed row is shown with the cells that it had, and no column is removed with it. -/
theorem lists_removeRow (h : s.table.store.WellFormed) {index : Nat}
    (answer : (s.run (.removeRow index)).1 = .ok (.rows headers rows)) :
    s.Lists (s.run (.removeRow index)).2 headers rows (.removeRow index) := by
  by_cases inside : index < s.table.rowCount
  · obtain ⟨cells, removed⟩ := Table.removeRow_of_inside inside
    have kept : cells = s.table.rowCells index := by
      have answered := congrArg Prod.fst removed
      rw [Table.fst_removeRow, Table.checkRow, if_pos inside] at answered
      exact (Except.ok.inj answered).symm.trans (Table.toList_row inside)
    have ran : s.run (.removeRow index)
        = let s' := { s with table := { s.table with store := (s.table.store.removeRow index).2 } }
          (.ok (.rows s'.shownHeaders [{ index, cells }]), s') := by
      rw [run, removed]
    rw [ran] at answer ⊢
    cases answer
    rw [kept]
    exact ⟨inside, shownHeaders_eq _, (h.removeRow_spec inside).columnCount, rfl⟩
  · rw [run, Table.removeRow, Table.checkRow, if_neg inside] at answer
    cases answer

/-- Whatever a command lists, it lists truly. -/
theorem lists_of_run (h : s.table.store.WellFormed) {command : Command}
    (answer : (s.run command).1 = .ok (.rows headers rows)) :
    s.Lists (s.run command).2 headers rows command := by
  cases command with
  | row index => exact listing_row answer
  | list limit => exact listing_list answer
  | column ref => exact lists_column answer _
  | removeRow index => exact lists_removeRow h answer
  | query ref check =>
    obtain ⟨column, meant, answer⟩ := eq_ok_of_onColumn answer
    exact ⟨column, meant, listing_query answer⟩
  -- The other commands answer with something else.
  | nothing | quit | help | stats | clear => cases answer
  | format format => cases format <;> cases answer
  | headers names =>
    rw [run] at answer
    split at answer <;> cases answer
  | add values | insert row values =>
    obtain ⟨_, _, other⟩ := eq_ok_of_lift_map answer
    cases other
  | get row ref =>
    obtain ⟨_, _, answer⟩ := eq_ok_of_onColumn answer
    obtain ⟨_, _, other⟩ := eq_ok_of_lift_map answer
    cases other
  | addColumn name values =>
    rw [run, addColumn] at answer
    split at answer
    · cases answer
    · split at answer <;> cases answer
  | set row ref value =>
    rw [run, setCell] at answer
    split at answer
    · cases answer
    · split at answer <;> cases answer
  | unset row ref =>
    rw [run] at answer
    split at answer <;> cases answer
  | removeColumn ref =>
    rw [run] at answer
    split at answer
    · cases answer
    · rw [removeColumn] at answer
      split at answer <;> cases answer

end Run

/-! ## The shape of a listing -/

section Shape

variable {s' : Session} {command : Command}

/-- Whatever command lists rows, every row is as long as the headers. -/
theorem Lists.length_cells (h : s.Lists s' headers rows command) :
    ∀ row ∈ rows, row.cells.length = headers.length := by
  cases command with
  | row index | list limit => exact Table.Listing.length_cells h
  | query ref check =>
    obtain ⟨column, -, listing⟩ := h
    exact listing.length_cells
  | column ref =>
    obtain ⟨column, -, -, rfl, rfl⟩ := h
    exact List.forall_mem_map.2 fun row _ => rfl
  | removeRow index =>
    obtain ⟨-, rfl, same, rfl⟩ := h
    rw [List.forall_mem_singleton, Table.length_rowCells, Table.length_shownNames, same]
  | _ => exact h.elim

/-- Whatever command lists rows, each is listed once and in ascending order. -/
theorem Lists.ascending (h : s.Lists s' headers rows command) :
    (rows.map RowOutput.index).Pairwise (· < ·) := by
  cases command with
  | row index =>
    rw [Table.Listing.map_index h]
    exact List.pairwise_singleton ..
  | list limit =>
    rw [Table.Listing.map_index h]
    exact List.pairwise_lt_range
  | query ref check =>
    obtain ⟨column, -, listing⟩ := h
    rw [listing.map_index]
    exact (s.table.select_ascending _).1
  | column ref =>
    obtain ⟨column, -, -, -, rfl⟩ := h
    rw [List.map_map]
    exact (List.map_id (List.range s.table.rowCount)).symm ▸ List.pairwise_lt_range
  | removeRow index =>
    obtain ⟨-, -, -, rfl⟩ := h
    exact List.pairwise_singleton ..
  | _ => exact h.elim

end Shape

/-- Every listing of rows is rectangular, ordered and true. In a session that lines lead to from a
valid configuration, a line that answers with rows gives each of them as many cells as there are
headers, and their indices ascend strictly. The line is one of the commands that list rows, and what
it lists is in the table, or was in it in the case of a removed row. -/
theorem execute_lists {c : Config} (valid : c.validate = .ok ()) (lines : List String)
    {line : String} {headers : List String} {rows : List RowOutput} :
    let s := (withCapacity c.rowCapacity c.columnCapacity).afterLines lines
    (s.execute line).1 = .ok (.rows headers rows) →
      (∀ row ∈ rows, row.cells.length = headers.length) ∧
      (rows.map RowOutput.index).Pairwise (· < ·) ∧
      ∃ command, Command.ofLine line = .ok command ∧
        s.Lists (s.execute line).2 headers rows command := by
  intro s answer
  have h : s.table.store.WellFormed := wellFormed_afterLines (wellFormed_of_valid valid) lines
  cases read : Command.ofLine line with
  | error e =>
    rw [s.execute_of_unreadable read] at answer
    cases answer
  | ok command =>
    rw [s.execute_of_read read] at answer ⊢
    have lists := lists_of_run h answer
    exact ⟨lists.length_cells, lists.ascending, command, rfl, lists⟩

/-- Two rows of different lengths, and fewer names than columns. -/
def ragged : Session := (withCapacity 8 8).afterLines ["headers name", "add a b", "add c"]

/-- A short row is listed with an empty cell, and a column without a name by its index, also when a
row is removed. -/
theorem execute_lists_ragged :
    (ragged.execute "show").1
        = .ok (.rows ["name", "#1"] [⟨0, [some "a", some "b"]⟩, ⟨1, [some "c", none]⟩]) ∧
      ragged.table.Listing [0, 1] ["name", "#1"]
        [⟨0, [some "a", some "b"]⟩, ⟨1, [some "c", none]⟩] ∧
      (ragged.execute "rmrow 0").1 = .ok (.rows ["name", "#1"] [⟨0, [some "a", some "b"]⟩]) ∧
      ["name", "#1"] = (ragged.execute "rmrow 0").2.table.shownNames := by
  have valid : ({} : Config).validate = .ok () := rfl
  have all : (ragged.execute "show").1
      = .ok (.rows ["name", "#1"] [⟨0, [some "a", some "b"]⟩, ⟨1, [some "c", none]⟩]) := by
    unfold ragged
    cbv
  have removed : (ragged.execute "rmrow 0").1
      = .ok (.rows ["name", "#1"] [⟨0, [some "a", some "b"]⟩]) := by
    unfold ragged
    cbv
  obtain ⟨-, -, command, read, listed⟩ := execute_lists valid _ all
  obtain ⟨-, -, command', read', listed'⟩ := execute_lists valid _ removed
  obtain rfl : command = .list none := (Except.ok.inj read).symm
  obtain rfl : command' = .removeRow 0 := (Except.ok.inj read').symm
  have two : ragged.table.rowCount = 2 := by
    unfold ragged
    cbv
  refine ⟨all, ?_, removed, listed'.2.1⟩
  have listing : ragged.table.Listing (List.range ragged.table.rowCount) _ _ := listed
  rwa [two] at listing

end Session

end Tabular
