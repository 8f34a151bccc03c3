import Tabular.Proofs.Store.Columns
import Tabular.Proofs.Table.Edits
import Tabular.Proofs.Table.Sheet

/-!
# Runs of a table

The edits of a table as data, with what each answers, and their effect on a table and on a sheet. A
table begins over any store that a run of store edits leads to, or with the names of its columns.
Every edit keeps the invariant of the store, also an edit that is refused, so every table that is
reached has it.
-/

namespace Tabular

namespace Table

/-- An edit of a table. -/
inductive Edit (α : Type u)
  | setHeader (column : Nat) (text : String)
  | set (row column : Nat) (value : α)
  | unset (row column : Nat)
  | replace (row column : Nat) (value : α)
  | pushRow (values : List α)
  | insertRow (row : Nat) (values : List α)
  | pushColumn (values : List α)
  | insertColumn (column : Nat) (values : List α)
  | removeRow (row : Nat)
  | removeColumn (column : Nat)
  | clear
deriving Repr, DecidableEq

/-- What an edit answers. -/
inductive Edit.Answer (α : Type u)
  | done
  /-- What the cell held. -/
  | content (content : Option α)
  /-- The position of the new line. -/
  | position (position : Nat)
  /-- The cells of the removed line. -/
  | line (cells : List (Option α))
  | refused (error : TableError)
deriving Repr, DecidableEq

/-- The answer for a result that can be an error. -/
def Edit.Answer.ofResult {α : Type u} {β : Type v} (answer : β → Answer α) :
    Except TableError β → Answer α
  | .ok result => answer result
  | .error e => .refused e

variable {α : Type u}

/-- Performs an edit. -/
def apply (t : Table α) : Edit α → Edit.Answer α × Table α
  | .setHeader column text => (t.setHeader column text).map (.ofResult fun _ => .done) id
  | .set row column value => (t.set row column value).map .content id
  | .unset row column => (t.unset row column).map .content id
  | .replace row column value => (t.replace row column value).map (.ofResult .content) id
  | .pushRow values => (t.pushRow values).map (.ofResult .position) id
  | .insertRow row values => (t.insertRow row values).map (.ofResult .position) id
  | .pushColumn values => (t.pushColumn values).map (.ofResult .position) id
  | .insertColumn column values => (t.insertColumn column values).map (.ofResult .position) id
  | .removeRow row => (t.removeRow row).map (.ofResult .line) id
  | .removeColumn column => (t.removeColumn column).map (.ofResult .line) id
  | .clear => (.done, t.clear)

/-- The table after a list of edits. -/
def run (t : Table α) (edits : List (Edit α)) : Table α :=
  edits.foldl (fun t edit => (t.apply edit).2) t

/-- What the edits of a list answer, one after the other. -/
def answers (t : Table α) : List (Edit α) → List (Edit.Answer α)
  | [] => []
  | e :: edits => (t.apply e).1 :: (t.apply e).2.answers edits

/-- The sheet that a table shows. -/
def toSheet (t : Table α) : Sheet α where
  rowCount := t.rowCount
  columns := (List.range t.columnCount).map fun column =>
    { name := t.header column, cells := (List.range t.rowCount).map fun row => t.cell row column }

end Table

namespace Sheet

variable {α : Type u}

/-- Performs an edit. An edit that a table refuses for its coordinates does nothing. -/
def apply (s : Sheet α) : Table.Edit α → Sheet α
  | .setHeader column text => s.setHeader column text
  | .set row column value => s.set row column value
  | .unset row column => s.put row column none
  | .replace row column value => s.put row column (some value)
  | .pushRow values => s.insertRow s.rowCount values
  | .insertRow row values => s.insertRow row values
  | .pushColumn values => s.insertColumn s.columns.length values
  | .insertColumn column values => s.insertColumn column values
  | .removeRow row => s.removeRow row
  | .removeColumn column => s.removeColumn column
  | .clear => empty

/-- The sheet after a list of edits. -/
def run (s : Sheet α) (edits : List (Table.Edit α)) : Sheet α := edits.foldl apply s

/-- A sheet of unnamed columns that hold what a store holds. -/
def ofStore (store : Store α) : Sheet α where
  rowCount := store.rowCount
  columns := store.columnGrid.rows.map fun cells => { cells }

/-- The grid of a table over a store is that of its columns. -/
theorem grid_ofStore (store : Store α) : (ofStore store).grid = store.columnGrid := by
  have rows : (store.columnGrid.rows.map fun cells => { cells }).map Column.cells
      = store.columnGrid.rows := by
    rw [List.map_map]
    exact List.map_id _
  exact congrArg (Grid.mk store.rowCount) rows

/-- A sheet of named columns without rows. -/
def ofNames (names : List String) : Sheet α where
  columns := names.map fun name => { name := some name }

end Sheet

namespace Table

variable {α : Type u} {t : Table α}

/-- Appending a row is inserting it at the end. -/
theorem apply_pushRow (t : Table α) (values : List α) :
    t.apply (.pushRow values) = t.apply (.insertRow t.rowCount values) := by
  unfold apply
  dsimp only
  rw [pushRow_eq]

/-! ## Tables that are reached -/

/-- A table at its beginning, with the sheet that it shows then: over a store that a run leads to,
of capacities that an axis can have at the start, or with the names of its columns. -/
inductive Opens : Table α → Sheet α → Prop
  | ofStore {rows columns : Nat} (hr : rows ≤ Capacity.maxSlots) (hc : columns ≤ Capacity.maxSlots)
    (edits : List (Tabular.Edit α)) :
    Opens (ofStore ((Store.withCapacity rows columns).run edits))
      (.ofStore ((Store.withCapacity rows columns).run edits))
  | withHeaders {names : List String} {t : Table α} (created : withHeaders names = .ok t) :
    Opens t (.ofNames names)

/-- The tables that edits lead to from a beginning. -/
def Reachable (t : Table α) : Prop :=
  ∃ start sheet, Opens start sheet ∧ ∃ edits, t = start.run edits

/-! ## Keeping the invariant of the store -/

/-- A table stays well formed when a cell is replaced, also when that fails. -/
theorem wellFormed_replace (h : t.store.WellFormed) (row column : Nat) (value : α) :
    (t.replace row column value).2.store.WellFormed := by
  unfold replace
  split
  · exact wellFormed_set h row column value
  · exact h

/-- A table stays well formed when a column is inserted, also when that fails. -/
theorem wellFormed_insertColumn (h : t.store.WellFormed) (column : Nat) (values : List α) :
    (t.insertColumn column values).2.store.WellFormed := by
  have inserted := h.insertColumn column values
  unfold insertColumn
  split
  · exact h
  · split
    · next eq => rwa [eq] at inserted
    · next eq => rwa [eq] at inserted

/-- Every edit keeps the invariant of the store. -/
theorem wellFormed_apply (h : t.store.WellFormed) (e : Edit α) :
    (t.apply e).2.store.WellFormed := by
  cases e with
  | setHeader column text => exact wellFormed_setHeader h column text
  | set row column value => exact wellFormed_set h row column value
  | unset row column => exact wellFormed_unset h row column
  | replace row column value => exact wellFormed_replace h row column value
  | pushRow values => exact wellFormed_pushRow h values
  | insertRow row values => exact wellFormed_insertRow h row values
  | pushColumn values => exact wellFormed_pushColumn h values
  | insertColumn column values => exact wellFormed_insertColumn h column values
  | removeRow row => exact wellFormed_removeRow h row
  | removeColumn column => exact wellFormed_removeColumn h column
  | clear => exact h.clear

/-- Every run keeps the invariant of the store. -/
theorem wellFormed_run (h : t.store.WellFormed) (edits : List (Edit α)) :
    (t.run edits).store.WellFormed := by
  induction edits generalizing t with
  | nil => exact h
  | cons e edits ih => exact ih (wellFormed_apply h e)

/-- A table with the names of its columns is well formed. -/
theorem wellFormed_of_withHeaders {names : List String} (created : withHeaders names = .ok t) :
    t.store.WellFormed := by
  have capacity : Store.defaultCapacity ≤ Capacity.maxSlots := by decide
  have named := wellFormed_setHeaders (t := (empty : Table α))
    (Store.wellFormed_withCapacity capacity capacity) 0 names
  unfold withHeaders at created
  split at created
  · next eq =>
    cases created
    rwa [eq] at named
  · cases created

/-- A table at its beginning is well formed. -/
theorem Opens.wellFormed {s : Sheet α} (opens : t.Opens s) : t.store.WellFormed := by
  cases opens with
  | ofStore hr hc edits => exact (Store.wellFormed_withCapacity hr hc).run edits
  | withHeaders created => exact wellFormed_of_withHeaders created

/-- Every table that edits reach is well formed. -/
theorem Reachable.wellFormed (reachable : t.Reachable) : t.store.WellFormed := by
  obtain ⟨start, sheet, opens, edits, rfl⟩ := reachable
  exact wellFormed_run opens.wellFormed edits

end Table

end Tabular
