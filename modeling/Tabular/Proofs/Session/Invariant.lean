import Tabular.Config.Basic
import Tabular.Proofs.Table.Edits
import Tabular.Session.Basic

/-!
# The store of a session

The table of a session is edited by operations of its store only, so the store of every session that
lines lead to keeps its invariant. A valid configuration starts with one that has it.
-/

namespace Tabular

/-- A capacity that is accepted is within its limit. -/
theorem Config.checkCapacity_ok {setting : Setting} {value : Nat}
    (checked : checkCapacity setting value = .ok ()) : value ≤ maxCapacity := by
  unfold checkCapacity at checked
  split at checked
  · cases checked
  · omega

/-- The capacities of a valid configuration are far from what an axis can have. -/
theorem Config.capacities_of_valid {c : Config} (valid : c.validate = .ok ()) :
    c.rowCapacity ≤ Capacity.maxSlots ∧ c.columnCapacity ≤ Capacity.maxSlots := by
  have far : maxCapacity ≤ Capacity.maxSlots := by decide
  unfold validate at valid
  cases row : checkCapacity .rowCapacity c.rowCapacity with
  | error e =>
    rw [row] at valid
    cases valid
  | ok u =>
    rw [row] at valid
    cases column : checkCapacity .columnCapacity c.columnCapacity with
    | error e =>
      rw [column] at valid
      cases valid
    | ok u =>
      exact ⟨Nat.le_trans (checkCapacity_ok row) far, Nat.le_trans (checkCapacity_ok column) far⟩

namespace Session

variable {s : Session}

/-! ## The store of a session -/

/-- A session stays well formed when a column is found or added. -/
theorem wellFormed_columnOrNew (h : s.table.store.WellFormed) (column : ColumnRef) :
    (s.columnOrNew column).2.table.store.WellFormed := by
  cases column with
  | index column => exact h
  | name text =>
    have named := Table.wellFormed_setHeader h s.table.columnCount text
    unfold columnOrNew
    dsimp only
    split
    · exact h
    · split
      · next eq => rwa [eq] at named
      · next eq => rwa [eq] at named

/-- A session stays well formed when a cell is set, also when that is refused. -/
theorem wellFormed_setCell (h : s.table.store.WellFormed) (row : Nat) (column : ColumnRef)
    (value : String) : (s.setCell row column value).2.table.store.WellFormed := by
  have found := wellFormed_columnOrNew h column
  unfold setCell
  split
  · next eq => rwa [eq] at found
  · next eq =>
    rw [eq] at found
    split
    · exact Table.wellFormed_set found row _ value
    · exact found

/-- A session stays well formed when a column is added. -/
theorem wellFormed_addColumn (h : s.table.store.WellFormed) (name : String) (values : List String) :
    (s.addColumn name values).2.table.store.WellFormed := by
  have pushed := Table.wellFormed_pushColumn h values
  unfold addColumn
  split
  · next eq => rwa [eq] at pushed
  · next column table eq =>
    rw [eq] at pushed
    have named := Table.wellFormed_setHeader pushed column name
    split
    · next eq => rwa [eq] at named
    · next eq => rwa [eq] at named

/-- A session stays well formed when a column is removed. -/
theorem wellFormed_removeColumn (h : s.table.store.WellFormed) (column : Nat) :
    (s.removeColumn column).2.table.store.WellFormed := by
  have removed := Table.wellFormed_removeColumn h column
  unfold removeColumn
  dsimp only
  split
  · next eq => rwa [eq] at removed
  · next eq => rwa [eq] at removed

/-- A command that only looks at a column changes nothing. -/
theorem onColumn_snd (s : Session) (column : ColumnRef)
    (outcome : Nat → Except CommandError Output) : (s.onColumn column outcome).2 = s := by
  unfold onColumn
  split <;> rfl

/-- Every command keeps the invariant of the store, also a command that fails. -/
theorem wellFormed_run (h : s.table.store.WellFormed) (command : Command) :
    (s.run command).2.table.store.WellFormed := by
  cases command with
  | nothing | quit | help | row | list | stats => exact h
  | format format => cases format <;> exact h
  | headers names =>
    have named := Table.wellFormed_setHeaders h 0 names
    unfold run
    dsimp only
    split
    · next eq => rwa [eq] at named
    · next eq => rwa [eq] at named
  | add values => exact Table.wellFormed_pushRow h values
  | insert row values => exact Table.wellFormed_insertRow h row values
  | addColumn name values => exact wellFormed_addColumn h name values
  | set row column value => exact wellFormed_setCell h row column value
  -- A column that is not known stops a command before it does anything.
  | unset row column =>
    unfold run
    dsimp only
    split
    · exact h
    · exact Table.wellFormed_unset h row _
  | get row column =>
    unfold run
    rw [onColumn_snd]
    exact h
  | column column =>
    unfold run
    rw [onColumn_snd]
    exact h
  | removeRow row =>
    have removed := Table.wellFormed_removeRow h row
    unfold run
    dsimp only
    split
    · next eq => rwa [eq] at removed
    · next eq => rwa [eq] at removed
  | removeColumn column =>
    unfold run
    dsimp only
    split
    · exact h
    · exact wellFormed_removeColumn h _
  | clear => exact h.clear
  | query column check =>
    unfold run
    rw [onColumn_snd]
    exact h

/-- A session stays well formed by any line. -/
theorem wellFormed_execute (h : s.table.store.WellFormed) (line : String) :
    (s.execute line).2.table.store.WellFormed := by
  unfold execute
  split
  · exact wellFormed_run h _
  · exact h

/-- The session after some lines, whether they fail or not. -/
def afterLines (s : Session) (lines : List String) : Session :=
  lines.foldl (fun s line => (s.execute line).2) s

/-- A session stays well formed by any lines. -/
theorem wellFormed_afterLines (h : s.table.store.WellFormed) (lines : List String) :
    (s.afterLines lines).table.store.WellFormed := by
  induction lines generalizing s with
  | nil => exact h
  | cons line lines ih => exact ih (wellFormed_execute h line)

/-- A valid configuration starts a session with capacities that an axis can have. -/
theorem wellFormed_of_valid {c : Config} (valid : c.validate = .ok ()) :
    (withCapacity c.rowCapacity c.columnCapacity).table.store.WellFormed := by
  obtain ⟨hr, hc⟩ := Config.capacities_of_valid valid
  exact Store.wellFormed_withCapacity hr hc

end Session

end Tabular
