import Mathlib
import Tabular.Store.Edit
import Tabular.Proofs.Store.Insertion
import Tabular.Proofs.Store.Removal

/-!
# Runs

Every edit keeps the invariant of a store, also an edit that fails, so every store that a run
reaches has it. An edit with rows and columns exchanged does to the mirror image what the edit does
to the store.

The whole of Mathlib is imported because runs on fixed inputs are evaluated in what follows, and the
equations of the core functions that this unfolds are spread over it.
-/

namespace Tabular.Store

variable {α : Type u} {s t : Store α}

/-! ## One edit -/

/-- Clearing the mirror image is clearing the store. -/
theorem Mirrors.clear (m : s.Mirrors t) : s.clear.Mirrors t.clear := by
  unfold Store.clear withCapacity
  rw [m.initialRows, m.initialColumns]
  exact ⟨rfl, rfl, rfl, rfl, Cells.shaped_blank _ _, Cells.shaped_blank _ _, fun r c => by
    rw [Cells.get_blank, Cells.get_blank]⟩

/-- Every edit keeps the invariant. -/
theorem WellFormed.apply (h : s.WellFormed) (e : Edit α) : (s.apply e).2.WellFormed := by
  cases e with
  | addRow values => exact h.insertRow _ values
  | addColumn values => exact h.insertColumn _ values
  | insertRow row values => exact h.insertRow row values
  | insertColumn column values => exact h.insertColumn column values
  | set row column value => exact h.set row column value
  | unset row column => exact h.exchange row column none
  | removeRow row => exact h.removeRow row
  | removeColumn column => exact h.removeColumn column
  | clear => exact h.clear

/-- An edit of the mirror image is the edit with rows and columns exchanged. -/
theorem Mirrors.apply (m : s.Mirrors t) (h : s.WellFormed) (e : Edit α) :
    (t.apply e.transpose).1 = (s.apply e).1 ∧ (s.apply e).2.Mirrors (t.apply e.transpose).2 := by
  cases e with
  | addRow values =>
    have added : t.addColumn values = t.insertColumn s.rowCount values := by
      unfold addColumn
      rw [m.columnCount]
    obtain ⟨same, m'⟩ := m.insertColumn h s.rowCount values
    rw [← added] at same m'
    exact ⟨congrArg Edit.Answer.position same, m'⟩
  | addColumn values =>
    have added : t.addRow values = t.insertRow s.columnCount values := by
      unfold addRow
      rw [m.rowCount]
    obtain ⟨same, m'⟩ := m.insertRow h s.columnCount values
    rw [← added] at same m'
    exact ⟨congrArg Edit.Answer.position same, m'⟩
  | insertRow row values =>
    obtain ⟨same, m'⟩ := m.insertColumn h row values
    exact ⟨congrArg Edit.Answer.position same, m'⟩
  | insertColumn column values =>
    obtain ⟨same, m'⟩ := m.insertRow h column values
    exact ⟨congrArg Edit.Answer.position same, m'⟩
  | set row column value =>
    obtain ⟨same, m'⟩ := m.set h row column value
    exact ⟨congrArg Edit.Answer.content same, m'⟩
  | unset row column =>
    obtain ⟨same, m'⟩ := m.exchange h row column none
    exact ⟨congrArg Edit.Answer.content same, m'⟩
  | removeRow row =>
    obtain ⟨same, m'⟩ := m.symm.removeRow (m.wellFormed h) row
    exact ⟨congrArg Edit.Answer.line same.symm, m'.symm⟩
  | removeColumn column =>
    obtain ⟨same, m'⟩ := m.removeRow h column
    exact ⟨congrArg Edit.Answer.line same, m'⟩
  | clear => exact ⟨rfl, m.clear⟩

/-! ## Runs of edits -/

/-- Every run keeps the invariant. -/
theorem WellFormed.run (h : s.WellFormed) (edits : List (Edit α)) : (s.run edits).WellFormed := by
  induction edits generalizing s with
  | nil => exact h
  | cons e edits ih => exact ih (h.apply e)

/-- Edits that grow both axes, shift columns, recycle slots and pack the rows. -/
def churn : List (Edit Nat) :=
  [.addRow [1, 2], .insertColumn 1 [5, 6], .set 9 0 7, .removeRow 0, .removeColumn 2, .unset 0 0,
    .insertRow 1 [3], .removeRow 2, .removeRow 2, .removeRow 2, .removeRow 2, .removeRow 2,
    .removeRow 2, .removeRow 2, .addColumn [8]]

end Tabular.Store
