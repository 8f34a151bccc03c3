import Tabular.Proofs.Store.Refusal
import Tabular.Proofs.Store.Run

/-!
# Rows and columns exchanged

The code for rows and the code for columns do the same, up to the exchange of the two axes. Edits
with rows and columns exchanged lead from a store to its mirror image at every step
(`Mirrors.run`), and nothing that can be read of one store differs from what can be read of the
other (`Mirrors.transposed`).
-/

namespace Tabular.Store

variable {α : Type u} {s t : Store α}

/-- Every read of `t` is the read of `s` with rows and columns exchanged. -/
structure Transposed (s t : Store α) : Prop where
  rowCount : t.rowCount = s.columnCount
  columnCount : t.columnCount = s.rowCount
  rowCapacity : t.rowCapacity = s.columnCapacity
  columnCapacity : t.columnCapacity = s.rowCapacity
  get? : ∀ row column, t.get? row column = s.get? column row
  row? : ∀ row, t.row? row = s.column? row
  column? : ∀ column, t.column? column = s.row? column

/-- A mirror image is a transposed store, read by read. -/
theorem Mirrors.transposed (m : s.Mirrors t) : s.Transposed t where
  rowCount := m.rowCount
  columnCount := m.columnCount
  rowCapacity := congrArg Axis.capacity m.rows
  columnCapacity := congrArg Axis.capacity m.columns
  get? := m.get?
  row? := m.row?
  column? column := (m.symm.row? column).symm

/-- Stores without rows and columns mirror each other when their capacities are exchanged. -/
theorem mirrors_withCapacity (rows columns : Nat) :
    (withCapacity rows columns : Store α).Mirrors (withCapacity columns rows) where
  rows := rfl
  columns := rfl
  initialRows := rfl
  initialColumns := rfl
  shaped := Cells.shaped_blank _ _
  shaped' := Cells.shaped_blank _ _
  get r c := by
    calc (withCapacity columns rows : Store α).cells.get r c = none := Cells.get_blank _ _ _ _
      _ = (withCapacity rows columns : Store α).cells.get c r := (Cells.get_blank _ _ _ _).symm

/-- The same edits with rows and columns exchanged keep the mirror image. -/
theorem Mirrors.run (m : s.Mirrors t) (h : s.WellFormed) (edits : List (Edit α)) :
    (s.run edits).Mirrors (t.run (edits.map Edit.transpose)) := by
  induction edits generalizing s t with
  | nil => exact m
  | cons e edits ih => exact ih (m.apply h e).2 (h.apply e)

/-- Two stores that start with exchanged capacities, up to those that an axis can have, and that
undergo the same edits with rows and columns exchanged are transposes of each other at every time:
counts, capacities, cells, rows and columns. The next edit and its exchange answer the same, also
when they fail. -/
theorem run_transpose {rows columns : Nat} (hr : rows ≤ Capacity.maxSlots)
    (hc : columns ≤ Capacity.maxSlots) (edits : List (Edit α)) :
    let s : Store α := (withCapacity rows columns).run edits
    let t : Store α := (withCapacity columns rows).run (edits.map Edit.transpose)
    s.Transposed t ∧ ∀ e : Edit α, (t.apply e.transpose).1 = (s.apply e).1 := by
  intro s t
  have start : (withCapacity rows columns : Store α).WellFormed := wellFormed_withCapacity hr hc
  have m : s.Mirrors t := (mirrors_withCapacity rows columns).run start edits
  constructor
  · exact m.transposed
  · intro e
    exact (m.apply (start.run edits) e).1

/-- The run that packs the rows packs the columns when it is transposed. -/
theorem run_transpose_churn :
    let s : Store Nat := (withCapacity 1 2).run churn
    let t : Store Nat := (withCapacity 2 1).run (churn.map Edit.transpose)
    t.columnCapacity = 8 ∧ t.column? 0 = some [none, some 6, some 8] ∧
      (s.apply (.insertRow (Capacity.maxSlots + 1) [])).1 = .position none ∧
      (t.apply (.insertColumn (Capacity.maxSlots + 1) [])).1 = .position none := by
  intro s t
  have hr : 1 ≤ Capacity.maxSlots := by decide
  have hc : 2 ≤ Capacity.maxSlots := by decide
  obtain ⟨transposed, answers⟩ := run_transpose (α := Nat) hr hc churn
  have capacity : s.rowCapacity = 8 := by
    unfold s churn
    cbv
  have row : s.row? 0 = some [none, some 6, some 8] := by
    unfold s churn
    cbv
  have far : (s.apply (.insertRow (Capacity.maxSlots + 1) [])).1 = .position none := by
    have h : s.WellFormed := (wellFormed_withCapacity hr hc).run churn
    rw [Store.apply, h.insertRow_of_far (Nat.lt_succ_self Capacity.maxSlots) []]
    rfl
  refine ⟨transposed.columnCapacity.trans capacity, (transposed.column? 0).trans row, far, ?_⟩
  exact (answers (.insertRow (Capacity.maxSlots + 1) [])).trans far

end Tabular.Store
