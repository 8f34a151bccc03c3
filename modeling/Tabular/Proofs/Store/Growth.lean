import Tabular.Proofs.Store.WellFormed

/-!
# Growing a store

A store whose row axis is replaced by one with more active slots keeps the invariant and shows its
old cells under their positions; the new rows are empty. Extending an axis changes no cell that is
seen, and it succeeds exactly for at most `maxSlots` lines.
-/

namespace Tabular.Store

variable {α : Type u} {s t s' t' : Store α} {b : Axis}

/-! ## Replacing an axis -/

/-- New rows are the rows. -/
@[simp] theorem rows_withRows (s : Store α) (b : Axis) : (s.withRows b).rows = b := by
  unfold withRows
  split <;> rfl

/-- New rows leave the columns. -/
@[simp] theorem columns_withRows (s : Store α) (b : Axis) :
    (s.withRows b).columns = s.columns := by
  unfold withRows
  split <;> rfl

/-- New rows leave the capacity of rows to which clearing returns. -/
@[simp] theorem initialRows_withRows (s : Store α) (b : Axis) :
    (s.withRows b).initialRows = s.initialRows := by
  unfold withRows
  split <;> rfl

/-- New rows leave the capacity of columns to which clearing returns. -/
@[simp] theorem initialColumns_withRows (s : Store α) (b : Axis) :
    (s.withRows b).initialColumns = s.initialColumns := by
  unfold withRows
  split <;> rfl

/-- New rows leave every cell. -/
@[simp] theorem get_cells_withRows (s : Store α) (b : Axis) (r c : Nat) :
    (s.withRows b).cells.get r c = s.cells.get r c := by
  unfold withRows
  split
  · rfl
  · exact Cells.get_growRows _ _ _ _ _

/-- New columns leave the rows. -/
@[simp] theorem rows_withColumns (s : Store α) (b : Axis) : (s.withColumns b).rows = s.rows := by
  unfold withColumns
  split <;> rfl

/-- New columns are the columns. -/
@[simp] theorem columns_withColumns (s : Store α) (b : Axis) :
    (s.withColumns b).columns = b := by
  unfold withColumns
  split <;> rfl

/-- New columns leave the capacity of rows to which clearing returns. -/
@[simp] theorem initialRows_withColumns (s : Store α) (b : Axis) :
    (s.withColumns b).initialRows = s.initialRows := by
  unfold withColumns
  split <;> rfl

/-- New columns leave the capacity of columns to which clearing returns. -/
@[simp] theorem initialColumns_withColumns (s : Store α) (b : Axis) :
    (s.withColumns b).initialColumns = s.initialColumns := by
  unfold withColumns
  split <;> rfl

/-- New columns leave every cell. -/
@[simp] theorem get_cells_withColumns (s : Store α) (b : Axis) (r c : Nat) :
    (s.withColumns b).cells.get r c = s.cells.get r c := by
  unfold withColumns
  split
  · rfl
  · exact Cells.get_growColumns _ _ _ _

/-- New rows leave what the line of a slot holds. -/
@[simp] theorem lineAt_withRows (s : Store α) (b : Axis) (r column : Nat) :
    (s.withRows b).lineAt r column = s.lineAt r column := by
  unfold lineAt
  simp only [columns_withRows, get_cells_withRows]

/-- The cells grow with the rows. -/
theorem shaped_withRows (shaped : s.cells.Shaped s.rows.capacity s.columns.capacity)
    (le : s.rows.capacity ≤ b.capacity) :
    (s.withRows b).cells.Shaped b.capacity s.columns.capacity := by
  unfold withRows
  split
  · next same =>
    rw [same]
    exact shaped
  · exact shaped.growRows le

/-- A store with a larger row axis is well formed if no slot of it becomes inactive. -/
theorem WellFormed.withRows (h : s.WellFormed) (wf : b.WellFormed)
    (le : s.rows.capacity ≤ b.capacity) (active : ∀ k, k ∈ s.rows.active → k ∈ b.active) :
    (s.withRows b).WellFormed where
  rows := by
    rw [rows_withRows]
    exact wf
  columns := by
    rw [columns_withRows]
    exact h.columns
  shaped := by
    rw [rows_withRows, columns_withRows]
    exact shaped_withRows h.shaped le
  dead r c inactive := by
    rw [rows_withRows, columns_withRows] at inactive
    rw [get_cells_withRows]
    exact h.dead r c (inactive.imp_left fun notActive isActive => notActive (active r isActive))
  initialRows := by
    rw [initialRows_withRows]
    exact h.initialRows
  initialColumns := by
    rw [initialColumns_withRows]
    exact h.initialColumns

/-- A row of the new axis holds what its slot held. -/
theorem get?_withRows (s : Store α) (b : Axis) (row column : Nat) :
    (s.withRows b).get? row column = b.slots[row]?.bind fun r => s.lineAt r column := by
  rw [get?_eq, rows_withRows]
  simp only [lineAt_withRows]

/-- The mirror image with a larger row axis is that of the store with this column axis. -/
theorem Mirrors.withRows (m : s.Mirrors t) (le : s.columns.capacity ≤ b.capacity) :
    (s.withColumns b).Mirrors (t.withRows b) := by
  have capacity : t.rows.capacity = s.columns.capacity := by rw [m.rows]
  unfold withColumns Store.withRows
  rw [capacity]
  split
  · next same =>
    have shaped' := m.shaped'
    rw [capacity, ← same] at shaped'
    exact ⟨rfl, m.columns, m.initialRows, m.initialColumns, same ▸ m.shaped, shaped', m.get⟩
  · refine ⟨rfl, m.columns, m.initialRows, m.initialColumns, m.shaped.growColumns le,
      m.shaped'.growRows (capacity ▸ le), fun r c => ?_⟩
    calc (t.cells.growRows b.capacity t.columns.capacity).get r c = t.cells.get r c :=
          Cells.get_growRows _ _ _ r c
      _ = s.cells.get c r := m.get r c
      _ = (s.cells.growColumns b.capacity).get c r := (Cells.get_growColumns _ _ c r).symm

/-! ## Extending an axis -/

/-- Appended rows are empty, and nothing else changes. -/
theorem WellFormed.holds_withRows_of_extends (h : s.WellFormed) (e : Axis.Extends s.rows b) :
    (s.withRows b).Holds b.size s.columnCount s.get? where
  wellFormed := h.withRows e.wellFormed e.capacity_le fun k => e.active h.rows
  rowCount := by
    unfold rowCount
    rw [rows_withRows]
  columnCount := by
    unfold columnCount
    rw [columns_withRows]
  get? row column := by
    rw [get?_withRows]
    -- An appended row is on a slot that was inactive, and inactive slots hold nothing.
    by_cases old : row < s.rowCount
    · rw [e.getElem? old, get?_eq]
    · rw [s.get?_eq_none_of_rowCount_le (by omega)]
      cases found : b.slots[row]? with
      | none => rfl
      | some r => exact h.lineAt_eq_none (e.not_active h.rows (Nat.le_of_not_lt old) found) column

/-- Rows are appended up to any count that an axis can have. -/
theorem WellFormed.extendRows_spec (h : s.WellFormed) {count : Nat}
    (fits : count ≤ Capacity.maxSlots) :
    ∃ s', s.extendRows count = some s' ∧ s'.Holds (max s.rowCount count) s.columnCount s.get? ∧
      s'.columns = s.columns ∧ Axis.Extends s.rows s'.rows := by
  obtain ⟨b, extended, e, size⟩ := h.rows.extend_spec fits
  refine ⟨s.withRows b, ?_, ?_, columns_withRows s b, ?_⟩
  · unfold extendRows
    rw [extended, Option.map_some]
  · have holds := h.holds_withRows_of_extends e
    rwa [size] at holds
  · rw [rows_withRows]
    exact e

/-- Rows are not appended past what an axis can have. -/
theorem WellFormed.extendRows_eq_none (h : s.WellFormed) {count : Nat}
    (tooMany : Capacity.maxSlots < count) : s.extendRows count = none := by
  unfold extendRows
  rw [h.rows.extend_eq_none tooMany, Option.map_none]

/-- What a store is after rows were appended. -/
theorem WellFormed.of_extendRows (h : s.WellFormed) {count : Nat}
    (extended : s.extendRows count = some s') :
    s'.Holds (max s.rowCount count) s.columnCount s.get? ∧ s'.columns = s.columns ∧
      Axis.Extends s.rows s'.rows := by
  by_cases fits : count ≤ Capacity.maxSlots
  · obtain ⟨s'', extended', spec⟩ := h.extendRows_spec fits
    rw [extended] at extended'
    cases extended'
    exact spec
  · rw [h.extendRows_eq_none (by omega)] at extended
    cases extended

/-- A store that has enough rows is not extended. -/
theorem extendRows_of_le (s : Store α) {count : Nat} (enough : count ≤ s.rowCount) :
    s.extendRows count = some s := by
  have same : s.rows.extend count = some s.rows := if_pos enough
  unfold extendRows
  rw [same, Option.map_some]
  unfold withRows
  rw [if_pos rfl]

/-- Extending the columns is extending the rows of the mirror image. -/
theorem Mirrors.extendRows (m : s.Mirrors t) (h : s.WellFormed) (count : Nat) :
    (s.extendColumns count = none ∧ t.extendRows count = none) ∨
      ∃ s' t', s.extendColumns count = some s' ∧ t.extendRows count = some t' ∧ s'.Mirrors t' := by
  unfold extendColumns Store.extendRows
  rw [m.rows]
  cases extended : s.columns.extend count with
  | none => exact .inl ⟨rfl, rfl⟩
  | some b =>
    have le := (h.columns.extends_of_extend extended).1.capacity_le
    exact .inr ⟨_, _, rfl, rfl, m.withRows le⟩

/-- Extending the columns of the mirror image is extending the rows of the store. -/
theorem Mirrors.extendColumns (m : s.Mirrors t) (h : s.WellFormed) (count : Nat) :
    (s.extendRows count = none ∧ t.extendColumns count = none) ∨
      ∃ s' t', s.extendRows count = some s' ∧ t.extendColumns count = some t' ∧ s'.Mirrors t' := by
  rcases m.symm.extendRows (m.wellFormed h) count with
    ⟨failed, failed'⟩ | ⟨t', s', extended, extended', m'⟩
  · exact .inl ⟨failed', failed⟩
  · exact .inr ⟨s', t', extended', extended, m'.symm⟩

/-- What a store is after columns were appended. -/
theorem WellFormed.of_extendColumns (h : s.WellFormed) {count : Nat}
    (extended : s.extendColumns count = some s') :
    s'.Holds s.rowCount (max s.columnCount count) s.get? ∧ s'.rows = s.rows ∧
      Axis.Extends s.columns s'.columns := by
  have m := h.mirrors
  rcases m.extendRows h count with ⟨failed, -⟩ | ⟨s'', t', same, extended', m'⟩
  · rw [failed] at extended
    cases extended
  · rw [same] at extended
    cases extended
    obtain ⟨holds, columns, e⟩ := (m.wellFormed h).of_extendRows extended'
    have holds' := m'.holds holds
    rw [m.rowCount, m.columnCount, m.content] at holds'
    refine ⟨holds', ?_, ?_⟩
    · rw [← m'.columns, columns, m.columns]
    · rwa [m.rows, m'.rows] at e

/-- Columns are appended up to any count that an axis can have. -/
theorem WellFormed.extendColumns_spec (h : s.WellFormed) {count : Nat}
    (fits : count ≤ Capacity.maxSlots) :
    ∃ s', s.extendColumns count = some s' ∧ s'.Holds s.rowCount (max s.columnCount count) s.get? ∧
      s'.rows = s.rows ∧ Axis.Extends s.columns s'.columns := by
  obtain ⟨t', extended', -⟩ := (h.mirrors.wellFormed h).extendRows_spec fits
  rcases h.mirrors.extendRows h count with ⟨-, failed⟩ | ⟨s', -, extended, -, -⟩
  · rw [failed] at extended'
    cases extended'
  · exact ⟨s', extended, h.of_extendColumns extended⟩

/-- A store that has enough columns is not extended. -/
theorem extendColumns_of_le (s : Store α) {count : Nat} (enough : count ≤ s.columnCount) :
    s.extendColumns count = some s := by
  have same : s.columns.extend count = some s.columns := if_pos enough
  unfold extendColumns
  rw [same, Option.map_some]
  unfold withColumns
  rw [if_pos rfl]

end Tabular.Store
