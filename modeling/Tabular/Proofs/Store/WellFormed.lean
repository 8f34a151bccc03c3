import Tabular.Store.Basic
import Tabular.Proofs.Store.Cells
import Tabular.Proofs.Store.Packing

/-!
# The invariant of a store

`Store.WellFormed` ties the two axes of a store to its cells: the cells form a rectangle of the size
of the two capacities, and a cell on an inactive slot is empty, so that a slot that is handed out
again brings an empty line. `Store.Holds` says what is seen of a store from outside.

The code for rows and the code for columns are written twice, over cells that are stored by row.
`Store.Mirrors` relates a store to one with rows and columns exchanged. Each operation on columns is
the operation on rows of the mirror image, so what is proved of rows here holds of columns.
-/

namespace Tabular.Store

variable {α : Type u} {s t : Store α}

/-- The invariant of a store. -/
structure WellFormed (s : Store α) : Prop where
  rows : s.rows.WellFormed
  columns : s.columns.WellFormed
  shaped : s.cells.Shaped s.rows.capacity s.columns.capacity
  dead : ∀ r c, r ∉ s.rows.active ∨ c ∉ s.columns.active → s.cells.get r c = none
  initialRows : Capacity.Valid s.initialRows
  initialColumns : Capacity.Valid s.initialColumns

/-- A store without rows and columns is well formed, for any capacities that an axis can have. -/
theorem wellFormed_withCapacity {rows columns : Nat} (hr : rows ≤ Capacity.maxSlots)
    (hc : columns ≤ Capacity.maxSlots) : (withCapacity rows columns : Store α).WellFormed where
  rows := Axis.wellFormed_empty (Capacity.rounded_valid hr)
  columns := Axis.wellFormed_empty (Capacity.rounded_valid hc)
  shaped := Cells.shaped_blank _ _
  dead _ _ _ := Cells.get_blank _ _ _ _
  initialRows := Capacity.rounded_valid hr
  initialColumns := Capacity.rounded_valid hc

/-- Clearing keeps the invariant. -/
theorem WellFormed.clear (h : s.WellFormed) : s.clear.WellFormed :=
  wellFormed_withCapacity h.initialRows.le_maxSlots h.initialColumns.le_maxSlots

/-! ## Reading -/

/-- What a backing row holds at a logical column. -/
def lineAt (s : Store α) (r column : Nat) : Option α :=
  s.columns.slots[column]?.bind fun c => s.cells.get r c

/-- A cell is looked up by the slot of its row and then in the line of that slot. -/
theorem get?_eq (s : Store α) (row column : Nat) :
    s.get? row column = s.rows.slots[row]?.bind fun r => s.lineAt r column := by
  unfold get? lineAt
  cases s.rows.slots[row]? with
  | none => rfl
  | some r => cases s.columns.slots[column]? <;> rfl

/-- An inactive backing row is empty. -/
theorem WellFormed.lineAt_eq_none (h : s.WellFormed) {r : Nat} (inactive : r ∉ s.rows.active)
    (column : Nat) : s.lineAt r column = none := by
  unfold lineAt
  cases s.columns.slots[column]? with
  | none => rfl
  | some c => exact h.dead r c (.inl inactive)

/-- Outside the rows there is nothing. -/
theorem get?_eq_none_of_rowCount_le (s : Store α) {row : Nat} (outside : s.rowCount ≤ row)
    (column : Nat) : s.get? row column = none := by
  rw [get?_eq, Array.getElem?_eq_none outside, Option.bind_none]

/-- Outside the columns there is nothing. -/
theorem get?_eq_none_of_columnCount_le (s : Store α) (row : Nat) {column : Nat}
    (outside : s.columnCount ≤ column) : s.get? row column = none := by
  rw [get?_eq]
  unfold lineAt
  rw [Array.getElem?_eq_none (show s.columns.slots.size ≤ column from outside)]
  cases s.rows.slots[row]? <;> rfl

/-- A row that is read is read cell by cell. -/
theorem row?_eq (s : Store α) (row : Nat) :
    s.row? row = if row < s.rowCount then some ((List.range s.columnCount).map (s.get? row))
      else none := by
  unfold row?
  split
  · next inside =>
    obtain ⟨r, found⟩ := s.rows.exists_found inside
    rw [found, Option.map_some]
    congr 1
    -- Column by column: both lists end where the columns do.
    apply List.ext_getElem?
    intro j
    rw [List.getElem?_map, List.getElem?_map, Array.getElem?_toList]
    by_cases inRow : j < s.columnCount
    · rw [List.getElem?_range inRow, Option.map_some, get?_eq, found, Option.bind_some]
      unfold lineAt
      rw [Array.getElem?_eq_getElem inRow]
      rfl
    · rw [Array.getElem?_eq_none (Nat.le_of_not_lt inRow),
        List.getElem?_eq_none (by rw [List.length_range]; omega), Option.map_none, Option.map_none]
  · next outside =>
    rw [Array.getElem?_eq_none (Nat.le_of_not_lt outside), Option.map_none]

/-! ## Mirror images -/

/-- `t` is `s` with rows and columns exchanged. -/
structure Mirrors (s t : Store α) : Prop where
  rows : t.rows = s.columns
  columns : t.columns = s.rows
  initialRows : t.initialRows = s.initialColumns
  initialColumns : t.initialColumns = s.initialRows
  shaped : s.cells.Shaped s.rows.capacity s.columns.capacity
  shaped' : t.cells.Shaped t.rows.capacity t.columns.capacity
  get : ∀ r c, t.cells.get r c = s.cells.get c r

/-- A store is the mirror image of its mirror image. -/
theorem Mirrors.symm (m : s.Mirrors t) : t.Mirrors s where
  rows := m.columns.symm
  columns := m.rows.symm
  initialRows := m.initialColumns.symm
  initialColumns := m.initialRows.symm
  shaped := m.shaped'
  shaped' := m.shaped
  get r c := (m.get c r).symm

/-- The mirror image of a well-formed store is well formed. -/
theorem Mirrors.wellFormed (m : s.Mirrors t) (h : s.WellFormed) : t.WellFormed where
  rows := m.rows ▸ h.columns
  columns := m.columns ▸ h.rows
  shaped := m.shaped'
  dead r c inactive := by
    rw [m.rows, m.columns] at inactive
    rw [m.get]
    exact h.dead c r inactive.symm
  initialRows := m.initialRows ▸ h.initialColumns
  initialColumns := m.initialColumns ▸ h.initialRows

/-- A store with rows and columns exchanged. -/
def mirror (s : Store α) : Store α where
  cells := s.cells.mirror s.rows.capacity s.columns.capacity
  rows := s.columns
  columns := s.rows
  initialRows := s.initialColumns
  initialColumns := s.initialRows

/-- Every well-formed store has a mirror image. -/
theorem WellFormed.mirrors (h : s.WellFormed) : s.Mirrors s.mirror where
  rows := rfl
  columns := rfl
  initialRows := rfl
  initialColumns := rfl
  shaped := h.shaped
  shaped' := Cells.shaped_mirror _ _ _
  get r c := h.shaped.get_mirror r c

/-- The rows of the mirror image are the columns of the store. -/
theorem Mirrors.rowCount (m : s.Mirrors t) : t.rowCount = s.columnCount := by
  unfold Store.rowCount columnCount
  rw [m.rows]

/-- The columns of the mirror image are the rows of the store. -/
theorem Mirrors.columnCount (m : s.Mirrors t) : t.columnCount = s.rowCount :=
  m.symm.rowCount.symm

/-- The mirror image has every cell with row and column exchanged. -/
theorem Mirrors.get? (m : s.Mirrors t) (row column : Nat) :
    t.get? row column = s.get? column row := by
  unfold Store.get?
  rw [m.rows, m.columns]
  cases s.columns.slots[row]? with
  | none => cases s.rows.slots[column]? <;> rfl
  | some c =>
    cases s.rows.slots[column]? with
    | none => rfl
    | some r => exact m.get c r

/-- A row of the mirror image is a column of the store. -/
theorem Mirrors.row? (m : s.Mirrors t) (row : Nat) : t.row? row = s.column? row := by
  unfold Store.row? column?
  rw [m.rows, m.columns]
  simp only [m.get]

/-! ## What a store holds -/

/-- The content of every cell, by row and column. Outside a store it is empty. -/
abbrev Content (α : Type u) := Nat → Nat → Option α

namespace Content

/-- The content after a write. -/
def write (row column : Nat) (cell : Option α) (content : Content α) : Content α := fun i j =>
  if i = row ∧ j = column then cell else content i j

/-- The content with a row inserted in front of `row`. -/
def insertRow (row : Nat) (line : Nat → Option α) (content : Content α) : Content α := fun i j =>
  if i < row then content i j else if i = row then line j else content (i - 1) j

/-- The content with values written into a row, from `column` on. -/
def fillRow (row column : Nat) (values : List α) (content : Content α) : Content α := fun i j =>
  if i = row ∧ column ≤ j ∧ j < column + values.length then values[j - column]? else content i j

/-- The content with a row removed. -/
def removeRow (row : Nat) (content : Content α) : Content α := fun i j =>
  if i < row then content i j else content (i + 1) j

/-- The content with rows and columns exchanged. -/
def flip (content : Content α) : Content α := fun i j => content j i

/-- Values are written into a row one after the other. -/
theorem fillRow_cons (row column : Nat) (value : α) (values : List α) (content : Content α) :
    fillRow row column (value :: values) content
      = fillRow row (column + 1) values (write row column (some value) content) := by
  funext i j
  unfold fillRow write
  by_cases there : i = row
  -- The first value is written first, and no later one is written over it.
  · by_cases first : j = column
    · subst first
      rw [if_pos ⟨there, by simp⟩, if_neg (by omega), if_pos ⟨there, rfl⟩, Nat.sub_self]
      rfl
    · by_cases later : column + 1 ≤ j ∧ j < column + 1 + values.length
      · have next : j - column = (j - (column + 1)) + 1 := by omega
        have within : j < column + (value :: values).length := by
          rw [List.length_cons]
          omega
        rw [if_pos ⟨there, by omega, within⟩, if_pos ⟨there, later⟩, next, List.getElem?_cons_succ]
      · rw [if_neg (by rw [List.length_cons]; omega), if_neg (by omega), if_neg (by omega)]
  · rw [if_neg (by omega), if_neg (by omega), if_neg (by omega)]

/-- Without values nothing is filled in. -/
theorem fillRow_nil (row column : Nat) (content : Content α) :
    fillRow row column [] content = content := by
  funext i j
  unfold fillRow
  rw [if_neg]
  rintro ⟨-, le, lt⟩
  rw [List.length_nil] at lt
  omega

/-- Filling an inserted empty row is inserting the values. -/
theorem fillRow_insertRow (row : Nat) (values : List α) (content : Content α) :
    fillRow row 0 values (insertRow row (fun _ => none) content)
      = insertRow row (fun column => values[column]?) content := by
  funext i j
  unfold fillRow insertRow
  by_cases there : i = row
  · subst there
    rw [if_neg (Nat.lt_irrefl i), if_pos rfl, if_neg (Nat.lt_irrefl i), if_pos rfl, Nat.sub_zero]
    by_cases inside : j < values.length
    · rw [if_pos ⟨rfl, by omega⟩]
    · rw [if_neg (by omega)]
      exact (List.getElem?_eq_none (Nat.le_of_not_lt inside)).symm
  · rw [if_neg (by omega), if_neg there, if_neg there]

/-- An empty row behind everything is not seen. -/
theorem insertRow_behind {row : Nat} {content : Content α}
    (nothing : ∀ i, row ≤ i → ∀ j, content i j = none) :
    insertRow row (fun _ => none) content = content := by
  funext i j
  unfold insertRow
  split
  · rfl
  · next behind =>
    rw [nothing i (Nat.le_of_not_lt behind)]
    split
    · rfl
    · exact nothing (i - 1) (by omega) j

end Content

/-- A well-formed store of so many rows and columns, with the given content. -/
structure Holds (s : Store α) (rowCount columnCount : Nat) (content : Content α) : Prop where
  wellFormed : s.WellFormed
  rowCount : s.rowCount = rowCount
  columnCount : s.columnCount = columnCount
  get? : ∀ row column, s.get? row column = content row column

/-- What a store holds is what is read from it. -/
theorem Holds.content_eq {rowCount columnCount : Nat} {content : Content α}
    (h : s.Holds rowCount columnCount content) : s.get? = content :=
  funext fun row => funext fun column => h.get? row column

/-- A well-formed store holds what is read from it. -/
theorem WellFormed.holds (h : s.WellFormed) : s.Holds s.rowCount s.columnCount s.get? :=
  ⟨h, rfl, rfl, fun _ _ => rfl⟩

/-- The mirror image holds the same with rows and columns exchanged. -/
theorem Mirrors.holds (m : s.Mirrors t) {rowCount columnCount : Nat} {content : Content α}
    (h : t.Holds rowCount columnCount content) : s.Holds columnCount rowCount content.flip where
  wellFormed := m.symm.wellFormed h.wellFormed
  rowCount := m.columnCount ▸ h.columnCount
  columnCount := m.rowCount ▸ h.rowCount
  get? row column := (m.get? column row).symm.trans (h.get? column row)

/-- The content of the mirror image. -/
theorem Mirrors.content (m : s.Mirrors t) : t.get? = Content.flip s.get? :=
  funext fun row => funext fun column => m.get? row column

end Tabular.Store
