import Tabular.Proofs.Store.Refinement
import Tabular.Proofs.Store.Refusal

/-!
# The columns of a store

What a store holds can also be seen column by column, as a grid with rows and columns exchanged. An
edit of the store is on this grid the edit with rows and columns exchanged, because the grid is what
the mirror image of the store represents.
-/

namespace Tabular.Store

variable {α : Type u} {s : Store α} {g : Grid α}

/-- The columns of a store, read cell by cell, as the rows of a grid. -/
def columnGrid (s : Store α) : Grid α where
  columnCount := s.rowCount
  rows := (List.range s.columnCount).map fun column =>
    (List.range s.rowCount).map fun row => s.get? row column

/-- The rows of the grid of columns are the columns of the store. -/
theorem rows_columnGrid (s : Store α) {column : Nat} (inside : column < s.columnCount) :
    s.columnGrid.rows[column]?
      = some ((List.range s.rowCount).map fun row => s.get? row column) := by
  rw [columnGrid, List.getElem?_map, List.getElem?_range inside, Option.map_some]

/-- The store holds what the grid holds with rows and columns exchanged. -/
structure RepresentsColumns (s : Store α) (g : Grid α) : Prop where
  rectangular : g.Rectangular
  holds : s.Holds g.columnCount g.rowCount (Content.flip g.get?)

/-- A store holds the columns that are read from it. -/
theorem WellFormed.representsColumns (h : s.WellFormed) : s.RepresentsColumns s.columnGrid := by
  refine ⟨fun lane mem => ?_, h, rfl, ?_, fun row column => ?_⟩
  · obtain ⟨column, -, rfl⟩ := List.mem_map.1 mem
    rw [List.length_map, List.length_range]
    rfl
  · rw [Grid.rowCount, columnGrid, List.length_map, List.length_range]
  · rw [Content.flip, Grid.get?_eq, columnGrid, List.getElem?_map]
    rcases Nat.lt_or_ge column s.columnCount with inColumns | outside
    · rw [List.getElem?_range inColumns, Option.map_some, Option.bind_some, List.getElem?_map]
      rcases Nat.lt_or_ge row s.rowCount with inRows | outside
      · rw [List.getElem?_range inRows]
        rfl
      · rw [s.get?_eq_none_of_rowCount_le outside,
          List.getElem?_eq_none (by rwa [List.length_range])]
        rfl
    · rw [s.get?_eq_none_of_columnCount_le row outside,
        List.getElem?_eq_none (by rwa [List.length_range])]
      rfl

namespace RepresentsColumns

/-- There is only one grid of the columns. -/
theorem rows_eq (r : s.RepresentsColumns g) : g.rows = s.columnGrid.rows := by
  have count : g.rows.length = s.columnCount := r.holds.columnCount.symm
  refine List.ext_getElem ?_ fun column inside inside' => ?_
  · rw [count, columnGrid, List.length_map, List.length_range]
  · have row := r.rectangular.row?_eq column
    rw [if_pos (show column < g.rowCount from inside), Grid.row?,
      List.getElem?_eq_getElem inside] at row
    simp only [columnGrid, List.getElem_map, List.getElem_range]
    rw [Option.some.inj row, r.holds.rowCount]
    exact List.map_congr_left fun row _ => (r.holds.get? row column).symm

/-- A grid that a store holds fits into a store. -/
theorem fits (r : s.RepresentsColumns g) : g.Fits := by
  obtain ⟨rows, columns⟩ := r.holds.wellFormed.fits
  rw [r.holds.rowCount] at rows
  rw [r.holds.columnCount] at columns
  exact ⟨columns, rows⟩

/-- An edit of the store is the edit of the grid with rows and columns exchanged. -/
theorem apply (r : s.RepresentsColumns g) (e : Edit α) (fits : (g.apply e.transpose).2.Fits) :
    (s.apply e).2.RepresentsColumns (g.apply e.transpose).2 := by
  have m := r.holds.wellFormed.mirrors
  have mirror : s.mirror.Represents g := ⟨r.rectangular, m.symm.holds r.holds⟩
  have edited := (mirror.apply e.transpose fits).2
  exact ⟨edited.rectangular, (m.apply r.holds.wellFormed e).2.holds edited.holds⟩

/-- An edit is that of the transposed grid, if the edited grid still fits. -/
theorem apply_of_holds (r : s.RepresentsColumns g) (e : Edit α) {content : Content α}
    {rowCount columnCount : Nat}
    (edited : (g.apply e.transpose).2.Holds columnCount rowCount content)
    (fits : rowCount ≤ Capacity.maxSlots ∧ columnCount ≤ Capacity.maxSlots) :
    (s.apply e).2.RepresentsColumns (g.apply e.transpose).2 := by
  refine r.apply e ⟨?_, ?_⟩
  · rw [edited.rowCount]
    exact fits.2
  · rw [edited.columnCount]
    exact fits.1

end RepresentsColumns

end Tabular.Store
