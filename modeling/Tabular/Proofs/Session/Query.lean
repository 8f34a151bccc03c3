import Tabular.Proofs.Index.Selection
import Tabular.Session.Basic

/-!
# Queries of a session

A query builds an index of its column and asks it first. It shows exactly the rows that a scan of
the table selects, with the cells that they have in the table.
-/

namespace Tabular

namespace Session

/-- A row of the table as it is shown. -/
def shownRow (s : Session) (row : Nat) : RowOutput :=
  { index := row, cells := (s.table.store.row? row).getD [] }

/-- Rows of the table are all shown, in the order given. -/
theorem showRows_of_inside (s : Session) {rows : List Nat}
    (inside : ∀ row ∈ rows, row < s.table.rowCount) :
    s.showRows rows = .rows s.shownHeaders (rows.map s.shownRow) := by
  unfold showRows
  congr 1
  rw [← List.filterMap_eq_map]
  refine List.filterMap_congr fun row mem => ?_
  have found : s.table.row row = .ok ⟨s.table, row⟩ := by
    unfold Table.row Table.checkRow
    rw [if_pos (inside row mem)]
  rw [found]
  rfl

/-- A query shows the rows that a scan selects, whether the index answers its test or not. -/
theorem query_eq_scan (s : Session) {column : Nat} (inside : column < s.table.columnCount)
    (check : CellTest String) :
    s.query column check
      = .ok (.rows s.shownHeaders ((s.table.select (.test column check)).map s.shownRow)) := by
  obtain ⟨index, indexed, h⟩ := s.table.indexes_of_column inside
  -- The index has the rows of the scan, or no answer, and then the scan is made.
  have rows : (index.select? column (.test column check)).getD (s.table.select (.test column check))
      = s.table.select (.test column check) := by
    have asked : index.select? column (.test column check) = index.rowsPassing? check := if_pos rfl
    rw [asked]
    cases check with
    | notEqual value => rfl
    | _ => rw [h.rowsPassing?_eq (by simp), Option.getD_some]
  unfold query
  rw [indexed]
  dsimp only
  rw [rows, s.showRows_of_inside (s.table.select_ascending _).2]

end Session

namespace Table

variable {α : Type u} [Ord α] [DecidableEq α] [Std.TransOrd α] [Std.LawfulEqOrd α]

/-- The index of a column answers every test of the column but inequality, with the rows that a scan
selects, ascending, and it answers no other condition. So a query of a session shows exactly the
scanned rows. -/
theorem select?_indexColumn_eq_select (t : Table α) {column : Nat}
    (inside : column < t.columnCount) :
    (∃ index, t.indexColumn column = .ok index ∧
      (∀ check, (∀ value, check ≠ .notEqual value) →
        index.select? column (.test column check) = some (t.select (.test column check)) ∧
          (t.select (.test column check)).Pairwise (· < ·)) ∧
      (∀ value, index.select? column (.test column (.notEqual value)) = none) ∧
      (∀ other check, other ≠ column → index.select? column (.test other check) = none) ∧
      ∀ conditions, index.select? column (.all conditions) = none ∧
        index.select? column (.any conditions) = none) ∧
    ∀ (s : Session) (column : Nat), column < s.table.columnCount → ∀ check : CellTest String,
      s.query column check
        = .ok (.rows s.shownHeaders ((s.table.select (.test column check)).map s.shownRow)) := by
  obtain ⟨index, indexed, h⟩ := t.indexes_of_column inside
  refine ⟨⟨index, indexed, fun check answered => ⟨?_, (t.select_ascending _).1⟩, fun value => ?_,
    fun other check ne => if_neg ne, fun conditions => ⟨rfl, rfl⟩⟩,
    fun s column inside check => s.query_eq_scan inside check⟩
  · exact (if_pos rfl).trans (h.rowsPassing?_eq answered)
  · exact if_pos rfl

/-- A column with nulls and duplicates. -/
def scores : Table Nat :=
  ofStore {
    cells := ⟨#[#[some 5], #[none], #[some 2], #[some 5], #[none], #[some 3], #[none], #[none]]⟩
    rows := { slots := #[0, 1, 2, 3, 4, 5], active := .ofList [0, 1, 2, 3, 4, 5], highWater := 6
              capacity := 8 }
    columns := { slots := #[0], active := .ofList [0], highWater := 1, capacity := 1 }
    initialRows := 1
    initialColumns := 1 }

/-- The index of the scores answers a comparison, a reversed range and the search for nulls. -/
theorem select?_indexColumn_eq_select_scores :
    0 < scores.columnCount ∧ ∃ index, scores.indexColumn 0 = .ok index ∧
      index.select? 0 (.test 0 (.below 5)) = some [2, 5] ∧
      index.select? 0 (.test 0 (.between 5 3)) = some [] ∧
      index.select? 0 (.test 0 .isNull) = some [1, 4] := by
  have inside : 0 < scores.columnCount := by decide
  obtain ⟨⟨index, indexed, answered, -⟩, -⟩ := scores.select?_indexColumn_eq_select inside
  have below : scores.select (.test 0 (.below 5)) = [2, 5] := by decide
  have between : scores.select (.test 0 (.between 5 3)) = [] := by decide
  have isNull : scores.select (.test 0 .isNull) = [1, 4] := by decide
  refine ⟨inside, index, indexed, ?_, ?_, ?_⟩
  · rw [← below]
    exact (answered _ (by simp)).1
  · rw [← between]
    exact (answered _ (by simp)).1
  · rw [← isNull]
    exact (answered _ (by simp)).1

end Table

end Tabular
