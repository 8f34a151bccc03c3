import Mathlib.Data.List.Sort
import Tabular.Proofs.Index.Queries
import Tabular.Table.Condition

/-!
# Selecting through an index

The index of a column answers a test of that column with the rows that a scan of the table selects.
Both are the rows whose cell passes: the index has them as a part of its order, which is sorted at
the end (`WellFormed.mergeSort_filter`), and the scan has them as a part of the row numbers.
-/

namespace Tabular

namespace SortedIndex

variable {α : Type u} [Ord α] {x : SortedIndex α}

/-! ## Sorting a part of the order -/

/-- The sorted part of the order that passes a test is the part of the positions that does. -/
theorem WellFormed.mergeSort_filter (h : x.WellFormed) (p : Nat → Bool) :
    (x.order.toList.filter p).mergeSort (· ≤ ·) = (List.range x.size).filter p := by
  -- Two ascending lists of the same elements are equal.
  have perm := (List.mergeSort_perm (x.order.toList.filter p) (· ≤ ·)).trans (h.perm.filter p)
  have sorted := List.pairwise_mergeSort' (· ≤ ·) (x.order.toList.filter p)
  have ascending : ((List.range x.size).filter p).Pairwise (· ≤ ·) :=
    List.pairwise_le_range.filter p
  exact perm.eq_of_pairwise (fun i j _ _ => Nat.le_antisymm) sorted ascending

/-! ## Nulls -/

section Nulls

variable {x : SortedIndex (Option α)} [Std.TransOrd α]

/-- Nothing is below a null. -/
theorem Ascending.lowerBound_none (h : x.Ascending) : x.lowerBound none = 0 := by
  refine Nat.eq_zero_of_not_pos fun pos => ?_
  have lt : 0 < x.order.size := Nat.lt_of_lt_of_le pos (x.lowerBound_le none)
  obtain ⟨a, found⟩ := h.exists_value lt
  have below := (h.lt_lowerBound_iff none lt found).1 pos
  cases a <;> cases below

/-- Behind the nulls there are the values below a bound. -/
theorem Ascending.drop_below (h : x.Ascending) (value : α) :
    (x.below (some value)).drop (x.positionsOf none).length
      = x.order.toList.filter fun position =>
        x.comparesAt none Ordering.isGT position
          && x.comparesAt (some value) Ordering.isLT position := by
  -- The nulls are the first places of the order, so dropping them moves the lower end of the slice.
  have nulls : (x.positionsOf none).length = x.upperBound none := by
    have le := x.upperBound_le none
    unfold positionsOf run slice
    rw [List.length_mergeSort, Array.length_toList, Array.size_extract, h.lowerBound_none,
      Nat.min_eq_left le, Nat.sub_zero]
  have dropped : (x.slice 0 (x.lowerBound (some value))).drop (x.upperBound none)
      = x.slice (x.upperBound none) (x.lowerBound (some value)) := by
    unfold slice
    rw [Array.toList_extract, Array.toList_extract, List.extract_eq_take_drop,
      List.extract_eq_take_drop, List.drop_zero, Nat.sub_zero, List.drop_take]
  rw [below_eq_slice, nulls, dropped]
  refine h.slice_eq fun place lt a found => ?_
  have lower := h.lt_lowerBound_iff (some value) lt found
  have upper := h.lt_upperBound_iff none lt found
  rw [comparesAt_of_found found, comparesAt_of_found found, lower, ← Nat.not_lt, upper]
  cases compare a none <;> simp

end Nulls

/-! ## The index of a column -/

/-- An index that holds the cells of a column by row. -/
structure Indexes (x : SortedIndex (Option α)) (t : Table α) (column : Nat) : Prop where
  wellFormed : x.WellFormed
  toList : x.toList = (List.range t.rowCount).map fun row => t.cell row column

variable {x : SortedIndex (Option α)} {t : Table α} {column : Nat}

/-- The index of a column has one value for each row. -/
theorem Indexes.size (h : x.Indexes t column) : x.size = t.rowCount := by
  have length := congrArg List.length h.toList
  rwa [List.length_map, List.length_range, length_toList] at length

/-- The index of a column has the cell of each row, which may be empty. -/
theorem Indexes.found (h : x.Indexes t column) {row : Nat} (inside : row < t.rowCount) :
    x.values[row]? = some (t.cell row column) := by
  have at_row := congrArg (fun xs => xs[row]?) h.toList
  rw [List.getElem?_map, List.getElem?_range inside, getElem?_toList] at at_row
  exact at_row

/-- The part of the order whose cells pass a test is, sorted, what a scan selects. -/
theorem Indexes.mergeSort_eq_select [DecidableEq α] (h : x.Indexes t column) {rows : List Nat}
    {p : Nat → Bool} (part : rows = x.order.toList.filter p) {check : CellTest α}
    (passes : ∀ row cell, x.values[row]? = some cell → p row = check.accepts cell) :
    rows.mergeSort (· ≤ ·) = t.select (.test column check) := by
  calc rows.mergeSort (· ≤ ·) = (List.range x.size).filter p := by
        rw [part, h.wellFormed.mergeSort_filter]
    _ = (List.range t.rowCount).filter p := by rw [h.size]
    _ = t.select (.test column check) :=
        List.filter_congr fun row mem => passes row _ (h.found (List.mem_range.1 mem))

/-- Sorting the selected rows changes nothing. -/
theorem mergeSort_select [DecidableEq α] (t : Table α) (condition : Condition α) :
    (t.select condition).mergeSort (· ≤ ·) = t.select condition :=
  List.mergeSort_eq_self (· ≤ ·) (List.pairwise_le_range.filter _)

/-- Every test but inequality is answered, with the rows that a scan selects. -/
theorem Indexes.rowsPassing?_eq [DecidableEq α] [Std.TransOrd α] [Std.LawfulEqOrd α]
    (h : x.Indexes t column) {check : CellTest α} (answered : ∀ value, check ≠ .notEqual value) :
    x.rowsPassing? check = some (t.select (.test column check)) := by
  have ascending := h.wellFormed.toAscending
  cases check with
  | equal value =>
    have positions : x.positionsOf (some value) = t.select (.test column (.equal value)) := by
      refine h.mergeSort_eq_select (ascending.run_eq _) fun row cell found => ?_
      rw [comparesAt_of_found found]
      cases cell with
      | none => rfl
      | some cell =>
        refine Bool.eq_iff_iff.2 ?_
        show (compare cell value).isEq ↔ decide (cell = value) = true
        rw [Ordering.isEq_iff_eq_eq, Std.LawfulEqOrd.compare_eq_iff_eq, decide_eq_true_iff]
    show some ((x.positionsOf (some value)).mergeSort (· ≤ ·)) = _
    rw [positions, mergeSort_select]
  | notEqual value => exact absurd rfl (answered value)
  | above value =>
    refine congrArg some (h.mergeSort_eq_select (ascending.above_eq _) fun row cell found => ?_)
    rw [comparesAt_of_found found]
    cases cell <;> rfl
  | below value =>
    refine congrArg some (h.mergeSort_eq_select (ascending.drop_below _) fun row cell found => ?_)
    rw [comparesAt_of_found found, comparesAt_of_found found]
    cases cell <;> rfl
  -- No answer of the index stands for no rows.
  | between low high =>
    have part : (x.between? (some low) (some high)).getD [] = x.within (some low) (some high) := by
      rw [ascending.between?_eq]
      split
      · next nil => exact nil.symm
      · rfl
    refine congrArg some (h.mergeSort_eq_select part fun row cell found => ?_)
    rw [comparesAt_of_found found, comparesAt_of_found found, Std.OrientedCmp.isGE_eq_isLE]
    cases cell <;> rfl
  | isNull =>
    have positions : x.positionsOf none = t.select (.test column .isNull) := by
      refine h.mergeSort_eq_select (ascending.run_eq _) fun row cell found => ?_
      rw [comparesAt_of_found found]
      cases cell <;> rfl
    show some ((x.positionsOf none).mergeSort (· ≤ ·)) = _
    rw [positions, mergeSort_select]
  | isNotNull =>
    refine congrArg some (h.mergeSort_eq_select (ascending.above_eq _) fun row cell found => ?_)
    rw [comparesAt_of_found found]
    cases cell <;> rfl

end SortedIndex

namespace Table

open SortedIndex (Indexes)

variable {α : Type u} [Ord α]

/-- A column of the table is indexed. -/
theorem indexes_of_column [Std.TransOrd α] (t : Table α) {column : Nat}
    (inside : column < t.columnCount) :
    ∃ index, t.indexColumn column = .ok index ∧ index.Indexes t column := by
  have indexed := SortedIndex.wellFormed_ofList
    ((List.range t.rowCount).map fun row => t.cell row column)
  refine ⟨_, ?_, indexed.1, indexed.2⟩
  unfold indexColumn checkColumn
  rw [if_pos inside]

/-- Selected rows are rows of the table, and they ascend. -/
theorem select_ascending [DecidableEq α] (t : Table α) (condition : Condition α) :
    (t.select condition).Pairwise (· < ·) ∧ ∀ row ∈ t.select condition, row < t.rowCount :=
  ⟨List.pairwise_lt_range.filter _, fun _ mem => List.mem_range.1 (List.mem_filter.1 mem).1⟩

end Table

end Tabular
