import Tabular.Grid
import Tabular.Proofs.Store.WellFormed

/-!
# The content of a dense grid

What each edit makes of the content of a grid whose rows all have its width. The statements are
those about a store, over the same `Content`, so that a store and a grid can be compared edit by
edit.
-/

namespace Tabular.Grid

open Store (Content)

variable {α : Type u} {g : Grid α}

/-- Every row has the width of the grid. -/
def Rectangular (g : Grid α) : Prop := ∀ lane ∈ g.rows, lane.length = g.columnCount

/-- A grid of so many rows and columns, with the given content. -/
structure Holds (g : Grid α) (rowCount columnCount : Nat) (content : Content α) : Prop where
  rectangular : g.Rectangular
  rowCount : g.rowCount = rowCount
  columnCount : g.columnCount = columnCount
  get? : ∀ row column, g.get? row column = content row column

/-- What a grid holds is what is found in it. -/
theorem Holds.content_eq {rowCount columnCount : Nat} {content : Content α}
    (h : g.Holds rowCount columnCount content) : g.get? = content :=
  funext fun row => funext fun column => h.get? row column

/-- A rectangular grid holds what is found in it. -/
theorem Rectangular.holds (h : g.Rectangular) : g.Holds g.rowCount g.columnCount g.get? :=
  ⟨h, rfl, rfl, fun _ _ => rfl⟩

/-! ## Reading -/

/-- A cell is found in the lane of its row, and is empty past the end of either. -/
theorem get?_eq (g : Grid α) (row column : Nat) :
    g.get? row column = g.rows[row]?.bind fun lane => lane[column]?.join := by
  unfold get?
  rw [List.getD_eq_getElem?_getD]
  cases g.rows[row]? <;> rfl

/-- Every lane is as long as there are columns. -/
theorem Rectangular.length_eq (h : g.Rectangular) {row : Nat} {lane : List (Option α)}
    (found : g.rows[row]? = some lane) : lane.length = g.columnCount :=
  h lane (List.mem_of_getElem? found)

/-- A row that is read is read cell by cell. -/
theorem Rectangular.row?_eq (h : g.Rectangular) (row : Nat) :
    g.row? row = if row < g.rowCount then some ((List.range g.columnCount).map (g.get? row))
      else none := by
  unfold row?
  split
  · next inside =>
    have found := List.getElem?_eq_getElem inside
    rw [found]
    congr 1
    -- Column by column: a row ends where the columns do.
    apply List.ext_getElem?
    intro column
    rw [List.getElem?_map]
    by_cases inRow : column < g.columnCount
    · have lt : column < (g.rows[row]).length := by rwa [h.length_eq found]
      rw [List.getElem?_range inRow, Option.map_some, get?_eq, found, Option.bind_some,
        List.getElem?_eq_getElem lt]
      rfl
    · have le : (g.rows[row]).length ≤ column := by
        rw [h.length_eq found]
        omega
      rw [List.getElem?_eq_none le, List.getElem?_eq_none (by rw [List.length_range]; omega)]
      rfl
  · next outside => exact List.getElem?_eq_none (Nat.le_of_not_lt outside)

/-- A column that is read is read cell by cell. -/
theorem column?_eq (g : Grid α) (column : Nat) :
    g.column? column = if column < g.columnCount
      then some ((List.range g.rowCount).map fun row => g.get? row column) else none := by
  unfold column?
  split
  · congr 1
    apply List.ext_getElem?
    intro row
    rw [List.getElem?_map, List.getElem?_map]
    by_cases inside : row < g.rowCount
    · have found : g.rows[row]? = some g.rows[row] := List.getElem?_eq_getElem inside
      rw [List.getElem?_range inside, Option.map_some, get?_eq, found]
      rfl
    · rw [List.getElem?_eq_none (show g.rows.length ≤ row from Nat.le_of_not_lt inside),
        List.getElem?_eq_none (by rw [List.length_range]; omega)]
      rfl
  · rfl

/-! ## Padding -/

/-- A lane is only padded when it is too short. -/
theorem length_padded (count : Nat) (lane : List (Option α)) :
    (padded count lane).length = max lane.length count := by
  unfold padded
  rw [List.length_append, List.length_replicate]
  omega

/-- Padding adds no content. -/
theorem getElem?_padded (count : Nat) (lane : List (Option α)) (column : Nat) :
    (padded count lane)[column]?.join = lane[column]?.join := by
  unfold padded
  rw [List.getElem?_append]
  split
  · rfl
  · next outside =>
    rw [List.getElem?_eq_none (Nat.le_of_not_lt outside), List.getElem?_replicate]
    split <;> rfl

/-- Adding rows changes no content. -/
theorem Rectangular.withRows (h : g.Rectangular) (count : Nat) :
    (g.withRows count).Holds (max g.rowCount count) g.columnCount g.get? where
  rectangular lane mem := by
    rcases List.mem_append.1 mem with mem | mem
    · exact h lane mem
    · rw [List.eq_of_mem_replicate mem, length_padded]
      exact Nat.zero_max _
  rowCount := by
    unfold Grid.withRows Grid.rowCount
    rw [List.length_append, List.length_replicate]
    omega
  columnCount := rfl
  get? row column := by
    rw [get?_eq, get?_eq]
    unfold Grid.withRows
    rw [List.getElem?_append]
    split
    · rfl
    · next outside =>
      rw [List.getElem?_eq_none (Nat.le_of_not_lt outside), List.getElem?_replicate]
      split
      · exact getElem?_padded g.columnCount [] column
      · rfl

/-- Adding columns changes no content. -/
theorem Rectangular.withColumns (h : g.Rectangular) (count : Nat) :
    (g.withColumns count).Holds g.rowCount (max g.columnCount count) g.get? where
  rectangular lane mem := by
    obtain ⟨old, mem', rfl⟩ := List.mem_map.1 mem
    rw [length_padded, h old mem']
    rfl
  rowCount := List.length_map _
  columnCount := rfl
  get? row column := by
    rw [get?_eq, get?_eq]
    unfold Grid.withColumns
    rw [List.getElem?_map]
    cases g.rows[row]? with
    | none => rfl
    | some lane => exact getElem?_padded count lane column

/-- With enough rows none are added. -/
theorem withRows_of_le {count : Nat} (enough : count ≤ g.rowCount) : g.withRows count = g := by
  unfold withRows
  rw [Nat.sub_eq_zero_of_le enough, List.replicate_zero, List.append_nil]

/-- With enough columns none are added. -/
theorem Rectangular.withColumns_of_le (h : g.Rectangular) {count : Nat}
    (enough : count ≤ g.columnCount) : g.withColumns count = g := by
  have same : g.rows.map (padded count) = g.rows.map id := List.map_congr_left fun lane mem => by
    have length := h lane mem
    rw [padded, Nat.sub_eq_zero_of_le (by omega), List.replicate_zero, List.append_nil]
    rfl
  unfold Grid.withColumns
  rw [same, List.map_id, Nat.max_eq_left enough]

/-! ## Writing -/

/-- A write outside the grid does nothing. -/
theorem Rectangular.put_of_outside (h : g.Rectangular) {row column : Nat}
    (outside : g.rowCount ≤ row ∨ g.columnCount ≤ column) (content : Option α) :
    g.put row column content = g := by
  have same : (g.rows.modify row fun lane => lane.set column content) = g.rows := by
    apply List.ext_getElem?
    intro k
    rw [List.getElem?_modify]
    cases found : g.rows[k]? with
    | none => rfl
    | some lane =>
      have inRows : k < g.rowCount := (List.getElem?_eq_some_iff.1 found).1
      have length := h.length_eq found
      split
      · next eq => rw [Option.map_eq_map, Option.map_some, List.set_eq_of_length_le (by omega)]
      · rfl
  unfold put
  rw [same]

/-- Writing a cell of the grid changes the content of that cell only. -/
theorem Rectangular.put (h : g.Rectangular) {row column : Nat} (hr : row < g.rowCount)
    (hc : column < g.columnCount) (content : Option α) :
    (g.put row column content).Holds g.rowCount g.columnCount
      (Content.write row column content g.get?) where
  rectangular lane mem := by
    obtain ⟨k, found⟩ := List.mem_iff_getElem?.1 mem
    unfold Grid.put at found
    rw [List.getElem?_modify] at found
    obtain ⟨old, found', rfl⟩ := Option.map_eq_some_iff.1 found
    split
    · rw [List.length_set]
      exact h.length_eq found'
    · exact h.length_eq found'
  rowCount := List.length_modify _ _ _
  columnCount := rfl
  get? i j := by
    rw [get?_eq]
    unfold Content.write Grid.put
    rw [List.getElem?_modify, get?_eq]
    cases found : g.rows[i]? with
    | none =>
      have outside : g.rowCount ≤ i := List.getElem?_eq_none_iff.1 found
      rw [if_neg (by omega)]
      rfl
    | some lane =>
      have length := h.length_eq found
      rw [Option.map_eq_map, Option.map_some, Option.bind_some, Option.bind_some]
      -- Only the row of the cell is written, and in it only its column.
      by_cases at_row : row = i
      · rw [if_pos at_row, List.getElem?_set]
        by_cases at_column : column = j
        · rw [if_pos at_column, if_pos (by omega), if_pos (by omega)]
          rfl
        · rw [if_neg at_column, if_neg (by omega)]
      · rw [if_neg at_row, if_neg (by omega)]

/-- A write pads the grid to hold the cell. -/
theorem Rectangular.set (h : g.Rectangular) (row column : Nat) (value : α) :
    (g.set row column value).2.Holds (max g.rowCount (row + 1)) (max g.columnCount (column + 1))
      (Content.write row column (some value) g.get?) := by
  have padded := h.withRows (row + 1)
  have padded' := padded.rectangular.withColumns (column + 1)
  rw [padded.rowCount, padded.columnCount, padded.content_eq] at padded'
  have hr : row < ((g.withRows (row + 1)).withColumns (column + 1)).rowCount := by
    rw [padded'.rowCount]
    omega
  have hc : column < ((g.withRows (row + 1)).withColumns (column + 1)).columnCount := by
    rw [padded'.columnCount]
    omega
  have written := padded'.rectangular.put hr hc (some value)
  rwa [padded'.rowCount, padded'.columnCount, padded'.content_eq] at written

/-- A write within a grid needs no padding. -/
theorem Rectangular.set_of_inside (h : g.Rectangular) {row column : Nat}
    (hr : row < g.rowCount) (hc : column < g.columnCount) (value : α) :
    (g.set row column value).2 = g.put row column (some value) := by
  unfold Grid.set
  rw [withRows_of_le hr, h.withColumns_of_le hc]

/-! ## Inserting -/

/-- An inserted row shifts the rows from its place on, and the grid grows up to the row and to the
length of the values. -/
theorem Rectangular.insertRow (h : g.Rectangular) (row : Nat) (values : List α) :
    (g.insertRow row values).Holds (max g.rowCount row + 1) (max g.columnCount values.length)
      (Content.insertRow row (fun column => values[column]?) g.get?) := by
  -- The grid is padded first, and what follows is about the padded grid only.
  have padded := h.withRows row
  have padded' := padded.rectangular.withColumns values.length
  rw [padded.rowCount, padded.columnCount, padded.content_eq] at padded'
  have eq : g.insertRow row values = { (g.withRows row).withColumns values.length with
      rows := ((g.withRows row).withColumns values.length).rows.insertIdx row
        (Grid.padded ((g.withRows row).withColumns values.length).columnCount
          (values.map some)) } := rfl
  rw [eq]
  generalize (g.withRows row).withColumns values.length = p at padded'
  have inside : row ≤ p.rows.length := by
    have := padded'.rowCount
    unfold rowCount at this
    omega
  have wide : values.length ≤ p.columnCount := by
    rw [padded'.columnCount]
    omega
  refine ⟨fun lane mem => ?_, ?_, padded'.columnCount, fun i j => ?_⟩
  · rcases (List.mem_insertIdx inside).1 mem with rfl | mem
    · rw [length_padded, List.length_map, Nat.max_eq_right wide]
    · exact padded'.rectangular lane mem
  · have := padded'.rowCount
    unfold rowCount at this ⊢
    rw [List.length_insertIdx_of_le_length inside]
    omega
  · rw [get?_eq, ← padded'.content_eq]
    unfold Content.insertRow
    rw [List.getElem?_insertIdx]
    split
    · rw [get?_eq]
    · split
      · next at_row =>
        rw [if_pos (by omega), Option.bind_some, getElem?_padded, List.getElem?_map]
        dsimp only
        cases values[j]? <;> rfl
      · rw [get?_eq]

/-- An empty row behind a grid pads it. -/
theorem insertRow_behind {row : Nat} (behind : g.rowCount ≤ row) :
    g.insertRow row [] = g.withRows (row + 1) := by
  have unchanged : (g.withRows row).withColumns 0 = g.withRows row := by
    have same : padded (α := α) 0 = id := funext fun lane => by
      rw [padded, Nat.zero_sub, List.replicate_zero, List.append_nil]
      rfl
    rw [withColumns, same, List.map_id, Nat.max_zero]
  have length : (g.withRows row).rows.length = row := by
    unfold withRows
    rw [List.length_append, List.length_replicate]
    exact Nat.add_sub_cancel' behind
  have inserted : (g.withRows row).rows.insertIdx row (padded g.columnCount [])
      = (g.withRows (row + 1)).rows := by
    have at_end := List.insertIdx_length_self (l := (g.withRows row).rows)
      (x := padded g.columnCount [])
    rw [length] at at_end
    -- The new row is one more of the empty rows up to `row`.
    rw [at_end, withRows, withRows, Nat.succ_sub behind, List.replicate_succ', List.append_assoc]
  unfold insertRow
  rw [List.length_nil, unchanged]
  exact congrArg (Grid.mk g.columnCount) inserted

/-- The cells of a line with one more in front of `column`. -/
theorem getElem?_insertIdx_join {lane : List (Option α)} {column : Nat}
    (inside : column ≤ lane.length) (cell : Option α) (j : Nat) :
    (lane.insertIdx column cell)[j]?.join
      = if j < column then lane[j]?.join else if j = column then cell else lane[j - 1]?.join := by
  rw [List.getElem?_insertIdx]
  split
  · rfl
  · split
    · rw [if_pos (by omega)]
      rfl
    · rfl

/-- An inserted column does the same to the flipped grid. -/
theorem Rectangular.insertColumn (h : g.Rectangular) (column : Nat) (values : List α) :
    (g.insertColumn column values).Holds (max g.rowCount values.length)
      (max g.columnCount column + 1)
      (Content.insertRow column (fun row => values[row]?) (Content.flip g.get?)).flip := by
  have padded := h.withColumns column
  have padded' := padded.rectangular.withRows values.length
  rw [padded.rowCount, padded.columnCount, padded.content_eq] at padded'
  have eq : g.insertColumn column values = {
      columnCount := ((g.withColumns column).withRows values.length).columnCount + 1
      rows := ((g.withColumns column).withRows values.length).rows.mapIdx
        fun row lane => lane.insertIdx column values[row]? } := rfl
  rw [eq]
  generalize (g.withColumns column).withRows values.length = p at padded'
  have inside : column ≤ p.columnCount := by
    rw [padded'.columnCount]
    omega
  have tall : values.length ≤ p.rowCount := by
    rw [padded'.rowCount]
    omega
  refine ⟨fun lane mem => ?_, ?_, ?_, fun i j => ?_⟩
  · obtain ⟨k, lt, rfl⟩ := List.mem_mapIdx.1 mem
    have length := padded'.rectangular _ (List.getElem_mem lt)
    rw [List.length_insertIdx_of_le_length (by omega), length]
  · exact List.length_mapIdx.trans padded'.rowCount
  · dsimp only
    rw [padded'.columnCount]
  · rw [get?_eq, ← padded'.content_eq]
    unfold Content.insertRow Content.flip
    dsimp only
    rw [List.getElem?_mapIdx, get?_eq, get?_eq]
    cases found : p.rows[i]? with
    | none =>
      have outside : p.rowCount ≤ i := List.getElem?_eq_none_iff.1 found
      rw [List.getElem?_eq_none (show values.length ≤ i by omega)]
      split
      · rfl
      · split <;> rfl
    -- Within a row, a column is inserted where the row gets one more cell.
    | some lane =>
      have length := padded'.rectangular.length_eq found
      exact getElem?_insertIdx_join (by omega) values[i]? j

/-! ## Removing -/

/-- A removed row shifts those behind it back. -/
theorem Rectangular.removeRow (h : g.Rectangular) {row : Nat} (inside : row < g.rowCount) :
    (g.removeRow row).2.Holds (g.rowCount - 1) g.columnCount (Content.removeRow row g.get?) where
  rectangular lane mem := h lane (List.mem_of_mem_eraseIdx mem)
  rowCount := List.length_eraseIdx_of_lt inside
  columnCount := rfl
  get? i j := by
    rw [get?_eq]
    unfold Content.removeRow Grid.removeRow
    rw [List.getElem?_eraseIdx]
    split
    · rw [get?_eq]
    · rw [get?_eq]

/-- Outside the grid no row is removed. -/
theorem removeRow_of_outside {row : Nat} (outside : g.rowCount ≤ row) :
    g.removeRow row = (none, g) := by
  unfold removeRow row?
  rw [List.getElem?_eq_none outside, List.eraseIdx_of_length_le outside]

/-- A removed column does the same to the flipped grid. -/
theorem Rectangular.removeColumn (h : g.Rectangular) {column : Nat}
    (inside : column < g.columnCount) :
    (g.removeColumn column).2.Holds g.rowCount (g.columnCount - 1)
      (Content.removeRow column (Content.flip g.get?)).flip := by
  unfold Grid.removeColumn
  rw [if_pos inside]
  refine ⟨fun lane mem => ?_, List.length_map _, rfl, fun i j => ?_⟩
  · obtain ⟨old, mem', rfl⟩ := List.mem_map.1 mem
    have length := h old mem'
    rw [List.length_eraseIdx_of_lt (by omega), length]
  · rw [get?_eq]
    unfold Content.flip Content.removeRow
    dsimp only
    rw [List.getElem?_map, get?_eq, get?_eq]
    cases g.rows[i]? with
    | none => split <;> rfl
    | some lane =>
      rw [Option.map_some, Option.bind_some, List.getElem?_eraseIdx]
      split <;> rfl

end Tabular.Grid
