import Tabular.Proofs.Index.PlainList
import Tabular.Proofs.Index.Selection
import Tabular.Proofs.Table.Refusal
import Tabular.Proofs.Table.Run
import Tabular.Table.View

/-!
# Keeping the index of a column

An index is not changed when its table is, but it can be kept: an edit of the table that inserts,
appends or removes a row, or that replaces or empties a cell, has its edit of the index
(`Edit.onIndex`). A kept index and a new one can have equal values in different order. They answer
alike, since both hold the cells of the column by row (`Keeps`), and no answer depends on more.
-/

namespace Tabular

namespace Table

variable {α : Type u} {t : Table α} {g : Grid α} {column : Nat}

/-- The edits of the index of a column that go with an edit of the table. -/
def Edit.onIndex (column : Nat) : Edit α → List (SortedIndex.Edit (Option α))
  | .insertRow row values => [.insert row values[column]?]
  | .pushRow values => [.add values[column]?]
  | .removeRow row => [.removeAt row]
  | .replace row other value => if other = column then [.set row (some value)] else []
  | .unset row other => if other = column then [.set row none] else []
  | _ => []

/-- The edits that an index is kept through: they are about rows, or about single cells, within the
table. -/
def Edit.Within (t : Table α) : Edit α → Prop
  | .insertRow row _ => row ≤ t.rowCount
  | .pushRow _ => True
  | .removeRow row => row < t.rowCount
  | .replace row column _ | .unset row column => row < t.rowCount ∧ column < t.columnCount
  | _ => False

/-- Every edit of a run is one that an index is kept through, and it succeeds. -/
def Tracked (t : Table α) : List (Edit α) → Prop
  | [] => True
  | e :: edits =>
    e.Within t ∧ (∀ error, (t.apply e).1 ≠ .refused error) ∧ (t.apply e).2.Tracked edits

/-! ## The cells of a column -/

/-- The cells of a column, by row. -/
def contents (t : Table α) (column : Nat) : List (Option α) := (ColumnView.mk t column).cells

/-- A column has one cell for each row. -/
theorem length_contents (t : Table α) (column : Nat) : (t.contents column).length = t.rowCount := by
  unfold contents ColumnView.cells
  rw [List.length_map, List.length_range]
  rfl

/-- The cells of a column are a row of the grid of the columns. -/
theorem contents_of_found (r : t.store.RepresentsColumns g) {cells : List (Option α)}
    (found : g.rows[column]? = some cells) :
    t.contents column = cells ∧ column < t.columnCount := by
  have inside : column < t.store.columnCount := by
    rw [r.holds.columnCount]
    exact (List.getElem?_eq_some_iff.1 found).1
  rw [r.rows_eq, t.store.rows_columnGrid inside] at found
  exact ⟨Option.some.inj found, inside⟩

/-- The cells of a column are those of the grid of columns. -/
theorem found_contents (inside : column < t.columnCount) :
    t.store.columnGrid.rows[column]? = some (t.contents column) :=
  t.store.rows_columnGrid inside

/-! ## What an edit of the table makes of a column -/

/-- An inserted row puts its value into the column. -/
theorem contents_insertRow (h : t.store.WellFormed) (inside : column < t.columnCount) {row : Nat}
    (within : row ≤ t.rowCount) (values : List α)
    (made : (t.insertRow row values).1 ≠ .error (.slotUnavailable .row)) :
    (t.insertRow row values).2.contents column
        = (t.contents column).insertIdx row values[column]? ∧
      column < (t.insertRow row values).2.columnCount := by
  obtain ⟨room, short⟩ := room_of_insertRow h within made
  have notFull : t.rowCount < Capacity.maxSlots := Nat.lt_of_le_of_lt (Nat.le_max_left _ _) room
  have r := h.representsColumns
  have rows : t.store.rowCount = t.store.columnGrid.columnCount := r.holds.rowCount
  obtain ⟨fitColumns, fitRows⟩ := r.fits
  have edited := r.apply_of_holds (.insertRow row values) (r.rectangular.insertColumn row values)
    ⟨by omega, by omega⟩
  rw [insertRow_of_room h within notFull short]
  refine contents_of_found edited ?_
  -- The column is one of those before the padding.
  have padded : (t.store.columnGrid.withRows values.length).rows[column]?
      = some (t.contents column) := by
    have found := found_contents inside
    rw [Grid.withRows, List.getElem?_append_left (List.getElem?_eq_some_iff.1 found).1, found]
  show (t.store.columnGrid.insertColumn row values).rows[column]? = _
  unfold Grid.insertColumn
  rw [r.rectangular.withColumns_of_le within]
  dsimp only
  rw [List.getElem?_mapIdx, padded]
  rfl

/-- A removed row takes its cell out of the column. -/
theorem contents_removeRow (h : t.store.WellFormed) (inside : column < t.columnCount) {row : Nat}
    (within : row < t.rowCount) :
    (t.removeRow row).2.contents column = (t.contents column).eraseIdx row ∧
      column < (t.removeRow row).2.columnCount := by
  have r := h.representsColumns
  obtain ⟨fitColumns, fitRows⟩ := r.fits
  have edited := r.apply_of_holds (.removeRow row) (r.rectangular.removeColumn within)
    ⟨by omega, by omega⟩
  obtain ⟨cells, removed⟩ := removeRow_of_inside within
  rw [removed]
  refine contents_of_found edited ?_
  show (t.store.columnGrid.removeColumn row).2.rows[column]? = _
  unfold Grid.removeColumn
  rw [if_pos (show row < t.store.columnGrid.columnCount from within), List.getElem?_map,
    found_contents inside]
  rfl

/-- A cell is written in its column only. -/
theorem contents_of_put (inside : column < t.columnCount) {t' : Table α} {row other : Nat}
    {content : Option α}
    (r : t'.store.RepresentsColumns (t.store.columnGrid.put other row content)) :
    t'.contents column
        = (if other = column then (t.contents column).set row content else t.contents column) ∧
      column < t'.columnCount := by
  refine contents_of_found r ?_
  unfold Grid.put
  rw [List.getElem?_modify, found_contents inside]
  rfl

/-- A replaced cell is replaced in its own column only. -/
theorem contents_replace (h : t.store.WellFormed) (inside : column < t.columnCount)
    {row other : Nat} (hr : row < t.rowCount) (hc : other < t.columnCount) (value : α) :
    (t.replace row other value).2.contents column
        = (if other = column then (t.contents column).set row (some value)
          else t.contents column) ∧
      column < (t.replace row other value).2.columnCount := by
  have r := h.representsColumns
  have hr' : row < t.store.columnGrid.columnCount := hr
  have hc' : other < t.store.columnGrid.rowCount := Nat.lt_of_lt_of_eq hc r.holds.columnCount
  obtain ⟨fitColumns, fitRows⟩ := r.fits
  have edited := r.apply_of_holds (.set row other value) (r.rectangular.set other row value)
    ⟨by omega, by omega⟩
  rw [replace_of_inside hr hc]
  refine contents_of_put inside ?_
  rw [← r.rectangular.set_of_inside hc' hr']
  exact edited

/-- An emptied cell is emptied in its own column only. -/
theorem contents_unset (h : t.store.WellFormed) (inside : column < t.columnCount)
    {row other : Nat} (hr : row < t.rowCount) (hc : other < t.columnCount) :
    (t.unset row other).2.contents column
        = (if other = column then (t.contents column).set row none else t.contents column) ∧
      column < (t.unset row other).2.columnCount := by
  have r := h.representsColumns
  have hc' : other < t.store.columnGrid.rowCount := Nat.lt_of_lt_of_eq hc r.holds.columnCount
  exact contents_of_put inside
    (r.apply_of_holds (.unset row other) (r.rectangular.put hc' hr none) r.fits.symm)

/-- A write that may be left out is a write to the list that may be left out. -/
theorem allOnList_set [DecidableEq α] (xs : List α) (written : Prop) [Decidable written]
    (position : Nat) (value : α) :
    SortedIndex.Edit.allOnList xs (if written then [.set position value] else [])
      = if written then xs.set position value else xs := by
  split <;> rfl

/-- Every edit that an index is kept through makes of a column what its edit of the index makes of
the list of cells. -/
theorem contents_apply [DecidableEq α] (h : t.store.WellFormed) (inside : column < t.columnCount)
    {e : Edit α} (within : e.Within t) (accepted : ∀ error, (t.apply e).1 ≠ .refused error) :
    (t.apply e).2.contents column
        = SortedIndex.Edit.allOnList (t.contents column) (e.onIndex column) ∧
      column < (t.apply e).2.columnCount := by
  have length := t.length_contents column
  cases e with
  | setHeader | set | pushColumn | insertColumn | removeColumn | clear => cases within
  | insertRow row values =>
    have edited := contents_insertRow h inside within values fun full =>
      accepted _ (congrArg (Edit.Answer.ofResult _) full)
    have inserted : SortedIndex.Edit.allOnList (t.contents column) [.insert row values[column]?]
        = (t.contents column).insertIdx row values[column]? :=
      congrArg Prod.snd (if_pos (length ▸ within))
    exact ⟨edited.1.trans inserted.symm, edited.2⟩
  | pushRow values =>
    rw [apply_pushRow] at accepted ⊢
    have edited := contents_insertRow h inside (Nat.le_refl _) values fun full =>
      accepted _ (congrArg (Edit.Answer.ofResult _) full)
    have appended : (t.contents column).insertIdx t.rowCount values[column]?
        = t.contents column ++ [values[column]?] := by
      rw [← length, List.insertIdx_length_self]
    exact ⟨edited.1.trans appended, edited.2⟩
  | removeRow row => exact contents_removeRow h inside within
  | replace row other value =>
    have edited := contents_replace h inside within.1 within.2 value
    exact ⟨edited.1.trans (allOnList_set _ _ _ _).symm, edited.2⟩
  | unset row other =>
    have edited := contents_unset h inside within.1 within.2
    exact ⟨edited.1.trans (allOnList_set _ _ _ _).symm, edited.2⟩

end Table

/-! ## Keeping an index -/

namespace SortedIndex

variable {α : Type u} [Ord α] {x : SortedIndex (Option α)} {t : Table α} {column : Nat}

/-- The index holds the cells of the column by row, in the order of some writing. -/
structure Keeps (x : SortedIndex (Option α)) (t : Table α) (column : Nat) : Prop where
  follows : ∃ l, x.Follows l
  toList : x.toList = t.contents column

/-- An index that is kept indexes its column. -/
theorem Keeps.indexes (k : x.Keeps t column) : x.Indexes t column := by
  obtain ⟨l, follows⟩ := k.follows
  exact ⟨follows.wellFormed, k.toList⟩

variable [Std.TransOrd α]

/-- A new index is kept. -/
theorem keeps_of_indexColumn {index : SortedIndex (Option α)}
    (indexed : t.indexColumn column = .ok index) : index.Keeps t column := by
  unfold Table.indexColumn at indexed
  split at indexed
  · cases indexed
    exact ⟨⟨_, (follows_empty 0).addAll _⟩, (wellFormed_ofList (t.contents column)).2⟩
  · cases indexed

variable [DecidableEq α] [Std.LawfulEqOrd α]

/-- Through an edit of the table, an index is kept by the edits of the index that go with it. -/
theorem Keeps.apply (k : x.Keeps t column) (h : t.store.WellFormed)
    (inside : column < t.columnCount) {e : Table.Edit α} (within : e.Within t)
    (accepted : ∀ error, (t.apply e).1 ≠ .refused error) :
    (x.applyAll (e.onIndex column)).Keeps (t.apply e).2 column := by
  obtain ⟨l, follows⟩ := k.follows
  refine ⟨⟨_, follows.applyAll _⟩, ?_⟩
  rw [follows.allOnList, k.toList, (Table.contents_apply h inside within accepted).1]

/-- An index is kept through any edits that can be mirrored. -/
theorem Keeps.run (k : x.Keeps t column) (h : t.store.WellFormed) (inside : column < t.columnCount)
    {edits : List (Table.Edit α)} (tracked : t.Tracked edits) :
    (x.applyAll (edits.flatMap (Table.Edit.onIndex column))).Keeps (t.run edits) column ∧
      column < (t.run edits).columnCount := by
  induction edits generalizing x t with
  | nil => exact ⟨k, inside⟩
  | cons e edits ih =>
    obtain ⟨within, accepted, rest⟩ := tracked
    have wellFormed := Table.wellFormed_apply h e
    have inside' := (Table.contents_apply h inside within accepted).2
    rw [List.flatMap_cons, applyAll, List.foldl_append]
    exact ih (k.apply h inside within accepted) wellFormed inside' rest

end SortedIndex

namespace Table

variable {α : Type u} [Ord α] [DecidableEq α] [Std.TransOrd α] [Std.LawfulEqOrd α]

/-- Through edits of rows and of cells of the table, the index of a column is kept by their edits of
the index: it holds the cells of the column by row, and it answers every test of the column but
inequality as a new index does, with the rows that a scan of the table selects. -/
theorem run_keeps_index {t : Table α} (reachable : t.Reachable) {column : Nat}
    (inside : column < t.columnCount) {index : SortedIndex (Option α)}
    (indexed : t.indexColumn column = .ok index) {edits : List (Edit α)}
    (tracked : t.Tracked edits) :
    let t' := t.run edits
    let kept := index.applyAll (edits.flatMap (Edit.onIndex column))
    kept.toList = t'.contents column ∧
      ∃ fresh, t'.indexColumn column = .ok fresh ∧
        ∀ check, (∀ value, check ≠ .notEqual value) →
          kept.select? column (.test column check) = some (t'.select (.test column check)) ∧
          fresh.select? column (.test column check) = some (t'.select (.test column check)) := by
  intro t' kept
  obtain ⟨keeps, inside'⟩ :=
    (SortedIndex.keeps_of_indexColumn indexed).run reachable.wellFormed inside tracked
  obtain ⟨fresh, again, indexes⟩ := t'.indexes_of_column inside'
  refine ⟨keeps.toList, fresh, again, fun check answered => ⟨?_, ?_⟩⟩
  · exact (if_pos rfl).trans (keeps.indexes.rowsPassing?_eq answered)
  · exact (if_pos rfl).trans (indexes.rowsPassing?_eq answered)

/-- Edits that put equal values into another order than that of a new index. -/
def shifted : List (Edit Nat) := [.insertRow 1 [3], .replace 0 0 5, .removeRow 2, .pushRow [5]]

/-- The index follows four edits, and it answers from the values that they leave. -/
theorem run_keeps_index_shifted :
    let t : Table Nat :=
      ofStore ((Store.withCapacity 1 1).run [.addRow [3], .addRow [], .addRow [3]])
    ∃ index, t.indexColumn 0 = .ok index ∧
      let kept := index.applyAll (shifted.flatMap (Edit.onIndex 0))
      kept.toList = [some 5, some 3, some 3, some 5] ∧
        kept.select? 0 (.test 0 (.above 3)) = some [0, 3] := by
  intro t
  have capacity : 1 ≤ Capacity.maxSlots := by decide
  have reachable : t.Reachable := ⟨t, _, .ofStore capacity capacity _, [], rfl⟩
  have inside : 0 < t.columnCount := by
    unfold t
    cbv
  obtain ⟨index, indexed, -⟩ := t.indexes_of_column inside
  have tracked : t.Tracked shifted := by
    unfold t shifted
    refine ⟨?_, fun _ => ?_, ⟨?_, ?_⟩, fun _ => ?_, ?_, fun _ => ?_, trivial, fun _ => ?_, trivial⟩
    all_goals cbv
    all_goals exact fun refused => by cases refused
  obtain ⟨toList, fresh, -, answers⟩ := run_keeps_index reachable inside indexed tracked
  have scanned : (t.run shifted).select (.test 0 (.above 3)) = [0, 3] := by
    show (List.range (t.run shifted).rowCount).filter
      (fun row => (CellTest.above 3).accepts ((t.run shifted).cell row 0)) = _
    unfold t shifted
    cbv
  refine ⟨index, indexed, toList.trans ?_, ((answers (.above 3) (by simp)).1).trans ?_⟩
  · unfold t shifted
    cbv
  · rw [scanned]

end Table

end Tabular
