import Tabular.Proofs.Index.Selection
import Tabular.Proofs.Positions
import Tabular.Proofs.Table.Refusal
import Tabular.Proofs.Table.Run

/-!
# Selection beside structural edits

What a condition says of a row depends on the cells of the row only: a list of cells satisfies it or
not, however deep its conjunctions and disjunctions are nested (`Condition.Satisfied`). So a
selection is known after an edit as soon as it is known where the rows went and where the columns of
the condition are.

An insertion and a removal of a line are the same relation of two tables, read from either end: one
of them has a line more, and the other lines of it are the lines of the other table, raised
(`Table.RowAdded`, `Table.ColumnAdded`).
-/

namespace Tabular

/-! ## Conditions on a row of cells -/

namespace Condition

variable {α : Type u}

/-- What holds of every test, and of a conjunction and a disjunction if it holds of the conditions
in it, holds of every condition. -/
theorem induct {motive : Condition α → Prop} (test : ∀ column check, motive (.test column check))
    (all : ∀ conditions, (∀ q ∈ conditions, motive q) → motive (.all conditions))
    (any : ∀ conditions, (∀ q ∈ conditions, motive q) → motive (.any conditions))
    (q : Condition α) : motive q := by
  refine Condition.rec (motive_2 := fun conditions => ∀ q ∈ conditions, motive q) test all any
    ?_ ?_ q
  · exact fun q mem => by cases mem
  · intro first rest here behind q mem
    rcases List.mem_cons.1 mem with rfl | mem
    · exact here
    · exact behind q mem

mutual

/-- The condition with its columns renumbered. -/
def mapColumns (f : Nat → Nat) : Condition α → Condition α
  | test column check => test (f column) check
  | all conditions => all (mapAllColumns f conditions)
  | any conditions => any (mapAllColumns f conditions)

/-- The conditions of a list with their columns renumbered. -/
def mapAllColumns (f : Nat → Nat) : List (Condition α) → List (Condition α)
  | [] => []
  | q :: conditions => mapColumns f q :: mapAllColumns f conditions

end

/-- The columns of several conditions are changed one condition after the other. -/
theorem mapAllColumns_eq (f : Nat → Nat) (conditions : List (Condition α)) :
    mapAllColumns f conditions = conditions.map (mapColumns f) := by
  induction conditions with
  | nil => rfl
  | cons q conditions ih => rw [mapAllColumns, ih, List.map_cons]

/-- The condition tests a column, at any depth. -/
inductive Mentions (column : Nat) : Condition α → Prop
  | test (check : CellTest α) : Mentions column (.test column check)
  | all {conditions : List (Condition α)} {q : Condition α} (mem : q ∈ conditions)
    (mentions : Mentions column q) : Mentions column (.all conditions)
  | any {conditions : List (Condition α)} {q : Condition α} (mem : q ∈ conditions)
    (mentions : Mentions column q) : Mentions column (.any conditions)

/-- A renumbering that leaves the columns of a condition alone leaves the condition as it is. -/
theorem mapColumns_eq_self {f : Nat → Nat} {q : Condition α}
    (same : ∀ column, Mentions column q → f column = column) : q.mapColumns f = q := by
  induction q using induct with
  | test column check => exact congrArg (Condition.test · check) (same column (.test check))
  | all conditions ih =>
    rw [mapColumns, mapAllColumns_eq, List.map_congr_left (g := id)]
    · rw [List.map_id]
    · exact fun q mem => ih q mem fun column mentions => same column (.all mem mentions)
  | any conditions ih =>
    rw [mapColumns, mapAllColumns_eq, List.map_congr_left (g := id)]
    · rw [List.map_id]
    · exact fun q mem => ih q mem fun column mentions => same column (.any mem mentions)

/-- Changing columns twice is changing them once. -/
theorem mapColumns_mapColumns (f g : Nat → Nat) (q : Condition α) :
    (q.mapColumns f).mapColumns g = q.mapColumns (g ∘ f) := by
  induction q using induct with
  | test column check => rfl
  | all conditions ih =>
    simp only [mapColumns, mapAllColumns_eq, List.map_map]
    exact congrArg Condition.all (List.map_congr_left ih)
  | any conditions ih =>
    simp only [mapColumns, mapAllColumns_eq, List.map_map]
    exact congrArg Condition.any (List.map_congr_left ih)

variable [Ord α] [DecidableEq α]

/-- A row of cells satisfies a condition. -/
inductive Satisfied (cells : Nat → Option α) : Condition α → Prop
  | test {column : Nat} {check : CellTest α} (accepted : check.accepts (cells column) = true) :
    Satisfied cells (.test column check)
  | all {conditions : List (Condition α)} (each : ∀ q ∈ conditions, Satisfied cells q) :
    Satisfied cells (.all conditions)
  | any {conditions : List (Condition α)} {q : Condition α} (mem : q ∈ conditions)
    (satisfied : Satisfied cells q) : Satisfied cells (.any conditions)

section Satisfied

variable {cells : Nat → Option α}

/-- A test is satisfied by what its column has. -/
theorem satisfied_test_iff {column : Nat} {check : CellTest α} :
    Satisfied cells (.test column check) ↔ check.accepts (cells column) = true :=
  ⟨fun | .test accepted => accepted, .test⟩

/-- Several conditions are satisfied if each of them is. -/
theorem satisfied_all_iff {conditions : List (Condition α)} :
    Satisfied cells (.all conditions) ↔ ∀ q ∈ conditions, Satisfied cells q :=
  ⟨fun | .all each => each, .all⟩

/-- One of several conditions is satisfied if some of them is. -/
theorem satisfied_any_iff {conditions : List (Condition α)} :
    Satisfied cells (.any conditions) ↔ ∃ q ∈ conditions, Satisfied cells q :=
  ⟨fun | .any mem satisfied => ⟨_, mem, satisfied⟩, fun ⟨_, mem, satisfied⟩ => .any mem satisfied⟩

end Satisfied

/-- All conditions hold if each of them does. -/
theorem allHold_eq (t : Table α) (row : Nat) (conditions : List (Condition α)) :
    allHold t row conditions = conditions.all (holds t row) := by
  induction conditions with
  | nil => rfl
  | cons q conditions ih => rw [allHold, ih, List.all_cons]

/-- One of several conditions holds if some of them does. -/
theorem anyHolds_eq (t : Table α) (row : Nat) (conditions : List (Condition α)) :
    anyHolds t row conditions = conditions.any (holds t row) := by
  induction conditions with
  | nil => rfl
  | cons q conditions ih => rw [anyHolds, ih, List.any_cons]

/-- A condition holds of a row of a table if the cells of the row satisfy it. -/
theorem holds_iff_satisfied (t : Table α) (row : Nat) (q : Condition α) :
    q.holds t row = true ↔ q.Satisfied (t.cell row) := by
  induction q using induct with
  | test column check => exact satisfied_test_iff.symm
  | all conditions ih =>
    rw [holds, allHold_eq, List.all_eq_true, satisfied_all_iff]
    exact forall₂_congr ih
  | any conditions ih =>
    rw [holds, anyHolds_eq, List.any_eq_true, satisfied_any_iff]
    exact exists_congr fun q => and_congr_right (ih q)

/-- A condition with other columns is satisfied where the condition is satisfied of the cells in
those columns. -/
theorem satisfied_mapColumns_iff (f : Nat → Nat) (cells : Nat → Option α) (q : Condition α) :
    (q.mapColumns f).Satisfied cells ↔ q.Satisfied fun column => cells (f column) := by
  induction q using induct with
  | test column check => rw [mapColumns, satisfied_test_iff, satisfied_test_iff]
  | all conditions ih =>
    rw [mapColumns, mapAllColumns_eq, satisfied_all_iff, satisfied_all_iff, List.forall_mem_map]
    exact forall₂_congr ih
  | any conditions ih =>
    rw [mapColumns, mapAllColumns_eq, satisfied_any_iff, satisfied_any_iff]
    simp only [List.mem_map, exists_exists_and_eq_and]
    exact exists_congr fun q => and_congr_right (ih q)

end Condition

/-! ## The content beside a new line -/

namespace Store.Content

variable {α : Type u}

/-- The other lines are raised over the inserted one. -/
theorem insertRow_raised (row : Nat) (line : Nat → Option α) (content : Content α) (i : Nat) :
    insertRow row line content (raised row i) = content i := by
  funext j
  unfold insertRow raised
  split
  · rfl
  · rw [if_neg (by omega), if_neg (by omega), Nat.add_sub_cancel]

/-- The inserted line has its content. -/
theorem insertRow_self (row : Nat) (line : Nat → Option α) (content : Content α) :
    insertRow row line content row = line := by
  funext j
  unfold insertRow
  rw [if_neg (Nat.lt_irrefl row), if_pos rfl]

/-- The lines behind a removed one come from above. -/
theorem removeRow_eq (row : Nat) (content : Content α) (i : Nat) :
    removeRow row content i = content (raised row i) := by
  funext j
  unfold removeRow raised
  split <;> rfl

end Store.Content

namespace Table

open Store (Content)

variable {α : Type u} {t t' : Table α}

/-! ## Tables that differ by a line -/

/-- `t'` has a row more than `t`, with the given cells. -/
structure RowAdded (t : Table α) (row : Nat) (cells : Nat → Option α) (t' : Table α) : Prop where
  inside : row ≤ t.rowCount
  rowCount : t'.rowCount = t.rowCount + 1
  others : ∀ i, t'.cell (raised row i) = t.cell i
  added : t'.cell row = cells

/-- `t'` has a column more than `t`, and as many rows. -/
structure ColumnAdded (t : Table α) (column : Nat) (t' : Table α) : Prop where
  rowCount : t'.rowCount = t.rowCount
  others : ∀ row j, t'.cell row (raised column j) = t.cell row j

/-- An inserted row has the values, and empty cells past them. -/
theorem rowAdded_of_insertRow (h : t.store.WellFormed) {row position : Nat} {values : List α}
    (inserted : t.insertRow row values = (.ok position, t')) :
    t.RowAdded row (fun column => values[column]?) t' := by
  have inside : row ≤ t.rowCount := by
    by_contra outside
    rw [insertRow, if_pos (Nat.lt_of_not_le outside)] at inserted
    cases inserted
  obtain ⟨room, short⟩ := room_of_insertRow h inside (by rw [inserted]; simp)
  have notFull : t.rowCount < Capacity.maxSlots := Nat.lt_of_le_of_lt (Nat.le_max_left _ _) room
  have holds := (h.insertRow_spec room short).2
  rw [insertRow_of_room h inside notFull short] at inserted
  cases inserted
  refine ⟨inside, ?_, fun i => ?_, ?_⟩
  · exact holds.rowCount.trans (congrArg (· + 1) (Nat.max_eq_left inside))
  · exact (congrFun holds.content_eq (raised row i)).trans (Content.insertRow_raised ..)
  · exact (congrFun holds.content_eq row).trans (Content.insertRow_self ..)

/-- A column with no more values than there are rows adds no row. -/
theorem columnAdded_of_insertColumn (h : t.store.WellFormed) {column position : Nat}
    {values : List α} (enough : values.length ≤ t.rowCount)
    (inserted : t.insertColumn column values = (.ok position, t')) : t.ColumnAdded column t' := by
  have inside : column ≤ t.columnCount := by
    by_contra outside
    rw [insertColumn, if_pos (Nat.lt_of_not_le outside)] at inserted
    cases inserted
  obtain ⟨room, short⟩ := room_of_insertColumn h inside (by rw [inserted]; simp)
  have holds := (h.insertColumn_spec room short).2
  rw [insertColumn_of_room h inside room short] at inserted
  cases inserted
  refine ⟨holds.rowCount.trans (Nat.max_eq_left enough), fun row j => ?_⟩
  have content := congrFun (congrFun holds.content_eq row) (raised column j)
  exact content.trans (congrFun (Content.insertRow_raised ..) row)

/-- Before a removal there was the removed row more. -/
theorem rowAdded_of_removeRow (h : t.store.WellFormed) {row : Nat} {cells : List (Option α)}
    (removed : t.removeRow row = (.ok cells, t')) : t'.RowAdded row (t.cell row) t := by
  have inside : row < t.rowCount := by
    by_contra outside
    rw [removeRow, checkRow, if_neg outside] at removed
    cases removed
  have holds := h.removeRow_spec inside
  obtain ⟨cells', same⟩ := removeRow_of_inside inside
  rw [same] at removed
  cases removed
  have rowCount : (t.store.removeRow row).2.rowCount + 1 = t.rowCount := by
    rw [holds.rowCount]
    exact Nat.sub_add_cancel (Nat.lt_of_le_of_lt (Nat.zero_le row) inside)
  refine ⟨Nat.lt_succ_iff.1 (Nat.lt_of_lt_of_eq inside rowCount.symm), rowCount.symm,
    fun i => ?_, rfl⟩
  exact ((congrFun holds.content_eq i).trans (Content.removeRow_eq ..)).symm

/-- Before a removal there was the removed column more. -/
theorem columnAdded_of_removeColumn (h : t.store.WellFormed) {column : Nat}
    {cells : List (Option α)} (removed : t.removeColumn column = (.ok cells, t')) :
    t'.ColumnAdded column t := by
  have inside : column < t.columnCount := by
    by_contra outside
    rw [removeColumn, checkColumn, if_neg outside] at removed
    cases removed
  have holds := h.removeColumn_spec inside
  obtain ⟨cells', same⟩ := removeColumn_of_inside inside
  rw [same] at removed
  cases removed
  refine ⟨holds.rowCount.symm, fun row j => ?_⟩
  have content := congrFun (congrFun holds.content_eq row) j
  exact (content.trans (congrFun (Content.removeRow_eq ..) row)).symm

/-! ## Selection -/

variable [Ord α] [DecidableEq α]

/-- The selected rows are those whose cells satisfy the condition. -/
theorem mem_select_iff {q : Condition α} {row : Nat} :
    row ∈ t.select q ↔ row < t.rowCount ∧ q.Satisfied (t.cell row) := by
  rw [select, List.mem_filter, List.mem_range, q.holds_iff_satisfied]

/-- Beside an added row, a condition selects the old rows that it selected, raised. -/
theorem RowAdded.select_eq {row : Nat} {cells : Nat → Option α} (a : t.RowAdded row cells t')
    (q : Condition α) : (t'.select q).filter (· ≠ row) = (t.select q).map (raised row) := by
  have same : (fun i => q.holds t' (raised row i)) = fun i => q.holds t i := by
    funext i
    rw [Bool.eq_iff_iff, q.holds_iff_satisfied, q.holds_iff_satisfied, a.others]
  calc (t'.select q).filter (· ≠ row)
      = ((List.range (t.rowCount + 1)).filter (· ≠ row)).filter (fun i => q.holds t' i) := by
        rw [select, a.rowCount, List.filter_comm]
    _ = ((List.range t.rowCount).map (raised row)).filter (fun i => q.holds t' i) := by
        rw [filter_ne_range a.inside]
    _ = (t.select q).map (raised row) := by
        rw [List.filter_map, select]
        exact congrArg (fun p => ((List.range t.rowCount).filter p).map (raised row)) same

/-- The added row is selected if its cells satisfy the condition. -/
theorem RowAdded.mem_select_iff {row : Nat} {cells : Nat → Option α} (a : t.RowAdded row cells t')
    (q : Condition α) : row ∈ t'.select q ↔ q.Satisfied cells := by
  have inside : row < t'.rowCount := by
    rw [a.rowCount]
    exact Nat.lt_succ_of_le a.inside
  rw [Table.mem_select_iff, a.added]
  exact and_iff_right inside

/-- With its columns raised, a condition selects what it did before a column was added. -/
theorem ColumnAdded.select_eq {column : Nat} (a : t.ColumnAdded column t') (q : Condition α) :
    t'.select (q.mapColumns (raised column)) = t.select q := by
  unfold select
  rw [a.rowCount]
  refine List.filter_congr fun row _ => ?_
  rw [Bool.eq_iff_iff, Condition.holds_iff_satisfied, Condition.holds_iff_satisfied,
    Condition.satisfied_mapColumns_iff]
  simp only [a.others]

/-- Selection in a table that edits lead to is stable under structural edits. A condition selects
the rows whose cells satisfy it. An inserted column with no more values than there are rows changes
no selection, if the condition follows its columns. Beside an inserted row there are the old rows,
raised, and the new row is selected if the values satisfy the condition, with empty cells past
them. A removal of a row leaves the others, lowered. A removal of a column that the condition does
not test changes no selection, if the condition follows its columns. -/
theorem Reachable.select_after_edit (reachable : t.Reachable) (q : Condition α) :
    ((t.select q).Pairwise (· < ·) ∧
      ∀ row, row ∈ t.select q ↔ row < t.rowCount ∧ q.Satisfied (t.cell row)) ∧
    (∀ column values position t', values.length ≤ t.rowCount →
      t.insertColumn column values = (.ok position, t') →
      t'.select (q.mapColumns (raised column)) = t.select q) ∧
    (∀ row values position t', t.insertRow row values = (.ok position, t') →
      (t'.select q).Pairwise (· < ·) ∧
        (t'.select q).filter (· ≠ row) = (t.select q).map (raised row) ∧
        (row ∈ t'.select q ↔ q.Satisfied fun column => values[column]?)) ∧
    (∀ row cells t', t.removeRow row = (.ok cells, t') →
      t'.select q = ((t.select q).filter (· ≠ row)).map (lowered row)) ∧
    ∀ column cells t', ¬ q.Mentions column → t.removeColumn column = (.ok cells, t') →
      t'.select (q.mapColumns (lowered column)) = t.select q := by
  have h : t.store.WellFormed := reachable.wellFormed
  refine ⟨⟨(t.select_ascending q).1, fun row => mem_select_iff⟩,
    fun column values position t' enough inserted => ?_,
    fun row values position t' inserted => ?_, fun row cells t' removed => ?_,
    fun column cells t' free removed => ?_⟩
  · exact (columnAdded_of_insertColumn h enough inserted).select_eq q
  · have added := rowAdded_of_insertRow h inserted
    exact ⟨(t'.select_ascending q).1, added.select_eq q, added.mem_select_iff q⟩
  · have added := rowAdded_of_removeRow h removed
    have back : lowered row ∘ raised row = id := funext fun i => lowered_raised row i
    rw [added.select_eq q, List.map_map, back, List.map_id]
  · have added := columnAdded_of_removeColumn h removed
    have back : (q.mapColumns (lowered column)).mapColumns (raised column) = q := by
      rw [Condition.mapColumns_mapColumns]
      exact Condition.mapColumns_eq_self fun j mentions =>
        raised_lowered fun same => free (same ▸ mentions)
    rw [← added.select_eq, back]

/-- A nested condition, with a column that the table does not have. -/
def nested : Condition Nat :=
  .any [.all [.test 0 .isNull, .test 2 (.above 7)], .test 0 (.equal 7), .test 5 .isNotNull]

/-- Writes that leave empty cells and grow both axes. -/
def sparse : List (Edit Nat) := [.set 0 1 6, .set 0 2 8, .set 1 0 3, .set 2 0 7]

/-- What the nested condition selects after each kind of edit of a table with empty cells. -/
theorem Reachable.select_after_edit_sparse :
    let t : Table Nat := (ofStore ((Store.withCapacity 1 2).run [])).run sparse
    t.select nested = [0, 2] ∧
      (t.insertColumn 1 [4]).2.select (nested.mapColumns (raised 1)) = [0, 2] ∧
      ((t.insertRow 1 [1, 1, 1, 1, 1, 1]).2.select nested).filter (· ≠ 1) = [0, 3] ∧
      1 ∈ (t.insertRow 1 [1, 1, 1, 1, 1, 1]).2.select nested ∧
      (t.removeRow 0).2.select nested = [1] ∧
      (t.removeColumn 1).2.select (nested.mapColumns (lowered 1)) = [0, 2] := by
  intro t
  have hr : 1 ≤ Capacity.maxSlots := by decide
  have hc : 2 ≤ Capacity.maxSlots := by decide
  have reachable : t.Reachable := ⟨_, _, .ofStore hr hc [], sparse, rfl⟩
  have selected : t.select nested = [0, 2] := by
    unfold t sparse nested
    cbv
  obtain ⟨-, insertColumn, insertRow, removeRow, removeColumn⟩ :=
    reachable.select_after_edit nested
  rw [selected] at insertColumn insertRow removeRow removeColumn
  obtain ⟨-, others, added⟩ := insertRow 1 [1, 1, 1, 1, 1, 1] 1 (t.insertRow 1 [1, 1, 1, 1, 1, 1]).2
    (Prod.fst_eq_iff.1 (by unfold t sparse; cbv))
  have filled : nested.Satisfied fun column => [1, 1, 1, 1, 1, 1][column]? :=
    .any (.tail _ (.tail _ (.head _))) (.test rfl)
  have free : ¬ nested.Mentions 1 := by
    unfold nested
    rintro (_ | _ | ⟨mem, mentions⟩)
    simp only [List.mem_cons, List.not_mem_nil, or_false] at mem
    obtain rfl | rfl | rfl := mem
    · obtain _ | ⟨mem, mentions⟩ | _ := mentions
      simp only [List.mem_cons, List.not_mem_nil, or_false] at mem
      obtain rfl | rfl := mem <;> cases mentions
    · cases mentions
    · cases mentions
  refine ⟨selected, ?_, others, added.2 filled, ?_, ?_⟩
  · exact insertColumn 1 [4] 1 (t.insertColumn 1 [4]).2 (by unfold t sparse; cbv)
      (Prod.fst_eq_iff.1 (by unfold t sparse; cbv))
  · exact removeRow 0 [none, some 6, some 8] (t.removeRow 0).2
      (Prod.fst_eq_iff.1 (by unfold t sparse; cbv))
  · exact removeColumn 1 [some 6, none, none] (t.removeColumn 1).2 free
      (Prod.fst_eq_iff.1 (by unfold t sparse; cbv))

end Table

end Tabular
