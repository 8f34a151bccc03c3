import Tabular.Proofs.Store.Insertion
import Tabular.Proofs.Store.Removal
import Tabular.Table.Basic

/-!
# Edits of a table

Every edit of a table edits its store by operations of the store, so it keeps the invariant of the
store, also when it fails. An edit that is given at most `maxSlots` values and fails leaves the
table exactly as it was (`AllOrNothing`): either its coordinates are refused before anything is
done, or the axis is full.
-/

namespace Tabular

/-- An outcome beside a state, which is the state from before if the outcome is a failure. -/
def AllOrNothing {σ : Type u} {ε : Type v} {β : Type w} (before : σ) (result : Except ε β × σ) :
    Prop :=
  ∀ e, result.1 = .error e → result.2 = before

section AllOrNothing

variable {σ : Type u} {ε : Type v} {β : Type w}

/-- What is as it was is so after an error too. -/
theorem allOrNothing_of_eq {before : σ} {result : Except ε β × σ} (same : result.2 = before) :
    AllOrNothing before result := fun _ _ => same

/-- Without an error there is nothing to show. -/
theorem allOrNothing_of_ok {before : σ} {result : Except ε β × σ} {b : β} (ok : result.1 = .ok b) :
    AllOrNothing before result := by
  intro e failed
  rw [ok] at failed
  cases failed

end AllOrNothing

namespace Table

variable {α : Type u} {t : Table α}

/-! ## Keeping the invariant of the store -/

/-- A name is given to one column only. -/
theorem header_name (t : Table α) (column : Nat) (text : String) (j : Nat) :
    (t.name column text).header j = if j = column then some text else t.header j := by
  unfold header name
  dsimp only
  rw [Array.getElem?_setIfInBounds]
  by_cases same : column = j
  -- The names were padded up to the column, so it gets its name.
  · have inside : column
        < (t.headers ++ Array.replicate (column + 1 - t.headers.size) none).size := by
      rw [Array.size_append, Array.size_replicate]
      omega
    rw [if_pos same, if_pos inside, if_pos same.symm]
    rfl
  · rw [if_neg same, if_neg (Ne.symm same), Array.getElem?_append]
    split
    · rfl
    · next outside =>
      rw [Array.getElem?_eq_none (Nat.le_of_not_lt outside), Array.getElem?_replicate]
      split <;> rfl

/-- A table stays well formed when a column is named, also when it is not there yet. -/
theorem wellFormed_setHeader (h : t.store.WellFormed) (column : Nat) (text : String) :
    (t.setHeader column text).2.store.WellFormed := by
  have inserted := h.insertColumn column []
  unfold setHeader
  split
  · exact h
  · split
    · next eq =>
      rw [eq] at inserted
      exact inserted
    · next eq =>
      rw [eq] at inserted
      exact inserted

/-- A table stays well formed when columns are named in a row. -/
theorem wellFormed_setHeaders (h : t.store.WellFormed) (column : Nat) (texts : List String) :
    (t.setHeaders column texts).2.store.WellFormed := by
  induction texts generalizing t column with
  | nil => exact h
  | cons text texts ih =>
    have named := wellFormed_setHeader h column text
    unfold setHeaders
    split
    · next eq =>
      rw [eq] at named
      exact ih named (column + 1)
    · next eq =>
      rw [eq] at named
      exact named

/-- A table stays well formed by a write. -/
theorem wellFormed_set (h : t.store.WellFormed) (row column : Nat) (value : α) :
    (t.set row column value).2.store.WellFormed := h.set row column value

/-- A table stays well formed when a cell is emptied. -/
theorem wellFormed_unset (h : t.store.WellFormed) (row column : Nat) :
    (t.unset row column).2.store.WellFormed := h.exchange row column none

/-- A table stays well formed when a row is appended. -/
theorem wellFormed_pushRow (h : t.store.WellFormed) (values : List α) :
    (t.pushRow values).2.store.WellFormed := by
  have inserted := h.insertRow t.store.rowCount values
  unfold pushRow Store.addRow
  split
  · next eq => rwa [eq] at inserted
  · next eq => rwa [eq] at inserted

/-- A table stays well formed when a column is appended. -/
theorem wellFormed_pushColumn (h : t.store.WellFormed) (values : List α) :
    (t.pushColumn values).2.store.WellFormed := by
  have inserted := h.insertColumn t.store.columnCount values
  unfold pushColumn Store.addColumn
  split
  · next eq => rwa [eq] at inserted
  · next eq => rwa [eq] at inserted

/-- A table stays well formed when a row is inserted, also when that fails. -/
theorem wellFormed_insertRow (h : t.store.WellFormed) (row : Nat) (values : List α) :
    (t.insertRow row values).2.store.WellFormed := by
  have inserted := h.insertRow row values
  unfold insertRow
  split
  · exact h
  · split
    · next eq => rwa [eq] at inserted
    · next eq => rwa [eq] at inserted

/-- A table stays well formed when a row is removed, also when that fails. -/
theorem wellFormed_removeRow (h : t.store.WellFormed) (row : Nat) :
    (t.removeRow row).2.store.WellFormed := by
  have removed := h.removeRow row
  unfold removeRow
  split
  · exact h
  · split
    · next eq => rwa [eq] at removed
    · next eq => rwa [eq] at removed

/-- A table stays well formed when a column is removed, also when that fails. -/
theorem wellFormed_removeColumn (h : t.store.WellFormed) (column : Nat) :
    (t.removeColumn column).2.store.WellFormed := by
  have removed := h.removeColumn column
  unfold removeColumn
  split
  · exact h
  · split
    · next eq => rwa [eq] at removed
    · next eq => rwa [eq] at removed

/-! ## What an edit does

An edit of the table is an edit of the store at coordinates that the table accepts. The axis has
room or is full, and that alone decides whether the edit succeeds.
-/

/-- A column that an axis can have is inserted without values and then named. -/
theorem setHeader_of_new (h : t.store.WellFormed) {column : Nat} (new : t.columnCount ≤ column)
    (room : column < Capacity.maxSlots) (text : String) :
    t.setHeader column text
      = (.ok (), { t with store := (t.store.insertColumn column []).2 }.name column text) := by
  have fits : max t.store.columnCount column < Capacity.maxSlots :=
    Nat.max_lt.2 ⟨Nat.lt_of_le_of_lt new room, room⟩
  have short : ([] : List α).length ≤ Capacity.maxSlots := Nat.zero_le _
  have inserted : t.store.insertColumn column []
      = (some column, (t.store.insertColumn column []).2) :=
    Prod.ext (h.insertColumn_spec fits short).1 rfl
  unfold setHeader
  rw [if_neg (Nat.not_lt_of_le new), inserted]

/-- No column is added to a table that has as many as an axis can have. -/
theorem setHeader_of_full (h : t.store.WellFormed) (full : Capacity.maxSlots ≤ t.columnCount)
    (text : String) :
    t.setHeader t.columnCount text = (.error (.slotUnavailable .column), t) := by
  have refused : t.store.insertColumn t.columnCount [] = (none, t.store) :=
    h.insertColumn_of_full (Nat.le_refl _) full []
  unfold setHeader
  rw [if_neg (Nat.lt_irrefl _), refused]

/-- A column that an axis can have is named. -/
theorem setHeader_ok (h : t.store.WellFormed) {column : Nat} (room : column < Capacity.maxSlots)
    (text : String) : (t.setHeader column text).1 = .ok () := by
  rcases Nat.lt_or_ge column t.columnCount with inside | new
  · unfold setHeader
    rw [if_pos inside]
  · rw [setHeader_of_new h new room]

/-- No more names than an axis has columns are all given. -/
theorem setHeaders_ok (h : t.store.WellFormed) {column : Nat} {texts : List String}
    (room : column + texts.length ≤ Capacity.maxSlots) :
    (t.setHeaders column texts).1 = .ok () := by
  induction texts generalizing t column with
  | nil => rfl
  | cons text texts ih =>
    rw [List.length_cons] at room
    have named : t.setHeader column text = (.ok (), (t.setHeader column text).2) :=
      Prod.ext (setHeader_ok h (show column < Capacity.maxSlots by omega) text) rfl
    unfold setHeaders
    rw [named]
    exact ih (wellFormed_setHeader h column text) (by omega)

/-- While there is room for a row it is inserted. -/
theorem insertRow_of_room (h : t.store.WellFormed) {row : Nat} (inside : row ≤ t.rowCount)
    (room : t.rowCount < Capacity.maxSlots) {values : List α}
    (short : values.length ≤ Capacity.maxSlots) :
    t.insertRow row values = (.ok row, { t with store := (t.store.insertRow row values).2 }) := by
  have fits : max t.store.rowCount row < Capacity.maxSlots :=
    Nat.max_lt.2 ⟨room, Nat.lt_of_le_of_lt inside room⟩
  have inserted : t.store.insertRow row values = (some row, (t.store.insertRow row values).2) :=
    Prod.ext (h.insertRow_spec fits short).1 rfl
  unfold insertRow
  rw [if_neg (Nat.not_lt_of_le inside), inserted]

/-- Without room for a row none is inserted, and the table is as it was. -/
theorem insertRow_of_full (h : t.store.WellFormed) {row : Nat} (inside : row ≤ t.rowCount)
    (full : Capacity.maxSlots ≤ t.rowCount) (values : List α) :
    t.insertRow row values = (.error (.slotUnavailable .row), t) := by
  unfold insertRow
  rw [if_neg (Nat.not_lt_of_le inside), h.insertRow_of_full inside full values]

/-- Appending a row is inserting it at the end. -/
theorem pushRow_eq (t : Table α) (values : List α) :
    t.pushRow values = t.insertRow t.rowCount values := by
  unfold pushRow insertRow
  rw [if_neg (Nat.lt_irrefl _)]
  rfl

/-- While there is room for a column it is appended. -/
theorem pushColumn_of_room (h : t.store.WellFormed) (room : t.columnCount < Capacity.maxSlots)
    {values : List α} (short : values.length ≤ Capacity.maxSlots) :
    t.pushColumn values
      = (.ok t.columnCount, { t with store := (t.store.addColumn values).2 }) := by
  have fits : max t.store.columnCount t.store.columnCount < Capacity.maxSlots :=
    Nat.max_lt.2 ⟨room, room⟩
  have added : t.store.addColumn values = (some t.columnCount, (t.store.addColumn values).2) :=
    Prod.ext (h.insertColumn_spec fits short).1 rfl
  unfold pushColumn
  rw [added]

/-- Without room for a column none is appended, and the table is as it was. -/
theorem pushColumn_of_full (h : t.store.WellFormed) (full : Capacity.maxSlots ≤ t.columnCount)
    (values : List α) : t.pushColumn values = (.error (.slotUnavailable .column), t) := by
  have refused : t.store.addColumn values = (none, t.store) :=
    h.insertColumn_of_full (Nat.le_refl _) full values
  unfold pushColumn
  rw [refused]

/-- A pushed column is a column of the table. -/
theorem lt_columnCount_of_pushColumn (h : t.store.WellFormed) {values : List α}
    (short : values.length ≤ Capacity.maxSlots) {column : Nat} {t' : Table α}
    (pushed : t.pushColumn values = (.ok column, t')) : column < t'.columnCount := by
  rcases Nat.lt_or_ge t.columnCount Capacity.maxSlots with room | full
  · have fits : max t.store.columnCount t.store.columnCount < Capacity.maxSlots := by
      rwa [Nat.max_self]
    have count := (h.insertColumn_spec fits short).2.columnCount
    rw [pushColumn_of_room h room short] at pushed
    cases pushed
    show t.store.columnCount < (t.store.insertColumn t.store.columnCount values).2.columnCount
    omega
  · rw [pushColumn_of_full h full] at pushed
    cases pushed

/-- A cell of the table is replaced by a write. -/
theorem replace_of_inside {row column : Nat} (hr : row < t.rowCount) (hc : column < t.columnCount)
    (value : α) :
    t.replace row column value = (.ok (t.set row column value).1, (t.set row column value).2) := by
  unfold replace checkCell checkRow checkColumn
  rw [if_pos hr, if_pos hc]

/-- A row inside is removed. -/
theorem removeRow_of_inside {row : Nat} (inside : row < t.rowCount) :
    ∃ cells, t.removeRow row = (.ok cells, { t with store := (t.store.removeRow row).2 }) := by
  obtain ⟨r, found⟩ := t.store.rows.exists_found inside
  have answer := t.store.fst_removeRow row
  rw [Store.row?, found, Option.map_some] at answer
  have removed : t.store.removeRow row = (some _, (t.store.removeRow row).2) := Prod.ext answer rfl
  unfold removeRow checkRow
  rw [if_pos inside, removed]
  exact ⟨_, rfl⟩

/-- A column inside is removed, and the names behind it move up. -/
theorem removeColumn_of_inside {column : Nat} (inside : column < t.columnCount) :
    ∃ cells, t.removeColumn column
      = (.ok cells, { store := (t.store.removeColumn column).2
                      headers := t.headers.eraseIdxIfInBounds column }) := by
  obtain ⟨c, found⟩ := t.store.columns.exists_found inside
  have answer := t.store.fst_removeColumn column
  rw [Store.column?, found, Option.map_some] at answer
  have removed : t.store.removeColumn column = (some _, (t.store.removeColumn column).2) :=
    Prod.ext answer rfl
  unfold removeColumn checkColumn
  rw [if_pos inside, removed]
  exact ⟨_, rfl⟩

/-! ## Failing without an effect -/

/-- A row is inserted with all its values, or the table is as it was. -/
theorem allOrNothing_insertRow (h : t.store.WellFormed) (row : Nat) {values : List α}
    (short : values.length ≤ Capacity.maxSlots) : AllOrNothing t (t.insertRow row values) := by
  rcases Nat.lt_or_ge t.rowCount row with outside | inside
  · unfold insertRow
    rw [if_pos outside]
    exact allOrNothing_of_eq rfl
  · rcases Nat.lt_or_ge t.rowCount Capacity.maxSlots with room | full
    · rw [insertRow_of_room h inside room short]
      exact allOrNothing_of_ok rfl
    · rw [insertRow_of_full h inside full]
      exact allOrNothing_of_eq rfl

/-- A row is appended with all its values, or the table is as it was. -/
theorem allOrNothing_pushRow (h : t.store.WellFormed) {values : List α}
    (short : values.length ≤ Capacity.maxSlots) : AllOrNothing t (t.pushRow values) := by
  rw [pushRow_eq]
  exact allOrNothing_insertRow h _ short

/-- A column is appended with all its values, or the table is as it was. -/
theorem allOrNothing_pushColumn (h : t.store.WellFormed) {values : List α}
    (short : values.length ≤ Capacity.maxSlots) : AllOrNothing t (t.pushColumn values) := by
  rcases Nat.lt_or_ge t.columnCount Capacity.maxSlots with room | full
  · rw [pushColumn_of_room h room short]
    exact allOrNothing_of_ok rfl
  · rw [pushColumn_of_full h full]
    exact allOrNothing_of_eq rfl

/-- A row is removed, or the table is as it was. -/
theorem allOrNothing_removeRow (t : Table α) (row : Nat) : AllOrNothing t (t.removeRow row) := by
  by_cases inside : row < t.rowCount
  · obtain ⟨cells, removed⟩ := removeRow_of_inside inside
    rw [removed]
    exact allOrNothing_of_ok rfl
  · unfold removeRow checkRow
    rw [if_neg inside]
    exact allOrNothing_of_eq rfl

/-- A column is removed, or the table is as it was. -/
theorem allOrNothing_removeColumn (t : Table α) (column : Nat) :
    AllOrNothing t (t.removeColumn column) := by
  by_cases inside : column < t.columnCount
  · obtain ⟨cells, removed⟩ := removeColumn_of_inside inside
    rw [removed]
    exact allOrNothing_of_ok rfl
  · unfold removeColumn checkColumn
    rw [if_neg inside]
    exact allOrNothing_of_eq rfl

end Table

end Tabular
