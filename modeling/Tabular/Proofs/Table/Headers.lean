import Tabular.Proofs.Store.Columns
import Tabular.Proofs.Table.Refusal
import Tabular.Proofs.Table.Run

/-!
# Names stay with their columns

A table keeps the names of its columns apart from the store, in an array that may be shorter than
there are columns, and the store gets columns also where no name is given. A sheet has each name in
its column. As long as no axis is full, edits cannot tell the two apart (`Represents.apply`): the
names in the array are those of the columns, and the array has no name for a column that does not
exist.
-/

namespace Tabular

variable {α : Type u}

namespace Table

variable {t t' : Table α} {s s' : Sheet α}

/-! ## The array of names -/

/-- Naming a column makes places for names up to it. -/
theorem size_headers_name (t : Table α) (column : Nat) (text : String) :
    (t.name column text).headers.size = max t.headers.size (column + 1) := by
  unfold name
  rw [Array.size_setIfInBounds, Array.size_append, Array.size_replicate]
  omega

/-- The names with an unnamed column in front of `column`. -/
theorem header_insertColumn (store : Store α) (column index : Nat) :
    ({ store, headers :=
        if column < t.headers.size then t.headers.insertIdxIfInBounds column none
        else t.headers } : Table α).header index
      = if index < column then t.header index
        else if index = column then none else t.header (index - 1) := by
  unfold header
  dsimp only
  split
  · next inside =>
    rw [Array.insertIdxIfInBounds, dif_pos (Nat.le_of_lt inside), Array.getElem?_insertIdx]
    split
    · rfl
    · split
      · rw [if_pos (by omega)]
        rfl
      · rfl
  -- There are no names from `column` on, so there is none to move.
  · split
    · rfl
    · rw [Array.getElem?_eq_none (by omega)]
      split
      · rfl
      · rw [Array.getElem?_eq_none (by omega)]

/-- The names without that of `column`. -/
theorem header_removeColumn (store : Store α) (column index : Nat) :
    ({ store, headers := t.headers.eraseIdxIfInBounds column } : Table α).header index
      = if index < column then t.header index else t.header (index + 1) := by
  unfold header
  dsimp only
  rw [Array.eraseIdxIfInBounds]
  split
  · rw [Array.getElem?_eraseIdx]
    split <;> rfl
  · split
    · rfl
    · rw [Array.getElem?_eq_none (by omega), Array.getElem?_eq_none (by omega)]

/-! ## A table and its sheet -/

/-- The table holds the cells of the sheet and has the names of its columns, and no others. -/
structure Represents (t : Table α) (s : Sheet α) : Prop where
  store : t.store.RepresentsColumns s.grid
  header : t.header = s.name?
  headers_size : t.headers.size ≤ s.columns.length

namespace Represents

/-- A table has as many rows as the sheet. -/
theorem rowCount (r : t.Represents s) : t.rowCount = s.rowCount := r.store.holds.rowCount

/-- A table has as many columns as the sheet. -/
theorem columnCount (r : t.Represents s) : t.columnCount = s.columns.length :=
  r.store.holds.columnCount.trans s.rowCount_grid

/-- A table that shows a sheet is well formed. -/
theorem wellFormed (r : t.Represents s) : t.store.WellFormed := r.store.holds.wellFormed

/-- A column of the table is the column of the sheet. -/
theorem column_eq (r : t.Represents s) {column : Nat} (inside : column < s.columns.length) :
    ({ name := t.header column
       cells := (List.range t.rowCount).map fun row => t.cell row column } : Sheet.Column α)
      = s.columns[column] := by
  have found := List.getElem?_eq_getElem inside
  have name : t.header column = s.columns[column].name := by
    rw [r.header, Sheet.name?, found]
    rfl
  have inStore : column < t.store.columnCount := Nat.lt_of_lt_of_eq inside r.columnCount.symm
  have cells : s.grid.rows[column]? = some s.columns[column].cells := by
    rw [Sheet.grid, List.getElem?_map, found, Option.map_some]
  rw [r.store.rows_eq, t.store.rows_columnGrid inStore] at cells
  rw [name]
  exact congrArg (Sheet.Column.mk s.columns[column].name) (Option.some.inj cells)

/-- The table shows the sheet. -/
theorem toSheet_eq (r : t.Represents s) : t.toSheet = s := by
  have columns : t.toSheet.columns = s.columns := by
    refine List.ext_getElem ?_ fun column inside inside' => ?_
    · rw [toSheet, List.length_map, List.length_range, r.columnCount]
    · rw [← r.column_eq inside']
      simp only [toSheet, List.getElem_map, List.getElem_range]
  calc t.toSheet = { rowCount := t.rowCount, columns := t.toSheet.columns } := rfl
    _ = s := by rw [columns, r.rowCount]

/-! ## Edits of the cells -/

/-- An edit of the store, the same edit of the columns, and the names that the columns have then. -/
theorem of_edit (r : t.Represents s) (e : Tabular.Edit α) {content : Store.Content α}
    {rowCount columnCount : Nat} {headers : Array (Option String)}
    (grid : s'.grid = (s.grid.apply e.transpose).2)
    (edited : (s.grid.apply e.transpose).2.Holds columnCount rowCount content)
    (fits : rowCount ≤ Capacity.maxSlots ∧ columnCount ≤ Capacity.maxSlots)
    (names : ({ t with headers } : Table α).header = s'.name?)
    (enough : headers.size ≤ columnCount) :
    ({ store := (t.store.apply e).2, headers } : Table α).Represents s' where
  store := by
    rw [grid]
    exact r.store.apply_of_holds e edited fits
  header := names
  headers_size := by
    calc headers.size ≤ columnCount := enough
      _ = s'.grid.rowCount := by rw [grid, edited.rowCount]
      _ = s'.columns.length := s'.rowCount_grid

/-- An edit that removes no column leaves the names as they are. -/
theorem of_growing_edit (r : t.Represents s) (e : Tabular.Edit α) {content : Store.Content α}
    {rowCount columnCount : Nat} (grid : s'.grid = (s.grid.apply e.transpose).2)
    (edited : (s.grid.apply e.transpose).2.Holds columnCount rowCount content)
    (fits : rowCount ≤ Capacity.maxSlots ∧ columnCount ≤ Capacity.maxSlots)
    (names : s'.name? = s.name?) (grows : s.grid.rowCount ≤ columnCount) :
    ({ t with store := (t.store.apply e).2 } : Table α).Represents s' :=
  r.of_edit e grid edited fits (r.header.trans names.symm)
    (Nat.le_trans r.headers_size (s.rowCount_grid ▸ grows))

/-- A write outside the sheet changes nothing of it. -/
theorem put_of_outside (r : t.Represents s) {row column : Nat}
    (outside : t.rowCount ≤ row ∨ t.columnCount ≤ column) (content : Option α) :
    t.Represents (s.put row column content) := by
  have same : (s.put row column content).grid = s.grid := by
    rw [s.grid_put]
    refine r.store.rectangular.put_of_outside ?_ content
    rw [r.rowCount, r.columnCount, ← s.rowCount_grid] at outside
    exact outside.symm
  refine ⟨same ▸ r.store, r.header.trans (s.name?_put row column content).symm, ?_⟩
  rw [← Sheet.rowCount_grid, same, Sheet.rowCount_grid]
  exact r.headers_size

/-- Emptying a cell of the table empties it in the sheet. -/
theorem unset (r : t.Represents s) (row column : Nat) :
    (t.unset row column).2.Represents (s.put row column none) := by
  by_cases outside : t.rowCount ≤ row ∨ t.columnCount ≤ column
  · have same : (t.unset row column).2 = t := by
      have nothing := Store.exchange_of_outside (s := t.store) outside none
      unfold Table.unset Store.unset
      rw [nothing]
    rw [same]
    exact r.put_of_outside outside none
  · have inside : row < t.rowCount ∧ column < t.columnCount := by omega
    have hr := Nat.lt_of_lt_of_eq inside.1 r.store.holds.rowCount
    have hc := Nat.lt_of_lt_of_eq inside.2 r.store.holds.columnCount
    exact r.of_growing_edit (.unset row column) (s.grid_put row column none)
      (r.store.rectangular.put hc hr none) r.store.fits.symm (s.name?_put row column none)
      (Nat.le_refl _)

/-- A write to the table is one to the sheet, which grows as far. -/
theorem set (r : t.Represents s) (row column : Nat) (value : α) :
    (t.set row column value).2.Represents (s.set row column value) := by
  by_cases outside : Capacity.maxSlots ≤ row ∨ Capacity.maxSlots ≤ column
  · have same : (t.set row column value).2 = t := by
      unfold Table.set
      rw [Store.set_of_outside outside]
    rw [same, Sheet.set, if_pos outside]
    exact r
  · obtain ⟨fitColumns, fitRows⟩ := r.store.fits
    exact r.of_growing_edit (.set row column value) (s.grid_set (by omega) (by omega) value)
      (r.store.rectangular.set column row value) ⟨by omega, by omega⟩
      (s.name?_set row column value) (Nat.le_max_left _ _)

/-- Replacing a cell of the table replaces it in the sheet, if it is there. -/
theorem replace (r : t.Represents s) (row column : Nat) (value : α) :
    (t.replace row column value).2.Represents (s.put row column (some value)) := by
  by_cases outside : t.rowCount ≤ row ∨ t.columnCount ≤ column
  · have same : (t.replace row column value).2 = t := by
      unfold Table.replace checkCell checkRow checkColumn
      by_cases hr : row < t.rowCount
      · rw [if_pos hr, if_neg (by omega)]
      · rw [if_neg hr]
    rw [same]
    exact r.put_of_outside outside _
  · have inside : row < t.rowCount ∧ column < t.columnCount := by omega
    -- A write within the table pads nothing, so the sheet needs no padding either.
    have hr := Nat.lt_of_lt_of_eq inside.1 r.store.holds.rowCount
    have hc := Nat.lt_of_lt_of_eq inside.2 r.store.holds.columnCount
    have grid : (s.put row column (some value)).grid = (s.grid.set column row value).2 := by
      rw [s.grid_put, r.store.rectangular.set_of_inside hc hr]
    obtain ⟨fitColumns, fitRows⟩ := r.store.fits
    rw [replace_of_inside inside.1 inside.2]
    exact r.of_growing_edit (.set row column value) grid
      (r.store.rectangular.set column row value) ⟨by omega, by omega⟩ (s.name?_put row column _)
      (Nat.le_max_left _ _)

/-! ## Edits of the rows -/

/-- Inserting a row into the table inserts it into the sheet, unless there is no room. -/
theorem insertRow (r : t.Represents s) (row : Nat) (values : List α)
    (made : (t.insertRow row values).1 ≠ .error (.slotUnavailable .row)) :
    (t.insertRow row values).2.Represents (s.insertRow row values) := by
  rcases Nat.lt_or_ge t.rowCount row with outside | inside
  · have refused : t.insertRow row values = (.error (.rowOutOfBounds row t.rowCount), t) :=
      if_pos outside
    rw [refused, Sheet.insertRow, if_pos (r.rowCount ▸ outside)]
    exact r
  · obtain ⟨room, short⟩ := room_of_insertRow r.wellFormed inside made
    have notFull : t.rowCount < Capacity.maxSlots := Nat.lt_of_le_of_lt (Nat.le_max_left _ _) room
    have rows : t.store.rowCount = s.grid.columnCount := r.rowCount
    obtain ⟨fitColumns, fitRows⟩ := r.store.fits
    rw [insertRow_of_room r.wellFormed inside notFull short]
    exact r.of_growing_edit (.insertRow row values)
      (Sheet.grid_insertRow r.store.rectangular (r.rowCount ▸ inside) values)
      (r.store.rectangular.insertColumn row values) ⟨by omega, by omega⟩
      (s.name?_insertRow row values) (Nat.le_max_left _ _)

/-- Appending a row to the table appends it to the sheet, unless there is no room. -/
theorem pushRow (r : t.Represents s) (values : List α)
    (made : (t.pushRow values).1 ≠ .error (.slotUnavailable .row)) :
    (t.pushRow values).2.Represents (s.insertRow s.rowCount values) := by
  rw [pushRow_eq] at made ⊢
  rw [← r.rowCount]
  exact r.insertRow t.rowCount values made

/-- Removing a row from the table removes it from the sheet, if it is there. -/
theorem removeRow (r : t.Represents s) (row : Nat) :
    (t.removeRow row).2.Represents (s.removeRow row) := by
  by_cases inside : row < t.rowCount
  · have hr : row < s.rowCount := r.rowCount ▸ inside
    obtain ⟨cells, removed⟩ := removeRow_of_inside inside
    obtain ⟨fitColumns, fitRows⟩ := r.store.fits
    rw [removed]
    exact r.of_growing_edit (.removeRow row) (Sheet.grid_removeRow hr)
      (r.store.rectangular.removeColumn hr) ⟨by omega, by omega⟩ (s.name?_removeRow row)
      (Nat.le_refl _)
  · have refused : t.removeRow row = (.error (.rowOutOfBounds row t.rowCount), t) := by
      unfold Table.removeRow checkRow
      rw [if_neg inside]
    rw [refused, Sheet.removeRow, if_neg (r.rowCount ▸ inside)]
    exact r

/-! ## Edits of the columns -/

/-- A column that exists is named on both sides. -/
theorem name (r : t.Represents s) {column : Nat} (inside : column < s.columns.length)
    (text : String) : (t.name column text).Represents (s.setHeader column text) where
  store := by
    rw [s.grid_setHeader, Grid.withRows_of_le (s.rowCount_grid ▸ inside)]
    exact r.store
  header := by
    funext index
    rw [header_name, s.name?_setHeader, r.header]
  headers_size := by
    have size := r.headers_size
    rw [size_headers_name, s.length_setHeader]
    omega

/-- Naming a column of the table names it in the sheet, unless there is no room for it. -/
theorem setHeader (r : t.Represents s) (column : Nat) (text : String)
    (named : (t.setHeader column text).1 ≠ .error (.slotUnavailable .column)) :
    (t.setHeader column text).2.Represents (s.setHeader column text) := by
  rcases Nat.lt_or_ge column t.columnCount with inside | new
  · have same : t.setHeader column text = (.ok (), t.name column text) := if_pos inside
    rw [same]
    exact r.name (r.columnCount ▸ inside) text
  · have room := room_of_setHeader r.wellFormed new named
    have behind := Nat.le_trans (Nat.le_of_eq r.store.holds.columnCount.symm) new
    obtain ⟨fitColumns, fitRows⟩ := r.store.fits
    -- The table is padded by an insertion at the end, the sheet by unnamed columns.
    have grid : (s.withColumns (column + 1)).grid = s.grid.insertRow column [] := by
      rw [s.grid_withColumns, Grid.insertRow_behind behind]
    have padded := r.of_growing_edit (.insertColumn column []) grid
      (r.store.rectangular.insertRow column []) ⟨by rw [List.length_nil]; omega, by omega⟩
      (s.name?_withColumns _) (by omega)
    have inside : column < (s.withColumns (column + 1)).columns.length := by
      rw [s.length_withColumns]
      omega
    rw [setHeader_of_new r.wellFormed new room, ← s.setHeader_withColumns]
    exact padded.name inside text

/-- Inserting a column into the table inserts one without a name into the sheet, unless there is no
room. -/
theorem insertColumn (r : t.Represents s) (column : Nat) (values : List α)
    (made : (t.insertColumn column values).1 ≠ .error (.slotUnavailable .column)) :
    (t.insertColumn column values).2.Represents (s.insertColumn column values) := by
  rcases Nat.lt_or_ge t.columnCount column with outside | inside
  · have refused : t.insertColumn column values
        = (.error (.columnOutOfBounds column t.columnCount), t) := if_pos outside
    rw [refused, Sheet.insertColumn, if_pos (r.columnCount ▸ outside)]
    exact r
  · obtain ⟨room, short⟩ := room_of_insertColumn r.wellFormed inside made
    have inside' : column ≤ s.columns.length := r.columnCount ▸ inside
    have columns : t.store.columnCount = s.grid.rowCount := r.store.holds.columnCount
    obtain ⟨fitColumns, fitRows⟩ := r.store.fits
    rw [insertColumn_of_room r.wellFormed inside room short]
    refine r.of_edit (.insertColumn column values) (Sheet.grid_insertColumn inside' values)
      (r.store.rectangular.insertRow column values) ⟨by omega, by omega⟩ ?_ ?_
    · funext index
      rw [header_insertColumn, Sheet.name?_insertColumn inside', r.header]
    · have size := r.headers_size
      rw [← s.rowCount_grid] at size
      split
      · rw [Array.insertIdxIfInBounds, dif_pos (by omega), Array.size_insertIdx]
        omega
      · omega

/-- Appending a column to the table appends one without a name to the sheet, unless there is no
room. -/
theorem pushColumn (r : t.Represents s) (values : List α)
    (made : (t.pushColumn values).1 ≠ .error (.slotUnavailable .column)) :
    (t.pushColumn values).2.Represents (s.insertColumn s.columns.length values) := by
  have enough : t.headers.size ≤ t.columnCount := r.columnCount ▸ r.headers_size
  rw [pushColumn_eq r.wellFormed enough] at made ⊢
  rw [← r.columnCount]
  exact r.insertColumn t.columnCount values made

/-- Removing a column from the table removes it with its name from the sheet, if it is there. -/
theorem removeColumn (r : t.Represents s) (column : Nat) :
    (t.removeColumn column).2.Represents (s.removeColumn column) := by
  by_cases inside : column < t.columnCount
  · have inside' := Nat.lt_of_lt_of_eq inside r.store.holds.columnCount
    obtain ⟨cells, removed⟩ := removeColumn_of_inside inside
    obtain ⟨fitColumns, fitRows⟩ := r.store.fits
    rw [removed]
    refine r.of_edit (.removeColumn column) (s.grid_removeColumn column)
      (r.store.rectangular.removeRow inside') ⟨by omega, by omega⟩ ?_ ?_
    · funext index
      rw [header_removeColumn, s.name?_removeColumn, r.header]
    · have size := r.headers_size
      rw [← s.rowCount_grid] at size
      rw [Array.eraseIdxIfInBounds]
      split
      · rw [Array.size_eraseIdx]
        omega
      · omega
  · have refused : t.removeColumn column
        = (.error (.columnOutOfBounds column t.columnCount), t) := by
      unfold Table.removeColumn checkColumn
      rw [if_neg inside]
    have same : s.removeColumn column = s := by
      unfold Sheet.removeColumn
      rw [List.eraseIdx_of_length_le (by rw [← r.columnCount]; omega)]
    rw [refused, same]
    exact r

/-- A cleared table shows the empty sheet. -/
theorem clear (r : t.Represents s) : t.clear.Represents .empty where
  store := r.store.apply .clear ⟨Nat.zero_le _, Nat.zero_le _⟩
  header := rfl
  headers_size := Nat.le_refl 0

/-! ## Runs of edits -/

/-- An edit for which there is room does the same to the table and to the sheet. -/
theorem apply (r : t.Represents s) (e : Edit α)
    (room : ∀ line, (t.apply e).1 ≠ .refused (.slotUnavailable line)) :
    (t.apply e).2.Represents (s.apply e) := by
  cases e with
  | setHeader column text =>
    exact r.setHeader column text fun full => room .column (congrArg (Edit.Answer.ofResult _) full)
  | set row column value => exact r.set row column value
  | unset row column => exact r.unset row column
  | replace row column value => exact r.replace row column value
  | pushRow values =>
    exact r.pushRow values fun full => room .row (congrArg (Edit.Answer.ofResult _) full)
  | insertRow row values =>
    exact r.insertRow row values fun full => room .row (congrArg (Edit.Answer.ofResult _) full)
  | pushColumn values =>
    exact r.pushColumn values fun full => room .column (congrArg (Edit.Answer.ofResult _) full)
  | insertColumn column values =>
    exact r.insertColumn column values fun full =>
      room .column (congrArg (Edit.Answer.ofResult _) full)
  | removeRow row => exact r.removeRow row
  | removeColumn column => exact r.removeColumn column
  | clear => exact r.clear

/-- A run of the table is one of the sheet, as long as there is room for every line. -/
theorem run (r : t.Represents s) {edits : List (Edit α)}
    (room : ∀ line, .refused (.slotUnavailable line) ∉ t.answers edits) :
    (t.run edits).Represents (s.run edits) := by
  induction edits generalizing t s with
  | nil => exact r
  | cons e edits ih =>
    have first : ∀ line, (t.apply e).1 ≠ .refused (.slotUnavailable line) :=
      fun line full => room line (full ▸ List.mem_cons_self)
    exact ih (r.apply e first) fun line full => room line (List.mem_cons_of_mem _ full)

/-! ## Beginnings -/

/-- A table over a store has its columns, without names. -/
theorem of_wellFormed {store : Store α} (h : store.WellFormed) :
    (ofStore store).Represents (.ofStore store) where
  store := by
    rw [Sheet.grid_ofStore]
    exact h.representsColumns
  header := by
    funext column
    rw [Sheet.name?, Sheet.ofStore, List.getElem?_map]
    cases store.columnGrid.rows[column]? <;> rfl
  headers_size := Nat.zero_le _

/-- Naming new columns one after the other appends columns with these names. -/
theorem setHeaders (r : t.Represents s) {texts : List String}
    (named : t.setHeaders s.columns.length texts = (.ok (), t')) :
    t'.Represents { s with
      columns := s.columns ++ texts.map fun text =>
        { Sheet.Column.blank s.rowCount with name := some text } } := by
  induction texts generalizing t s with
  | nil =>
    cases named
    rw [List.map_nil, List.append_nil]
    exact r
  | cons text texts ih =>
    unfold Table.setHeaders at named
    split at named
    · next t₁ first =>
      have next := r.setHeader s.columns.length text fun full => by
        rw [first] at full
        cases full
      rw [first, s.setHeader_length] at next
      have rest := ih next (by rwa [List.length_append])
      rwa [List.append_assoc] at rest
    · cases named

end Represents

/-- A table shows its sheet at the beginning. -/
theorem Opens.represents (opens : t.Opens s) : t.Represents s := by
  cases opens with
  | ofStore hr hc edits => exact .of_wellFormed ((Store.wellFormed_withCapacity hr hc).run edits)
  | withHeaders created =>
    have capacity : Store.defaultCapacity ≤ Capacity.maxSlots := by decide
    have blank : (empty : Table α).Represents (.ofStore .empty) :=
      .of_wellFormed (Store.wellFormed_withCapacity capacity capacity)
    unfold Table.withHeaders at created
    split at created
    · next named =>
      cases created
      exact blank.setHeaders named
    · cases created

/-! ## Finding a name -/

/-- The first column with a name is found. -/
theorem columnNamed?_eq_some_iff (t : Table α) (text : String) (column : Nat) :
    t.columnNamed? text = some column ↔
      t.header column = some text ∧ ∀ before < column, t.header before ≠ some text := by
  have header_eq : ∀ {index} (inside : index < t.headers.size),
      t.header index = t.headers[index] := fun {index} inside => by
    rw [header, Array.getElem?_eq_getElem inside]
    rfl
  unfold columnNamed?
  rw [Array.findIdx?_eq_some_iff_getElem]
  constructor
  · rintro ⟨inside, found, others⟩
    refine ⟨(header_eq inside).trans (beq_iff_eq.1 found), fun before lt same => ?_⟩
    rw [header_eq (Nat.lt_trans lt inside)] at same
    exact others before lt (beq_iff_eq.2 same)
  · rintro ⟨named, others⟩
    have inside : column < t.headers.size := Nat.lt_of_not_le fun outside => by
      rw [header, Array.getElem?_eq_none outside] at named
      cases named
    refine ⟨inside, beq_iff_eq.2 ((header_eq inside).symm.trans named), fun before lt same => ?_⟩
    exact others before lt ((header_eq (Nat.lt_trans lt inside)).trans (beq_iff_eq.1 same))

/-- A name that no column has is not found. -/
theorem columnNamed?_eq_none_iff (t : Table α) (text : String) :
    t.columnNamed? text = none ↔ ∀ column, t.header column ≠ some text := by
  unfold columnNamed?
  rw [Array.findIdx?_eq_none_iff]
  constructor
  · intro unknown column named
    have found : t.headers[column]? = some (some text) := Option.join_eq_some_iff.1 named
    have mem : some text ∈ t.headers := Array.mem_of_getElem? found
    exact absurd (beq_self_eq_true (some text)) (Bool.eq_false_iff.1 (unknown _ mem))
  · intro others header mem
    obtain ⟨column, inside, rfl⟩ := Array.mem_iff_getElem.1 mem
    refine Bool.eq_false_iff.2 fun same => others column ?_
    rw [header, Array.getElem?_eq_getElem inside, beq_iff_eq.1 same]
    rfl

/-- Names stay with their columns. As long as no axis is full, a table shows after any edits the
sheet that the edits make of the sheet that it showed at its beginning. It has no names but those of
its columns, and of the columns with a name it finds the first. -/
theorem run_toSheet {start : Table α} {sheet : Sheet α} (opens : start.Opens sheet)
    {edits : List (Edit α)}
    (room : ∀ line, .refused (.slotUnavailable line) ∉ start.answers edits) :
    let t := start.run edits
    t.toSheet = sheet.run edits ∧ t.headers.size ≤ t.columnCount ∧
      (∀ column, t.columnCount ≤ column → t.header column = none) ∧
      ∀ text column, t.columnNamed? text = some column ↔
        column < t.columnCount ∧ t.header column = some text ∧
          ∀ before < column, t.header before ≠ some text := by
  intro t
  have r : t.Represents (sheet.run edits) := opens.represents.run room
  have enough : t.headers.size ≤ t.columnCount := r.columnCount ▸ r.headers_size
  have unnamed : ∀ column, t.columnCount ≤ column → t.header column = none := by
    intro column outside
    unfold header
    rw [Array.getElem?_eq_none (Nat.le_trans enough outside)]
    rfl
  refine ⟨r.toSheet_eq, enough, unnamed, fun text column => ?_⟩
  rw [t.columnNamed?_eq_some_iff, iff_and_self]
  rintro ⟨named, -⟩
  refine Nat.lt_of_not_le fun outside => ?_
  rw [unnamed column outside] at named
  cases named

/-- Edits that name a column, shift it and make more columns behind it. -/
def rearranged : List (Edit Nat) :=
  [.setHeader 1 "score", .insertColumn 1 [], .set 0 Capacity.maxSlots 5, .pushRow [1, 2, 3, 4],
    .removeColumn 0]

/-- A name moves with its column, and a write too far out is neither in the table nor in the
sheet. -/
theorem run_toSheet_rearranged :
    let start : Table Nat := ofStore ((Store.withCapacity 1 2).run [.addRow [7, 8]])
    let t := start.run rearranged
    t.toSheet = { rowCount := 2, columns :=
      [{ cells := [none, some 2] }, { name := some "score", cells := [some 8, some 3] },
        { cells := [none, some 4] }] } ∧
      t.columnNamed? "score" = some 1 := by
  intro start t
  have capacity : 1 ≤ Capacity.maxSlots ∧ 2 ≤ Capacity.maxSlots := by decide
  have answers : start.answers rearranged
      = [.done, .position 1, .content none, .position 1, .line [some 7, some 1]] := by
    unfold start rearranged
    cbv
  have room : ∀ line, .refused (.slotUnavailable line) ∉ start.answers rearranged := by
    rw [answers]
    rintro (_ | _) <;> decide
  obtain ⟨sheet, -, -, found⟩ :=
    run_toSheet (.ofStore capacity.1 capacity.2 [.addRow [7, 8]]) room
  have named : 1 < t.columnCount ∧ t.header 1 = some "score" ∧ t.header 0 = none := by
    unfold t start rearranged
    cbv
  refine ⟨sheet.trans ?_, (found "score" 1).2 ⟨named.1, named.2.1, fun before lt => ?_⟩⟩
  · unfold rearranged
    cbv
  · rw [Nat.lt_one_iff.1 lt, named.2.2]
    intro same
    cases same

end Table

end Tabular
