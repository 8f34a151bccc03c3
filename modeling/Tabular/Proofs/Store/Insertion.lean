import Tabular.Proofs.Store.Growth

/-!
# Writing and inserting

What a write and an insertion make of the content of a store. Both succeed exactly when the lines
that the store then has are at most `maxSlots`; a write or an insertion that does not succeed still
leaves a well-formed store. The values of an inserted row are written one by one, each like a write
to the new row (`fillRow_spec`).
-/

namespace Tabular.Store

variable {α : Type u} {s t s' t' : Store α} {b : Axis}

/-! ## Exchanging the content of a cell -/

/-- An exchange returns what the cell held and writes the new content. -/
theorem exchange_of_found {row column r c : Nat} (found : s.rows.slots[row]? = some r)
    (found' : s.columns.slots[column]? = some c) (content : Option α) :
    s.exchange row column content =
      (s.cells.get r c, { s with cells := s.cells.put r c content }) := by
  unfold exchange
  rw [found, found']

/-- Outside the store nothing is exchanged. -/
theorem exchange_of_outside {row column : Nat}
    (outside : s.rowCount ≤ row ∨ s.columnCount ≤ column) (content : Option α) :
    s.exchange row column content = (none, s) := by
  unfold exchange
  rcases outside with outside | outside
  · rw [Array.getElem?_eq_none outside]
  · rw [Array.getElem?_eq_none (show s.columns.slots.size ≤ column from outside)]
    cases s.rows.slots[row]? <;> rfl

/-- An exchange answers what the cell held. -/
theorem fst_exchange (s : Store α) (row column : Nat) (content : Option α) :
    (s.exchange row column content).1 = s.get? row column := by
  unfold exchange get?
  cases s.rows.slots[row]? with
  | none => rfl
  | some r => cases s.columns.slots[column]? <;> rfl

/-- An exchange leaves the rows. -/
theorem rows_exchange (s : Store α) (row column : Nat) (content : Option α) :
    (s.exchange row column content).2.rows = s.rows := by
  unfold exchange
  split <;> rfl

/-- An exchange leaves the columns. -/
theorem columns_exchange (s : Store α) (row column : Nat) (content : Option α) :
    (s.exchange row column content).2.columns = s.columns := by
  unfold exchange
  split <;> rfl

/-- An exchange keeps the invariant. -/
theorem WellFormed.exchange (h : s.WellFormed) (row column : Nat) (content : Option α) :
    (s.exchange row column content).2.WellFormed := by
  unfold Store.exchange
  split
  · next r c found found' =>
    refine ⟨h.rows, h.columns, h.shaped.put _ _ _, fun x y inactive => ?_, h.initialRows,
      h.initialColumns⟩
    -- The cell that is written is on active slots, so no dead cell is.
    have within := h.shaped.within (h.rows.lt_capacity found) (h.columns.lt_capacity found')
    show (s.cells.put r c content).get x y = none
    rw [within.get_put, if_neg, h.dead x y inactive]
    rintro ⟨rfl, rfl⟩
    exact inactive.elim (absurd (h.rows.active_of_found found))
      (absurd (h.columns.active_of_found found'))
  · exact h

/-- An exchange within the store changes one cell. -/
theorem WellFormed.holds_exchange (h : s.WellFormed) {row column : Nat} (hr : row < s.rowCount)
    (hc : column < s.columnCount) (content : Option α) :
    (s.exchange row column content).2.Holds s.rowCount s.columnCount
      (Content.write row column content s.get?) where
  wellFormed := h.exchange row column content
  rowCount := by
    unfold rowCount
    rw [rows_exchange]
  columnCount := by
    unfold columnCount
    rw [columns_exchange]
  get? i j := by
    obtain ⟨r, found⟩ := s.rows.exists_found hr
    obtain ⟨c, found'⟩ := s.columns.exists_found hc
    have within := h.shaped.within (h.rows.lt_capacity found) (h.columns.lt_capacity found')
    rw [exchange_of_found found found']
    unfold get? Content.write
    dsimp only
    cases at_i : s.rows.slots[i]? with
    | none =>
      rw [if_neg]
      rintro ⟨rfl, -⟩
      rw [found] at at_i
      cases at_i
    | some x =>
      cases at_j : s.columns.slots[j]? with
      | none =>
        rw [if_neg]
        rintro ⟨-, rfl⟩
        rw [found'] at at_j
        cases at_j
      | some y =>
        dsimp only
        rw [within.get_put]
        -- The backing cell is the written one exactly when the position is.
        by_cases same : i = row ∧ j = column
        · obtain ⟨rfl, rfl⟩ := same
          rw [found] at at_i
          rw [found'] at at_j
          cases at_i
          cases at_j
          rw [if_pos ⟨rfl, rfl⟩, if_pos ⟨rfl, rfl⟩]
        · rw [if_neg same, if_neg]
          rintro ⟨rfl, rfl⟩
          exact same ⟨h.rows.position_inj at_i found, h.columns.position_inj at_j found'⟩

/-- An exchange in the mirror image. -/
theorem Mirrors.exchange (m : s.Mirrors t) (h : s.WellFormed) (row column : Nat)
    (content : Option α) :
    (t.exchange column row content).1 = (s.exchange row column content).1 ∧
      (s.exchange row column content).2.Mirrors (t.exchange column row content).2 := by
  refine ⟨by rw [fst_exchange, fst_exchange, m.get?], ?_⟩
  by_cases inside : row < s.rowCount ∧ column < s.columnCount
  · obtain ⟨r, found⟩ := s.rows.exists_found inside.1
    obtain ⟨c, found'⟩ := s.columns.exists_found inside.2
    have hr := h.rows.lt_capacity found
    have hc := h.columns.lt_capacity found'
    have within := h.shaped.within hr hc
    have within' := m.shaped'.within (m.rows ▸ hc) (m.columns ▸ hr)
    rw [exchange_of_found found found', exchange_of_found (m.rows ▸ found') (m.columns ▸ found)]
    -- The same backing cell is written on both sides, with its coordinates exchanged.
    refine ⟨m.rows, m.columns, m.initialRows, m.initialColumns, m.shaped.put _ _ _,
      m.shaped'.put _ _ _, fun x y => ?_⟩
    show (t.cells.put c r content).get x y = (s.cells.put r c content).get y x
    rw [within'.get_put, within.get_put, m.get]
    simp only [and_comm]
  · rw [exchange_of_outside (by omega), exchange_of_outside (by
      rw [m.rowCount, m.columnCount]
      omega)]
    exact m

/-! ## Writing a cell -/

/-- A write at a coordinate that no axis can have does nothing. -/
theorem set_of_outside {row column : Nat}
    (outside : Capacity.maxSlots ≤ row ∨ Capacity.maxSlots ≤ column) (value : α) :
    s.set row column value = (none, s) := if_pos outside

/-- A write extends both axes to hold the cell and then exchanges its content. -/
theorem WellFormed.set_eq (h : s.WellFormed) {row column : Nat} (hr : row < Capacity.maxSlots)
    (hc : column < Capacity.maxSlots) (value : α) :
    ∃ b d, s.rows.extend (row + 1) = some b ∧ s.columns.extend (column + 1) = some d ∧
      s.set row column value
        = ((s.withRows b).withColumns d).exchange row column (some value) ∧
      ((s.withRows b).withColumns d).Holds (max s.rowCount (row + 1))
        (max s.columnCount (column + 1)) s.get? := by
  obtain ⟨b, extended, e, size⟩ := h.rows.extend_spec hr
  obtain ⟨d, extended', -, -⟩ := h.columns.extend_spec hc
  have rows : s.extendRows (row + 1) = some (s.withRows b) := by
    unfold extendRows
    rw [extended, Option.map_some]
  have columns : (s.withRows b).extendColumns (column + 1)
      = some ((s.withRows b).withColumns d) := by
    unfold extendColumns
    rw [columns_withRows, extended', Option.map_some]
  -- Neither extension changes what is seen, so the content is still that of the store.
  have holds := (h.of_extendRows rows).1
  have holds' := (holds.wellFormed.of_extendColumns columns).1
  rw [holds.rowCount, holds.columnCount, holds.content_eq] at holds'
  refine ⟨b, d, extended, extended', ?_, holds'⟩
  unfold set
  rw [if_neg (by omega), rows]
  dsimp only
  rw [columns]

/-- A write answers what the cell held, and afterwards the store holds the value there. -/
theorem WellFormed.set_spec (h : s.WellFormed) {row column : Nat} (hr : row < Capacity.maxSlots)
    (hc : column < Capacity.maxSlots) (value : α) :
    (s.set row column value).1 = s.get? row column ∧
      (s.set row column value).2.Holds (max s.rowCount (row + 1)) (max s.columnCount (column + 1))
        (Content.write row column (some value) s.get?) := by
  obtain ⟨b, d, -, -, eq, holds⟩ := h.set_eq hr hc value
  have inRows : row < ((s.withRows b).withColumns d).rowCount := by
    rw [holds.rowCount]
    omega
  have inColumns : column < ((s.withRows b).withColumns d).columnCount := by
    rw [holds.columnCount]
    omega
  have written := holds.wellFormed.holds_exchange inRows inColumns (some value)
  rw [holds.rowCount, holds.columnCount, holds.content_eq] at written
  rw [eq, fst_exchange]
  exact ⟨holds.get? row column, written⟩

/-- A write keeps the invariant. -/
theorem WellFormed.set (h : s.WellFormed) (row column : Nat) (value : α) :
    (s.set row column value).2.WellFormed := by
  by_cases outside : Capacity.maxSlots ≤ row ∨ Capacity.maxSlots ≤ column
  · rw [set_of_outside outside]
    exact h
  · have hr : row < Capacity.maxSlots := by omega
    have hc : column < Capacity.maxSlots := by omega
    exact (h.set_spec hr hc value).2.wellFormed

/-- The order in which the two axes are replaced does not show in the mirror image. -/
theorem Mirrors.withRows_withColumns (m : s.Mirrors t) {d : Axis}
    (le : s.rows.capacity ≤ b.capacity) (le' : s.columns.capacity ≤ d.capacity) :
    ((s.withRows b).withColumns d).Mirrors ((t.withRows d).withColumns b) := by
  have byRows : (s.withRows b).Mirrors (t.withColumns b) :=
    (m.symm.withRows (m.columns ▸ le)).symm
  have byColumns : (t.withRows d).Mirrors (s.withColumns d) := (m.withRows le').symm
  refine ⟨?_, ?_, ?_, ?_, ?_, ?_, fun r c => ?_⟩
  · simp
  · simp
  · simp [m.initialRows]
  · simp [m.initialColumns]
  · exact (byRows.withRows (by rwa [columns_withRows])).shaped
  · exact (byColumns.withRows (by rwa [columns_withRows, m.columns])).shaped
  · simp [m.get]

/-- A write to the mirror image is the write with the coordinates exchanged. -/
theorem Mirrors.set (m : s.Mirrors t) (h : s.WellFormed) (row column : Nat) (value : α) :
    (t.set column row value).1 = (s.set row column value).1 ∧
      (s.set row column value).2.Mirrors (t.set column row value).2 := by
  by_cases outside : Capacity.maxSlots ≤ row ∨ Capacity.maxSlots ≤ column
  · rw [set_of_outside outside, set_of_outside outside.symm]
    exact ⟨rfl, m⟩
  · have hr : row < Capacity.maxSlots := by omega
    have hc : column < Capacity.maxSlots := by omega
    obtain ⟨b, d, extended, extended', eq, holds⟩ := h.set_eq hr hc value
    -- The mirror image extends its axes in the other order, to the same two axes.
    obtain ⟨d', b', again, again', eq', -⟩ := (m.wellFormed h).set_eq hc hr value
    rw [m.rows, extended'] at again
    rw [m.columns, extended] at again'
    cases again
    cases again'
    have le := (h.rows.extends_of_extend extended).1.capacity_le
    have le' := (h.columns.extends_of_extend extended').1.capacity_le
    rw [eq, eq']
    exact (m.withRows_withColumns le le').exchange holds.wellFormed row column (some value)

/-! ## Inserting a row -/

/-- A row on a slot that was not active is empty, and the rows from there on have moved up. -/
theorem WellFormed.holds_withRows_of_inserts (h : s.WellFormed) {row slot : Nat}
    (i : Axis.Inserts s.rows row slot b) :
    (s.withRows b).Holds (s.rowCount + 1) s.columnCount
      (Content.insertRow row (fun _ => none) s.get?) where
  wellFormed := h.withRows i.wellFormed i.capacity_le fun k active =>
    (i.mem_active_iff h.rows).2 (.inr active)
  rowCount := by
    unfold rowCount
    rw [rows_withRows]
    exact i.size
  columnCount := by
    unfold columnCount
    rw [columns_withRows]
  get? k column := by
    rw [get?_withRows, i.getElem?]
    unfold Content.insertRow
    split
    · rw [get?_eq]
    · split
      · exact h.lineAt_eq_none i.not_active column
      · rw [get?_eq]

/-- A value is written into a row like into any cell. -/
theorem WellFormed.fillRow_cons (h : s.WellFormed) {row slot column : Nat} {value : α}
    {values : List α} (found : s.rows.slots[row]? = some slot)
    (extended : s.extendColumns (column + 1) = some s') :
    fillRow slot column (value :: values) s
      = fillRow slot (column + 1) values (s'.exchange row column (some value)).2 := by
  obtain ⟨holds, rows, -⟩ := h.of_extendColumns extended
  have inside : column < s'.columns.size := by
    have := holds.columnCount
    unfold columnCount at this
    omega
  obtain ⟨c, found'⟩ := s'.columns.exists_found inside
  rw [exchange_of_found (rows ▸ found) found', fillRow, extended]
  dsimp only
  rw [found']

/-- A value is written into a column like into any cell. -/
theorem WellFormed.fillColumn_cons (h : s.WellFormed) {column slot row : Nat} {value : α}
    {values : List α} (found : s.columns.slots[column]? = some slot)
    (extended : s.extendRows (row + 1) = some s') :
    fillColumn slot row (value :: values) s
      = fillColumn slot (row + 1) values (s'.exchange row column (some value)).2 := by
  obtain ⟨holds, columns, -⟩ := h.of_extendRows extended
  have inside : row < s'.rows.size := by
    have := holds.rowCount
    unfold rowCount at this
    omega
  obtain ⟨r, found'⟩ := s'.rows.exists_found inside
  rw [exchange_of_found found' (columns ▸ found), fillColumn, extended]
  dsimp only
  rw [found']

/-- Filling a row keeps the invariant, also when not all values fit. -/
theorem WellFormed.fillRow (h : s.WellFormed) {row slot : Nat}
    (found : s.rows.slots[row]? = some slot) (column : Nat) (values : List α) :
    (fillRow slot column values s).2.WellFormed := by
  induction values generalizing s column with
  | nil => exact h
  | cons value values ih =>
    cases extended : s.extendColumns (column + 1) with
    | none =>
      rw [Store.fillRow, extended]
      exact h
    | some s' =>
      obtain ⟨holds, rows, -⟩ := h.of_extendColumns extended
      rw [h.fillRow_cons found extended]
      refine ih (holds.wellFormed.exchange _ _ _) ?_ (column + 1)
      rw [rows_exchange, rows]
      exact found

/-- All values fit into a row of at most `maxSlots` columns, each into its column. -/
theorem WellFormed.fillRow_spec (h : s.WellFormed) {row slot column : Nat} {values : List α}
    (found : s.rows.slots[row]? = some slot) (reached : column ≤ s.columnCount)
    (fits : column + values.length ≤ Capacity.maxSlots) :
    (Store.fillRow slot column values s).1 = true ∧
      (Store.fillRow slot column values s).2.Holds s.rowCount
        (max s.columnCount (column + values.length))
        (Content.fillRow row column values s.get?) := by
  induction values generalizing s column with
  | nil =>
    refine ⟨rfl, ?_⟩
    rw [Content.fillRow_nil, List.length_nil, Nat.max_eq_left (by omega)]
    exact h.holds
  | cons value values ih =>
    rw [List.length_cons] at fits
    have room : column + 1 ≤ Capacity.maxSlots := by omega
    obtain ⟨s', extended, holds, rows, -⟩ := h.extendColumns_spec room
    have inRows : row < s'.rowCount := by
      rw [holds.rowCount]
      exact (Array.getElem?_eq_some_iff.1 found).1
    have inColumns : column < s'.columnCount := by
      rw [holds.columnCount]
      omega
    have written := holds.wellFormed.holds_exchange inRows inColumns (some value)
    -- The row is still on its slot, and the next column is reached.
    have found' : (s'.exchange row column (some value)).2.rows.slots[row]? = some slot := by
      rw [rows_exchange, rows]
      exact found
    have reached' : column + 1 ≤ (s'.exchange row column (some value)).2.columnCount := by
      rw [written.columnCount]
      omega
    obtain ⟨all, filled⟩ := ih written.wellFormed found' reached' (by omega)
    rw [holds.rowCount, holds.columnCount, holds.content_eq] at written
    rw [written.rowCount, written.columnCount, written.content_eq,
      ← Content.fillRow_cons] at filled
    have count : max (max s.columnCount (column + 1)) (column + 1 + values.length)
        = max s.columnCount (column + (values.length + 1)) := by omega
    rw [h.fillRow_cons found extended, List.length_cons, ← count]
    exact ⟨all, filled⟩

/-- What is behind the first step of an insertion, when it succeeds: an empty new row. -/
theorem WellFormed.of_insert (h : s.WellFormed) {row slot : Nat} (inside : row ≤ s.rowCount)
    (inserted : s.rows.insert row = some (slot, b)) :
    (s.withRows b).Holds (s.rowCount + 1) s.columnCount
        (Content.insertRow row (fun _ => none) s.get?) ∧
      (s.withRows b).rows.slots[row]? = some slot := by
  have i := h.rows.inserts_of_insert inside inserted
  refine ⟨h.holds_withRows_of_inserts i, ?_⟩
  rw [rows_withRows, i.getElem?, if_neg (Nat.lt_irrefl row), if_pos rfl]

/-- An insertion keeps the invariant, also when it fails. -/
theorem WellFormed.insertRow (h : s.WellFormed) (row : Nat) (values : List α) :
    (s.insertRow row values).2.WellFormed := by
  unfold Store.insertRow
  cases extended : s.extendRows row with
  | none => exact h
  | some s₁ =>
    have holds := (h.of_extendRows extended).1
    have inside : row ≤ s₁.rowCount := by
      rw [holds.rowCount]
      omega
    dsimp only
    cases inserted : s₁.rows.insert row with
    | none => exact holds.wellFormed
    -- From here on the new row stays, even when its values do not fit.
    | some result =>
      obtain ⟨slot, b⟩ := result
      obtain ⟨new, found⟩ := holds.wellFormed.of_insert inside inserted
      have filled := new.wellFormed.fillRow found 0 values
      dsimp only
      split
      · next eq => rwa [eq] at filled
      · next eq => rwa [eq] at filled

/-- A row is inserted when the store then has at most `maxSlots` rows and columns. -/
theorem WellFormed.insertRow_spec (h : s.WellFormed) {row : Nat} {values : List α}
    (hr : max s.rowCount row < Capacity.maxSlots) (hc : values.length ≤ Capacity.maxSlots) :
    (s.insertRow row values).1 = some row ∧
      (s.insertRow row values).2.Holds (max s.rowCount row + 1)
        (max s.columnCount values.length)
        (Content.insertRow row (fun column => values[column]?) s.get?) := by
  have room : row ≤ Capacity.maxSlots := by omega
  obtain ⟨s₁, extended, holds, -, -⟩ := h.extendRows_spec room
  have inside : row ≤ s₁.rowCount := by
    rw [holds.rowCount]
    omega
  have notFull : s₁.rowCount < Capacity.maxSlots := by rwa [holds.rowCount]
  -- Padding changes no content, the new row shifts it, and the values fill the new row.
  obtain ⟨slot, b, inserted, -⟩ := holds.wellFormed.rows.insert_spec inside notFull
  obtain ⟨new, found⟩ := holds.wellFormed.of_insert inside inserted
  obtain ⟨all, filled⟩ := new.wellFormed.fillRow_spec found (Nat.zero_le _) (by rwa [Nat.zero_add])
  rw [new.rowCount, new.columnCount, new.content_eq, holds.rowCount,
    holds.columnCount, holds.content_eq, Content.fillRow_insertRow,
    Nat.zero_add] at filled
  unfold Store.insertRow
  rw [extended]
  dsimp only
  rw [inserted]
  dsimp only
  generalize Store.fillRow slot 0 values (s₁.withRows b) = result at all filled
  obtain ⟨flag, s'⟩ := result
  cases all
  exact ⟨rfl, filled⟩

/-- No row is inserted into a store that has `maxSlots` rows, and the store stays as it is. -/
theorem WellFormed.insertRow_of_full (h : s.WellFormed) {row : Nat} (inside : row ≤ s.rowCount)
    (full : Capacity.maxSlots ≤ s.rowCount) (values : List α) :
    s.insertRow row values = (none, s) := by
  unfold Store.insertRow
  rw [s.extendRows_of_le inside]
  dsimp only
  rw [h.rows.insert_eq_none full]

/-! ## Inserting a column -/

/-- Filling a column is filling a row of the mirror image. -/
theorem Mirrors.fillRow (m : s.Mirrors t) (h : s.WellFormed) {column slot : Nat}
    (found : s.columns.slots[column]? = some slot) (row : Nat) (values : List α) :
    (Store.fillRow slot row values t).1 = (fillColumn slot row values s).1 ∧
      (fillColumn slot row values s).2.Mirrors (Store.fillRow slot row values t).2 := by
  induction values generalizing s t row with
  | nil => exact ⟨rfl, m⟩
  | cons value values ih =>
    rcases m.extendColumns h (row + 1) with
      ⟨failed, failed'⟩ | ⟨s', t', extended, extended', m'⟩
    · rw [Store.fillRow, fillColumn, failed, failed']
      exact ⟨rfl, m⟩
    · obtain ⟨holds, columns, -⟩ := h.of_extendRows extended
      have found' : t.rows.slots[column]? = some slot := m.rows ▸ found
      rw [(m.wellFormed h).fillRow_cons found' extended', h.fillColumn_cons found extended]
      refine ih (m'.exchange holds.wellFormed _ _ _).2 (holds.wellFormed.exchange _ _ _) ?_ _
      rw [columns_exchange, columns]
      exact found

/-- What is behind the first step of an insertion of a column, when it succeeds. -/
theorem WellFormed.of_insertColumn (h : s.WellFormed) {column slot : Nat}
    (inside : column ≤ s.columnCount) (inserted : s.columns.insert column = some (slot, b)) :
    (s.withColumns b).WellFormed ∧ (s.withColumns b).columns.slots[column]? = some slot := by
  have i := h.columns.inserts_of_insert inside inserted
  have m := h.mirrors
  have new := (m.wellFormed h).of_insert (by rwa [m.rowCount]) (m.rows ▸ inserted)
  refine ⟨(m.withRows i.capacity_le).symm.wellFormed new.1.wellFormed, ?_⟩
  rw [columns_withColumns, i.getElem?, if_neg (Nat.lt_irrefl column), if_pos rfl]

/-- Inserting a column is inserting a row into the mirror image. -/
theorem Mirrors.insertRow (m : s.Mirrors t) (h : s.WellFormed) (column : Nat)
    (values : List α) :
    (t.insertRow column values).1 = (s.insertColumn column values).1 ∧
      (s.insertColumn column values).2.Mirrors (t.insertRow column values).2 := by
  unfold Store.insertRow insertColumn
  rcases m.extendRows h column with ⟨failed, failed'⟩ | ⟨s₁, t₁, extended, extended', m₁⟩
  · rw [failed, failed']
    exact ⟨rfl, m⟩
  · rw [extended, extended']
    dsimp only
    have holds := (h.of_extendColumns extended).1
    have inside : column ≤ s₁.columnCount := by
      rw [holds.columnCount]
      omega
    rw [m₁.rows]
    cases inserted : s₁.columns.insert column with
    | none => exact ⟨rfl, m₁⟩
    | some result =>
      obtain ⟨slot, b⟩ := result
      have i := holds.wellFormed.columns.inserts_of_insert inside inserted
      have m₂ := m₁.withRows i.capacity_le
      obtain ⟨wf₂, found⟩ := holds.wellFormed.of_insertColumn inside inserted
      obtain ⟨same, m₃⟩ := m₂.fillRow wf₂ found 0 values
      dsimp only
      generalize Store.fillRow slot 0 values (t₁.withRows b) = onMirror at same m₃
      generalize fillColumn slot 0 values (s₁.withColumns b) = onStore at same m₃
      obtain ⟨flag, s'⟩ := onStore
      obtain ⟨flag', t'⟩ := onMirror
      cases same
      -- Whether all values were written decides the answer, not the store.
      cases flag with
      | true => exact ⟨rfl, m₃⟩
      | false => exact ⟨rfl, m₃⟩

/-- Inserting a column into the mirror image is inserting a row into the store. -/
theorem Mirrors.insertColumn (m : s.Mirrors t) (h : s.WellFormed) (row : Nat) (values : List α) :
    (t.insertColumn row values).1 = (s.insertRow row values).1 ∧
      (s.insertRow row values).2.Mirrors (t.insertColumn row values).2 := by
  obtain ⟨same, m'⟩ := m.symm.insertRow (m.wellFormed h) row values
  exact ⟨same.symm, m'.symm⟩

/-- A store stays well formed when a column is inserted. -/
theorem WellFormed.insertColumn (h : s.WellFormed) (column : Nat) (values : List α) :
    (s.insertColumn column values).2.WellFormed :=
  (h.mirrors.insertRow h column values).2.symm.wellFormed
    ((h.mirrors.wellFormed h).insertRow column values)

/-- A column is inserted when the store then has at most `maxSlots` rows and columns. -/
theorem WellFormed.insertColumn_spec (h : s.WellFormed) {column : Nat} {values : List α}
    (hc : max s.columnCount column < Capacity.maxSlots) (hr : values.length ≤ Capacity.maxSlots) :
    (s.insertColumn column values).1 = some column ∧
      (s.insertColumn column values).2.Holds (max s.rowCount values.length)
        (max s.columnCount column + 1)
        (Content.insertRow column (fun row => values[row]?) (Content.flip s.get?)).flip := by
  have m := h.mirrors
  obtain ⟨same, m'⟩ := m.insertRow h column values
  obtain ⟨answer, holds⟩ := (m.wellFormed h).insertRow_spec (by rwa [m.rowCount]) hr
  rw [m.rowCount, m.columnCount, m.content] at holds
  exact ⟨same.symm.trans answer, m'.holds holds⟩

/-- No column is inserted into a store that has `maxSlots` columns, and the store stays as it is. -/
theorem WellFormed.insertColumn_of_full (h : s.WellFormed) {column : Nat}
    (inside : column ≤ s.columnCount) (full : Capacity.maxSlots ≤ s.columnCount)
    (values : List α) : s.insertColumn column values = (none, s) := by
  unfold Store.insertColumn
  rw [s.extendColumns_of_le inside]
  dsimp only
  rw [h.columns.insert_eq_none full]

end Tabular.Store
