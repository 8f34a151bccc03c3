import Tabular.Proofs.Session.Failure

/-!
# The limit on cells

A write may grow a table up to `maxCells` cells, and it does not grow a table that has as many
already. One kind of write breaks this rule. A write to a column of a new name first adds the
column, which is one more cell for every row, and the limit is checked afterwards, when the column
counts as part of the table (`Overfills`). Every other write keeps the rule.
-/

namespace Tabular

/-! ## The size of a table after a write -/

/-- A write makes a table as large as its cell needs. -/
theorem Table.cellCount_set {α : Type u} {t : Table α} (h : t.store.WellFormed) {row column : Nat}
    (hr : row < Capacity.maxSlots) (hc : column < Capacity.maxSlots) (value : α) :
    (t.set row column value).2.cellCount
      = max t.rowCount (row + 1) * max t.columnCount (column + 1) := by
  have holds := (h.set_spec hr hc value).2
  exact congrArg₂ (· * ·) holds.rowCount holds.columnCount

/-- A line with the command word for writing writes a cell or cannot be read. -/
theorem Command.ofLine_of_set {line : String}
    (write : (Text.words line).head?.map Text.lower = some "set") :
    (∃ e, ofLine line = .error e) ∨
      ∃ row column value, ofLine line = .ok (.set row column value) := by
  cases words : Text.words line with
  | nil =>
    rw [words] at write
    cases write
  | cons word arguments =>
    rw [words] at write
    have lower : Text.lower word = "set" := Option.some.inj write
    have read : ofLine line = ofVerb .set arguments := by
      unfold ofLine
      rw [words]
      dsimp only
      rw [lower]
      rfl
    rw [read]
    -- Three arguments are a write, if the first one is a row.
    match arguments with
    | [r, c, value] =>
      cases row : rowArgument r with
      | error e => exact .inl ⟨e, by rw [ofVerb, row]; rfl⟩
      | ok row' => exact .inr ⟨row', .ofText c, value, by rw [ofVerb, row]; rfl⟩
    | [] | [_] | [_, _] | _ :: _ :: _ :: _ :: _ => exact .inl ⟨.usage .set, rfl⟩

namespace Session

variable {s : Session}

/-- A write that is allowed leaves the table within the limit or as large as it was. -/
theorem cellCount_set_of_mayHold (h : s.table.store.WellFormed) {row column : Nat}
    (may : s.mayHold row column = true) (value : String) :
    (s.table.set row column value).2.cellCount ≤ max s.table.cellCount maxCells := by
  by_cases outside : Capacity.maxSlots ≤ row ∨ Capacity.maxSlots ≤ column
  · have same : (s.table.set row column value).2 = s.table := by
      unfold Table.set
      rw [Store.set_of_outside outside]
    rw [same]
    exact Nat.le_max_left _ _
  · have hr : row < Capacity.maxSlots := by omega
    have hc : column < Capacity.maxSlots := by omega
    rw [Table.cellCount_set h hr hc]
    rcases (mayHold_iff h row column).1 may with ⟨inRows, inColumns⟩ | fits
    · rw [Nat.max_eq_left (show row + 1 ≤ s.table.rowCount from inRows),
        Nat.max_eq_left (show column + 1 ≤ s.table.columnCount from inColumns)]
      exact Nat.le_max_left _ _
    · exact Nat.le_trans fits (Nat.le_max_right _ _)

/-- A write is within the limit or leaves the table as large as it was with the column written to,
which may be a new one. -/
theorem cellCount_setCell_le_columnOrNew (h : s.table.store.WellFormed) (row : Nat)
    (column : ColumnRef) (value : String) :
    (s.setCell row column value).2.table.cellCount
      ≤ max (s.columnOrNew column).2.table.cellCount maxCells := by
  have found := wellFormed_columnOrNew h column
  unfold setCell
  split
  · next eq =>
    rw [eq]
    exact Nat.le_max_left _ _
  · next column' s' eq =>
    rw [eq] at found ⊢
    split
    · next may => exact cellCount_set_of_mayHold found may value
    · exact Nat.le_max_left _ _

/-! ## A new column for too many rows -/

/-- The column is added for a write, and with it the table has too many cells. -/
def Overfills (s : Session) (column : ColumnRef) : Prop :=
  ∃ text, column = .name text ∧ s.table.columnNamed? text = none ∧
    s.table.columnCount < Capacity.maxSlots ∧
    maxCells < s.table.rowCount * (s.table.columnCount + 1)

/-- A new column adds one cell for each row. -/
theorem cellCount_withNewColumn (h : s.table.store.WellFormed) (text : String)
    (room : s.table.columnCount < Capacity.maxSlots) :
    (s.withNewColumn text).table.cellCount = s.table.rowCount * (s.table.columnCount + 1) := by
  have holds := holds_withNewColumn h text room
  exact congrArg₂ (· * ·) holds.rowCount holds.columnCount

/-- A write that does not overfill the table keeps the limit. -/
theorem cellCount_setCell_le (h : s.table.store.WellFormed) (row : Nat) {column : ColumnRef}
    (value : String) (fits : ¬ s.Overfills column) :
    (s.setCell row column value).2.table.cellCount ≤ max s.table.cellCount maxCells := by
  have bound := cellCount_setCell_le_columnOrNew h row column value
  by_cases new : ∃ text, column = .name text ∧ s.table.columnNamed? text = none ∧
      s.table.columnCount < Capacity.maxSlots
  · obtain ⟨text, rfl, unknown, room⟩ := new
    have small : s.table.rowCount * (s.table.columnCount + 1) ≤ maxCells :=
      Nat.le_of_not_lt fun large => fits ⟨text, rfl, unknown, room, large⟩
    rw [columnOrNew_of_new h unknown room, cellCount_withNewColumn h text room] at bound
    omega
  · rw [columnOrNew_eq_self h fun text name unknown =>
      Nat.le_of_not_lt fun room => new ⟨text, name, unknown, room⟩] at bound
    exact bound

/-- A write that overfills the table makes it one column larger, whether it is refused or not. -/
theorem cellCount_setCell_of_overfills (h : s.table.store.WellFormed) (row : Nat)
    {column : ColumnRef} (value : String) (overfills : s.Overfills column) :
    (s.setCell row column value).2.table.cellCount
      = s.table.rowCount * (s.table.columnCount + 1) := by
  obtain ⟨text, rfl, unknown, room, large⟩ := overfills
  have added := cellCount_withNewColumn h text room
  have holds := holds_withNewColumn h text room
  have may := mayHold_withNewColumn h text room row
  unfold setCell
  rw [columnOrNew_of_new h unknown room]
  dsimp only
  split
  · next allowed =>
    -- Below the last row nothing is allowed, because all rows together are too many already.
    have inside : row < s.table.rowCount := by
      refine Nat.lt_of_not_le fun outside => may.1 allowed ⟨outside, ?_⟩
      calc maxCells < s.table.rowCount * (s.table.columnCount + 1) := large
        _ ≤ (row + 1) * (s.table.columnCount + 1) := Nat.mul_le_mul_right _ (by omega)
    have hr : row < Capacity.maxSlots := Nat.lt_of_lt_of_le inside h.rows.size_le_maxSlots
    have rows : (s.withNewColumn text).table.rowCount = s.table.rowCount := holds.rowCount
    have columns : (s.withNewColumn text).table.columnCount = s.table.columnCount + 1 :=
      holds.columnCount
    refine (Table.cellCount_set holds.wellFormed hr room value).trans ?_
    rw [rows, columns, Nat.max_self, Nat.max_eq_left (show row + 1 ≤ s.table.rowCount from inside)]
  · exact added

/-! ## Every write -/

/-- In a session that lines lead to from a valid configuration, a line that writes a cell leaves at
most as many cells as there were or as the limit allows, exactly if it does not add a column for
which there are too many rows. If it does, the table has this column more. -/
theorem cellCount_execute_le_iff {c : Config} (valid : c.validate = .ok ()) (lines : List String)
    {line : String} (write : (Text.words line).head?.map Text.lower = some "set") :
    let s := (withCapacity c.rowCapacity c.columnCapacity).afterLines lines
    let s' := (s.execute line).2
    (s'.table.cellCount ≤ max s.table.cellCount maxCells ↔
      ∀ row column value, Command.ofLine line = .ok (.set row column value) →
        ¬ s.Overfills column) ∧
    ∀ row column value, Command.ofLine line = .ok (.set row column value) → s.Overfills column →
      s'.table.cellCount = s.table.rowCount * (s.table.columnCount + 1) := by
  intro s s'
  have h : s.table.store.WellFormed := wellFormed_afterLines (wellFormed_of_valid valid) lines
  have grown : ∀ row column value, Command.ofLine line = .ok (.set row column value) →
      s.Overfills column → s'.table.cellCount = s.table.rowCount * (s.table.columnCount + 1) := by
    intro row column value read overfills
    show (s.execute line).2.table.cellCount = _
    rw [s.execute_of_read read]
    exact cellCount_setCell_of_overfills h row value overfills
  refine ⟨⟨fun le row column value read overfills => ?_, fun fits => ?_⟩, grown⟩
  -- A table that is overfilled has rows, so the new column makes it larger than it was.
  · have count := grown row column value read overfills
    obtain ⟨-, -, -, -, large⟩ := overfills
    have before : s.table.cellCount = s.table.rowCount * s.table.columnCount := rfl
    rw [Nat.mul_succ] at count large
    have rows : 0 < s.table.rowCount := Nat.pos_of_ne_zero fun none => by
      rw [none, Nat.zero_mul] at large
      omega
    omega
  · show (s.execute line).2.table.cellCount ≤ _
    rcases Command.ofLine_of_set write with ⟨e, unreadable⟩ | ⟨row, column, value, read⟩
    · rw [s.execute_of_unreadable unreadable]
      exact Nat.le_max_left _ _
    · rw [s.execute_of_read read]
      exact cellCount_setCell_le h row value (fits row column value read)

/-- A session whose table is a square of as many cells as the limit allows. -/
def fullSquare : Session := (withCapacity 8 8).afterLines ["set 1023 1023 x"]

/-- A square at the limit refuses one more row, but takes a whole column under a new name. -/
theorem cellCount_execute_le_iff_fullSquare :
    fullSquare.table.cellCount = maxCells ∧
      (fullSquare.execute "set 1024 0 y").2.table.cellCount ≤ maxCells ∧
      (fullSquare.execute "set 0 zz y").2.table.cellCount = maxCells + 1024 := by
  have valid : ({} : Config).validate = .ok () := rfl
  have empty : (withCapacity 8 8).table.store.WellFormed := wellFormed_of_valid valid
  have read : Command.ofLine "set 1023 1023 x" = .ok (.set 1023 (.index 1023) "x") := rfl
  have may : (withCapacity 8 8).mayHold 1023 1023 = true :=
    (mayHold_iff empty 1023 1023).2 (.inr (by decide))
  have square : fullSquare.table = ((withCapacity 8 8).table.set 1023 1023 "x").2 := by
    show ((withCapacity 8 8).execute "set 1023 1023 x").2.table = _
    rw [execute_of_read _ read]
    show ((withCapacity 8 8).setCell 1023 (.index 1023) "x").2.table = _
    unfold setCell columnOrNew
    dsimp only
    rw [if_pos may]
  have slots : 1023 < Capacity.maxSlots := by decide
  have holds := (empty.set_spec slots slots "x").2
  have rows : fullSquare.table.rowCount = 1024 := by
    rw [square]
    exact holds.rowCount
  have columns : fullSquare.table.columnCount = 1024 := by
    rw [square]
    exact holds.columnCount
  have count : fullSquare.table.cellCount = maxCells := by
    show fullSquare.table.rowCount * fullSquare.table.columnCount = maxCells
    rw [rows, columns]
    rfl
  -- The write below the square is refused, because its column is there.
  have byIndex : Command.ofLine "set 1024 0 y" = .ok (.set 1024 (.index 0) "y") := rfl
  have write : (Text.words "set 1024 0 y").head?.map Text.lower = some "set" := rfl
  have kept := (cellCount_execute_le_iff valid ["set 1023 1023 x"] write).1.2
    fun row column value read' overfills => by
      obtain ⟨text, name, -⟩ := overfills
      rw [byIndex] at read'
      cases read'
      cases name
  -- The write to a new name adds a cell to every row.
  have byName : Command.ofLine "set 0 zz y" = .ok (.set 0 (.name "zz") "y") := rfl
  have write' : (Text.words "set 0 zz y").head?.map Text.lower = some "set" := rfl
  have unknown : fullSquare.table.columnNamed? "zz" = none := by
    rw [square]
    exact Array.findIdx?_empty
  have overfills : fullSquare.Overfills (.name "zz") := by
    refine ⟨"zz", rfl, unknown, ?_, ?_⟩
    · rw [columns]
      decide
    · rw [rows, columns]
      decide
  have grown := (cellCount_execute_le_iff valid ["set 1023 1023 x"] write').2 _ _ _ byName overfills
  refine ⟨count, ?_, grown.trans ?_⟩
  · have limit : max fullSquare.table.cellCount maxCells = maxCells := by
      rw [count, Nat.max_self]
    exact Nat.le_trans kept (Nat.le_of_eq limit)
  · show fullSquare.table.rowCount * (fullSquare.table.columnCount + 1) = _
    rw [rows, columns]
    rfl

end Session

end Tabular
