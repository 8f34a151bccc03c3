import Tabular.Proofs.Session.CellLimit
import Tabular.Proofs.Table.Headers

/-!
# Writing a cell and reading it back

A write to a column that is known is refused exactly when its cell is outside the table and the
table that it needs has too many cells (`Session.Outgrows`). The arithmetic of the check saturates
and can overflow, but it decides like exact arithmetic, and a write that passes it is never beyond
what an axis can have. So an accepted write is made (`setCell_of_known`).

A column is found by the same argument after the write as before, also when its name is new: then no
other column has the name, and the one that was added is the first with it (`column_columnOrNew`).
-/

namespace Tabular

/-! ## A written table -/

namespace Table

variable {α : Type u} {t t' : Table α}

/-- `t'` is `t` with a value written into a cell, and it is as large as that cell needs. -/
structure Writes (t : Table α) (row column : Nat) (value : α) (t' : Table α) : Prop where
  rowCount : t'.rowCount = max t.rowCount (row + 1)
  columnCount : t'.columnCount = max t.columnCount (column + 1)
  written : t'.cell row column = some value
  kept : ∀ i j, i ≠ row ∨ j ≠ column → t'.cell i j = t.cell i j
  header : ∀ j, t'.header j = t.header j

/-- A cell that an axis can have is written. -/
theorem writes_set (h : t.store.WellFormed) {row column : Nat} (hr : row < Capacity.maxSlots)
    (hc : column < Capacity.maxSlots) (value : α) :
    t.Writes row column value (t.set row column value).2 := by
  have holds := (h.set_spec hr hc value).2
  refine ⟨holds.rowCount, holds.columnCount, ?_, fun i j other => ?_, fun j => rfl⟩
  · exact (holds.get? row column).trans (if_pos ⟨rfl, rfl⟩)
  · exact (holds.get? i j).trans (if_neg (by omega))

/-- A written cell is one of the table, so it is read. -/
theorem Writes.get {row column : Nat} {value : α} (w : t.Writes row column value t') :
    t'.get row column = .ok (some value) := by
  have hr : row < t'.rowCount := by
    rw [w.rowCount]
    exact Nat.le_max_right _ _
  have hc : column < t'.columnCount := by
    rw [w.columnCount]
    exact Nat.le_max_right _ _
  unfold Table.get checkCell checkRow checkColumn
  rw [if_pos hr, if_pos hc, w.written]

/-- A column that is named has the name afterwards, and the others have theirs. -/
theorem header_setHeader {column : Nat} {text : String}
    (named : t.setHeader column text = (.ok (), t')) (j : Nat) :
    t'.header j = if j = column then some text else t.header j := by
  unfold setHeader at named
  split at named
  · cases named
    exact header_name t column text j
  · split at named
    · cases named
      exact header_name _ column text j
    · cases named

/-- A new name is found at the column that was given it. -/
theorem columnNamed?_of_new {column : Nat} {text : String} (unknown : t.columnNamed? text = none)
    (named : t.setHeader column text = (.ok (), t')) : t'.columnNamed? text = some column := by
  have header := header_setHeader named
  have others := (t.columnNamed?_eq_none_iff text).1 unknown
  refine (t'.columnNamed?_eq_some_iff text column).2 ⟨?_, fun before lt => ?_⟩
  · rw [header, if_pos rfl]
  · rw [header, if_neg (Nat.ne_of_lt lt)]
    exact others before

end Table

/-! ## Lines that write and read -/

/-- A line of a row, a column and a value after the word for writing writes, if the row can be
read. -/
theorem Command.ofLine_set {line word r k value : String}
    (words : Text.words line = [word, r, k, value]) (lower : Text.lower word = "set") :
    ofLine line = (rowArgument r).map fun row => .set row (.ofText k) value := by
  unfold ofLine
  rw [words]
  dsimp only
  rw [lower]
  rfl

/-- A line of a row and a column after the word for reading reads, if the row can be read. -/
theorem Command.ofLine_get {line word r k : String} (words : Text.words line = [word, r, k])
    (lower : Text.lower word = "get") :
    ofLine line = (rowArgument r).map fun row => .get row (.ofText k) := by
  unfold ofLine
  rw [words]
  dsimp only
  rw [lower]
  rfl

namespace Session

variable {s s' : Session}

/-! ## Finding the column -/

/-- A column that is known is not added. -/
theorem columnOrNew_of_known {column : ColumnRef} {k : Nat} (known : s.column column = .ok k) :
    s.columnOrNew column = (.ok k, s) := by
  cases column with
  | index column =>
    cases known
    rfl
  | name text =>
    unfold Session.column Table.requireColumn at known
    unfold columnOrNew
    dsimp only at known ⊢
    cases found : s.table.columnNamed? text with
    | none =>
      rw [found] at known
      cases known
    | some column =>
      rw [found] at known
      cases known
      rfl

/-- The column to which a write goes is found again by the same argument. -/
theorem column_columnOrNew {column : ColumnRef} {k : Nat}
    (found : s.columnOrNew column = (.ok k, s')) : s'.column column = .ok k := by
  cases column with
  | index column =>
    cases found
    rfl
  | name text =>
    have known : s'.table.columnNamed? text = some k := by
      unfold columnOrNew at found
      dsimp only at found
      split at found
      · next eq =>
        cases found
        exact eq
      · next unknown =>
        split at found
        · next named =>
          cases found
          exact Table.columnNamed?_of_new unknown named
        · cases found
    unfold Session.column Table.requireColumn
    dsimp only
    rw [known]

/-! ## Accepting a write -/

/-- The cell is outside the table, and the table that it needs has too many cells. -/
def Outgrows (s : Session) (row column : Nat) : Prop :=
  ¬ (row < s.table.rowCount ∧ column < s.table.columnCount) ∧
    maxCells < max s.table.rowCount (row + 1) * max s.table.columnCount (column + 1)

instance (s : Session) (row column : Nat) : Decidable (s.Outgrows row column) :=
  inferInstanceAs (Decidable (_ ∧ _))

/-- A cell may be held exactly if the table would not outgrow the limit with it. -/
theorem mayHold_iff_not_outgrows (h : s.table.store.WellFormed) (row column : Nat) :
    s.mayHold row column = true ↔ ¬ s.Outgrows row column := by
  rw [mayHold_iff h]
  unfold Outgrows
  omega

/-- A cell that may be held is one that the axes can have. -/
theorem lt_maxSlots_of_mayHold (h : s.table.store.WellFormed) {row column : Nat}
    (may : s.mayHold row column = true) :
    row < Capacity.maxSlots ∧ column < Capacity.maxSlots := by
  have rows : s.table.rowCount ≤ Capacity.maxSlots := h.rows.size_le_maxSlots
  have columns : s.table.columnCount ≤ Capacity.maxSlots := h.columns.size_le_maxSlots
  rcases (mayHold_iff h row column).1 may with ⟨inRows, inColumns⟩ | fits
  · exact ⟨Nat.lt_of_lt_of_le inRows rows, Nat.lt_of_lt_of_le inColumns columns⟩
  -- Neither factor is larger than the product.
  · have limit : maxCells < Capacity.maxSlots := by decide
    have row_le : row + 1 ≤ maxCells := by
      calc row + 1 ≤ max s.table.rowCount (row + 1) := Nat.le_max_right _ _
        _ ≤ max s.table.rowCount (row + 1) * max s.table.columnCount (column + 1) :=
          Nat.le_mul_of_pos_right _ (by omega)
        _ ≤ maxCells := fits
    have column_le : column + 1 ≤ maxCells := by
      calc column + 1 ≤ max s.table.columnCount (column + 1) := Nat.le_max_right _ _
        _ ≤ max s.table.rowCount (row + 1) * max s.table.columnCount (column + 1) :=
          Nat.le_mul_of_pos_left _ (by omega)
        _ ≤ maxCells := fits
    exact ⟨by omega, by omega⟩

/-- The session after a write to its table. -/
def withCell (s : Session) (row column : Nat) (value : String) : Session :=
  { s with table := (s.table.set row column value).2 }

/-- A cell that may be held is written, and nothing else changes within the table. -/
theorem writes_withCell (h : s.table.store.WellFormed) {row column : Nat}
    (may : s.mayHold row column = true) (value : String) :
    s.table.Writes row column value (s.withCell row column value).table := by
  obtain ⟨hr, hc⟩ := lt_maxSlots_of_mayHold h may
  exact Table.writes_set h hr hc value

/-- A write changes no name, so every column is found as before. -/
theorem column_withCell (s : Session) (row column : Nat) (value : String) (ref : ColumnRef) :
    (s.withCell row column value).column ref = s.column ref := by
  cases ref <;> rfl

/-- A write to a column that was found or added is made if its cell may be held. -/
theorem setCell_of_found (h : s'.table.store.WellFormed) {column : ColumnRef} {k : Nat}
    (found : s.columnOrNew column = (.ok k, s')) (row : Nat) (value : String) :
    s.setCell row column value
      = if s'.mayHold row k then (.ok (.cell row k (s'.table.cell row k)), s'.withCell row k value)
        else (.error (.tooLarge row k), s') := by
  unfold setCell
  rw [found]
  dsimp only
  split
  · next may =>
    obtain ⟨hr, hc⟩ := lt_maxSlots_of_mayHold h may
    have old : (s'.table.set row k value).1 = s'.table.cell row k := (h.set_spec hr hc value).1
    rw [← old]
    rfl
  · rfl

/-- A write to a column that is known is made unless it outgrows the limit, and then nothing is
changed. -/
theorem setCell_of_known (h : s.table.store.WellFormed) {column : ColumnRef} {k : Nat}
    (known : s.column column = .ok k) (row : Nat) (value : String) :
    if s.Outgrows row k then s.setCell row column value = (.error (.tooLarge row k), s)
    else s.setCell row column value
        = (.ok (.cell row k (s.table.cell row k)), s.withCell row k value) ∧
      s.table.Writes row k value (s.withCell row k value).table := by
  have may := mayHold_iff_not_outgrows h row k
  rw [setCell_of_found h (columnOrNew_of_known known)]
  split
  · next outgrows => rw [if_neg fun held => may.1 held outgrows]
  · next fits =>
    rw [if_pos (may.2 fits)]
    exact ⟨rfl, writes_withCell h (may.2 fits) value⟩

/-! ## Reading it back -/

/-- What was written into a cell is read from it, with the column given as it was for the write. -/
theorem run_get_of_setCell (h : s.table.store.WellFormed) {row : Nat} {column : ColumnRef}
    {value : String} {output : Output} (written : (s.setCell row column value).1 = .ok output) :
    ∃ k old, output = .cell row k old ∧
      ((s.setCell row column value).2.run (.get row column)).1
        = .ok (.cell row k (some value)) := by
  have wellFormed := wellFormed_columnOrNew h column
  rcases found : s.columnOrNew column with ⟨e | k, s'⟩
  · unfold setCell at written
    rw [found] at written
    cases written
  · rw [found] at wellFormed
    have made := setCell_of_found wellFormed found row value
    rw [made] at written ⊢
    split at written
    · next may =>
      have read := (writes_withCell wellFormed may value).get
      have again : (s'.withCell row k value).column column = .ok k :=
        (column_withCell s' row k value column).trans (column_columnOrNew found)
      cases written
      refine ⟨k, _, rfl, ?_⟩
      rw [if_pos may]
      unfold run onColumn
      dsimp only
      rw [again]
      dsimp only
      rw [read]
      rfl
    · cases written

/-! ## Every write -/

/-- In a session that lines lead to from a valid configuration, a line that writes to a known column
is refused exactly when the cell is outside the table and the table that it needs has more than
`maxCells` cells, and then nothing is changed. Otherwise it answers what the cell held, the cell
holds the value, the table is as large as the cell needs, and all else is as it was. Whatever the
column is given by, a cell that was written is read with its value by the line with the same row and
column. -/
theorem execute_set_then_get {c : Config} (valid : c.validate = .ok ()) (lines : List String)
    {setLine getLine setWord getWord r k value : String}
    (write : Text.words setLine = [setWord, r, k, value]) (writes : Text.lower setWord = "set")
    (read : Text.words getLine = [getWord, r, k]) (reads : Text.lower getWord = "get") :
    let s := (withCapacity c.rowCapacity c.columnCapacity).afterLines lines
    let answer := (s.execute setLine).1
    let s' := (s.execute setLine).2
    (∀ row column, Size.ofText? r = some row → s.column (.ofText k) = .ok column →
      if s.Outgrows row column then answer = .error (.tooLarge row column) ∧ s' = s
      else answer = .ok (.cell row column (s.table.cell row column)) ∧
        s.table.Writes row column value s'.table ∧ s'.format = s.format) ∧
    ∀ output, answer = .ok output → ∃ row column old, output = .cell row column old ∧
      (s'.execute getLine).1 = .ok (.cell row column (some value)) := by
  intro s answer s'
  have h : s.table.store.WellFormed := wellFormed_afterLines (wellFormed_of_valid valid) lines
  have setCommand := Command.ofLine_set write writes
  have getCommand := Command.ofLine_get read reads
  constructor
  · intro row column parsed known
    have command : Command.ofLine setLine = .ok (.set row (.ofText k) value) := by
      rw [setCommand, Command.rowArgument, parsed]
      rfl
    have ran : s.execute setLine = s.setCell row (.ofText k) value := s.execute_of_read command
    have made := setCell_of_known h known row value
    show if s.Outgrows row column then (s.execute setLine).1 = _ ∧ (s.execute setLine).2 = s
      else (s.execute setLine).1 = _ ∧ s.table.Writes row column value (s.execute setLine).2.table ∧
        (s.execute setLine).2.format = s.format
    rw [ran]
    split
    · next outgrows =>
      rw [if_pos outgrows] at made
      rw [made]
      exact ⟨rfl, rfl⟩
    · next fits =>
      rw [if_neg fits] at made
      rw [made.1]
      exact ⟨rfl, made.2, rfl⟩
  · intro output accepted
    cases parsed : Command.rowArgument r with
    | error e =>
      -- A line without a row does not succeed.
      have unreadable : Command.ofLine setLine = .error e := by
        rw [setCommand, parsed]
        rfl
      have failed : answer = .error e := congrArg Prod.fst (s.execute_of_unreadable unreadable)
      rw [failed] at accepted
      cases accepted
    | ok row =>
      rw [parsed] at setCommand getCommand
      have ran : s.execute setLine = s.setCell row (.ofText k) value :=
        s.execute_of_read setCommand
      have written : (s.setCell row (.ofText k) value).1 = .ok output := ran ▸ accepted
      obtain ⟨column, old, cell, got⟩ := run_get_of_setCell h written
      refine ⟨row, column, old, cell, ?_⟩
      show ((s.execute setLine).2.execute getLine).1 = _
      rw [ran, execute_of_read _ getCommand]
      exact got

/-- Lines that make two columns of one name, and one whose name reads as an index. -/
def twinLines : List String := ["addcol 5 a", "addcol n b", "addcol n c"]

/-- The session after these lines. -/
def twins : Session := (withCapacity 8 8).afterLines twinLines

/-- Of two columns with one name the first is written and read, a number is an index even if it is a
name, a row too far is refused, and a new name is given to a new column. -/
theorem execute_set_then_get_twins :
    (twins.execute "set 2 n x").1 = .ok (.cell 2 1 none) ∧
      ((twins.execute "set 2 n x").2.execute "GET 2 n").1 = .ok (.cell 2 1 (some "x")) ∧
      (twins.execute "set 2 5 x").2.table.columnCount = 6 ∧
      (twins.execute "set 1048576 n x").2 = twins ∧
      ((twins.execute "set 1 zz x").2.execute "get 1 zz").1 = .ok (.cell 1 3 (some "x")) := by
  have valid : ({} : Config).validate = .ok () := rfl
  have first : twins.column (.name "n") = .ok 1 := by
    unfold twins
    cbv
  have sizes : twins.table.rowCount = 1 ∧ twins.table.columnCount = 3 := by
    unfold twins
    cbv
  have outside : twins.table.cell 2 1 = none := by
    unfold twins
    cbv
  have fits : ¬ twins.Outgrows 2 1 ∧ ¬ twins.Outgrows 2 5 ∧ twins.Outgrows 1048576 1 := by
    unfold Outgrows
    rw [sizes.1, sizes.2]
    decide
  have read : Text.words "GET 2 n" = ["GET", "2", "n"] := rfl
  -- Of the two columns with the name, the first is written, and it is read again.
  have named : Text.words "set 2 n x" = ["set", "2", "n", "x"] := rfl
  obtain ⟨known, back⟩ := execute_set_then_get valid twinLines named rfl read rfl
  have made := Eq.mp (if_neg fits.1) (known 2 1 rfl first)
  have answer : (twins.execute "set 2 n x").1 = .ok (.cell 2 1 none) := by
    rw [← outside]
    exact made.1
  have got : ((twins.execute "set 2 n x").2.execute "GET 2 n").1 = .ok (.cell 2 1 (some "x")) := by
    obtain ⟨row, column, old, cell, reads⟩ := back _ answer
    cases cell
    exact reads
  -- A number is an index, even if a column has it as its name.
  have index : Text.words "set 2 5 x" = ["set", "2", "5", "x"] := rfl
  have index' : Text.words "get 2 5" = ["get", "2", "5"] := rfl
  have anywhere := (execute_set_then_get valid twinLines index rfl index' rfl).1 2 5 rfl rfl
  have wide := Eq.mp (if_neg fits.2.1) anywhere
  -- A row too many for the limit is refused.
  have far : Text.words "set 1048576 n x" = ["set", "1048576", "n", "x"] := rfl
  have far' : Text.words "get 1048576 n" = ["get", "1048576", "n"] := rfl
  have beyond := (execute_set_then_get valid twinLines far rfl far' rfl).1 1048576 1 rfl first
  have refused := Eq.mp (if_pos fits.2.2) beyond
  -- A new name is given to a new column.
  have new : Text.words "set 1 zz x" = ["set", "1", "zz", "x"] := rfl
  have new' : Text.words "get 1 zz" = ["get", "1", "zz"] := rfl
  have accepted : (twins.execute "set 1 zz x").1 = .ok (.cell 1 3 none) := by
    unfold twins
    cbv
  obtain ⟨row, column, old, cell, added⟩ :=
    (execute_set_then_get valid twinLines new rfl new' rfl).2 _ accepted
  cases cell
  refine ⟨answer, got, ?_, refused.2, added⟩
  calc (twins.execute "set 2 5 x").2.table.columnCount
      = max twins.table.columnCount (5 + 1) := wide.2.1.columnCount
    _ = 6 := by
      rw [sizes.2]
      rfl

end Session

end Tabular
