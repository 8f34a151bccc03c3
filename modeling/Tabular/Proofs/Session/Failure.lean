import Tabular.Proofs.Session.Invariant

/-!
# Commands that fail

A command that fails leaves the session as it was, with one exception. Writing a cell of a column
with a new name first adds the column, and only then is the size of the table checked: when the
write is refused, the column stays. `AddsRejectedColumn` says exactly when this happens; every other
failure leaves no trace.
-/

namespace Tabular

/-! ## Lines with few words -/

/-- The number of values or names that a command carries. -/
def Command.valueCount : Command → Nat
  | .headers names => names.length
  | .add values | .insert _ values | .addColumn _ values => values.length
  | _ => 0

/-- A command with a row argument is made of a row. -/
theorem Command.eq_of_rowArgument {text : String} {make : Nat → Command} {command : Command}
    (read : (rowArgument text).map make = .ok command) : ∃ row, command = make row := by
  cases row : rowArgument text with
  | error e =>
    rw [row] at read
    cases read
  | ok row =>
    rw [row] at read
    cases read
    exact ⟨_, rfl⟩

/-- A command carries at most the arguments that it was given. -/
theorem Command.valueCount_ofVerb {verb : Verb} {arguments : List String} {command : Command}
    (read : ofVerb verb arguments = .ok command) : command.valueCount ≤ arguments.length := by
  unfold ofVerb at read
  split at read
  -- By how the command comes about: not at all, from the arguments as they are, behind a row that
  -- is read first, or with a format that is looked up.
  all_goals
    first
    | cases read
      done
    | cases read
      simp [valueCount]
    | obtain ⟨row, rfl⟩ := eq_of_rowArgument read
      simp [valueCount]
    | split at read
      · cases read
        exact Nat.zero_le _
      · cases read

/-- A command carries at most the words of its line. -/
theorem Command.valueCount_ofLine {line : String} {command : Command}
    (read : ofLine line = .ok command) : command.valueCount ≤ (Text.words line).length := by
  unfold ofLine at read
  split at read
  · cases read
    exact Nat.zero_le _
  · next word arguments words =>
    dsimp only at read
    split at read
    · have le := valueCount_ofVerb read
      rw [words, List.length_cons]
      omega
    · cases read

namespace Session

variable {s : Session}

/-! ## A column that is added before the write is refused -/

/-- The session with one more column at the end, of the given name. -/
def withNewColumn (s : Session) (text : String) : Session :=
  { s with
    table := { s.table with store := (s.table.store.insertColumn s.table.columnCount []).2 }.name
      s.table.columnCount text }

/-- A new name gets the next column. -/
theorem columnOrNew_of_new (h : s.table.store.WellFormed) {text : String}
    (unknown : s.table.columnNamed? text = none) (room : s.table.columnCount < Capacity.maxSlots) :
    s.columnOrNew (.name text) = (.ok s.table.columnCount, s.withNewColumn text) := by
  unfold columnOrNew
  dsimp only
  rw [unknown]
  dsimp only
  rw [Table.setHeader_of_new h (Nat.le_refl _) room]
  rfl

/-- A new column is an empty one behind the others. -/
theorem holds_withNewColumn (h : s.table.store.WellFormed) (text : String)
    (room : s.table.columnCount < Capacity.maxSlots) :
    (s.withNewColumn text).table.store.Holds s.table.rowCount (s.table.columnCount + 1)
      s.table.store.get? := by
  have short : ([] : List String).length ≤ Capacity.maxSlots := Nat.zero_le _
  have holds := (h.insertColumn_spec (Nat.max_lt.2 ⟨room, room⟩) short).2
  have nothing : ∀ j, s.table.columnCount ≤ j →
      ∀ i, Store.Content.flip s.table.store.get? j i = none :=
    fun j behind i => s.table.store.get?_eq_none_of_columnCount_le i behind
  refine ⟨holds.wellFormed, ?_, ?_, fun i j => ?_⟩
  · exact holds.rowCount.trans (Nat.max_eq_left (Nat.zero_le _))
  · exact holds.columnCount.trans (congrArg (· + 1) (Nat.max_self _))
  · -- Nothing is behind the last column, so no cell is shifted.
    refine (holds.get? i j).trans ?_
    simp only [List.getElem?_nil]
    rw [Store.Content.insertRow_behind nothing]
    rfl

/-- The new column has the name, and all others keep theirs. -/
theorem header_withNewColumn (s : Session) (text : String) (column : Nat) :
    (s.withNewColumn text).table.header column
      = if column = s.table.columnCount then some text else s.table.header column :=
  Table.header_name _ _ _ _

/-! ## When a write is refused -/

/-- Cutting two factors at a bound does not bring their product below a smaller one. -/
theorem min_mul_min_le_iff {m n bound limit : Nat} (hm : 0 < m) (hn : 0 < n)
    (far : limit < bound) : min m bound * min n bound ≤ limit ↔ m * n ≤ limit := by
  have le_m : m ≤ m * n := Nat.le_mul_of_pos_right m hn
  have le_n : n ≤ m * n := Nat.le_mul_of_pos_left n hm
  by_cases small : m ≤ bound ∧ n ≤ bound
  · rw [Nat.min_eq_left small.1, Nat.min_eq_left small.2]
  -- A factor that is cut makes both products too large.
  · have large : bound ≤ min m bound * min n bound := by
      by_cases cut : m ≤ bound
      · rw [Nat.min_eq_right (show bound ≤ n by omega)]
        exact Nat.le_mul_of_pos_left bound (by omega)
      · rw [Nat.min_eq_right (show bound ≤ m by omega)]
        exact Nat.le_mul_of_pos_right bound (by omega)
    omega

/-- A cell may be held when the table has it or when the table that it needs is not too large. -/
theorem mayHold_iff (h : s.table.store.WellFormed) (row column : Nat) :
    s.mayHold row column = true ↔ (row < s.table.rowCount ∧ column < s.table.columnCount) ∨
      max s.table.rowCount (row + 1) * max s.table.columnCount (column + 1) ≤ maxCells := by
  have rows : s.table.rowCount ≤ Capacity.maxSlots := h.rows.size_le_maxSlots
  have columns : s.table.columnCount ≤ Capacity.maxSlots := h.columns.size_le_maxSlots
  have far : Capacity.maxSlots ≤ Size.max := by decide
  have cut : ∀ count index, count ≤ Capacity.maxSlots →
      max count (Size.next index) = min (max count (index + 1)) Size.max := by
    intro count index le
    unfold Size.next
    omega
  have limit : maxCells < Size.max := by decide
  -- Saturation cuts both factors at the largest size, which is beyond every table that may be held.
  have fits : max s.table.rowCount (Size.next row) * max s.table.columnCount (Size.next column)
        ≤ maxCells
      ↔ max s.table.rowCount (row + 1) * max s.table.columnCount (column + 1) ≤ maxCells := by
    rw [cut _ row rows, cut _ column columns]
    exact min_mul_min_le_iff (by omega) (by omega) limit
  unfold mayHold
  dsimp only
  rw [Bool.or_eq_true, Bool.and_eq_true, decide_eq_true_iff, decide_eq_true_iff]
  refine or_congr_right ?_
  split
  · next cells product =>
    obtain ⟨rfl, -⟩ := Size.mul?_eq_some_iff.1 product
    rw [decide_eq_true_iff]
    exact fits
  · next overflow =>
    -- A product that is no size is too large in any case.
    refine iff_of_false Bool.false_ne_true fun le => ?_
    have product := Size.mul?_eq_some_iff.2
      ⟨rfl, Nat.le_of_lt (Nat.lt_of_le_of_lt (fits.2 le) limit)⟩
    cases overflow.symm.trans product

/-- The lines whose failure leaves a column behind: they write to a column of a new name, and the
row makes the table with this column too large. -/
def AddsRejectedColumn (s : Session) (line : String) (row : Nat) (text : String) : Prop :=
  ∃ value, Command.ofLine line = .ok (.set row (.name text) value) ∧
    s.table.columnNamed? text = none ∧ s.table.columnCount < Capacity.maxSlots ∧
    s.table.rowCount ≤ row ∧ maxCells < (row + 1) * (s.table.columnCount + 1)

/-- Whether the cell of a new column may be held. -/
theorem mayHold_withNewColumn (h : s.table.store.WellFormed) (text : String)
    (room : s.table.columnCount < Capacity.maxSlots) (row : Nat) :
    (s.withNewColumn text).mayHold row s.table.columnCount = true ↔
      ¬ (s.table.rowCount ≤ row ∧ maxCells < (row + 1) * (s.table.columnCount + 1)) := by
  have holds := holds_withNewColumn h text room
  have rows : (s.withNewColumn text).table.rowCount = s.table.rowCount := holds.rowCount
  have columns : (s.withNewColumn text).table.columnCount = s.table.columnCount + 1 :=
    holds.columnCount
  rw [mayHold_iff holds.wellFormed, rows, columns, Nat.max_self]
  -- In a row of the table the new column is there already, so the cell is not refused.
  by_cases inside : row < s.table.rowCount
  · exact iff_of_true (.inl ⟨inside, Nat.lt_succ_self _⟩) fun outside => by omega
  · rw [Nat.max_eq_right (show s.table.rowCount ≤ row + 1 by omega)]
    omega

/-- A write to a column with a new name adds the column and then looks whether the cell may be
held. -/
theorem setCell_of_new (h : s.table.store.WellFormed) {text : String}
    (unknown : s.table.columnNamed? text = none) (room : s.table.columnCount < Capacity.maxSlots)
    (row : Nat) (value : String) :
    if s.table.rowCount ≤ row ∧ maxCells < (row + 1) * (s.table.columnCount + 1) then
      s.setCell row (.name text) value
        = (.error (.tooLarge row s.table.columnCount), s.withNewColumn text)
    else ∃ output, (s.setCell row (.name text) value).1 = .ok output := by
  have may := mayHold_withNewColumn h text room row
  unfold setCell
  rw [columnOrNew_of_new h unknown room]
  dsimp only
  split
  · next large => rw [if_neg fun held => may.1 held large]
  · next fits =>
    rw [if_pos (may.2 fits)]
    exact ⟨_, rfl⟩

/-! ## Every other failure -/

/-- A failure of the table is a failure of the session, which only holds the table. -/
theorem allOrNothing_of_table {result : Except TableError β × Table String}
    (kept : AllOrNothing s.table result) (e : TableError) (failed : result.1 = .error e) :
    ({ s with table := result.2 } : Session) = s := by
  rw [kept e failed]

/-- Finding a column changes nothing, unless a column of a new name can be added. -/
theorem columnOrNew_eq_self (h : s.table.store.WellFormed) {column : ColumnRef}
    (other : ∀ text, column = .name text → s.table.columnNamed? text = none →
      Capacity.maxSlots ≤ s.table.columnCount) : (s.columnOrNew column).2 = s := by
  cases column with
  | index column => rfl
  | name text =>
    unfold columnOrNew
    dsimp only
    cases found : s.table.columnNamed? text with
    | some column => rfl
    | none => rw [Table.setHeader_of_full h (other text rfl found)]

/-- A write fails without an effect, unless it adds a column of a new name and is then refused. -/
theorem allOrNothing_setCell (h : s.table.store.WellFormed) (row : Nat) (column : ColumnRef)
    (value : String)
    (other : ∀ text, column = .name text → s.table.columnNamed? text = none →
      s.table.columnCount < Capacity.maxSlots →
      ¬ (s.table.rowCount ≤ row ∧ maxCells < (row + 1) * (s.table.columnCount + 1))) :
    AllOrNothing s (s.setCell row column value) := by
  -- Either a column is added, and then the write succeeds, or the session is not touched before
  -- the cell is refused.
  by_cases new : ∃ text, column = .name text ∧ s.table.columnNamed? text = none ∧
      s.table.columnCount < Capacity.maxSlots
  · obtain ⟨text, rfl, unknown, room⟩ := new
    have written := setCell_of_new h unknown room row value
    rw [if_neg (other text rfl unknown room)] at written
    obtain ⟨output, ok⟩ := written
    exact allOrNothing_of_ok ok
  · have same := columnOrNew_eq_self h fun text name unknown =>
      Nat.le_of_not_lt fun room => new ⟨text, name, unknown, room⟩
    unfold setCell
    split
    · next eq =>
      rw [eq] at same
      exact allOrNothing_of_eq same
    · next eq =>
      rw [eq] at same
      cases same
      split
      · exact allOrNothing_of_ok rfl
      · exact allOrNothing_of_eq rfl

/-- A column is added with all its values, or the session is left as it was. -/
theorem allOrNothing_addColumn (h : s.table.store.WellFormed) (name : String)
    {values : List String} (short : values.length ≤ Capacity.maxSlots) :
    AllOrNothing s (s.addColumn name values) := by
  have kept := Table.allOrNothing_pushColumn h short
  unfold addColumn
  split
  · next eq =>
    rw [eq] at kept
    exact allOrNothing_of_eq (allOrNothing_of_table kept _ rfl)
  · next column table eq =>
    -- Naming the pushed column cannot fail, because it is there.
    have inside := Table.lt_columnCount_of_pushColumn h short eq
    have named : table.setHeader column name = (.ok (), table.name column name) := if_pos inside
    rw [named]
    exact allOrNothing_of_ok rfl

/-- A column is removed, or the session is left as it was. -/
theorem allOrNothing_removeColumn (s : Session) (column : Nat) :
    AllOrNothing s (s.removeColumn column) := by
  have kept := Table.allOrNothing_removeColumn s.table column
  unfold removeColumn
  dsimp only
  split
  · next eq =>
    rw [eq] at kept
    exact allOrNothing_of_eq (allOrNothing_of_table kept _ rfl)
  · exact allOrNothing_of_ok rfl

/-- A command whose outcome is that of one edit of the table. -/
theorem allOrNothing_lift {result : Except TableError Nat × Table String}
    (kept : AllOrNothing s.table result) (make : Nat → Output) :
    AllOrNothing s (lift (result.1.map make), { s with table := result.2 }) := by
  intro e failed
  obtain ⟨outcome, table⟩ := result
  cases outcome with
  | ok n => cases failed
  | error e' => exact allOrNothing_of_table kept e' rfl

/-- A command fails without an effect, unless it adds a column and is then refused. -/
theorem allOrNothing_run (h : s.table.store.WellFormed) {command : Command}
    (short : command.valueCount ≤ Capacity.maxSlots)
    (other : ∀ row text value, command = .set row (.name text) value →
      s.table.columnNamed? text = none → s.table.columnCount < Capacity.maxSlots →
      ¬ (s.table.rowCount ≤ row ∧ maxCells < (row + 1) * (s.table.columnCount + 1))) :
    AllOrNothing s (s.run command) := by
  cases command with
  -- Commands that only look, or that cannot fail.
  | nothing | quit | help | row | list | stats => exact allOrNothing_of_eq rfl
  | clear => exact allOrNothing_of_ok rfl
  | format format =>
    cases format with
    | none => exact allOrNothing_of_eq rfl
    | some format => exact allOrNothing_of_ok rfl
  | headers names =>
    have room : 0 + names.length ≤ Capacity.maxSlots := by
      rw [Nat.zero_add]
      exact short
    have named := Table.setHeaders_ok h room
    unfold run
    dsimp only
    split
    · exact allOrNothing_of_ok rfl
    · next eq =>
      rw [eq] at named
      cases named
  -- Commands that are one edit of the table, or a second one that cannot fail.
  | add values => exact allOrNothing_lift (Table.allOrNothing_pushRow h short) _
  | insert row values => exact allOrNothing_lift (Table.allOrNothing_insertRow h row short) _
  | addColumn name values => exact allOrNothing_addColumn h name short
  -- The one command that can do something and fail afterwards.
  | set row column value =>
    refine allOrNothing_setCell h row column value fun text name => ?_
    exact other row text value (by rw [name])
  | unset row column =>
    unfold run
    dsimp only
    split
    · exact allOrNothing_of_eq rfl
    · exact allOrNothing_of_ok rfl
  | get row column => exact allOrNothing_of_eq (onColumn_snd _ _ _)
  | column column => exact allOrNothing_of_eq (onColumn_snd _ _ _)
  | removeRow row =>
    have kept := Table.allOrNothing_removeRow s.table row
    unfold run
    dsimp only
    split
    · next eq =>
      rw [eq] at kept
      exact allOrNothing_of_eq (allOrNothing_of_table kept _ rfl)
    · exact allOrNothing_of_ok rfl
  | removeColumn column =>
    unfold run
    dsimp only
    split
    · exact allOrNothing_of_eq rfl
    · exact allOrNothing_removeColumn s _
  | query column check => exact allOrNothing_of_eq (onColumn_snd _ _ _)

/-! ## Every line -/

/-- A line that reads as a command is executed by it. -/
theorem execute_of_read (s : Session) {line : String} {command : Command}
    (read : Command.ofLine line = .ok command) : s.execute line = s.run command := by
  unfold execute
  rw [read]

/-- A line that cannot be read changes nothing. -/
theorem execute_of_unreadable (s : Session) {line : String} {e : CommandError}
    (unreadable : Command.ofLine line = .error e) : s.execute line = (.error e, s) := by
  unfold execute
  rw [unreadable]

/-- In a session that lines lead to from a valid configuration, a line of at most `maxSlots` words
that fails leaves the session exactly as it was, unless it adds a column and is then refused. Then
the session has this column, empty and named, behind the others, and is otherwise as it was. -/
theorem execute_error_eq_self_unless_column_added {c : Config} (valid : c.validate = .ok ())
    (lines : List String) {line : String} (few : (Text.words line).length ≤ Capacity.maxSlots) :
    let s := (withCapacity c.rowCapacity c.columnCapacity).afterLines lines
    let s' := (s.execute line).2
    (∀ e, (s.execute line).1 = .error e → (∀ row text, ¬ s.AddsRejectedColumn line row text) →
      s' = s) ∧
    ∀ row text, s.AddsRejectedColumn line row text →
      (s.execute line).1 = .error (.tooLarge row s.table.columnCount) ∧
      s'.format = s.format ∧ s'.table.rowCount = s.table.rowCount ∧
      s'.table.columnCount = s.table.columnCount + 1 ∧
      (∀ i j, s'.table.cell i j = s.table.cell i j) ∧
      ∀ j, s'.table.header j
        = if j = s.table.columnCount then some text else s.table.header j := by
  intro s s'
  have h : s.table.store.WellFormed := wellFormed_afterLines (wellFormed_of_valid valid) lines
  constructor
  -- Every other failure: the line cannot be read, or its command fails without an effect.
  · intro e failed other
    show (s.execute line).2 = s
    cases read : Command.ofLine line with
    | error e' => rw [s.execute_of_unreadable read]
    | ok command =>
      have short := Nat.le_trans (Command.valueCount_ofLine read) few
      rw [s.execute_of_read read] at failed ⊢
      refine allOrNothing_run h short (fun row text value eq unknown room large => ?_) e failed
      exact other row text ⟨value, eq ▸ read, unknown, room, large.1, large.2⟩
  -- The column is added, the write is refused, and this is the session that is left.
  · rintro row text ⟨value, read, unknown, room, outside, large⟩
    have written := setCell_of_new h unknown room row value
    rw [if_pos ⟨outside, large⟩] at written
    have ran := (s.execute_of_read read).trans written
    have same : s' = s.withNewColumn text := congrArg Prod.snd ran
    have holds := holds_withNewColumn h text room
    rw [same]
    exact ⟨congrArg Prod.fst ran, rfl, holds.rowCount, holds.columnCount, holds.get?,
      header_withNewColumn s text⟩

/-- A session with one cell. -/
def oneCell : Session := (withCapacity 8 8).afterLines ["add a"]

/-- The refused line leaves a new column behind when it names one, and nothing when it does not. -/
theorem execute_error_eq_self_unless_column_added_oneCell :
    oneCell.AddsRejectedColumn "set 100000000 zz x" 100000000 "zz" ∧
      (oneCell.execute "set 100000000 zz x").2.table.columnCount
        = oneCell.table.columnCount + 1 ∧
      (oneCell.execute "set 100000000 0 x").2 = oneCell := by
  have valid : ({} : Config).validate = .ok () := rfl
  have empty : (withCapacity 8 8).table.store.WellFormed := wellFormed_of_valid valid
  have h : oneCell.table.store.WellFormed := wellFormed_afterLines empty ["add a"]
  have read : Command.ofLine "add a" = .ok (.add ["a"]) := rfl
  have added : oneCell.table = { (withCapacity 8 8).table with
      store := ((withCapacity 8 8).table.store.insertRow 0 ["a"]).2 } := by
    show ((withCapacity 8 8).execute "add a").2.table = _
    rw [execute_of_read _ read]
    show ((withCapacity 8 8).table.pushRow ["a"]).2 = _
    rw [Table.pushRow_eq, Table.insertRow_of_room empty (Nat.le_refl _) (by decide) (by decide)]
    rfl
  have holds := (empty.insertRow_spec (show max 0 0 < Capacity.maxSlots by decide)
    (show ["a"].length ≤ Capacity.maxSlots by decide)).2
  have rows : oneCell.table.rowCount = 1 := by
    rw [added]
    exact holds.rowCount
  have columns : oneCell.table.columnCount = 1 := by
    rw [added]
    exact holds.columnCount
  have unknown : oneCell.table.columnNamed? "zz" = none := by
    rw [added]
    exact Array.findIdx?_empty
  -- The write to a new name is refused after the column was added.
  have byName : Command.ofLine "set 100000000 zz x" = .ok (.set 100000000 (.name "zz") "x") := rfl
  have adds : oneCell.AddsRejectedColumn "set 100000000 zz x" 100000000 "zz" := by
    refine ⟨"x", byName, unknown, ?_, ?_, ?_⟩
    · rw [columns]
      decide
    · rw [rows]
      decide
    · rw [columns]
      decide
  have few : (Text.words "set 100000000 zz x").length ≤ Capacity.maxSlots := by decide +kernel
  have left := (execute_error_eq_self_unless_column_added valid ["add a"] few).2 _ _ adds
  -- The same write to the column that is there is refused and changes nothing.
  have byIndex : Command.ofLine "set 100000000 0 x" = .ok (.set 100000000 (.index 0) "x") := rfl
  have large : ¬ oneCell.mayHold 100000000 0 := by
    rw [mayHold_iff h, rows, columns]
    decide
  have refused : (oneCell.execute "set 100000000 0 x").1 = .error (.tooLarge 100000000 0) := by
    rw [execute_of_read _ byIndex]
    show (oneCell.setCell 100000000 (.index 0) "x").1 = _
    unfold setCell columnOrNew
    dsimp only
    rw [if_neg large]
  have few' : (Text.words "set 100000000 0 x").length ≤ Capacity.maxSlots := by decide +kernel
  have kept := (execute_error_eq_self_unless_column_added valid ["add a"] few').1 _ refused
  refine ⟨adds, left.2.2.2.1, kept fun row text found => ?_⟩
  obtain ⟨value, named, -⟩ := found
  rw [byIndex] at named
  cases named

end Session

end Tabular
