import Tabular.Table.View
import Tabular.Session.Command
import Tabular.Session.Output

/-!
# Sessions

A session is a table of texts and an output format, changed by commands. A command returns its
outcome beside the session as it is then: a command that fails keeps what it did before.
-/

namespace Tabular

/-- The table that commands work on and the format in which they show their outcome. -/
structure Session where
  table : Table String
  format : OutputFormat := .table

namespace Session

/-- What a command leads to. -/
abbrev Result := Except CommandError Output × Session

/-- A session over an empty table with room for the requested rows and columns. -/
def withCapacity (rows columns : Nat) : Session := { table := .withCapacity rows columns }

/-- The bytes of a cell, which holds a text or nothing. -/
def cellBytes : Nat := 24

/-- Constructs a session for requested capacities, which need not have been checked. -/
def construct (rows columns : Nat) : Except Store.ConstructionFault Session :=
  (Store.construct cellBytes rows columns).map fun store => { table := .ofStore store }

/-! ## Columns -/

/-- The index of a column, by which a name must be known. -/
def column (s : Session) : ColumnRef → Except CommandError Nat
  | .index column => .ok column
  | .name text =>
    match s.table.requireColumn text with
    | .ok column => .ok column
    | .error e => .error (.table e)

/-- The index of a column. An unknown name becomes that of a new column. -/
def columnOrNew (s : Session) : ColumnRef → Except CommandError Nat × Session
  | .index column => (.ok column, s)
  | .name text =>
    match s.table.columnNamed? text with
    | some column => (.ok column, s)
    | none =>
      let column := s.table.columnCount
      match s.table.setHeader column text with
      | (.ok (), table) => (.ok column, { s with table })
      | (.error e, table) => (.error (.table e), { s with table })

/-- The name that is shown for a column. -/
def shownHeader (column : Nat) (header : Option String) : String :=
  header.getD ("#" ++ toString column)

/-- The names that are shown for the columns. -/
def shownHeaders (s : Session) : List String :=
  s.table.columns.map fun column => shownHeader column.index column.header

/-! ## Steps of commands -/

/-- Shows rows of the table, without those that it does not have. -/
def showRows (s : Session) (rows : List Nat) : Output :=
  .rows s.shownHeaders <| rows.filterMap fun index =>
    match s.table.row index with
    | .ok row => some { index := row.index, cells := row.toList }
    | .error _ => none

/-- Whether the table may be grown to hold a cell. A cell that it holds already may always be
written. -/
def mayHold (s : Session) (row column : Nat) : Bool :=
  let rows := s.table.rowCount
  let columns := s.table.columnCount
  (row < rows && column < columns) ||
    match Size.mul? (max rows (Size.next row)) (max columns (Size.next column)) with
    | some cells => cells ≤ maxCells
    | none => false

/-- Writes a cell and shows what it held. -/
def setCell (s : Session) (row : Nat) (column : ColumnRef) (value : String) : Result :=
  match s.columnOrNew column with
  | (.error e, s) => (.error e, s)
  | (.ok column, s) =>
    if s.mayHold row column then
      let (old, table) := s.table.set row column value
      (.ok (.cell row column old), { s with table })
    else (.error (.tooLarge row column), s)

/-- Appends a column and names it. -/
def addColumn (s : Session) (name : String) (values : List String) : Result :=
  match s.table.pushColumn values with
  | (.error e, table) => (.error (.table e), { s with table })
  | (.ok column, table) =>
    match table.setHeader column name with
    | (.ok (), table) => (.ok (.message ("column " ++ toString column)), { s with table })
    | (.error e, table) => (.error (.table e), { s with table })

/-- Removes a column and tells how many cells it held. -/
def removeColumn (s : Session) (column : Nat) : Result :=
  let header := shownHeader column (s.table.header column)
  match s.table.removeColumn column with
  | (.error e, table) => (.error (.table e), { s with table })
  | (.ok cells, table) =>
    let count := (cells.filter Option.isSome).length
    (.ok (.message ("removed column " ++ header ++ " (" ++ toString count ++ " cells)")),
      { s with table })

/-- The outcome of testing the cells of a column, through an index of the column where that answers
the test. -/
def query (s : Session) (column : Nat) (check : CellTest String) : Except CommandError Output :=
  match s.table.indexColumn column with
  | .error e => .error (.table e)
  | .ok index =>
    let condition := Condition.test column check
    .ok (s.showRows ((index.select? column condition).getD (s.table.select condition)))

/-- The outcome of a command on one column that leaves the session as it is. -/
def onColumn (s : Session) (column : ColumnRef) (outcome : Nat → Except CommandError Output) :
    Result :=
  match s.column column with
  | .error e => (.error e, s)
  | .ok column => (outcome column, s)

/-- The refusal of a table as that of a command. -/
def lift : Except TableError α → Except CommandError α
  | .ok a => .ok a
  | .error e => .error (.table e)

/-! ## Commands -/

/-- Runs one command. -/
def run (s : Session) : Command → Result
  | .nothing => (.ok (.message ""), s)
  | .quit => (.ok .quit, s)
  | .help => (.ok .help, s)
  | .format none => (.ok (.message ("format is " ++ s.format.name)), s)
  | .format (some format) => (.ok (.message ("format: " ++ format.name)), { s with format })
  | .headers names =>
    match s.table.setHeaders 0 names with
    | (.ok (), table) =>
      (.ok (.message (toString names.length ++ " headers set")), { s with table })
    | (.error e, table) => (.error (.table e), { s with table })
  | .add values =>
    let (result, table) := s.table.pushRow values
    (lift (result.map fun row => .message ("row " ++ toString row)), { s with table })
  | .insert row values =>
    let (result, table) := s.table.insertRow row values
    (lift (result.map fun row => .message ("row " ++ toString row)), { s with table })
  | .addColumn name values => s.addColumn name values
  | .set row column value => s.setCell row column value
  | .unset row column =>
    match s.column column with
    | .error e => (.error e, s)
    | .ok column =>
      let (old, table) := s.table.unset row column
      (.ok (.cell row column old), { s with table })
  | .get row column =>
    s.onColumn column fun column => lift ((s.table.get row column).map (.cell row column))
  | .row row => (lift ((s.table.row row).map fun view => s.showRows [view.index]), s)
  | .column column =>
    s.onColumn column fun column => lift <| (s.table.column column).map fun view =>
      .rows [shownHeader view.index view.header]
        (view.cells.zipIdx.map fun (cell, index) => { index, cells := [cell] })
  | .removeRow row =>
    match s.table.removeRow row with
    | (.error e, table) => (.error (.table e), { s with table })
    | (.ok cells, table) =>
      let s := { s with table }
      (.ok (.rows s.shownHeaders [{ index := row, cells }]), s)
  | .removeColumn column =>
    match s.column column with
    | .error e => (.error e, s)
    | .ok column => s.removeColumn column
  | .list limit =>
    let count := match limit with
      | none => s.table.rowCount
      | some limit => min s.table.rowCount limit
    (.ok (s.showRows (List.range count)), s)
  | .stats =>
    (.ok (.stats s.table.rowCount s.table.columnCount s.table.cellCount s.table.store.rowCapacity
      s.table.store.columnCapacity), s)
  | .clear => (.ok (.message "table cleared"), { s with table := s.table.clear })
  | .query column check => s.onColumn column fun column => s.query column check

/-- Runs a command line. -/
def execute (s : Session) (line : String) : Result :=
  match Command.ofLine line with
  | .ok command => s.run command
  | .error e => (.error e, s)

end Session

end Tabular
