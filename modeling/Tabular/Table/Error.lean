/-!
# Table errors

What validated access to a table can refuse, with the code and the message of each refusal.
-/

namespace Tabular

/-- The two axes of a table. -/
inductive Line
  | row
  | column
deriving Repr, DecidableEq

/-- The word for one line of an axis. -/
def Line.name : Line → String
  | .row => "row"
  | .column => "column"

/-- Why a table refused an operation. -/
inductive TableError
  /-- A row index that is not below the number of rows. -/
  | rowOutOfBounds (index count : Nat)
  /-- A column index that is not below the number of columns. -/
  | columnOutOfBounds (index count : Nat)
  /-- No column has the name. -/
  | columnNotFound (name : String)
  /-- The axis has no slot for a new line. -/
  | slotUnavailable (line : Line)
deriving Repr, DecidableEq

namespace TableError

/-- The code of an error. -/
def code : TableError → String
  | rowOutOfBounds .. => "GRID-001"
  | columnOutOfBounds .. => "GRID-002"
  | columnNotFound .. => "GRID-003"
  | slotUnavailable .. => "GRID-004"

/-- An error is recoverable unless the axis is full. -/
def isRecoverable : TableError → Bool
  | slotUnavailable _ => false
  | _ => true

/-- The cause of an error in words. -/
def description : TableError → String
  | rowOutOfBounds index count =>
    "Row index " ++ toString index ++ " out of bounds for table with " ++ toString count ++ " rows"
  | columnOutOfBounds index count =>
    "Column index " ++ toString index ++ " out of bounds for table with " ++ toString count
      ++ " columns"
  | columnNotFound name => "Column '" ++ name ++ "' not found"
  | slotUnavailable line => "No free physical slot for new " ++ line.name

/-- The text of an error: its code in brackets and its description. -/
def message (e : TableError) : String := "[" ++ e.code ++ "] " ++ e.description

end TableError

end Tabular
