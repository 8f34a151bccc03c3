import Tabular.Size
import Tabular.Text.Blank
import Tabular.Table.Condition
import Tabular.Session.Format

/-!
# Commands

A command line is a command word and arguments, separated by blanks. The command word may be in
capital or small letters. Reading a line needs no table: a column is kept as it was given, by index
or by name, and is resolved when the command runs.
-/

namespace Tabular

/-- A column given by its index or by its name. -/
inductive ColumnRef
  | index (column : Nat)
  | name (text : String)
deriving Repr, DecidableEq

/-- A text that reads as a size is an index, and any other text is a name. -/
def ColumnRef.ofText (text : String) : ColumnRef :=
  match Size.ofText? text with
  | some column => index column
  | none => name text

/-- One command. -/
inductive Command
  /-- An empty line. -/
  | nothing
  | quit
  | help
  /-- Shows the output format, or changes it. -/
  | format (format : Option OutputFormat)
  | headers (names : List String)
  | add (values : List String)
  | insert (row : Nat) (values : List String)
  | addColumn (name : String) (values : List String)
  | set (row : Nat) (column : ColumnRef) (value : String)
  | unset (row : Nat) (column : ColumnRef)
  | get (row : Nat) (column : ColumnRef)
  | row (row : Nat)
  | column (column : ColumnRef)
  | removeRow (row : Nat)
  | removeColumn (column : ColumnRef)
  /-- Shows the first rows, or all. -/
  | list (limit : Option Nat)
  | stats
  | clear
  | query (column : ColumnRef) (check : CellTest String)
deriving Repr, DecidableEq

/-- The command words. -/
inductive Verb
  | quit | help | format | headers | add | insert | addColumn | set | unset | get | row | column
  | removeRow | removeColumn | list | stats | clear | equal | above | below | between
deriving Repr, DecidableEq

/-- Why a command failed. -/
inductive CommandError
  /-- The command word, in lower case, is not known. -/
  | unknown (word : String)
  /-- The arguments do not fit the command. -/
  | usage (verb : Verb)
  /-- The argument for a row is not a size. -/
  | invalidRow (text : String)
  /-- Writing the cell would make the table too large. -/
  | tooLarge (row column : Nat)
  /-- The table refused. -/
  | table (error : TableError)
deriving Repr, DecidableEq

/-- The most cells to which writing a cell may grow a table. -/
def maxCells : Nat := 0x100000

namespace Verb

/-- The words for the verbs. -/
def spellings : List (String × Verb) :=
  [(".quit", quit), (".exit", quit), (".q", quit), (".help", help), (".h", help),
    (".format", format), ("headers", headers), ("add", add), ("insert", insert),
    ("addcol", addColumn), ("set", set), ("unset", unset), ("get", get), ("row", row),
    ("col", column), ("rmrow", removeRow), ("rmcol", removeColumn), ("show", list),
    ("stats", stats), ("clear", clear), ("eq", equal), ("gt", above), ("lt", below),
    ("between", between)]

/-- The verb for a word in lower case. -/
def ofWord? (word : String) : Option Verb := spellings.lookup word

/-- How a command is written. -/
def usage : Verb → String
  | quit => ".quit"
  | help => ".help"
  | format => ".format table|json"
  | headers => "headers <name>..."
  | add => "add <values>..."
  | insert => "insert <row> [values...]"
  | addColumn => "addcol <name> [values...]"
  | set => "set <row> <column> <value>"
  | unset => "unset <row> <column>"
  | get => "get <row> <column>"
  | row => "row <row>"
  | column => "col <column>"
  | removeRow => "rmrow <row>"
  | removeColumn => "rmcol <column>"
  | list => "show [limit]"
  | stats => "stats"
  | clear => "clear"
  | equal | above | below => "eq|gt|lt <column> <value>"
  | between => "between <column> <low> <high>"

end Verb

namespace CommandError

/-- The text of an error. -/
def message : CommandError → String
  | unknown word => "Unknown command: " ++ word ++ " (type .help for commands)"
  | usage verb => "Usage: " ++ verb.usage
  | invalidRow text => "Invalid row index '" ++ text ++ "'"
  | tooLarge row column =>
    "Cell (" ++ toString row ++ ", " ++ toString column ++ ") would grow the table past "
      ++ toString maxCells ++ " cells"
  | table error => error.message

end CommandError

namespace Command

/-- Reads the argument for a row. -/
def rowArgument (text : String) : Except CommandError Nat :=
  match Size.ofText? text with
  | some n => .ok n
  | none => .error (.invalidRow text)

/-- The command of a verb and its arguments. -/
def ofVerb (verb : Verb) (arguments : List String) : Except CommandError Command :=
  match verb, arguments with
  | .quit, _ => .ok quit
  | .help, _ => .ok help
  | .format, [] => .ok (format none)
  | .format, [name] =>
    match OutputFormat.ofName name with
    | .ok f => .ok (format (some f))
    | .error _ => .error (.usage .format)
  | .headers, name :: names => .ok (headers (name :: names))
  | .add, values => .ok (add values)
  | .insert, r :: values => (rowArgument r).map fun r => insert r values
  | .addColumn, name :: values => .ok (addColumn name values)
  | .set, [r, c, value] => (rowArgument r).map fun r => set r (.ofText c) value
  | .unset, [r, c] => (rowArgument r).map fun r => unset r (.ofText c)
  | .get, [r, c] => (rowArgument r).map fun r => get r (.ofText c)
  | .row, [r] => (rowArgument r).map row
  | .column, [c] => .ok (column (.ofText c))
  | .removeRow, [r] => (rowArgument r).map removeRow
  | .removeColumn, [c] => .ok (removeColumn (.ofText c))
  | .list, [] => .ok (list none)
  | .list, [limit] => (rowArgument limit).map fun n => list (some n)
  | .stats, _ => .ok stats
  | .clear, _ => .ok clear
  | .equal, [c, value] => .ok (query (.ofText c) (.equal value))
  | .above, [c, value] => .ok (query (.ofText c) (.above value))
  | .below, [c, value] => .ok (query (.ofText c) (.below value))
  | .between, [c, low, high] => .ok (query (.ofText c) (.between low high))
  | verb, _ => .error (.usage verb)

/-- Reads a command line. -/
def ofLine (line : String) : Except CommandError Command :=
  match Text.words line with
  | [] => .ok nothing
  | word :: arguments =>
    let word := Text.lower word
    match Verb.ofWord? word with
    | some verb => ofVerb verb arguments
    | none => .error (.unknown word)

end Command

end Tabular
