import Tabular.BoxTable
import Tabular.Json
import Tabular.Session.Format

/-!
# Outcomes of commands

What a command shows when it succeeds, as a JSON document and as text. Colours are escape sequences
of a terminal, and they are used only when asked for.
-/

namespace Tabular

/-- One row that a command shows. -/
structure RowOutput where
  index : Nat
  cells : List (Option String)
deriving Repr, DecidableEq

/-- What a command shows. -/
inductive Output
  | message (text : String)
  | cell (row column : Nat) (value : Option String)
  | rows (headers : List String) (lines : List RowOutput)
  | stats (rowCount columnCount cellCount rowCapacity columnCapacity : Nat)
  | help
  | quit
deriving Repr, DecidableEq

namespace Output

/-- The fields of a record of the given kind. -/
def record (kind : String) (fields : List (String × Json)) : Json :=
  .record (("kind", .text kind) :: fields)

/-- The document of a row. -/
def rowDocument (row : RowOutput) : Json :=
  .record [("index", .count row.index), ("cells", .list (row.cells.map (.ofOption .text)))]

/-- The document of an outcome. -/
def document : Output → Json
  | message text => record "message" [("text", .text text)]
  | cell row column value =>
    record "cell" [("row", .count row), ("column", .count column), ("value", .ofOption .text value)]
  | rows headers lines =>
    record "rows" [("headers", .list (headers.map .text)), ("rows", .list (lines.map rowDocument))]
  | stats rowCount columnCount cellCount rowCapacity columnCapacity =>
    record "stats" [("rows", .count rowCount), ("columns", .count columnCount),
      ("cells", .count cellCount), ("row_capacity", .count rowCapacity),
      ("column_capacity", .count columnCapacity)]
  | help => record "help" []
  | quit => record "quit" []

/-- A text in styles of the terminal, given by their numbers. -/
def styled (color : Bool) (styles : List Nat) (text : String) : String :=
  if color then
    "\x1b[" ++ String.intercalate ";" (styles.map toString) ++ "m" ++ text ++ "\x1b[0m"
  else text

/-- The style of what stands out. -/
def bold : Nat := 1

/-- The style of what is missing. -/
def dimmed : Nat := 2

/-- The style of titles, beside `bold`. -/
def underlined : Nat := 4

/-- The colour of errors. -/
def red : Nat := 31

/-- The colour of commands. -/
def yellow : Nat := 33

/-- The colour of the prompt. -/
def blue : Nat := 34

/-- The colour of labels. -/
def cyan : Nat := 36

/-- Stands for an empty cell. -/
def emptyMark : String := "-"

/-- The text of an outcome in the table format. -/
def plainText (color : Bool) : Output → String
  | message text => text
  | cell row column value =>
    "(" ++ toString row ++ ", " ++ toString column ++ ") = "
      ++ value.getD (styled color [dimmed] emptyMark)
  | rows _ [] => styled color [dimmed] "No rows."
  | rows headers (line :: lines) =>
    BoxTable.draw ("row" :: headers) ((line :: lines).map fun line =>
      toString line.index :: line.cells.map fun content => content.getD emptyMark)
  | stats rowCount columnCount cellCount rowCapacity columnCapacity =>
    styled color [cyan] "Size:" ++ " " ++ toString rowCount ++ " x " ++ toString columnCount ++ " ("
      ++ toString cellCount ++ " cells)\n" ++ styled color [cyan] "Capacity:" ++ " "
      ++ toString rowCapacity ++ " row slots, " ++ toString columnCapacity ++ " column slots"
  | help | quit => ""

/-- The text of an outcome. -/
def render (output : Output) (format : OutputFormat) (color : Bool) : String :=
  match format with
  | .json => output.document.pretty
  | .table => output.plainText color

/-! ## The command reference -/

/-- A line of the command reference. The explanation starts after so many blanks. -/
structure HelpLine where
  usage : String
  blanks : Nat
  explanation : String
deriving Repr, DecidableEq

/-- The commands of the reference. -/
def helpLines : List HelpLine :=
  [⟨"headers <name>...", 12, "Name columns 0..n"⟩,
    ⟨"add <values>...", 18, "Append a row"⟩,
    ⟨"insert <row> <values>...", 7, "Insert a row before <row>"⟩,
    ⟨"addcol <name> <values>...", 6, "Append a named column"⟩,
    ⟨"set <row> <col> <value>", 5, "Write a cell (grows the table)"⟩,
    ⟨"unset <row> <col>", 13, "Clear a cell"⟩,
    ⟨"get <row> <col>", 15, "Read a cell"⟩,
    ⟨"row <row> | col <col>", 17, "Show one row / column"⟩,
    ⟨"rmrow <row> | rmcol <col>", 9, "Remove a row / column"⟩,
    ⟨"show [limit]", 18, "Show rows"⟩,
    ⟨"stats", 23, "Size and capacity"⟩,
    ⟨"clear", 23, "Remove everything"⟩,
    ⟨"eq|gt|lt <col> <value>", 5, "Indexed lookups"⟩,
    ⟨"between <col> <low> <high>", 3, "Inclusive range lookup"⟩,
    ⟨".format table|json", 10, "Set output format"⟩,
    ⟨".help", 23, "Show this help"⟩,
    ⟨".quit", 23, "Exit the REPL"⟩]

/-- The text of a line of the reference. -/
def HelpLine.text (color : Bool) (line : HelpLine) : String :=
  "  " ++ styled color [yellow] line.usage ++ String.ofList (List.replicate line.blanks ' ')
    ++ line.explanation

/-- The command reference. -/
def helpText (color : Bool) : String := String.intercalate "\n" <|
  ["", styled color [bold, underlined] "GridTable REPL Commands", ""]
    ++ helpLines.map (HelpLine.text color)
    ++ ["", "Columns are given by index or header name; values compare as text.", "", ""]

/-- What is printed for an outcome. -/
def printed (output : Output) (format : OutputFormat) (color : Bool) : String :=
  match output with
  | quit => ""
  | help => helpText color
  | _ => output.render format color ++ "\n"

end Output

end Tabular
