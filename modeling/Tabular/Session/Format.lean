import Tabular.Text.LowerCase

/-!
# Output formats

The two forms in which a session shows the outcome of a command.
-/

namespace Tabular

/-- How the outcome of a command is shown. -/
inductive OutputFormat
  /-- Messages as they are and rows in boxed tables. -/
  | table
  | json
deriving Repr, DecidableEq

/-- A name that is not that of an output format, in lower case. -/
structure UnknownFormat where
  name : String
deriving Repr, DecidableEq

/-- The text of the error. -/
def UnknownFormat.message (e : UnknownFormat) : String := "unknown format '" ++ e.name ++ "'"

namespace OutputFormat

/-- The name of a format. -/
def name : OutputFormat → String
  | table => "table"
  | json => "json"

/-- The format with a name, in capital or small letters. -/
def ofName (text : String) : Except UnknownFormat OutputFormat :=
  let text := Text.lower text
  if text = table.name then .ok table
  else if text = json.name then .ok json
  else .error ⟨text⟩

end OutputFormat

end Tabular
