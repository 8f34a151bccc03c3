import Tabular.Toml.Text
import Tabular.Toml.Value

/-!
# Writing sections

The documents that are written have sections of integers and texts. Every entry stands on a line of
its own below the header of its section, and there is a blank line between two sections. A document
is not written at all when one of its integers is too large.
-/

namespace Tabular.Toml

/-- A value that is written. -/
inductive Plain
  | integer (n : Nat)
  | text (s : String)
deriving Repr, DecidableEq

/-- The sections of a document with their entries. -/
abbrev Sections := List (String × List (String × Plain))

/-- The largest integer of a document. -/
def maxInteger : Nat := 0x7FFFFFFFFFFFFFFF

namespace Plain

/-- The value as it stands in a table. -/
def value : Plain → Value
  | integer n => .integer n
  | text s => .text s

/-- Whether a document can have the value. -/
def isWritable : Plain → Bool
  | integer n => n ≤ maxInteger
  | text _ => true

/-- The value as it is written. -/
def write : Plain → String
  | integer n => toString n
  | text s => .ofList (writeText s.toList)

end Plain

namespace Sections

/-- The table of the entries of a section. -/
def entryTable (entries : List (String × Plain)) : Table :=
  entries.map fun (name, plain) => (name, plain.value)

/-- The table of the sections. -/
def table (sections : Sections) : Table :=
  sections.map fun (name, entries) => (name, .table .header (entryTable entries))

/-- Whether a document can have all the values. -/
def isWritable (sections : Sections) : Bool :=
  sections.all fun (_, entries) => entries.all fun (_, plain) => plain.isWritable

/-- The lines of entries, of which no name needs quotes. -/
def writeEntries (entries : List (String × Plain)) : String :=
  String.join (entries.map fun (name, plain) => name ++ " = " ++ plain.write ++ "\n")

/-- The lines of a section, whose name needs no quotes. -/
def writeSection (name : String) (entries : List (String × Plain)) : String :=
  "[" ++ name ++ "]\n" ++ writeEntries entries

/-- The text of a document, or the reason why it has none. -/
def write (sections : Sections) : Except String String :=
  if sections.isWritable then
    .ok (String.intercalate "\n" (sections.map fun (name, entries) => writeSection name entries))
  else .error "out-of-range value for u64 type"

end Sections

end Tabular.Toml
