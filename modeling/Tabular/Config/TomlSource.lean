import Tabular.Config.Error
import Tabular.Toml.Document

/-!
# Settings in TOML documents

A TOML document says something about the sections that it has tables for. Names that are no settings
are passed over when a configuration is made.
-/

namespace Tabular.Config

/-- The entry whose value stands for the whole table that has it. -/
def valueEntry : String := "___figment_value_value"

/-- The entry that no table below the top may have. -/
def reservedEntry : String := "___figment_value_id"

/-- A table below the top, or the value of its entry that stands for all of it. -/
def standingFor (entries : Toml.Table) : Toml.Value :=
  (entries.lookup valueEntry).getD (.table .header entries)

mutual

/-- A value in which every table stands for what it is meant to. It is `none` where a table has the
reserved entry. -/
def resolve : Toml.Value → Option Toml.Value
  | .table _ entries => (resolveEntries entries).map standingFor
  | .list items => (resolveItems items).map .list
  | .tables earlier last => do
    let earlier ← resolveTables earlier
    let last ← resolveEntries last
    return .list (earlier ++ [standingFor last])
  | value => some value

/-- The entries of a table with their values resolved. -/
def resolveEntries : List (String × Toml.Value) → Option Toml.Table
  | [] => some []
  | (name, value) :: entries => do
    if name = reservedEntry then none
    else return (name, ← resolve value) :: (← resolveEntries entries)

/-- The values of a list, resolved. -/
def resolveItems : List Toml.Value → Option (List Toml.Value)
  | [] => some []
  | item :: items => do return (← resolve item) :: (← resolveItems items)

/-- What the tables of a list stand for. -/
def resolveTables : List (List (String × Toml.Value)) → Option (List Toml.Value)
  | [] => some []
  | entries :: tables => do
    return standingFor (← resolveEntries entries) :: (← resolveTables tables)

end

/-- A document with the values of its entries resolved. At the top, no name is special. -/
def resolveDocument (document : Toml.Table) : Option Toml.Table :=
  document.mapM fun (name, value) => (resolve value).map fun value => (name, value)

/-- A value of a document as it is given for a setting. -/
def Given.ofToml : Toml.Value → Given
  | .text s => text s
  | .integer n => signed n
  | .float x => float x
  | .bool b => bool b
  | .list _ | .tables .. => list
  | .moment | .table .. => table

/-- A value of a document as a section. A moment is a table without settings. -/
def Section.ofToml (origin : Origin) : Toml.Value → Section
  | .table _ entries => table (entries.map fun (name, value) => (name, .ofToml value, origin))
  | .moment => table []
  | .list items => list (items.map .ofToml) origin
  | .tables earlier last => list ((earlier ++ [last]).map fun _ => .table) origin
  | value => single (.ofToml value) origin

/-- The layer of a document. -/
def Layer.ofToml (origin : Origin) (document : Toml.Table) : Layer where
  storage := (document.lookup "storage").map (.ofToml origin)
  logging := (document.lookup "logging").map (.ofToml origin)

/-- The layer of a text. -/
def Layer.ofTomlText (origin : Origin) (text : String) : Except ConfigError Layer :=
  match (Toml.Table.ofText? text).bind resolveDocument with
  | some document => .ok (.ofToml origin document)
  | none => .error .malformed

end Tabular.Config
