import Tabular.Config.Basic
import Tabular.Config.VariableValue

/-!
# Settings in environment variables

A variable with the right prefix holds a setting: its name is the way to the setting, with double
underscores between the names. Names may be in capital or small letters.
-/

namespace Tabular.Config

/-- A value of a variable as it is given for a setting. -/
def Given.ofVariable : VariableValue → Given
  | .text s => text s
  | .signed n => signed n
  | .unsigned n => unsigned n
  | .float x => float x
  | .bool b => bool b
  | .list _ => list
  | .table _ => table

/-- A value of a variable as a section. Of several entries of a name, the last one counts. -/
def Section.ofVariable : VariableValue → Section
  | .table entries =>
    table (entries.reverse.map fun (name, value) => (name, .ofVariable value, .environment))
  | .list items => list (items.map .ofVariable) .environment
  | value => single (.ofVariable value) .environment

/-! ## Variables -/

/-- Cuts characters at every double underscore. -/
def splitAtDoubles : List Char → List (List Char)
  | [] => [[]]
  | '_' :: '_' :: cs => [] :: splitAtDoubles cs
  | c :: cs =>
    match splitAtDoubles cs with
    | [] => [[c]]
    | part :: parts => (c :: part) :: parts

/-- The way that the name of a variable stands for, in small letters: its parts between double
underscores or points, behind the prefix and without the blanks around it. A variable without the
prefix or with an empty part has none. -/
def variablePath? (name : String) : Option (List String) :=
  let name := (Text.trim name).toLower.toList
  let start := variablePrefix.toLower.toList
  if start.isPrefixOf name then
    let way := Text.trim (.ofList (name.drop start.length))
    let parts := (splitAtDoubles way.toList).flatMap fun part => (String.ofList part).splitOn "."
    if parts.any String.isEmpty then none else some parts
  else none

/-- The layer of a value at the end of a way. -/
def Layer.ofPath (value : VariableValue) : List String → Layer
  | [] => {}
  | [sectionName] => .ofSection sectionName (.ofVariable value)
  | [sectionName, setting] =>
    .ofSection sectionName (.table [(setting, .ofVariable value, .environment)])
  | sectionName :: setting :: _ =>
    .ofSection sectionName (.table [(setting, .table, .environment)])

/-- The layer of a variable. A variable with another name is not read. -/
def Layer.ofVariable (name text : String) : Except ConfigError Layer :=
  match variablePath? name with
  | some path => do return .ofPath (← (VariableValue.ofText text).mapError .cut) path
  | none => .ok {}

/-- The layer of the variables, of which later ones are over earlier ones. -/
def Layer.ofVariables (environment : List (String × String)) : Except ConfigError Layer :=
  environment.foldlM (fun lower (name, text) => do return (← ofVariable name text).overlay lower) {}

end Tabular.Config
