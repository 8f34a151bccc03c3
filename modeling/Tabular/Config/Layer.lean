import Tabular.Binary64

/-!
# Layers of a configuration

A source of settings is a layer: for each section, what the source says about it. Layers are put
over each other, and the upper one wins for every setting that both give. Each value keeps its
origin, so that an error can name it.
-/

namespace Tabular.Config

/-- The start of the names of the environment variables that hold settings. -/
def variablePrefix : String := "GRIDTABLE_"

/-- Where a value comes from. -/
inductive Origin
  /-- A TOML text. -/
  | text
  /-- A TOML file. -/
  | file (name : String)
  /-- The environment variables. -/
  | environment
  /-- The defaults, which are never refused. -/
  | defaults
deriving Repr, DecidableEq

/-- The description of an origin. -/
def Origin.description : Origin → String
  | text => "TOML source string"
  | file name => name ++ " TOML file"
  | environment => "`" ++ variablePrefix ++ "` environment variable(s)"
  | defaults => "defaults"

/-- A value that is given for a setting, of any kind. -/
inductive Given
  | text (s : String)
  | signed (n : Int)
  | unsigned (n : Nat)
  | float (x : Binary64)
  | bool (b : Bool)
  | list
  | table
deriving Repr, DecidableEq

/-- What a source says about a section. -/
inductive Section
  /-- A table of settings. The first entry of a name counts. -/
  | table (entries : List (String × Given × Origin))
  /-- A list of settings in their order. -/
  | list (items : List Given) (origin : Origin)
  /-- Something else, which is no section. -/
  | single (value : Given) (origin : Origin)
deriving Repr, DecidableEq

/-- A table is put over a table entry by entry. Otherwise the lower section does not count. -/
def Section.overlay : Section → Section → Section
  | table upper, table lower => table (upper ++ lower)
  | upper, _ => upper

/-- What a source says about the sections. -/
structure Layer where
  storage : Option Section := none
  logging : Option Section := none
deriving Repr, DecidableEq

namespace Layer

/-- A section that may be missing over another. -/
def overlaySection : Option Section → Option Section → Option Section
  | some upper, some lower => some (upper.overlay lower)
  | upper, lower => upper.or lower

/-- A layer over another. -/
def overlay (upper lower : Layer) : Layer where
  storage := overlaySection upper.storage lower.storage
  logging := overlaySection upper.logging lower.logging

/-- The layer that speaks of one section only, or of none if the name is not known. -/
def ofSection (name : String) (content : Section) : Layer :=
  if name = "storage" then { storage := some content }
  else if name = "logging" then { logging := some content }
  else {}

end Layer

end Tabular.Config
