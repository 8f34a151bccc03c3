import Tabular.Binary64

/-!
# TOML values and tables

The values of a TOML document, and how a table grows while a document is read. Who may add to a
table depends on how it came to be: a table in braces is closed, a table of a header is filled by
the lines below the header, and the tables on the way to a header or to a dotted key appear by
themselves.
-/

namespace Tabular.Toml

/-- How a table came to be. -/
inductive TableForm
  /-- Between braces. -/
  | inline
  /-- By a header of its own. -/
  | header
  /-- On the way to the table of a header. -/
  | implied
  /-- On the way to the last part of a dotted key. -/
  | dotted
deriving Repr, DecidableEq

/-- A value. -/
inductive Value
  | text (s : String)
  | integer (n : Int)
  | float (x : Binary64)
  | bool (b : Bool)
  /-- A date, a time or both. -/
  | moment
  /-- A list between brackets. -/
  | list (items : List Value)
  /-- A list of tables that grows by headers, with its last table apart. -/
  | tables (earlier : List (List (String × Value))) (last : List (String × Value))
  | table (form : TableForm) (entries : List (String × Value))

/-- The entries of a table. -/
abbrev Table := List (String × Value)

/-- A key: the tables on the way and the name in the last of them. -/
structure Key where
  parents : List String
  name : String
deriving Repr, DecidableEq

/-- The way to the table that a key names. -/
def Key.path (key : Key) : List String := key.parents ++ [key.name]

namespace Table

/-- Adds an entry, or replaces the value of the one that is there. -/
def put (name : String) (value : Value) : Table → Table
  | [] => [(name, value)]
  | (other, old) :: entries =>
    if other = name then (name, value) :: entries else (other, old) :: put name value entries

/-- Changes the table at the end of a way, which goes through tables and through the last table of a
list. What is missing on the way becomes an implied table. -/
def within (change : Table → Option Table) : List String → Table → Option Table
  | [], t => change t
  | name :: path, t =>
    match t.lookup name with
    | none => (within change path []).map fun inner => t.put name (.table .implied inner)
    | some (.table .inline _) => none
    | some (.table form inner) =>
      (within change path inner).map fun inner => t.put name (.table form inner)
    | some (.tables earlier last) =>
      (within change path last).map fun last => t.put name (.tables earlier last)
    | some _ => none

/-- Gives a table its header, unless the name is taken by more than an implied table. -/
def define (name : String) (t : Table) : Option Table :=
  match t.lookup name with
  | none => some (t.put name (.table .header []))
  | some (.table .implied inner) => some (t.put name (.table .header inner))
  | some _ => none

/-- Starts a list of tables or adds an empty table to it. -/
def append (name : String) (t : Table) : Option Table :=
  match t.lookup name with
  | none => some (t.put name (.tables [] []))
  | some (.tables earlier last) => some (t.put name (.tables (earlier ++ [last]) []))
  | some _ => none

/-- Adds an entry at the end of the way of a dotted key. The name must be new. The tables on the way
are made when they are missing; an implied table or a list of tables may be passed through but not
added to. -/
def assign (name : String) (value : Value) : List String → Table → Option Table
  | [], t => if (t.lookup name).isSome then none else some (t.put name value)
  | parent :: path, t =>
    match t.lookup parent with
    | none => (assign name value path []).map fun inner => t.put parent (.table .dotted inner)
    | some (.table .dotted inner) =>
      (assign name value path inner).map fun inner => t.put parent (.table .dotted inner)
    | some (.table .implied inner) =>
      if path.isEmpty then none
      else (assign name value path inner).map fun inner => t.put parent (.table .implied inner)
    | some (.tables earlier last) =>
      if path.isEmpty then none
      else (assign name value path last).map fun last => t.put parent (.tables earlier last)
    | some _ => none

/-- The table of the entries between braces. -/
def ofEntries? (entries : List (Key × Value)) : Option Table :=
  entries.foldlM (fun t (key, value) => t.assign key.name value key.parents) []

end Table

end Tabular.Toml
