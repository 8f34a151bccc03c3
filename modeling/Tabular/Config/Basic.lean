import Tabular.Config.Error

/-!
# Configurations

A configuration gives the capacities with which a table starts, and what is logged. It need not be
valid: `validate` tells whether it is. A configuration is made from a layer of settings over the
defaults.
-/

namespace Tabular

/-- A configuration. -/
structure Config where
  rowCapacity : Nat := 8
  columnCapacity : Nat := 8
  level : String := "warn"
  format : String := "text"
deriving Repr, DecidableEq

namespace Config

/-! ## Validity -/

/-- A capacity must be positive and not too large. -/
def checkCapacity (setting : Setting) (value : Nat) : Except ConfigError Unit :=
  if value = 0 ∨ maxCapacity < value then .error (.capacityOutOfRange setting value) else .ok ()

/-- A word must be one of the permitted ones. -/
def checkWord (setting : Setting) (word : String) : Except ConfigError Unit :=
  if word ∈ setting.words then .ok () else .error (.unknownWord setting word)

/-- Checks the settings in order, up to the first that is not valid. -/
def validate (c : Config) : Except ConfigError Unit := do
  checkCapacity .rowCapacity c.rowCapacity
  checkCapacity .columnCapacity c.columnCapacity
  checkWord .level c.level
  checkWord .format c.format

/-! ## Settings of a layer -/

/-- The size that is given at a place. -/
def readSize (place : Place) : Given → Except ConfigError Nat
  | .unsigned n => .ok n
  | .signed n => if 0 ≤ n then .ok n.toNat else .error (.negative n place)
  | found => .error (.wrongKind found .size place)

/-- The text that is given at a place. -/
def readText (place : Place) : Given → Except ConfigError String
  | .text s => .ok s
  | found => .error (.wrongKind found .text place)

/-- Reads a setting from the entries of its section, or takes its default. -/
def readEntry (read : Place → Given → Except ConfigError α) (setting : Setting) (default : α)
    (entries : List (String × Given × Origin)) : Except ConfigError α :=
  match entries.lookup setting.name with
  | none => .ok default
  | some (value, origin) => read { path := [setting.sectionName, setting.name], origin } value

/-- Reads the setting at a position of a section that is given as a list, or takes its default. -/
def readItem (read : Place → Given → Except ConfigError α) (setting : Setting) (default : α)
    (items : List Given) (origin : Origin) (position : Nat) : Except ConfigError α :=
  match items[position]? with
  | none => .ok default
  | some value => read { path := [setting.sectionName, toString position], origin } value

/-- Changes the storage settings of a configuration. In a table, the settings are read in the order
of their names. -/
def readStorage (c : Config) : Option Section → Except ConfigError Config
  | none => .ok c
  | some (.single value origin) =>
    .error (.wrongKind value .storage { path := ["storage"], origin })
  | some (.table entries) => do
    let columnCapacity ← readEntry readSize .columnCapacity c.columnCapacity entries
    let rowCapacity ← readEntry readSize .rowCapacity c.rowCapacity entries
    return { c with rowCapacity, columnCapacity }
  | some (.list items origin) => do
    let rowCapacity ← readItem readSize .rowCapacity c.rowCapacity items origin 0
    let columnCapacity ← readItem readSize .columnCapacity c.columnCapacity items origin 1
    return { c with rowCapacity, columnCapacity }

/-- Changes the logging settings of a configuration. In a table, the settings are read in the order
of their names. -/
def readLogging (c : Config) : Option Section → Except ConfigError Config
  | none => .ok c
  | some (.single value origin) =>
    .error (.wrongKind value .logging { path := ["logging"], origin })
  | some (.table entries) => do
    let format ← readEntry readText .format c.format entries
    let level ← readEntry readText .level c.level entries
    return { c with level, format }
  | some (.list items origin) => do
    let level ← readItem readText .level c.level items origin 0
    let format ← readItem readText .format c.format items origin 1
    return { c with level, format }

/-- The configuration of a layer over the defaults. The sections are read in the order of their
names. -/
def ofLayer (layer : Layer) : Except ConfigError Config := do
  let c ← readLogging {} layer.logging
  readStorage c layer.storage

end Config

end Tabular
