import Tabular.Config.Layer
import Tabular.Text.Bytes
import Tabular.Text.LowerCase
import Tabular.Text.Quoted

/-!
# Configuration errors

Why a configuration cannot be read or written, and why a configuration is not valid, with the
message of each error.
-/

namespace Tabular

namespace Config

/-- The settings. -/
inductive Setting
  | rowCapacity
  | columnCapacity
  | level
  | format
deriving Repr, DecidableEq

namespace Setting

/-- The section of a setting. -/
def sectionName : Setting → String
  | rowCapacity | columnCapacity => "storage"
  | level | format => "logging"

/-- The name of a setting in its section. -/
def name : Setting → String
  | rowCapacity => "initial_row_capacity"
  | columnCapacity => "initial_column_capacity"
  | level => "level"
  | format => "format"

/-- The name of a setting with that of its section. -/
def key (s : Setting) : String := s.sectionName ++ "." ++ s.name

end Setting

/-- The place of a value: the names on the way to it, and its origin. -/
structure Place where
  path : List String
  origin : Origin
deriving Repr, DecidableEq

/-- The key of a place: in capital letters for environment variables, and below the default profile
for files. -/
def Place.key (place : Place) : String :=
  match place.origin with
  | .environment => String.intercalate "." (place.path.map String.toUpper)
  | _ => String.intercalate "." ("default" :: place.path)

/-- What is expected at a place. -/
inductive Expected
  | size
  | text
  | storage
  | logging
deriving Repr, DecidableEq

/-- The description of what is expected. -/
def Expected.description : Expected → String
  | size => "usize"
  | text => "a string"
  | storage => "struct StorageConfig"
  | logging => "struct LoggingConfig"

/-- The description of a value that is given. -/
def Given.description : Given → String
  | text s => "string " ++ Text.quoted s
  | signed n => "signed int `" ++ toString n ++ "`"
  | unsigned n => "unsigned int `" ++ toString n ++ "`"
  | float x => "float `" ++ x.text ++ "`"
  | bool b => "bool " ++ toString b
  | list => "sequence"
  | table => "map"

end Config

/-- What is wrong with a configuration. -/
inductive ConfigError
  /-- The text is no TOML document. -/
  | malformed
  /-- A text in an environment variable is cut inside a character. -/
  | cut (cut : Text.Cut)
  /-- A value is of the wrong kind. -/
  | wrongKind (found : Config.Given) (expected : Config.Expected) (place : Config.Place)
  /-- A value is of the right kind, but negative. -/
  | negative (n : Int) (place : Config.Place)
  /-- The configuration has no text. -/
  | unwritable (reason : String)
  /-- A capacity is not in the permitted range. -/
  | capacityOutOfRange (setting : Config.Setting) (value : Nat)
  /-- A word is not one of the permitted ones. -/
  | unknownWord (setting : Config.Setting) (word : String)
deriving Repr, DecidableEq

namespace Config

/-- The largest permitted capacity. -/
def maxCapacity : Nat := 0x100000

/-- The permitted words of a setting. -/
def Setting.words : Setting → List String
  | level => ["error", "warn", "info", "debug", "trace"]
  | format => ["text", "json"]
  | rowCapacity | columnCapacity => []

end Config

namespace ConfigError

/-- Where a value stands. -/
def placed (place : Config.Place) : String :=
  " for key \"" ++ place.key ++ "\" in " ++ place.origin.description

/-- The start of the message when a configuration cannot be read or written. -/
def parseFailure (reason : String) : String := "Failed to parse configuration: " ++ reason

/-- The start of the message when a configuration is not valid. -/
def invalidValue (setting : Config.Setting) (reason : String) : String :=
  "Invalid configuration value for '" ++ setting.key ++ "': value " ++ reason

/-- The text of an error. -/
def message : ConfigError → String
  | malformed => parseFailure "TOML parse error"
  | cut c => c.message
  | wrongKind found expected place =>
    parseFailure <| "invalid type: found " ++ found.description ++ ", expected "
      ++ expected.description ++ placed place
  | negative n place =>
    parseFailure <| "invalid value " ++ (Config.Given.signed n).description ++ ", expected "
      ++ Config.Expected.size.description ++ placed place
  | unwritable reason => parseFailure reason
  | capacityOutOfRange setting value =>
    invalidValue setting <| toString value ++ " is out of range [1, "
      ++ toString Config.maxCapacity ++ "]"
  | unknownWord setting word =>
    invalidValue setting <| "'" ++ word ++ "' is invalid, expected one of: ["
      ++ String.intercalate ", " (setting.words.map Text.quoted) ++ "]"

end ConfigError

end Tabular
