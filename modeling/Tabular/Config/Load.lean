import Tabular.Config.Libraries
import Tabular.Files

/-!
# Loading a configuration

The effective configuration is that of the environment variables over a file over the defaults. A
file that is not there gives no settings.
-/

namespace Tabular.Config

/-- The file that is read if no other is named. -/
def defaultPath : String := "gridtable.toml"

/-- The names on a path, without those that stay in the same directory. -/
def pathNames (path : String) : List String :=
  (path.splitOn "/").filter fun name => name ≠ "" ∧ name ≠ "."

/-- A path as it is shown: its names, with a slash at the start if it has one. -/
def shownPath (path : String) : String :=
  (if path.startsWith "/" then "/" else "") ++ String.intercalate "/" (pathNames path)

/-- The layer of a file. What is no file gives no settings. -/
def Libraries.ofFile (lib : Libraries) (path : String) : FileContent → Except ConfigError Layer
  | .text s => lib.ofToml (.file (shownPath path)) s
  | .stream _ | .directory | .absent _ => .ok {}

/-- The configuration of environment variables over a file over the defaults. The variables are read
first. -/
def load (lib : Libraries) (path : String) (content : FileContent)
    (environment : List (String × String)) : Except ConfigError Config := do
  let upper ← lib.ofVariables environment
  let lower ← lib.ofFile path content
  lib.extract (lib.merge upper (lib.merge lower (lib.ofConfig {})))

end Tabular.Config
