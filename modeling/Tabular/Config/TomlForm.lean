import Tabular.Config.Libraries

/-!
# Configurations as TOML documents

A configuration is written as a document of two sections, and read from a document that may give
some of the settings only.
-/

namespace Tabular.Config

/-- The document of a configuration. -/
def toToml (lib : Libraries) (c : Config) : Except ConfigError String :=
  (lib.write c.sections).mapError .unwritable

/-- The configuration of a text over the defaults. -/
def ofToml (lib : Libraries) (text : String) : Except ConfigError Config := do
  let upper ← lib.ofToml .text text
  lib.extract (lib.merge upper (lib.ofConfig {}))

end Tabular.Config
