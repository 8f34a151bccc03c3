import Tabular.Config.Basic
import Tabular.Config.Environment
import Tabular.Config.TomlSource
import Tabular.Toml.Sections

/-!
# Libraries for configurations

What writes a document, what reads the sources of settings, what puts one source over another and
what makes a configuration of them are libraries. Everything that is done with configurations is
done for any of them; `Libraries.own` are the ones that the program runs with.
-/

namespace Tabular.Config

/-- The sections of a configuration, as they are handed over to be written or to be put below other
sources. -/
def sections (c : Config) : Toml.Sections :=
  [("storage", [(Setting.rowCapacity.name, .integer c.rowCapacity),
      (Setting.columnCapacity.name, .integer c.columnCapacity)]),
    ("logging", [(Setting.level.name, .text c.level), (Setting.format.name, .text c.format)])]

/-- The layer of a configuration. -/
def Layer.ofConfig (c : Config) : Layer := .ofToml .defaults c.sections.table

/-- The libraries that write a document, read sources and make a configuration of them. -/
structure Libraries where
  /-- The text of a document, or the reason why it has none. -/
  write : Toml.Sections → Except String String
  /-- What a configuration says itself. -/
  ofConfig : Config → Layer
  /-- What a TOML text says. -/
  ofToml : Origin → String → Except ConfigError Layer
  /-- What the environment variables say. -/
  ofVariables : List (String × String) → Except ConfigError Layer
  /-- A layer over another. -/
  merge : Layer → Layer → Layer
  /-- The configuration of a layer. -/
  extract : Layer → Except ConfigError Config

/-- The libraries that the program runs with. -/
def Libraries.own : Libraries where
  write := Toml.Sections.write
  ofConfig := Layer.ofConfig
  ofToml := Layer.ofTomlText
  ofVariables := Layer.ofVariables
  merge := Layer.overlay
  extract := ofLayer

end Tabular.Config
