import Tabular.Session.Format

/-!
# Arguments of the program

The program has three commands and an option for the configuration file, which can stand in front of
the command or behind it. An option is written in a short or a long form, with its value attached or
in the next argument. The arguments are read from left to right, and the first one that does not fit
ends the reading.
-/

namespace Tabular.Program

/-- The name of the program. -/
def programName : String := "gridtable"

/-- The version of the program. -/
def version : String := "0.3.0"

/-- The environment variable that names the configuration file when no argument does. -/
def configVariable : String := "GRIDTABLE_CONFIG"

/-- The commands. -/
inductive Subcommand
  | repl
  | run
  | config
deriving Repr, DecidableEq

/-- The name of a command. -/
def Subcommand.name : Subcommand → String
  | repl => "repl"
  | run => "run"
  | config => "config"

/-- The command of a name. -/
def Subcommand.ofName? (name : String) : Option Subcommand :=
  [repl, run, config].find? fun command => command.name = name

/-- What the program is to do. -/
inductive Action
  /-- Reads commands and answers each of them. -/
  | interact
  | runScript (path : String) (format : OutputFormat)
  | showConfig
deriving Repr, DecidableEq

/-- What the program is to do and with which configuration file. -/
structure Invocation where
  config : Option String
  action : Action
deriving Repr, DecidableEq

/-- What the arguments ask for. -/
inductive Request
  | showVersion (name : String)
  | invoke (invocation : Invocation)
deriving Repr, DecidableEq

/-! ## One argument -/

/-- An argument by itself. -/
inductive Argument
  | version
  /-- The option for the configuration file, perhaps with a value attached. -/
  | config (value : Option String)
  /-- The option for the output format, perhaps with a value attached. -/
  | format (value : Option String)
  /-- Behind it, no argument is an option. -/
  | separator
  | word (text : String)
  | unknown
deriving Repr, DecidableEq

namespace Argument

/-- The value that is attached to a short option. -/
def attached (cs : List Char) : Option String :=
  match cs with
  | [] => none
  | '=' :: value => some (.ofList value)
  | value => some (.ofList value)

/-- An option in its long form. -/
def ofLong (cs : List Char) : Argument :=
  match cs.span (· != '=') with
  | (name, []) =>
    if name = "version".toList then version
    else if name = "config".toList then config none
    else if name = "format".toList then format none
    else unknown
  | (name, _ :: value) =>
    if name = "config".toList then config (some (.ofList value))
    else if name = "format".toList then format (some (.ofList value))
    else unknown

/-- An argument. -/
def ofText (text : String) : Argument :=
  match text.toList with
  | ['-', '-'] => separator
  | '-' :: '-' :: cs => ofLong cs
  | '-' :: 'V' :: _ => version
  | '-' :: 'c' :: cs => config (attached cs)
  | '-' :: 'f' :: cs => format (attached cs)
  | '-' :: _ :: _ => unknown
  | _ => word text

/-- Whether an argument can be the value of an option in front of it. -/
def isValue (text : String) : Bool :=
  match ofText text with
  | word _ => true
  | _ => false

end Argument

/-! ## All arguments -/

/-- The options and the script behind a command. -/
structure Options where
  config : Option String := none
  format : Option OutputFormat := none
  script : Option String := none

namespace Options

/-- Sets what is not yet set, to a text that is not empty. -/
def once (old : Option α) (text : String) (value : Option α) : Option (Option α) :=
  if old.isSome || text.isEmpty || value.isNone then none else some value

/-- Adds a configuration file. -/
def addConfig (o : Options) (path : String) : Option Options :=
  (once o.config path (some path)).map fun config => { o with config }

/-- The output format of an exact name. -/
def format? (name : String) : Option OutputFormat :=
  [OutputFormat.table, .json].find? fun format => format.name = name

/-- Adds an output format, which only the command for scripts takes. -/
def addFormat (o : Options) (command : Subcommand) (name : String) : Option Options :=
  if command = .run then (once o.format name (format? name)).map fun format => { o with format }
  else none

/-- Adds a script, which only the command for scripts takes. -/
def addScript (o : Options) (command : Subcommand) (path : String) : Option Options :=
  if command = .run then (once o.script path (some path)).map fun script => { o with script }
  else none

/-- The action of a command. A script must be named. -/
def action? (o : Options) : Subcommand → Option Action
  | .repl => some .interact
  | .config => some .showConfig
  | .run => o.script.map fun path => .runScript path (o.format.getD .table)

end Options

/-- The configuration file of the option in front of the command, of the one behind it, and of the
environment variable. The later option wins. The variable counts where an option is missing, and
must then not be empty. -/
def configPath? (front behind fallback : Option String) : Option (Option String) :=
  if (front.isNone || behind.isNone) && fallback = some "" then none
  else some (behind.or (front.or fallback))

/-- Reads the arguments behind a command. -/
def readOptions (fallback front : Option String) (command : Subcommand) (o : Options) :
    List String → Option Request
  | [] => do
    let config ← configPath? front o.config fallback
    let action ← o.action? command
    return .invoke { config, action }
  | argument :: rest =>
    match Argument.ofText argument, rest with
    | .version, _ => some (.showVersion (programName ++ "-" ++ command.name))
    | .config (some value), rest => do
      readOptions fallback front command (← o.addConfig value) rest
    | .config none, value :: rest => do
      if Argument.isValue value then
        readOptions fallback front command (← o.addConfig value) rest
      else none
    | .format (some value), rest => do
      readOptions fallback front command (← o.addFormat command value) rest
    | .format none, value :: rest => do
      if Argument.isValue value then
        readOptions fallback front command (← o.addFormat command value) rest
      else none
    | .word path, rest => do readOptions fallback front command (← o.addScript command path) rest
    | .separator, rest => do
      let o ← rest.foldlM (fun o path => Options.addScript o command path) o
      let config ← configPath? front o.config fallback
      let action ← o.action? command
      return .invoke { config, action }
    | _, _ => none

/-- Reads the arguments in front of the command and the command. -/
def readArguments (fallback front : Option String) : List String → Option Request
  | [] => none
  | argument :: rest =>
    match Argument.ofText argument, rest with
    | .version, _ => some (.showVersion programName)
    | .config (some value), rest => do
      readArguments fallback (← Options.once front value (some value)) rest
    | .config none, value :: rest => do
      if Argument.isValue value then
        readArguments fallback (← Options.once front value (some value)) rest
      else none
    | .word name, rest => do readOptions fallback front (← Subcommand.ofName? name) {} rest
    | _, _ => none

/-- What arguments ask for, or nothing when they do not fit together. -/
def Request.ofArguments? (fallback : Option String) (arguments : List String) : Option Request :=
  readArguments fallback none arguments

end Tabular.Program
