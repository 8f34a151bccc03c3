import Tabular.Config.Load
import Tabular.Config.TomlForm
import Tabular.Program.Dialogue
import Tabular.Program.Script

/-!
# The program

What the program prints and how it ends, from its arguments, the environment variables and the files
that they name.
-/

namespace Tabular.Program

/-- Why the program stops. -/
inductive Failure
  /-- The configuration file that was named is not there. -/
  | noConfigFile (path : String)
  | configNotLoaded (error : ConfigError)
  | configNotValid (error : ConfigError)
  | configNotWritten (error : ConfigError)
  | scriptNotRead (path : String) (content : FileContent)
  /-- A command of the script failed. -/
  | scriptStopped (path : String) (line : Nat) (error : CommandError)
deriving Repr, DecidableEq

namespace Failure

/-- Why a file cannot be read. -/
def readReason : FileContent → String
  | .absent reason => reason.message
  | .text _ | .stream _ | .directory => "Is a directory (os error 21)"

/-- What went wrong, and the cause if it lies deeper. -/
def describe : Failure → String × Option String
  | noConfigFile path => ("Configuration file not found: " ++ path, none)
  | configNotLoaded error => ("Failed to load configuration", some error.message)
  | configNotValid error => ("Invalid configuration", some error.message)
  | configNotWritten error => (error.message, none)
  | scriptNotRead path content => ("Failed to read script " ++ path, some (readReason content))
  | scriptStopped path line error => (path ++ ":" ++ toString line ++ ": " ++ error.message, none)

/-- A cause, with every line indented. -/
def indent (cause : String) : String :=
  "    " ++ String.intercalate "\n    " (cause.splitOn "\n")

/-- The report of a failure. -/
def message (failure : Failure) : String :=
  match failure.describe with
  | (text, none) => "Error: " ++ text ++ "\n"
  | (text, some cause) => "Error: " ++ text ++ "\n\nCaused by:\n" ++ indent cause ++ "\n"

end Failure

/-- How the program ends. -/
structure Ending where
  code : Nat := 0
  output : String := ""
  errors : String := ""
deriving Repr, DecidableEq

/-- The end when the program breaks off, behind what was printed before. -/
def Ending.broken (output : String) : Ending := { code := 101, output }

/-- The end after a failure, behind what was printed before it. A text that is cut inside a
character breaks the program off. -/
def Ending.failed (failure : Failure) (output : String) : Ending :=
  match failure with
  | .configNotLoaded (.cut _) => .broken output
  | _ => { code := 1, output, errors := failure.message }

/-- The end when the arguments do not fit together. -/
def Ending.misused : Ending :=
  { code := 2, errors := "Usage: " ++ programName ++ " [--config <CONFIG>] <COMMAND>\n" }

/-- The end after showing the version under a name. -/
def Ending.version (name : String) : Ending :=
  { output := name ++ " " ++ Program.version ++ "\n" }

namespace Invocation

/-- The configuration file to read. -/
def configPath (i : Invocation) : String := i.config.getD Config.defaultPath

/-- The script to read, if there is one. -/
def scriptPath? (i : Invocation) : Option String :=
  match i.action with
  | .runScript path _ => some path
  | _ => none

/-- Loads the configuration and checks it. A file that was named must be there. -/
def loadConfig (i : Invocation) (content : FileContent) (environment : List (String × String)) :
    Except Failure Config := do
  match i.config, content with
  | some path, .absent _ => throw (.noConfigFile path)
  | _, _ =>
    let c ← (Config.load .own i.configPath content environment).mapError .configNotLoaded
    c.validate.mapError .configNotValid
    return c

/-- The session with which the program starts. -/
def session (c : Config) : Session := .withCapacity c.rowCapacity c.columnCapacity

/-- Runs a script. -/
def runScript (t : Terminal) (c : Config) (path : String) (format : OutputFormat)
    (content : FileContent) : Ending :=
  match content with
  | .text text | .stream text =>
    let run := { session c with format }.runScript t.color (scriptLines text)
    match run.failure with
    | none => { output := run.printed }
    | some (line, error) => .failed (.scriptStopped path line error) run.printed
  | content => .failed (.scriptNotRead path content) ""

/-- Holds a dialogue. -/
def interact (t : Terminal) (c : Config) (typed : String) : Ending :=
  let run := (session c).dialogue t typed
  if run.broken then .broken run.printed else { output := run.printed }

/-- Does what is to be done with a configuration, given what is found at the path of the script and
the typed text. -/
def run (t : Terminal) (action : Action) (c : Config) (script : FileContent) (typed : String) :
    Ending :=
  match action with
  | .interact => interact t c typed
  | .runScript path format => runScript t c path format script
  | .showConfig =>
    match c.toToml .own with
    | .ok text => { output := text }
    | .error error => .failed (.configNotWritten error) ""

/-- The end of the program, given what is found at the paths of the configuration file and of the
script. -/
def ending (t : Terminal) (i : Invocation) (environment : List (String × String))
    (config script : FileContent) (typed : String) : Ending :=
  match i.loadConfig config environment with
  | .error failure => .failed failure ""
  | .ok c => run t i.action c script typed

end Invocation

/-- The request of the arguments and the environment variables. -/
def request? (environment : List (String × String)) (arguments : List String) : Option Request :=
  Request.ofArguments? (environment.lookup configVariable) arguments

end Tabular.Program
