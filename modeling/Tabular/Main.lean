import Tabular.Program.Basic

/-!
# The command line

Reads the arguments, the environment variables, the files and the typed lines, and prints. What is
printed is decided by the program.
-/

namespace Tabular

/-- What is found at a path. -/
def readContent (path : String) : IO FileContent := do
  try
    return .text (← IO.FS.readFile path)
  catch
    | .noFileOrDirectory .. => return .absent .noEntry
    | .inappropriateType _ 20 _ => return .absent .notDirectory
    | .invalidArgument _ 36 _ => return .absent .nameTooLong
    | _ => return .directory

/-- The environment variables, which the system lists with a zero character behind each. -/
def readVariables : IO (List (String × String)) := do
  let listing ← try IO.FS.readFile "/proc/self/environ" catch _ => pure ""
  return (listing.splitOn "\x00").filterMap fun entry =>
    match entry.splitOn "=" with
    | name :: value => if name.isEmpty then none else some (name, String.intercalate "=" value)
    | [] => none

/-- Answers typed lines until the dialogue ends. The result is the exit code. -/
partial def converse (t : Program.Terminal) (s : Session) (input : IO.FS.Stream) : IO UInt32 := do
  IO.print t.prompt
  (← IO.getStdout).flush
  let line ← input.getLine
  match if line.isEmpty then .finished else s.answer t line with
  | .finished => IO.print farewell; return 0
  | .broken => return (Program.Ending.broken "").code.toUInt32
  | .text text s => IO.print text; converse t s input

/-- Runs the program. A dialogue answers every line before it reads the next one. -/
def runProgram (arguments : List String) : IO UInt32 := do
  let environment ← readVariables
  let terminal := .ofEnvironment environment (← (← IO.getStdout).isTty)
  let finish (ending : Program.Ending) : IO UInt32 := do
    IO.print ending.output
    IO.eprint ending.errors
    return ending.code.toUInt32
  match Program.request? environment arguments with
  | none => finish .misused
  | some (.showVersion name) => finish (.version name)
  | some (.invoke i) =>
    let config ← readContent i.configPath
    match i.action, i.loadConfig config environment with
    | .interact, .ok c =>
      IO.print (greeting terminal)
      converse terminal (Program.Invocation.session c) (← IO.getStdin)
    | _, _ =>
      let script ← match i.scriptPath? with
        | some path => readContent path
        | none => pure (.absent .noEntry)
      finish (i.ending terminal environment config script "")

end Tabular

/-- The command line. -/
def main (arguments : List String) : IO UInt32 := Tabular.runProgram arguments
