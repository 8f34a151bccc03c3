import Tabular.Session.Basic

/-!
# Scripts

A script is a text with one command on a line. Blank lines and lines that start with a number sign
are no commands. A script runs up to the first command that fails or that ends it.
-/

namespace Tabular

/-- A command of a script, with the number of its line. -/
structure ScriptLine where
  number : Nat
  command : String
deriving Repr, DecidableEq

/-- The command of a line, if it has one. -/
def ScriptLine.ofLine? (number : Nat) (line : String) : Option ScriptLine :=
  let command := Text.trim line
  if command.isEmpty || command.startsWith "#" then none else some { number, command }

/-- The commands of a script. Lines are counted from one. -/
def scriptLines (text : String) : List ScriptLine :=
  ((Text.lines text).zipIdx 1).filterMap fun (line, number) => ScriptLine.ofLine? number line

/-- How a script has run: what it printed, the line and the error that stopped it, if one did, and
the session behind its last command. -/
structure ScriptRun where
  printed : String := ""
  failure : Option (Nat × CommandError) := none
  session : Session

/-- Runs commands one after the other. -/
def Session.runScript (color : Bool) (s : Session) : List ScriptLine → ScriptRun
  | [] => { session := s }
  | line :: rest =>
    match s.execute line.command with
    | (.ok .quit, s) => { session := s }
    | (.ok output, s) =>
      let run := s.runScript color rest
      { run with printed := output.printed s.format color ++ run.printed }
    | (.error e, s) => { failure := some (line.number, e), session := s }

end Tabular
