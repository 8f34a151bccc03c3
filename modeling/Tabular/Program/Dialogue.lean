import Tabular.Program.Arguments
import Tabular.Program.Terminal
import Tabular.Session.Basic
import Tabular.Text.Erase

/-!
# Dialogues

In a dialogue, every typed line is answered: by the outcome of its command or by an error, and a
blank line by nothing. The dialogue ends with a command that ends it or when no lines are left. It
breaks off at a line that cannot be read.
-/

namespace Tabular

open Program (Terminal)

/-- Starts a dialogue. -/
def greeting (t : Terminal) : String :=
  let title := "GridTable v" ++ Program.version ++ " - table REPL"
  "\n" ++ t.styled [Output.bold, Output.cyan] title ++ "\nType " ++ t.styled [Output.yellow] ".help"
    ++ " for commands, " ++ t.styled [Output.yellow] ".quit" ++ " to exit\n\n"

/-- Ends a dialogue. -/
def farewell : String := "Goodbye!\n"

/-- What a typed line leads to. -/
inductive Answer
  /-- A text, and the session with which the dialogue goes on. -/
  | text (s : String) (next : Session)
  /-- The end of the dialogue. -/
  | finished
  /-- The line cannot be read. -/
  | broken

/-- What is printed in a dialogue, and whether it breaks off. -/
structure DialogueRun where
  printed : String
  broken : Bool := false
deriving Repr, DecidableEq

/-- Prints a text in front of all else. -/
def DialogueRun.after (text : String) (run : DialogueRun) : DialogueRun :=
  { run with printed := text ++ run.printed }

namespace Session

/-- The answer to a typed line. -/
def answer (t : Terminal) (s : Session) (typed : String) : Answer :=
  match Text.erased typed with
  | .error _ => .broken
  | .ok line =>
    let line := Text.trim line
    if line.isEmpty then .text "" s
    else
      match s.execute line with
      | (.ok .quit, _) => .finished
      | (.ok output, s) => .text (output.printed s.format t.color ++ "\n") s
      | (.error e, s) =>
        .text (t.styled [Output.bold, Output.red] "Error:" ++ " " ++ e.message ++ "\n\n") s

/-- The answers to typed lines up to the end of the dialogue. A prompt stands in front of every line
and of the end. -/
def answers (t : Terminal) (s : Session) : List String → DialogueRun
  | [] => { printed := t.prompt ++ farewell }
  | typed :: rest =>
    match s.answer t typed with
    | .finished => { printed := t.prompt ++ farewell }
    | .broken => { printed := t.prompt, broken := true }
    | .text text s => (s.answers t rest).after (t.prompt ++ text)

/-- A dialogue about typed lines. -/
def dialogue (t : Terminal) (s : Session) (input : String) : DialogueRun :=
  (s.answers t (Text.lines input)).after (greeting t)

end Session

end Tabular
