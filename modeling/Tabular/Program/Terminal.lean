import Tabular.Session.Output

/-!
# The terminal

Where the program prints: whether in colours, and whether with a prompt in front of every typed
line. The environment variables decide both, the first of them together with the kind of the output.
-/

namespace Tabular.Program

/-- How the program prints. -/
structure Terminal where
  /-- Whether texts have colours. -/
  color : Bool := false
  /-- Whether a prompt asks for every typed line. -/
  prompts : Bool := false
deriving Repr, DecidableEq

namespace Terminal

/-- Whether texts have colours. They can be forced or forbidden; else the output must be a terminal
and colours not be switched off. -/
def wantsColor (environment : List (String × String)) (isTerminal : Bool) : Bool :=
  let isOn (name : String) (default : Bool) : Bool :=
    (environment.lookup name).elim default (· != "0")
  isOn "CLICOLOR_FORCE" false
    || ((environment.lookup "NO_COLOR").isNone && isOn "CLICOLOR" true && isTerminal)

/-- The kinds of terminal on which lines cannot be edited. -/
def plainKinds : List String := ["dumb", "cons25", "emacs"]

/-- Whether lines cannot be edited, so that they are asked for by a prompt. -/
def isPlain (environment : List (String × String)) : Bool :=
  (environment.lookup "TERM").any fun kind => kind.toLower ∈ plainKinds

/-- How the program prints with environment variables. -/
def ofEnvironment (environment : List (String × String)) (isTerminal : Bool) : Terminal where
  color := wantsColor environment isTerminal
  prompts := isPlain environment

/-- A text in styles, where the terminal has them. -/
def styled (t : Terminal) (styles : List Nat) (text : String) : String :=
  Output.styled t.color styles text

/-- What asks for a typed line. -/
def prompt (t : Terminal) : String :=
  if t.prompts then t.styled [Output.bold, Output.blue] "gridtable> " else ""

end Terminal

end Tabular.Program
