/-!
# Files

What can be found at a path, and why there may be nothing.
-/

namespace Tabular

/-- Why there is nothing at a path. -/
inductive Absence
  | noEntry
  /-- Something on the way is not a directory. -/
  | notDirectory
  | nameTooLong
deriving Repr, DecidableEq

/-- The system's text for a reason. -/
def Absence.message : Absence → String
  | noEntry => "No such file or directory (os error 2)"
  | notDirectory => "Not a directory (os error 20)"
  | nameTooLong => "File name too long (os error 36)"

/-- What is found at a path. -/
inductive FileContent
  | text (s : String)
  /-- A text that does not lie in a file, such as what is typed. -/
  | stream (s : String)
  | directory
  | absent (reason : Absence)
deriving Repr, DecidableEq

end Tabular
