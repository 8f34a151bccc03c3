import Mathlib
import Tabular.Program.Basic
import Tabular.Proofs.Session.Invariant

/-!
# Running scripts

A script runs up to the first of its commands that fails or quits. What the commands would lead to,
each in the session that the one before it left, does not depend on where the script ends
(`Session.outcomes`). A run prints what comes before the end, leaves the session behind the command
that ends it and reports that command if it failed. A line without a command is in none of this; it
only counts for the number that is reported.

The whole of Mathlib is imported for the equations of core functions by which a script is evaluated.
-/

namespace Tabular

/-! ## The commands of a script -/

/-- A line without a command: apart from the blanks at its ends it is empty or begins with a number
sign. -/
def ScriptLine.Skipped (line : String) : Prop :=
  Text.trim line = "" ∨ (Text.trim line).toList.head? = some '#'

instance (line : String) : Decidable (ScriptLine.Skipped line) :=
  inferInstanceAs (Decidable (_ ∨ _))

/-- A line has a command unless it is skipped, and the command is the line without blanks around
it. -/
theorem ScriptLine.ofLine?_eq (number : Nat) (line : String) : ofLine? number line
    = if Skipped line then none else some { number, command := Text.trim line } := by
  have skipped : ((Text.trim line).isEmpty || (Text.trim line).startsWith "#") = true
      ↔ Skipped line := by
    rw [Bool.or_eq_true, String.isEmpty_iff, String.startsWith_string_iff]
    refine or_congr_right ?_
    cases (Text.trim line).toList <;> simp [eq_comm]
  unfold ofLine?
  exact if_congr skipped rfl rfl

/-- The commands of a script are its lines with a command, numbered from one. -/
theorem scriptLines_eq (text : String) : scriptLines text
    = (((Text.lines text).zipIdx 1).filter fun line => ¬ ScriptLine.Skipped line.1).map fun line =>
      { number := line.2, command := Text.trim line.1 } := by
  unfold scriptLines
  induction (Text.lines text).zipIdx 1 with
  | nil => rfl
  | cons line lines ih =>
    obtain ⟨line, number⟩ := line
    rw [List.filterMap_cons, List.filter_cons, ih]
    dsimp only
    rw [ScriptLine.ofLine?_eq]
    by_cases skipped : ScriptLine.Skipped line <;> simp [skipped]

/-- Without their numbers, the commands depend on the lines with a command only. -/
theorem map_command_scriptLines (text : String) : (scriptLines text).map ScriptLine.command
    = ((Text.lines text).filter fun line => ¬ ScriptLine.Skipped line).map Text.trim := by
  have lines := List.filter_map (f := Prod.fst) (p := fun line => ¬ ScriptLine.Skipped line)
    (l := (Text.lines text).zipIdx 1)
  rw [List.zipIdx_map_fst] at lines
  rw [scriptLines_eq, lines, List.map_map, List.map_map]
  rfl

namespace Session

/-! ## What commands lead to -/

/-- A script ends with an error, and when it quits. -/
def ends : Result → Bool
  | (.error _, _) | (.ok .quit, _) => true
  | (.ok _, _) => false

/-- What is printed for a result. -/
def shown (color : Bool) : Result → String
  | (.ok output, s) => output.printed s.format color
  | (.error _, _) => ""

/-- The error of a result, if it is one. -/
def refusal? : Result → Option CommandError
  | (.error e, _) => some e
  | (.ok _, _) => none

/-- What commands lead to, each in the session that the one before it left. -/
def outcomes (s : Session) : List String → List Result
  | [] => []
  | command :: commands => s.execute command :: (s.execute command).2.outcomes commands

/-- How many commands come before the first that ends the script. -/
def reach (s : Session) (commands : List String) : Nat := (s.outcomes commands).findIdx ends

variable {s : Session} {color : Bool} {command : String} {commands : List String}
  {line : ScriptLine} {lines : List ScriptLine}

/-- A command is run in the session behind those before it. -/
theorem getElem?_outcomes (s : Session) (commands : List String) (i : Nat) :
    (s.outcomes commands)[i]?
      = commands[i]?.map (s.afterLines (commands.take i)).execute := by
  induction commands generalizing s i with
  | nil => rfl
  | cons command commands ih =>
    cases i with
    | zero => rfl
    | succ i => exact ih (s.execute command).2 i

/-- Every command has an outcome. -/
theorem length_outcomes (s : Session) (commands : List String) :
    (s.outcomes commands).length = commands.length := by
  induction commands generalizing s with
  | nil => rfl
  | cons command commands ih => exact congrArg (· + 1) (ih (s.execute command).2)

/-- A command that ends the script is the first that does. -/
theorem reach_cons_of_ends (stop : ends (s.execute command) = true) :
    s.reach (command :: commands) = 0 := by
  rw [reach, outcomes, List.findIdx_cons, stop, cond_true]

/-- Behind another command the script goes on. -/
theorem reach_cons_of_not_ends (go : ends (s.execute command) = false) :
    s.reach (command :: commands) = (s.execute command).2.reach commands + 1 := by
  rw [reach, outcomes, List.findIdx_cons, go, cond_false, reach]

/-- At most all commands come before the end. -/
theorem reach_le (s : Session) (commands : List String) : s.reach commands ≤ commands.length := by
  rw [← s.length_outcomes commands]
  exact List.findIdx_le_length

/-! ## Runs -/

/-- Nothing is run behind a command that ends the script. -/
theorem runScript_cons_of_ends (stop : ends (s.execute line.command) = true) :
    s.runScript color (line :: lines)
      = { failure := (refusal? (s.execute line.command)).map (line.number, ·),
          session := (s.execute line.command).2 } := by
  rw [runScript]
  generalize s.execute line.command = result at stop ⊢
  obtain ⟨answer, s'⟩ := result
  cases answer with
  | error e => rfl
  | ok output =>
    cases output with
    | quit => rfl
    | _ => cases stop

/-- Behind any other command the script goes on in the session as it is then. -/
theorem runScript_cons_of_not_ends (go : ends (s.execute line.command) = false) :
    s.runScript color (line :: lines)
      = let run := (s.execute line.command).2.runScript color lines
        { run with printed := shown color (s.execute line.command) ++ run.printed } := by
  rw [runScript]
  generalize s.execute line.command = result at go ⊢
  obtain ⟨answer, s'⟩ := result
  cases answer with
  | error e => cases go
  | ok output =>
    cases output with
    | quit => cases go
    | _ => rfl

/-- A script prints what comes before the command that ends it, fails if that command fails, and
leaves the session behind that command. -/
theorem runScript_eq (color : Bool) (s : Session) (lines : List ScriptLine) :
    let commands := lines.map ScriptLine.command
    let count := s.reach commands
    s.runScript color lines
      = { printed := String.join (((s.outcomes commands).take count).map (shown color)),
          failure := lines[count]?.bind fun line =>
            (refusal? ((s.afterLines (commands.take count)).execute line.command)).map
              (line.number, ·),
          session := s.afterLines (commands.take (count + 1)) } := by
  induction lines generalizing s with
  | nil => rfl
  | cons line lines ih =>
    dsimp only at ih ⊢
    rw [List.map_cons]
    -- If the first command goes on, it stands in front of what the others lead to in its session.
    cases result : ends (s.execute line.command) with
    | true =>
      rw [runScript_cons_of_ends result, reach_cons_of_ends result]
      rfl
    | false =>
      rw [runScript_cons_of_not_ends result, reach_cons_of_not_ends result, ih]
      dsimp only
      rw [outcomes, List.take_succ_cons, List.map_cons, String.join_cons]
      rfl

/-- Commands behind the one that ends the script have no effect. -/
theorem runScript_take_append (stops : s.reach (lines.map ScriptLine.command) < lines.length)
    (rest : List ScriptLine) :
    s.runScript color (lines.take (s.reach (lines.map ScriptLine.command) + 1) ++ rest)
      = s.runScript color lines := by
  induction lines generalizing s with
  | nil => cases stops
  | cons line lines ih =>
    rw [List.map_cons] at stops ⊢
    cases result : ends (s.execute line.command) with
    | true =>
      rw [reach_cons_of_ends result, List.take_succ_cons, List.cons_append,
        runScript_cons_of_ends result, runScript_cons_of_ends result]
    | false =>
      rw [reach_cons_of_not_ends result] at stops ⊢
      rw [List.take_succ_cons, List.cons_append, runScript_cons_of_not_ends result,
        runScript_cons_of_not_ends result, ih (Nat.lt_of_succ_lt_succ stops)]

/-- Apart from the number of the line that is reported, a run depends on the commands only. -/
theorem runScript_of_same_commands {lines' : List ScriptLine}
    (same : lines'.map ScriptLine.command = lines.map ScriptLine.command) :
    ∃ number, s.runScript color lines'
      = let run := s.runScript color lines
        { run with failure := run.failure.map fun stop => (number, stop.2) } := by
  rw [runScript_eq, runScript_eq, same]
  generalize s.reach (lines.map ScriptLine.command) = count
  -- Both scripts end with the same command, or none of them ends before its last line.
  have stop : lines'[count]?.map ScriptLine.command = lines[count]?.map ScriptLine.command := by
    rw [← List.getElem?_map, ← List.getElem?_map, same]
  cases found' : lines'[count]? with
  | none =>
    rw [found', Option.map_none, eq_comm, Option.map_eq_none_iff] at stop
    exact ⟨0, by rw [stop]; rfl⟩
  | some line' =>
    rw [found', Option.map_some, eq_comm, Option.map_eq_some_iff] at stop
    obtain ⟨line, found, command⟩ := stop
    refine ⟨line'.number, ?_⟩
    dsimp only
    rw [found, Option.bind_some, Option.bind_some, Option.map_map, command]
    rfl

end Session

open Session (ends shown)

/-- How a script has run its lines: `count` commands have gone on, and the next one, if there is
one, has ended it. -/
structure ScriptRun.Effective (run : ScriptRun) (color : Bool) (s : Session)
    (lines : List ScriptLine) (count : Nat) : Prop where
  inside : count ≤ lines.length
  goOn : ∀ result ∈ (s.outcomes (lines.map ScriptLine.command)).take count, ends result = false
  stops : ∀ result, (s.outcomes (lines.map ScriptLine.command))[count]? = some result →
    ends result = true
  /-- Each result is printed in the format of the session behind its command. -/
  printed : run.printed
    = String.join (((s.outcomes (lines.map ScriptLine.command)).take count).map (shown color))
  session : run.session = s.afterLines ((lines.map ScriptLine.command).take (count + 1))
  failure : ∀ number e, run.failure = some (number, e) ↔
    ∃ line, lines[count]? = some line ∧ line.number = number ∧
      ∃ s', (s.outcomes (lines.map ScriptLine.command))[count]? = some (.error e, s')
  /-- Other lines behind the last command that is run give the same run. -/
  later : count < lines.length → ∀ lines', lines'.take (count + 1) = lines.take (count + 1) →
    s.runScript color lines' = run

/-- A script runs up to the first command that ends it. -/
theorem Session.effective_runScript (color : Bool) (s : Session) (lines : List ScriptLine) :
    (s.runScript color lines).Effective color s lines
      (s.reach (lines.map ScriptLine.command)) where
  inside := by
    rw [← List.length_map ScriptLine.command]
    exact s.reach_le _
  goOn result mem := by
    obtain ⟨i, inside, rfl⟩ := List.mem_take_iff_getElem.1 mem
    exact List.not_of_lt_findIdx (Nat.lt_of_lt_of_le inside (Nat.min_le_left ..))
  stops result found := by
    obtain ⟨inside, rfl⟩ := List.getElem?_eq_some_iff.1 found
    exact List.findIdx_getElem
  printed := by rw [runScript_eq]
  session := by rw [runScript_eq]
  failure number e := by
    rw [runScript_eq, Option.bind_eq_some_iff]
    refine exists_congr fun line => and_congr_right fun found => ?_
    rw [getElem?_outcomes, List.getElem?_map, found, Option.map_some, Option.map_some]
    generalize (s.afterLines _).execute line.command = result
    obtain ⟨answer, s'⟩ := result
    cases answer with
    | error e' => simp [refusal?, and_comm]
    | ok output => simp [refusal?]
  later stops lines' same := by
    rw [← lines'.take_append_drop (s.reach (lines.map ScriptLine.command) + 1), same]
    exact runScript_take_append stops _

namespace Program

/-- The end of the program after a run of the script at a path. -/
def Ending.ofRun (path : String) (run : ScriptRun) : Ending :=
  match run.failure with
  | none => { code := 0, output := run.printed, errors := "" }
  | some (number, e) =>
    { code := 1
      output := run.printed
      errors := "Error: " ++ path ++ ":" ++ toString number ++ ": " ++ e.message ++ "\n" }

/-- A script that stops is reported with its path, the number of the line and the error of the
command. -/
theorem Failure.message_scriptStopped (path : String) (number : Nat) (e : CommandError) :
    (scriptStopped path number e).message
      = "Error: " ++ path ++ ":" ++ toString number ++ ": " ++ e.message ++ "\n" := by
  unfold message describe
  dsimp only
  simp only [String.append_assoc]

open Invocation (runScript session)
open ScriptLine (Skipped)

/-- Running a script runs its lines with a command, numbered as in the file, up to the first that
fails or quits. What was printed until then is the output. The program fails with the name of the
file, the number of the line and the error if that line failed, and otherwise it ends well. Lines
without a command change nothing but the number that is reported. -/
theorem Invocation.runScript_effective (t : Terminal) (c : Config) (path : String)
    (format : OutputFormat) {content : FileContent} {text : String}
    (readable : content = .text text ∨ content = .stream text) :
    let s : Session := { session c with format }
    let run := s.runScript t.color (scriptLines text)
    scriptLines text = (((Text.lines text).zipIdx 1).filter fun line => ¬ Skipped line.1).map
      (fun line => { number := line.2, command := Text.trim line.1 }) ∧
    (∃ count, run.Effective t.color s (scriptLines text) count) ∧
    runScript t c path format content = .ofRun path run ∧
    ∀ text', ((Text.lines text').filter fun line => ¬ Skipped line)
        = (Text.lines text).filter (fun line => ¬ Skipped line) →
      ∃ number, s.runScript t.color (scriptLines text')
        = { run with failure := run.failure.map fun stop => (number, stop.2) } := by
  intro s run
  refine ⟨scriptLines_eq text, ⟨_, s.effective_runScript t.color (scriptLines text)⟩, ?_,
    fun text' same => ?_⟩
  · have read : runScript t c path format content
        = match run.failure with
          | none => { output := run.printed }
          | some (number, e) => .failed (.scriptStopped path number e) run.printed := by
      obtain rfl | rfl := readable <;> rfl
    rw [read, Ending.ofRun]
    cases run.failure with
    | none => rfl
    | some stop =>
      unfold Ending.failed
      dsimp only
      rw [Failure.message_scriptStopped]
  · refine Session.runScript_of_same_commands ?_
    rw [map_command_scriptLines, map_command_scriptLines, same]

/-- A script with lines without a command, a change of the format and a command that fails. -/
def steps : String := "# table\nadd 7 8\n\n  .format json\nget 4 4\nadd 9\n"

/-- Its lines with a command. -/
def fewerSteps : String := "add 7 8\n  .format json\nget 4 4\nadd 9"

/-- The format holds from its line on, the failing line is counted with those that are skipped, and
without the skipped lines the script does the same. -/
theorem Invocation.runScript_effective_steps :
    let s : Session := { session {} with format := .table }
    let run := s.runScript false (scriptLines steps)
    runScript {} {} "steps" .table (.text steps)
        = { code := 1
            output := "row 0\n\x7b\n  \"kind\": \"message\",\n  \"text\": \"format: json\"\n\x7d\n"
            errors :=
              "Error: steps:5: [GRID-001] Row index 4 out of bounds for table with 1 rows\n" } ∧
      ∃ number, s.runScript false (scriptLines fewerSteps)
        = { run with failure := run.failure.map fun stop => (number, stop.2) } := by
  intro s run
  have readable : FileContent.text steps = .text steps ∨ FileContent.text steps = .stream steps :=
    .inl rfl
  obtain ⟨-, -, ending, same⟩ := runScript_effective {} {} "steps" .table readable
  have commands : scriptLines steps
      = [⟨2, "add 7 8"⟩, ⟨4, ".format json"⟩, ⟨5, "get 4 4"⟩, ⟨6, "add 9"⟩] := by
    rw [scriptLines_eq]
    decide
  have fewer : ((Text.lines fewerSteps).filter fun line => ¬ Skipped line)
      = (Text.lines steps).filter fun line => ¬ Skipped line := by
    decide
  have stopped : run.failure = some (5, .table (.rowOutOfBounds 4 1)) := by
    unfold run
    rw [commands]
    cbv
  have printed : run.printed
      = "row 0\n\x7b\n  \"kind\": \"message\",\n  \"text\": \"format: json\"\n\x7d\n" := by
    unfold run
    rw [commands]
    cbv
  refine ⟨ending.trans ?_, same fewerSteps fewer⟩
  rw [Ending.ofRun, stopped, printed]
  rfl

end Program

end Tabular
