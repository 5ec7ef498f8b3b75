import Cohort.Command
import Cohort.Json.Reader
import Cohort.Store.Document

/-!
# The program

The program carries out the command that its arguments make on a database that it is given on the standard input, as a
document with its parts and the time of its clock. It reaches no orchestrator.
-/

open Cohort

/-- The rest of the input. -/
partial def readAll (input : IO.FS.Stream) (text : String) : IO String := do
  let line ← input.getLine
  if line.isEmpty then return text else readAll input (text ++ line)

/-- The variables that settings come from, with their values. -/
def readEnvironment : IO Environment := do
  let values ← Settings.variableNames.mapM fun name => return (name, ← IO.getEnv name)
  return fun name => (values.lookup name).join

/-- The time and the database of a document. -/
def readSnapshot (doc : Json) : Except String (Instant × Database) := do
  let time := (doc.member? "time").getD .null
  let now ← (Json.Decoder.instant time).mapError Json.Mismatch.message
  let db ← (Database.ofDocument doc).mapError Json.Mismatch.message
  return (now, db)

/-- Carries out the command that the arguments make. -/
def main (args : List String) : IO UInt32 := do
  let env ← readEnvironment
  let input ← readAll (← IO.getStdin) ""
  let snapshot := match Json.read? input with
    | some doc => readSnapshot doc
    | none => .error "the standard input is not a document"
  let report := match snapshot with
    | .ok (now, db) => ((Command.runArguments env now (fun _ => return none) args).run ⟨db, ()⟩).1
    | .error e => .failed [] e
  IO.print (Report.lines report.output)
  IO.eprint (Report.lines report.complaints)
  return report.code.toUInt32
