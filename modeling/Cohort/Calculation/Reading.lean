import Cohort.Calculation.Error
import Cohort.Store.Session

/-!
# Reading results

The results of a group are its members as of its last calculation, if that succeeded (`Reading.results`). A group that
was never calculated has no members; if the last calculation did not succeed, the error says how it stands.
-/

namespace Cohort.Reading

open Database Session

/-- The log entry of a group. -/
def latestLog (group : Uuid) : DatabaseM (Option LogEntry) := do
  statement (.latestLog group)
  match (← get).store.logs.get? group with
  | none => return none
  | some row => return some (← liftM row.entry)

/-- The members of a group, in the order of their identifiers. -/
def memberIds (group : Uuid) : DatabaseM (List Uuid) := do
  statement (.memberIds group)
  return (← get).store.sortedMembersOf group

/-- The results of a group. -/
def results (group : Uuid) : ExceptT CalculationError (StateM Database) Results := do
  match ← ExceptT.adapt .database (latestLog group) with
  | none => return .never
  | some log =>
    if log.status = .completed then
      let ids ← ExceptT.adapt .database (memberIds group)
      return ⟨ids, some log.calculatedAt⟩
    else throw (.notSuccessful group log.status log.calculatedAt log.errorMessage)

/-- Whether the database answers at all. -/
def connection : ExceptT CalculationError (StateM Database) Unit := ExceptT.adapt .database (statement .selectOne)

end Cohort.Reading
