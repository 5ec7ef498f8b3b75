import Cohort.Calculation.Log
import Cohort.Metadata.Client
import Cohort.Rule.Error
import Cohort.Store.Error

/-!
# What can go wrong with a calculation

A calculation fails because of a definition, because of the database, or because it was set up wrongly; reading the
results of a group fails if its last calculation did not succeed.
-/

namespace Cohort

/-- Why a calculation or the reading of its results failed. -/
inductive CalculationError where
  /-- There is no such group. -/
  | groupNotFound (group : Uuid)
  /-- A definition could not be had. -/
  | metadata (cause : MetadataError)
  /-- The rules of the group are faulty. -/
  | rule (cause : RuleError)
  /-- The database gave no answer. -/
  | database (cause : DatabaseError)
  /-- The last calculation of the group did not succeed. -/
  | notSuccessful (group : Uuid) (status : CalculationStatus) (calculatedAt : Instant) (message : Option String)
  /-- A setting makes no sense. -/
  | configuration (what : String)

namespace CalculationError

/-- The message of a failed calculation behind a colon, nothing if there is none. -/
def suffix : Option String → String
  | none => ""
  | some m => if m.isEmpty then "" else ": " ++ m

/-- The wording of an error. -/
def message : CalculationError → String
  | groupNotFound id => "group definition not found: " ++ id.text
  | metadata e => "metadata lookup failed: " ++ e.message
  | rule e => "rule error: " ++ e.message
  | database e => "database error: " ++ e.message
  | notSuccessful id status _ m =>
    "last calculation for group " ++ id.text ++ " was not successful (status: " ++ status.name ++ ")" ++ suffix m
  | configuration what => "configuration error: " ++ what

/-- Whether a definition is at fault, and not the database. -/
def isDefinitionError : CalculationError → Bool
  | groupNotFound _ => true
  | metadata _ => true
  | rule _ => true
  | _ => false

end CalculationError
end Cohort
