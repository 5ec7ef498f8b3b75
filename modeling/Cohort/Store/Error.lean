import Cohort.Calculation.Log

/-!
# What can go wrong with the database

A statement that the server refuses, with the server's words, and a row that cannot be read.
-/

namespace Cohort

/-- Why the database gave no answer. -/
inductive DatabaseError where
  /-- The server refused a statement. -/
  | server (message : String)
  /-- A stored row makes no sense. -/
  | decoding (cause : CalculationStatus.Unknown)

/-- The wording of an error. -/
def DatabaseError.message : DatabaseError → String
  | .server m => "error returned from database: " ++ m
  | .decoding e => "error occurred while decoding: " ++ e.message

end Cohort
