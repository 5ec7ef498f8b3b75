import Cohort.Text.Ascii
import Cohort.Text.Blank

/-!
# Comparison operators

The operators that a condition can apply to an attribute. `Operator.parse?` reads one as rules write it: case and the
blanks around and between its words do not count. `Operator.sql` is the operator of the query. Both have the same words
for an operator, but for the one of texts that contain another one (`Operator.parse?_eq_some`).
-/

namespace Cohort

/-- A comparison of an attribute with a value. -/
inductive Operator where
  | equal
  | notEqual
  | greater
  | greaterOrEqual
  | less
  | lessOrEqual
  | among
  | isNull
  | isNotNull
  | contains
  | matchesPattern
  deriving DecidableEq

namespace Operator

/-- The spelling of each operator in rules. -/
def spellings : List (String × Operator) :=
  [("=", equal), ("!=", notEqual), (">", greater), (">=", greaterOrEqual), ("<", less), ("<=", lessOrEqual),
    ("in", among), ("is null", isNull), ("is not null", isNotNull), ("contains", contains), ("ilike", matchesPattern)]

/-- A text in small letters with one space between its words. -/
def normalized (raw : String) : String := Text.lower (String.ofList (Text.unwords raw.toList))

/-- The operator that a text spells. -/
def parse? (raw : String) : Option Operator := spellings.lookup (normalized raw)

/-- The operator of the query. -/
def sql : Operator → String
  | equal => "="
  | notEqual => "!="
  | greater => ">"
  | greaterOrEqual => ">="
  | less => "<"
  | lessOrEqual => "<="
  | among => "IN"
  | isNull => "IS NULL"
  | isNotNull => "IS NOT NULL"
  | contains => "LIKE"
  | matchesPattern => "ILIKE"

/-- An operator that takes no value. -/
def isNullCheck : Operator → Bool
  | isNull => true
  | isNotNull => true
  | _ => false

end Operator
end Cohort
