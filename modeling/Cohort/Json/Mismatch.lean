import Cohort.Instant.Reader
import Cohort.Json.Printer
import Cohort.Text.Quoted
import Cohort.Uuid

/-!
# What is wrong with a document

A document that does not have the form it should have is refused with one cause, `Json.Mismatch`: another kind of
document, a value out of range, a field that is not there, an array too short or too long for its record, or a text
that does not denote what it should. `Mismatch.message` words it.
-/

namespace Cohort.Json

/-- The kind of a document, with its value if that is a single one. -/
def describe : Json → String
  | .null => "null"
  | .bool true => "boolean `true`"
  | .bool false => "boolean `false`"
  | .number (.whole i) => "integer `" ++ Numeral.intText i ++ "`"
  | .number (.float x) => "floating point `" ++ (Number.float x).text ++ "`"
  | .string s => "string " ++ Text.quoted s
  | .array _ => "sequence"
  | .object _ => "map"

/-- The first thing that is wrong with a document. -/
inductive Mismatch where
  /-- A document of another kind than expected. -/
  | kind (found : Json) (expected : String)
  /-- A document of the right kind with another value than expected. -/
  | value (found : Json) (expected : String)
  /-- No member of this name. -/
  | missing (field : String)
  /-- An array that ends before a field of the record. -/
  | tooShort (found : Nat) (record : String) (fields : Nat)
  /-- An array with more elements than the record has fields. -/
  | tooLong (found : Nat)
  /-- A name that is none of the allowed ones. -/
  | variant (found : String) (allowed : List String)
  /-- A text that denotes no identifier where one must stand. -/
  | identifier (cause : Uuid.Error)
  /-- A text that denotes no identifier where one may stand. -/
  | optionalIdentifier (cause : Uuid.Error)
  /-- A text that denotes no instant. -/
  | instant (cause : Instant.Error)

/-- The wording of a mismatch. -/
def Mismatch.message : Mismatch → String
  | .kind found expected => "invalid type: " ++ found.describe ++ ", expected " ++ expected
  | .value found expected => "invalid value: " ++ found.describe ++ ", expected " ++ expected
  | .missing field => "missing field `" ++ field ++ "`"
  | .tooShort found record fields =>
    "invalid length " ++ Numeral.natText found ++ ", expected struct " ++ record ++ " with " ++
      Numeral.natText fields ++ " elements"
  | .tooLong found => "invalid length " ++ Numeral.natText found ++ ", expected fewer elements in array"
  | .variant found allowed =>
    "unknown variant `" ++ found ++ "`, expected one of " ++
      ", ".intercalate (allowed.map fun name => "`" ++ name ++ "`")
  | .identifier cause => "UUID parsing failed: " ++ cause.message
  | .optionalIdentifier cause => cause.message
  | .instant cause => cause.message

end Cohort.Json
