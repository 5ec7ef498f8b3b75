import Cohort.Decimal.Basic
import Cohort.Instant.Basic
import Cohort.Json.Basic
import Cohort.Uuid

/-!
# Parameters of a query

A value reaches a query only as a parameter, never as part of its text. A parameter has a form in documents
(`Parameter.json`) and a form for readers (`Parameter.shown`), where texts, instants and identifiers stand between
single quotes.
-/

namespace Cohort

/-- A value that a query is given beside its text. -/
inductive Parameter where
  /-- A text. -/
  | text (value : String)
  /-- A whole number, of 64 bits. -/
  | integer (value : Int)
  /-- A decimal. -/
  | numeric (value : Decimal)
  /-- A truth value. -/
  | boolean (value : Bool)
  /-- An instant. -/
  | instant (value : Instant)
  /-- An identifier. -/
  | uuid (value : Uuid)
  deriving DecidableEq

namespace Parameter

/-- A truth value in words. -/
def boolText (b : Bool) : String := if b then "true" else "false"

/-- The document of a parameter. -/
def json : Parameter → Json
  | .text s => .string s
  | .integer i => .ofInt i
  | .numeric d => .string d.text
  | .boolean b => .bool b
  | .instant t => .string t.text
  | .uuid u => .string u.text

/-- A text between single quotes. -/
def singleQuoted (s : String) : String := "'" ++ s ++ "'"

/-- A parameter as shown to a reader. -/
def shown : Parameter → String
  | .text s => singleQuoted s
  | .integer i => Numeral.intText i
  | .numeric d => d.text
  | .boolean b => boolText b
  | .instant t => singleQuoted t.offsetText
  | .uuid u => singleQuoted u.text

end Parameter
end Cohort
