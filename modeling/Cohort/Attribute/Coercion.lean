import Cohort.Attribute.Kind
import Cohort.Attribute.Parameter
import Cohort.Decimal.Reader
import Cohort.Instant.Reader
import Cohort.Json.Printer

/-!
# Values of conditions as parameters

`AttributeKind.coerce` turns the value that a rule writes into the parameter that a query compares an attribute of
this kind with. Integers and decimals may be written as numbers or as texts, truth values as such or as texts, instants
as texts, and a text may be written as text, number or truth value. Null is refused for every kind.
-/

namespace Cohort

/-- Why a value is no parameter for a kind of attribute. -/
inductive CoercionError where
  /-- The value is null. -/
  | null
  /-- A number that is not whole or out of the range of 64 bits. -/
  | notIntegerNumber (value : Json.Number)
  /-- A text that denotes no integer of 64 bits. -/
  | notIntegerText (value : String)
  /-- A number or text that denotes no decimal. -/
  | notNumeric (value : String)
  /-- A text that denotes no truth value. -/
  | notBoolean (value : String)
  /-- A text that denotes no instant. -/
  | notInstant (value : String) (cause : Instant.Error)
  /-- A value that the kind does not take in any form. -/
  | incomparable (value : Json) (kind : AttributeKind)

/-- The wording of an error. -/
def CoercionError.message : CoercionError → String
  | .null => "value is null"
  | .notIntegerNumber n => n.text ++ " is not an integer"
  | .notIntegerText s => Parameter.singleQuoted s ++ " is not an integer"
  | .notNumeric s => Parameter.singleQuoted s ++ " is not a number"
  | .notBoolean s => Parameter.singleQuoted s ++ " is not a boolean"
  | .notInstant s e => Parameter.singleQuoted s ++ " is not an RFC 3339 timestamp: " ++ e.message
  | .incomparable v kind => v.render ++ " cannot be compared as " ++ kind.name

namespace AttributeKind

/-- The least integer of 64 bits. -/
def leastInteger : Int := -(Numeral.twoTo 63 : Int)

/-- The greatest integer of 64 bits. -/
def greatestInteger : Int := (Numeral.twoTo 63 : Int) - 1

/-- An integer in the range of 64 bits. -/
def inWord? (i : Int) : Option Int := if leastInteger ≤ i ∧ i ≤ greatestInteger then some i else none

/-- The number lies in the range of 64 bits as far as the format can tell. It holds the least integer exactly, but rounds
the greatest one up to a number that is out of the range. -/
def withinWord (x : Binary64) : Bool :=
  (Binary64.ofInt? leastInteger).any (· ≤ x) && (Binary64.ofInt? greatestInteger).any (x < ·)

/-- The integer that a number of binary64 is. -/
def integerOfFloat? (x : Binary64) : Option Int := if withinWord x then x.toInt? else none

/-- The integer that a number is. A whole number out of range is looked at once more, rounded to binary64. -/
def integerOfNumber? : Json.Number → Option Int
  | .whole i => (inWord? i).or ((Binary64.ofInt? i).bind integerOfFloat?)
  | .float x => integerOfFloat? x

/-- The integer that a text denotes: digits with an optional sign, with blanks around. -/
def integerOfText? (s : String) : Option Int := Numeral.signed? (Numeral.twoTo 63) (Text.trim s).toList

/-- The decimal that a text denotes. -/
def numeric? (s : String) : Except CoercionError Parameter :=
  match Decimal.read? s with
  | some d => .ok (.numeric d)
  | none => .error (.notNumeric s)

/-- The truth value that a text denotes. -/
def booleanOfText? (s : String) : Option Bool :=
  [("true", true), ("false", false)].lookup (Text.lower (Text.trim s))

/-- The parameter that an attribute of this kind is compared with for a written value. -/
def coerce (kind : AttributeKind) (value : Json) : Except CoercionError Parameter :=
  match kind, value with
  | _, .null => .error .null
  | .integer, .number n =>
    match integerOfNumber? n with
    | some i => .ok (.integer i)
    | none => .error (.notIntegerNumber n)
  | .integer, .string s =>
    match integerOfText? s with
    | some i => .ok (.integer i)
    | none => .error (.notIntegerText s)
  | .numeric, .number n => numeric? n.text
  | .numeric, .string s => numeric? (Text.trim s)
  | .boolean, .bool b => .ok (.boolean b)
  | .boolean, .string s =>
    match booleanOfText? s with
    | some b => .ok (.boolean b)
    | none => .error (.notBoolean s)
  | .datetime, .string s =>
    match Instant.read (Text.trim s) with
    | .ok t => .ok (.instant t)
    | .error e => .error (.notInstant s e)
  | .text, .string s => .ok (.text s)
  | .text, .number n => .ok (.text n.text)
  | .text, .bool b => .ok (.text (Parameter.boolText b))
  | kind, value => .error (.incomparable value kind)

end AttributeKind
end Cohort
