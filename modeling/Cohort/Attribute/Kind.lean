import Cohort.Attribute.Operator

/-!
# Kinds of attributes

Attributes are stored as text. The kind of an attribute says how its text is read in a query (`AttributeKind.cast`)
and which comparisons make sense on it (`AttributeKind.operators`). Every declared name denotes a kind: a name that is
not known denotes text (`AttributeKind.resolve`).
-/

namespace Cohort

/-- How the text of an attribute is read. -/
inductive AttributeKind where
  | integer
  | numeric
  | boolean
  | datetime
  | text
  deriving DecidableEq

namespace AttributeKind

/-- The name of a kind. -/
def name : AttributeKind → String
  | integer => "integer"
  | numeric => "numeric"
  | boolean => "boolean"
  | datetime => "datetime"
  | text => "string"

/-- The declared names of all kinds but text. -/
def declaredNames : List (String × AttributeKind) :=
  [("integer", integer), ("int", integer), ("long", integer), ("bigint", integer),
    ("numeric", numeric), ("float", numeric), ("double", numeric), ("decimal", numeric), ("number", numeric),
    ("boolean", boolean), ("bool", boolean),
    ("datetime", datetime), ("timestamp", datetime), ("timestamptz", datetime), ("date", datetime)]

/-- The kind that a declared name denotes, whatever its case and the blanks around it. -/
def resolve (declared : String) : AttributeKind :=
  (declaredNames.lookup (Text.lower (Text.trim declared))).getD text

/-- The cast that a query puts after the text of an attribute. -/
def cast : AttributeKind → Option String
  | integer => some "::bigint"
  | numeric => some "::numeric"
  | boolean => some "::boolean"
  | datetime => some "::timestamptz"
  | text => none

/-- The operators that apply to a kind. -/
def operators : AttributeKind → List Operator
  | integer | numeric =>
    [.equal, .notEqual, .greater, .greaterOrEqual, .less, .lessOrEqual, .among, .isNull, .isNotNull]
  | boolean => [.equal, .notEqual, .isNull, .isNotNull]
  | datetime => [.equal, .notEqual, .greater, .greaterOrEqual, .less, .lessOrEqual, .isNull, .isNotNull]
  | text => [.equal, .notEqual, .contains, .matchesPattern, .among, .isNull, .isNotNull]

/-- Whether an operator applies to a kind. -/
def supports (kind : AttributeKind) (op : Operator) : Bool := kind.operators.contains op

end AttributeKind
end Cohort
