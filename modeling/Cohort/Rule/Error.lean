import Cohort.Attribute.Coercion
import Cohort.Json.Mismatch

/-!
# What is wrong with rules

A document that is no rule tree, and a rule tree that makes no query with the definitions at hand, are refused with
one cause (`RuleError`).
-/

namespace Cohort

/-- Why the value of a condition does not fit its attribute. -/
inductive ValueFault where
  /-- The value is no parameter for the kind of the attribute. -/
  | coercion (cause : CoercionError)
  /-- A list of values was expected. -/
  | notList (found : Json)

/-- The wording of a fault. -/
def ValueFault.message : ValueFault → String
  | .coercion e => e.message
  | .notList found => "operator 'in' expects a list, got " ++ found.render

/-- The first thing that is wrong with rules. -/
inductive RuleError where
  /-- A rule of this type does not exist. -/
  | unknownType (found : String)
  /-- A rule does not say its type. -/
  | missingType
  /-- A rule lacks a part or has a faulty one. -/
  | malformed (cause : Json.Mismatch)
  /-- Neither of the connectives. -/
  | invalidConnective (found : String)
  /-- No definition of an attribute. -/
  | attributeNotFound (id : Uuid)
  /-- No definition of a relationship. -/
  | relationshipNotFound (id : Uuid)
  /-- An attribute of another entity than the rows in scope have. -/
  | foreignAttribute (name : String) (expected actual : Uuid)
  /-- A relationship that has the entity in scope at neither end. -/
  | foreignRelationship (name : String) (entity : Uuid)
  /-- An operator that does not exist or does not apply to the attribute. -/
  | unsupportedOperator (written name : String) (kind : AttributeKind)
  /-- A value that does not fit the attribute. -/
  | invalidValue (name : String) (fault : ValueFault)
  /-- A name that may not stand in a query. -/
  | unsafeName (name : String)

/-- The wording of an error. -/
def RuleError.message : RuleError → String
  | .unknownType t => "unknown rule type: " ++ t
  | .missingType => "rule node has no \"type\" field"
  | .malformed e => "malformed rule JSON: " ++ e.message
  | .invalidConnective s => "invalid logical operator '" ++ s ++ "', expected AND or OR"
  | .attributeNotFound id => "attribute definition not found: " ++ id.text
  | .relationshipNotFound id => "relationship definition not found: " ++ id.text
  | .foreignAttribute name expected actual =>
    "attribute '" ++ name ++ "' belongs to entity " ++ actual.text ++ ", but the rule is scoped to entity " ++
      expected.text
  | .foreignRelationship name entity => "relationship '" ++ name ++ "' does not connect entity " ++ entity.text
  | .unsupportedOperator written name kind =>
    "unsupported operator '" ++ written ++ "' for attribute '" ++ name ++ "' of type " ++ kind.name
  | .invalidValue name fault => "invalid value for attribute '" ++ name ++ "': " ++ fault.message
  | .unsafeName name => "unsafe identifier '" ++ name ++ "'"

end Cohort
