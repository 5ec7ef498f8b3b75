import Cohort.Catalog.Definitions
import Cohort.Rule.Error
import Cohort.Rule.Tree

/-!
# What rules mean with the definitions at hand

`Condition.resolve` finds the attribute of a condition and checks that it belongs to the entity in scope, that its name
may stand in a query, that the operator applies to it and that the value fits, in this order.
`Definitions.join` finds the two attributes that a relationship joins the entity in scope and the related one by.
-/

namespace Cohort

/-! ## Names -/

/-- The most bytes of a name that may stand in a query. -/
def maxNameLength : Nat := 128

/-- A character that may stand in a name. -/
def isNameChar (c : Char) : Bool := c.isAlphanum || c == '_' || c == '-' || c == '.' || c == ' '

/-- A name that may stand between single quotes in a query. -/
def isSafeName (name : String) : Bool :=
  let cs := name.toList
  !cs.isEmpty && decide (Text.byteLength cs ≤ maxNameLength) && cs.all isNameChar

/-- The attribute under an identifier, if it belongs to the entity in scope. -/
def Definitions.scoped (d : Definitions) (id scope : Uuid) : Except RuleError Attribute :=
  match d.attribute? id with
  | none => .error (.attributeNotFound id)
  | some a => if a.entityId = scope then .ok a else .error (.foreignAttribute a.name scope a.entityId)

/-- The attribute under an identifier, if it belongs to the entity in scope and has a safe name. -/
def Definitions.usable (d : Definitions) (id scope : Uuid) : Except RuleError Attribute := do
  let a ← d.scoped id scope
  if isSafeName a.name then .ok a else .error (.unsafeName a.name)

/-! ## Conditions -/

/-- What a condition compares its attribute with. -/
inductive Comparison where
  /-- Nothing: whether the attribute is there. -/
  | nullCheck (operator : Operator)
  /-- A value. -/
  | value (operator : Operator) (value : Parameter)
  /-- Some values, one of which the attribute has. -/
  | among (values : List Parameter)

/-- A condition with its attribute found and its value read. -/
structure Test where
  /-- The attribute. -/
  subject : Attribute
  /-- What it is compared with. -/
  comparison : Comparison

/-- The pattern of the texts that contain a parameter. -/
def containsPattern (p : Parameter) : Parameter :=
  match p with
  | .text s => .text ("%" ++ s ++ "%")
  | p => .text ("%" ++ p.shown ++ "%")

/-- The operator that a text spells, if it applies to the attribute. -/
def Attribute.operator (a : Attribute) (written : String) : Except RuleError Operator :=
  match (Operator.parse? written).filter a.kind.supports with
  | some op => .ok op
  | none => .error (.unsupportedOperator written a.name a.kind)

/-- The parameter for a value that an attribute is compared with. -/
def Attribute.parameter (a : Attribute) (value : Json) : Except RuleError Parameter :=
  (a.kind.coerce value).mapError fun e => .invalidValue a.name (.coercion e)

/-- What an operator and a value compare an attribute with. -/
def Attribute.comparison (a : Attribute) (op : Operator) (value : Json) : Except RuleError Comparison :=
  if op.isNullCheck then .ok (.nullCheck op)
  else match op with
    | .among =>
      match value.array? with
      | some items => (items.mapM a.parameter).map .among
      | none => .error (.invalidValue a.name (.notList value))
    | .contains => (a.parameter value).map fun p => .value op (containsPattern p)
    | op => (a.parameter value).map (.value op)

/-- A condition on rows of an entity. -/
def Condition.resolve (d : Definitions) (scope : Uuid) (c : Condition) : Except RuleError Test := do
  let a ← d.usable c.attributeId scope
  let op ← a.operator c.operator
  let comparison ← a.comparison op c.value
  return ⟨a, comparison⟩

/-! ## Relationships -/

/-- How rows of the entity in scope are joined with those of another one. -/
structure Join where
  /-- The other entity. -/
  relatedEntityId : Uuid
  /-- The name of the attribute in scope. -/
  localKey : String
  /-- The name of the attribute of the other entity. -/
  relatedKey : String

/-- The join by the relationship under an identifier, seen from the entity in scope. -/
def Definitions.join (d : Definitions) (scope id : Uuid) : Except RuleError Join :=
  match d.relationship? id with
  | none => .error (.relationshipNotFound id)
  | some r =>
    match r.from? scope with
    | none => .error (.foreignRelationship r.name scope)
    | some t => do
      let localKey ← d.usable t.localAttributeId scope
      let relatedKey ← d.usable t.relatedAttributeId t.relatedEntityId
      return ⟨t.relatedEntityId, localKey.name, relatedKey.name⟩

end Cohort
