import Cohort.Json.Basic
import Cohort.Uuid

/-!
# Rule trees

A cohort is described by criteria on its rows (`Criteria`): rules, all of which or one of which must hold. A rule is a
condition on one attribute of the row, criteria of its own, or the demand that some row related to it satisfies
criteria (`Rule`).
-/

namespace Cohort

/-- How the rules of a list are combined. -/
inductive Connective where
  | and
  | or
  deriving DecidableEq

/-- The word of a connective. -/
def Connective.text : Connective → String
  | and => "AND"
  | or => "OR"

/-- A comparison of one attribute of a row, as it was written. -/
structure Condition where
  /-- The attribute. -/
  attributeId : Uuid
  /-- The name that the writer saw; it means nothing. -/
  attributeName : String
  /-- The entity that the writer saw, if given. -/
  entityId : Option Uuid
  /-- The operator, in any of its spellings. -/
  operator : String
  /-- The value. -/
  value : Json
  /-- The type that the writer saw, if given; it means nothing. -/
  valueType : Option String

mutual

/-- Rules on one row, combined by a connective. -/
structure Criteria where
  /-- The entity that the writer saw, if given. -/
  entityId : Option Uuid
  /-- How the rules are combined. -/
  connective : Connective
  /-- The rules. -/
  rules : List Rule

/-- One rule on a row. -/
inductive Rule where
  /-- A condition on an attribute. -/
  | condition (condition : Condition)
  /-- Criteria on the same row. -/
  | nested (criteria : Criteria)
  /-- Some row that this relationship leads to satisfies the criteria. -/
  | related (relationshipId : Uuid) (criteria : Criteria)

end

/-- Criteria without rules, which say nothing. -/
def Criteria.empty : Criteria := ⟨none, .and, []⟩

/-- Whether there are no rules. -/
def Criteria.isEmpty (c : Criteria) : Bool := c.rules.isEmpty

end Cohort
