import Cohort.Rule.Tree

/-!
# What a rule tree refers to

`Criteria.references` lists the attributes of all conditions and the relationships of all related rules of a tree, each
once, in the order in which they first occur; a relationship comes before what its criteria refer to.
-/

namespace Cohort

/-- Identifiers of definitions, each once. -/
structure References where
  /-- The attributes. -/
  attributeIds : List Uuid
  /-- The relationships. -/
  relationshipIds : List Uuid

namespace References

/-- No references. -/
def empty : References := ⟨[], []⟩

/-- A list with an identifier at its end, unless it is there already. -/
def add (ids : List Uuid) (id : Uuid) : List Uuid := if ids.contains id then ids else ids ++ [id]

mutual

/-- The references so far and those of criteria. -/
def ofCriteria (refs : References) : Criteria → References
  | ⟨_, _, rules⟩ => ofRules refs rules

/-- The references so far and those of a rule. -/
def ofRule (refs : References) : Rule → References
  | .condition c => { refs with attributeIds := add refs.attributeIds c.attributeId }
  | .nested c => ofCriteria refs c
  | .related id c => ofCriteria { refs with relationshipIds := add refs.relationshipIds id } c

/-- The references so far and those of several rules. -/
def ofRules (refs : References) : List Rule → References
  | [] => refs
  | r :: rs => ofRules (ofRule refs r) rs

end

end References

/-- What a rule tree refers to. -/
def Criteria.references (c : Criteria) : References := .ofCriteria .empty c

end Cohort
