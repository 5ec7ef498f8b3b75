import Cohort.Attribute.Kind
import Cohort.Json.Basic
import Cohort.Uuid

/-!
# Definitions

What is known about the rows that cohorts are made of: entities, their attributes, and relationships that join two
entities by one attribute of each. A relationship can be followed from either end (`Relationship.from?`). A group is a
named cohort of an entity, described by the document of its rules.
-/

namespace Cohort

/-- A kind of rows. -/
structure Entity where
  /-- Its identifier. -/
  id : Uuid
  /-- Its name. -/
  name : String
  /-- A description, if there is one. -/
  description : Option String

/-- A named value that the rows of an entity have. -/
structure Attribute where
  /-- Its identifier. -/
  id : Uuid
  /-- The entity. -/
  entityId : Uuid
  /-- The name under which rows store it. -/
  name : String
  /-- How its text is read. -/
  kind : AttributeKind

/-- How many rows a row is joined with, from the source to the target. -/
inductive Cardinality where
  | oneToOne
  | oneToMany
  | manyToOne
  deriving DecidableEq

/-- The names of the cardinalities. -/
def Cardinality.names : List (String × Cardinality) :=
  [("ONE_TO_ONE", oneToOne), ("ONE_TO_MANY", oneToMany), ("MANY_TO_ONE", manyToOne)]

/-- The name of a cardinality. -/
def Cardinality.name : Cardinality → String
  | oneToOne => "ONE_TO_ONE"
  | oneToMany => "ONE_TO_MANY"
  | manyToOne => "MANY_TO_ONE"

/-- No cardinality has this name. -/
structure Cardinality.Unknown where
  /-- The name, in capital letters. -/
  name : String

/-- The wording of the error. -/
def Cardinality.Unknown.message (e : Cardinality.Unknown) : String := "Unknown relationship type: " ++ e.name

/-- The cardinality with a name in any case and with blanks around it. -/
def Cardinality.read (raw : String) : Except Cardinality.Unknown Cardinality :=
  let name := Text.upper (Text.trim raw)
  match names.lookup name with
  | some c => .ok c
  | none => .error ⟨name⟩

/-- A join of two entities by the equality of one attribute of each. -/
structure Relationship where
  /-- Its identifier. -/
  id : Uuid
  /-- Its name. -/
  name : String
  /-- The entity at the source. -/
  sourceEntityId : Uuid
  /-- The attribute of the source. -/
  sourceAttributeId : Uuid
  /-- The entity at the target. -/
  targetEntityId : Uuid
  /-- The attribute of the target. -/
  targetAttributeId : Uuid
  /-- How many rows are joined with one. -/
  cardinality : Cardinality

/-- A relationship as seen from one of its ends. -/
structure Traversal where
  /-- The entity at the other end. -/
  relatedEntityId : Uuid
  /-- The attribute at this end. -/
  localAttributeId : Uuid
  /-- The attribute at the other end. -/
  relatedAttributeId : Uuid
  deriving DecidableEq

/-- The relationship as seen from an entity, from the source if the entity is at both ends. -/
def Relationship.from? (r : Relationship) (entity : Uuid) : Option Traversal :=
  if entity = r.sourceEntityId then some ⟨r.targetEntityId, r.sourceAttributeId, r.targetAttributeId⟩
  else if entity = r.targetEntityId then some ⟨r.sourceEntityId, r.targetAttributeId, r.sourceAttributeId⟩
  else none

/-- A named cohort. -/
structure Group where
  /-- Its identifier. -/
  id : Uuid
  /-- Its name. -/
  name : String
  /-- The entity whose rows it selects. -/
  entityId : Uuid
  /-- The document of its rules. -/
  rules : Json
  /-- A description, if there is one. -/
  description : Option String

end Cohort
