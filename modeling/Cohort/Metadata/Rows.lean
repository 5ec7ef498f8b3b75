import Cohort.Json.Reader
import Cohort.Metadata.Client
import Cohort.Store.Session

/-!
# Definitions in the database

The rows of the database as a source of definitions (`Database.client`). Each question is one statement.
-/

namespace Cohort

/-- The group in a row. The text of its rules is read as a document, so a number in it is the one that its text
denotes. -/
def GroupRow.read (r : GroupRow) : Except MetadataError Group :=
  match Json.read? r.rules with
  | some rules => .ok ⟨r.id, r.name, r.entityId, rules, r.description⟩
  | none => .error (.internal "the rules of the group are no document")

/-- The attribute in a row. -/
def AttributeRow.read (r : AttributeRow) : Attribute := ⟨r.id, r.entityId, r.name, .resolve r.declaredType⟩

/-- The relationship in a row. -/
def RelationshipRow.read (r : RelationshipRow) : Except MetadataError Relationship :=
  match Cardinality.read r.cardinality with
  | .ok c =>
    .ok ⟨r.id, r.name, r.sourceEntityId, r.sourceAttributeId, r.targetEntityId, r.targetAttributeId, c⟩
  | .error e => .error (.invalid e.message)

namespace Database

/-- Rows that a statement finds. -/
def query {α : Type} (s : Statement) (rows : MetadataRows → α) : Lookup Database α := do
  ExceptT.adapt (fun e => MetadataError.internal e.message) (Session.statement s)
  return rows (← get).metadata

/-- The database as a source of definitions. -/
def client : MetadataClient Database where
  group id := do
    let row ← query (.getGroup id) fun m => m.groups.find? fun g => g.id = id
    let row ← Lookup.found row (.noGroup id)
    liftM row.read
  entity id := do
    Lookup.found (← query (.getEntity id) fun m => m.entities.find? fun e => e.id = id) (.noEntity id)
  attributeOf entity id := do
    let row ← query (.getAttribute id entity) fun m =>
      m.attributes.find? fun a => a.id = id && a.entityId = entity
    Lookup.found (row.map AttributeRow.read) (.noAttribute entity id)
  relationship id := do
    let row ← query (.getRelationship id) fun m => m.relationships.find? fun r => r.id = id
    let row ← Lookup.found row (.noRelationship id)
    liftM row.read
  workflows group :=
    query (.listWorkflows group) fun m => (m.workflows.filter fun w => w.2 = group).map (·.1)

end Database
end Cohort
