import Cohort.Catalog.Table
import Cohort.Metadata.Client

/-!
# Definitions in memory

A registry holds definitions under their identifiers and counts the questions that it is asked (`Registry.client`).
-/

namespace Cohort

/-- Definitions in memory. -/
structure Registry where
  /-- The groups. -/
  groups : Table Group
  /-- The entities. -/
  entities : Table Entity
  /-- The attributes. -/
  attributes : Table Attribute
  /-- The relationships. -/
  relationships : Table Relationship
  /-- The workflows of each group. -/
  workflows : Table (List Uuid)
  /-- The number of questions so far. -/
  lookups : Nat

namespace Registry

/-- A registry without definitions. -/
def empty : Registry := ⟨.empty, .empty, .empty, .empty, .empty, 0⟩

/-- The registry with a group. -/
def addGroup (r : Registry) (g : Group) : Registry := { r with groups := r.groups.insert g.id g }

/-- The registry with an entity. -/
def addEntity (r : Registry) (e : Entity) : Registry := { r with entities := r.entities.insert e.id e }

/-- The registry with an attribute. -/
def addAttribute (r : Registry) (a : Attribute) : Registry := { r with attributes := r.attributes.insert a.id a }

/-- The registry with a relationship. -/
def addRelationship (r : Registry) (rel : Relationship) : Registry :=
  { r with relationships := r.relationships.insert rel.id rel }

/-- The workflows of a group. -/
def workflowsOf (r : Registry) (group : Uuid) : List Uuid := (r.workflows.get? group).getD []

/-- The registry with one more workflow that waits for updates of a group. -/
def addWorkflow (r : Registry) (group workflow : Uuid) : Registry :=
  { r with workflows := r.workflows.insert group (r.workflowsOf group ++ [workflow]) }

/-- A question, which is counted. -/
def ask {α : Type} (answer : Registry → Option α) (e : MetadataError) : Lookup Registry α := do
  modify fun r => { r with lookups := r.lookups + 1 }
  Lookup.found (answer (← get)) e

/-- The attribute with an identifier, if it belongs to the entity. -/
def attributeOf? (r : Registry) (entity id : Uuid) : Option Attribute :=
  (r.attributes.get? id).filter fun a => decide (a.entityId = entity)

/-- The registry as a source of definitions. -/
def client : MetadataClient Registry where
  group id := ask (fun r => r.groups.get? id) (.noGroup id)
  entity id := ask (fun r => r.entities.get? id) (.noEntity id)
  attributeOf entity id := ask (fun r => r.attributeOf? entity id) (.noAttribute entity id)
  relationship id := ask (fun r => r.relationships.get? id) (.noRelationship id)
  workflows group := ask (fun r => some (r.workflowsOf group)) (.noGroup group)

end Registry
end Cohort
