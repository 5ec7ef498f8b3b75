import Cohort.Definition.Basic

/-!
# Looking definitions up

A metadata client answers questions about definitions (`MetadataClient`). A question may change the state behind the
client, and changes it also if it is answered by an error (`MetadataError`).
-/

namespace Cohort

/-- Why a question about definitions has no answer. -/
inductive MetadataError where
  /-- There is no such definition. -/
  | notFound (what : String)
  /-- The stored definition makes no sense. -/
  | invalid (what : String)
  /-- The question could not be asked. -/
  | internal (what : String)
  deriving DecidableEq

namespace MetadataError

/-- The wording of an error. -/
def message : MetadataError → String
  | notFound what => "not found: " ++ what
  | invalid what => "invalid definition: " ++ what
  | internal what => "internal: " ++ what

/-- Whether the definition does not exist. -/
def isNotFound : MetadataError → Bool
  | notFound _ => true
  | _ => false

/-- No group has this identifier. -/
def noGroup (id : Uuid) : MetadataError := notFound ("group definition " ++ id.text)

/-- No entity has this identifier. -/
def noEntity (id : Uuid) : MetadataError := notFound ("entity definition " ++ id.text)

/-- The entity has no attribute with this identifier. -/
def noAttribute (entity id : Uuid) : MetadataError :=
  notFound ("attribute definition " ++ id.text ++ " for entity " ++ entity.text)

/-- No relationship has this identifier. -/
def noRelationship (id : Uuid) : MetadataError := notFound ("entity relationship " ++ id.text)

end MetadataError

/-- A question to a client with some state. -/
abbrev Lookup (σ α : Type) := ExceptT MetadataError (StateM σ) α

/-- An answer that is there, or the error that it is not. -/
def Lookup.found {σ α : Type} (answer : Option α) (e : MetadataError) : Lookup σ α :=
  match answer with
  | some a => pure a
  | none => throw e

/-- A question to a client whose state is a part of a larger one. -/
def Lookup.zoom {σ τ α : Type} (part : τ → σ) (put : τ → σ → τ) (q : Lookup σ α) : Lookup τ α := fun t =>
  let (answer, s) := q.run (part t)
  (answer, put t s)

/-- A source of definitions. -/
structure MetadataClient (σ : Type) where
  /-- The group with an identifier. -/
  group : Uuid → Lookup σ Group
  /-- The entity with an identifier. -/
  entity : Uuid → Lookup σ Entity
  /-- The attribute of an entity, the entity first. -/
  attributeOf : Uuid → Uuid → Lookup σ Attribute
  /-- The relationship with an identifier. -/
  relationship : Uuid → Lookup σ Relationship
  /-- The workflows that wait for updates of a group, in order. -/
  workflows : Uuid → Lookup σ (List Uuid)

/-- A source of definitions whose state is a part of a larger one. -/
def MetadataClient.zoom {σ τ : Type} (c : MetadataClient σ) (part : τ → σ) (put : τ → σ → τ) : MetadataClient τ where
  group id := (c.group id).zoom part put
  entity id := (c.entity id).zoom part put
  attributeOf entity id := (c.attributeOf entity id).zoom part put
  relationship id := (c.relationship id).zoom part put
  workflows group := (c.workflows group).zoom part put

end Cohort
