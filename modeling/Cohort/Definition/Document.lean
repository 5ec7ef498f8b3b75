import Cohort.Definition.Basic
import Cohort.Json.Decoder

/-!
# Definitions as documents

Each definition is read from an object or an array of its parts and written as an object with all its parts. The type
of an attribute is read as any declared name and written as the name of its kind.
-/

namespace Cohort

open Json

/-- An identifier as a document. -/
def Uuid.document (u : Uuid) : Json := .string u.text

/-! ## Entities -/

/-- The parts of an entity. -/
def Entity.shape : Shape := ⟨"EntityDefinition", ["id", "name", "description"]⟩

/-- Reads an entity. -/
def Entity.ofDocument : Decoder Entity :=
  shape.decode <| Entity.mk
    <$> .required shape "id" Decoder.uuid
    <*> .required shape "name" Decoder.string
    <*> .defaulted shape "description" none (Decoder.nullable Decoder.string)

/-- An entity as it is written. -/
def Entity.document (e : Entity) : Json :=
  .object [("description", .ofOption .string e.description), ("id", e.id.document), ("name", .string e.name)]

/-! ## Attributes -/

/-- Reads a declared type. -/
def AttributeKind.ofDocument : Decoder AttributeKind := fun doc => (Decoder.string doc).map resolve

/-- The parts of an attribute. -/
def Attribute.shape : Shape := ⟨"AttributeDefinition", ["id", "entityId", "name", "dataType"]⟩

/-- Reads an attribute. -/
def Attribute.ofDocument : Decoder Attribute :=
  shape.decode <| Attribute.mk
    <$> .required shape "id" Decoder.uuid
    <*> .required shape "entityId" Decoder.uuid
    <*> .required shape "name" Decoder.string
    <*> .required shape "dataType" AttributeKind.ofDocument

/-- An attribute as it is written. -/
def Attribute.document (a : Attribute) : Json :=
  .object [("dataType", .string a.kind.name), ("entityId", a.entityId.document), ("id", a.id.document),
    ("name", .string a.name)]

/-! ## Relationships -/

/-- Reads a cardinality. -/
def Cardinality.ofDocument : Decoder Cardinality := Decoder.variant names

/-- The parts of a relationship. -/
def Relationship.shape : Shape :=
  ⟨"EntityRelationshipDefinition", ["id", "name", "sourceEntityId", "sourceAttributeId", "targetEntityId",
    "targetAttributeId", "relationshipType"]⟩

/-- Reads a relationship. -/
def Relationship.ofDocument : Decoder Relationship :=
  shape.decode <| Relationship.mk
    <$> .required shape "id" Decoder.uuid
    <*> .required shape "name" Decoder.string
    <*> .required shape "sourceEntityId" Decoder.uuid
    <*> .required shape "sourceAttributeId" Decoder.uuid
    <*> .required shape "targetEntityId" Decoder.uuid
    <*> .required shape "targetAttributeId" Decoder.uuid
    <*> .required shape "relationshipType" Cardinality.ofDocument

/-- A relationship as it is written. -/
def Relationship.document (r : Relationship) : Json :=
  .object [("id", r.id.document), ("name", .string r.name), ("relationshipType", .string r.cardinality.name),
    ("sourceAttributeId", r.sourceAttributeId.document), ("sourceEntityId", r.sourceEntityId.document),
    ("targetAttributeId", r.targetAttributeId.document), ("targetEntityId", r.targetEntityId.document)]

/-! ## Groups -/

/-- The parts of a group. -/
def Group.shape : Shape := ⟨"GroupDefinition", ["id", "name", "entityId", "rulesJson", "description"]⟩

/-- Reads a group. -/
def Group.ofDocument : Decoder Group :=
  shape.decode <| Group.mk
    <$> .required shape "id" Decoder.uuid
    <*> .required shape "name" Decoder.string
    <*> .required shape "entityId" Decoder.uuid
    <*> .required shape "rulesJson" Decoder.document
    <*> .defaulted shape "description" none (Decoder.nullable Decoder.string)

/-- A group as it is written. -/
def Group.document (g : Group) : Json :=
  .object [("description", .ofOption .string g.description), ("entityId", g.entityId.document),
    ("id", g.id.document), ("name", .string g.name), ("rulesJson", g.rules)]

end Cohort
