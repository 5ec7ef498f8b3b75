import Cohort.Store.Database

/-!
# The database as a document

A document gives the parts of a database by their names (`Database.withPart`): rows of definitions, log rows,
memberships, the rows that membership queries return, and faults. Parts that it does not name stay as they are
(`Database.withParts`). What calculations have written is written as a document by `Store.document`.
-/

namespace Cohort

open Json

/-! ## Rows -/

/-- Reads a group row. -/
def GroupRow.ofDocument : Decoder GroupRow := fun doc => (Group.ofDocument doc).map ofGroup

/-- The parts of an attribute row. -/
def AttributeRow.shape : Shape := ⟨"AttributeRow", ["id", "entityId", "name", "dataType"]⟩

/-- Reads an attribute row. -/
def AttributeRow.ofDocument : Decoder AttributeRow :=
  shape.decode <| AttributeRow.mk
    <$> .required shape "id" Decoder.uuid
    <*> .required shape "entityId" Decoder.uuid
    <*> .required shape "name" Decoder.string
    <*> .required shape "dataType" Decoder.string

/-- Reads a relationship row. -/
def RelationshipRow.ofDocument : Decoder RelationshipRow :=
  Relationship.shape.decode <| RelationshipRow.mk
    <$> .required Relationship.shape "id" Decoder.uuid
    <*> .required Relationship.shape "name" Decoder.string
    <*> .required Relationship.shape "sourceEntityId" Decoder.uuid
    <*> .required Relationship.shape "sourceAttributeId" Decoder.uuid
    <*> .required Relationship.shape "targetEntityId" Decoder.uuid
    <*> .required Relationship.shape "targetAttributeId" Decoder.uuid
    <*> .required Relationship.shape "relationshipType" Decoder.string

/-- The parts of a log row. -/
def LogRow.shape : Shape :=
  ⟨"LogRow", ["groupId", "entityId", "calculatedAt", "memberCount", "status", "errorMessage"]⟩

/-- Reads a log row. -/
def LogRow.ofDocument : Decoder LogRow :=
  shape.decode <| LogRow.mk
    <$> .required shape "groupId" Decoder.uuid
    <*> .required shape "entityId" Decoder.uuid
    <*> .required shape "calculatedAt" Decoder.instant
    <*> .required shape "memberCount" Decoder.integer
    <*> .required shape "status" Decoder.string
    <*> .optional shape "errorMessage" Decoder.string

/-- A log row as it is written. -/
def LogRow.document (r : LogRow) : Json :=
  .object [("calculatedAt", .string r.calculatedAt.text), ("entityId", r.entityId.document),
    ("errorMessage", .ofOption .string r.errorMessage), ("groupId", r.groupId.document),
    ("memberCount", .ofInt r.memberCount), ("status", .string r.status)]

/-- Reads two identifiers from the fields of a record. -/
def pairOfDocument (shape : Shape) (first second : String) : Decoder (Uuid × Uuid) :=
  shape.decode <| Prod.mk <$> .required shape first Decoder.uuid <*> .required shape second Decoder.uuid

/-- Reads a workflow and the group whose updates it waits for. -/
def workflowOfDocument : Decoder (Uuid × Uuid) := pairOfDocument ⟨"WorkflowRow", ["id", "groupId"]⟩ "id" "groupId"

/-- Reads a group and a member of it. -/
def membershipOfDocument : Decoder (Uuid × Uuid) :=
  pairOfDocument ⟨"MembershipRow", ["groupId", "memberId"]⟩ "groupId" "memberId"

/-- The parts of a fault. -/
def Fault.shape : Shape := ⟨"Fault", ["on", "nth", "message"]⟩

/-- Reads a fault; the first statement of its name is meant if no other is. -/
def Fault.ofDocument : Decoder Fault :=
  shape.decode <| (fun on nth message => ⟨on, Int.toNat nth, message⟩)
    <$> .required shape "on" Decoder.string
    <*> .defaulted shape "nth" 1 Decoder.integer
    <*> .required shape "message" Decoder.string

/-! ## Stores -/

/-- The log rows by their groups. -/
def Store.logsOf (rows : List LogRow) : Table LogRow := rows.foldl (fun t r => t.insert r.groupId r) .empty

/-- The log rows in the order of their groups. -/
def Store.sortedLogs (s : Store) : List LogRow :=
  (s.logs.entries.map (·.2)).mergeSort fun a b => a.groupId.notAfter b.groupId

/-- What calculations have written. -/
def Store.document (s : Store) : Json :=
  .object [("logs", .array (s.sortedLogs.map LogRow.document)),
    ("memberships", .array (s.memberships.map fun m => .array [m.1.document, m.2.document]))]

/-! ## Databases -/

namespace Database

/-- A database without rows. -/
def empty : Database := atRest .empty ⟨[], [], [], [], []⟩ [] []

/-- Replaces the part with a name; no other names mean anything. -/
def withPart (db : Database) (name : String) (doc : Json) : Except Mismatch Database :=
  match name with
  | "groups" =>
    return { db with metadata := { db.metadata with groups := ← Decoder.list GroupRow.ofDocument doc } }
  | "entities" => return { db with metadata := { db.metadata with entities := ← Decoder.list Entity.ofDocument doc } }
  | "attributes" =>
    return { db with metadata := { db.metadata with attributes := ← Decoder.list AttributeRow.ofDocument doc } }
  | "relationships" =>
    return { db with metadata := { db.metadata with relationships := ← Decoder.list RelationshipRow.ofDocument doc } }
  | "workflows" =>
    return { db with metadata := { db.metadata with workflows := ← Decoder.list workflowOfDocument doc } }
  | "logs" => return { db with store := { db.store with logs := Store.logsOf (← Decoder.list LogRow.ofDocument doc) } }
  | "memberships" =>
    return { db with store := { db.store with memberships := ← Decoder.list membershipOfDocument doc } }
  | "queryRows" => return { db with answers := ← Decoder.list Decoder.uuid doc }
  | "faults" => return { db with faults := ← Decoder.list Fault.ofDocument doc }
  | _ => return db

/-- Replaces all parts that a document names. -/
def withParts (db : Database) (doc : Json) : Except Mismatch Database :=
  doc.members.foldlM (fun db m => db.withPart m.1 m.2) db

/-- The database that a document gives, with nothing in the parts that it does not name. -/
def ofDocument (doc : Json) : Except Mismatch Database := empty.withParts doc

end Database
end Cohort
