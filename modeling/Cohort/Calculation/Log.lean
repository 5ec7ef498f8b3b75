import Cohort.Definition.Document

/-!
# The log of calculations

A group has at most one log entry, which tells how its last calculation stands (`LogEntry`), and results, its members
as of a successful calculation (`Results`).
-/

namespace Cohort

open Json

/-- How a calculation stands. -/
inductive CalculationStatus where
  | calculating
  | completed
  | failed
  deriving DecidableEq

namespace CalculationStatus

/-- The names of the states. -/
def names : List (String × CalculationStatus) :=
  [("CALCULATING", calculating), ("COMPLETED", completed), ("FAILED", failed)]

/-- The name of a state. -/
def name : CalculationStatus → String
  | calculating => "CALCULATING"
  | completed => "COMPLETED"
  | failed => "FAILED"

/-- A calculation that has come to its end. -/
def isTerminal : CalculationStatus → Bool
  | calculating => false
  | completed => true
  | failed => true

/-- No state has this name. -/
structure Unknown where
  /-- The name. -/
  name : String

/-- The wording of the error. -/
def Unknown.message (e : Unknown) : String := "Unknown calculation status: " ++ e.name

/-- The state with exactly this name. -/
def read (raw : String) : Except Unknown CalculationStatus :=
  match names.lookup raw with
  | some s => .ok s
  | none => .error ⟨raw⟩

/-- Reads a state from a document. -/
def ofDocument : Decoder CalculationStatus := Decoder.variant names

end CalculationStatus

/-! ## Log entries -/

/-- How the last calculation of a group stands. -/
structure LogEntry where
  /-- The group. -/
  groupId : Uuid
  /-- The entity whose rows the group selects. -/
  entityId : Uuid
  /-- When the entry was written. -/
  calculatedAt : Instant
  /-- The number of members found. -/
  memberCount : Int
  /-- How the calculation stands. -/
  status : CalculationStatus
  /-- Why it failed. -/
  errorMessage : Option String

namespace LogEntry

/-- A count as a signed number of 64 bits, counts too large going over to the negative ones. -/
def countOf (n : Nat) : Int := Int.bmod n (Numeral.twoTo 64)

/-- A calculation that begins. -/
def calculating (group entity : Uuid) (now : Instant) : LogEntry := ⟨group, entity, now, 0, .calculating, none⟩

/-- A calculation that found `count` members. -/
def completed (group entity : Uuid) (now : Instant) (count : Nat) : LogEntry :=
  ⟨group, entity, now, countOf count, .completed, none⟩

/-- A calculation that failed after it had found `count` members. -/
def failed (group entity : Uuid) (now : Instant) (count : Nat) (message : String) : LogEntry :=
  ⟨group, entity, now, countOf count, .failed, some message⟩

/-- The parts of a log entry. -/
def shape : Shape :=
  ⟨"GroupCalculationLog", ["groupDefinitionId", "entityDefinitionId", "calculatedAt", "memberCount", "status",
    "errorMessage"]⟩

/-- Reads a log entry. -/
def ofDocument : Decoder LogEntry :=
  shape.decode <| LogEntry.mk
    <$> .required shape "groupDefinitionId" Decoder.uuid
    <*> .required shape "entityDefinitionId" Decoder.uuid
    <*> .required shape "calculatedAt" Decoder.instant
    <*> .required shape "memberCount" Decoder.integer
    <*> .required shape "status" CalculationStatus.ofDocument
    <*> .optional shape "errorMessage" Decoder.string

/-- A log entry as it is written. -/
def document (e : LogEntry) : Json :=
  .object [("calculatedAt", .string e.calculatedAt.text), ("entityDefinitionId", e.entityId.document),
    ("errorMessage", .ofOption .string e.errorMessage), ("groupDefinitionId", e.groupId.document),
    ("memberCount", .ofInt e.memberCount), ("status", .string e.status.name)]

end LogEntry

/-! ## Results -/

/-- The members of a group, and when they were found; a group that was never calculated has no members. -/
structure Results where
  /-- The members. -/
  memberIds : List Uuid
  /-- When they were found. -/
  calculatedAt : Option Instant

namespace Results

/-- The results of a group that was never calculated. -/
def never : Results := ⟨[], none⟩

/-- The parts of results. -/
def shape : Shape := ⟨"GroupResults", ["memberIds", "calculatedAt"]⟩

/-- Reads results. -/
def ofDocument : Decoder Results :=
  shape.decode <| Results.mk
    <$> .required shape "memberIds" (Decoder.list Decoder.uuid)
    <*> .optional shape "calculatedAt" Decoder.instant

/-- Results as they are written. -/
def document (r : Results) : Json :=
  .object [("memberIds", .array (r.memberIds.map Uuid.document)),
    ("calculatedAt", .ofOption (fun t => .string t.text) r.calculatedAt)]

end Results
end Cohort
