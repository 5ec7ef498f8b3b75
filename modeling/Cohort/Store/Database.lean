import Cohort.Instant.Microsecond
import Cohort.Json.Printer
import Cohort.Store.Error
import Cohort.Store.Statement

/-!
# The database

A store holds the log row of each group and the memberships (`Store`). The database keeps a committed store, the
working copy of a transaction with the copy of its savepoint, and the rows that definitions are read from. It answers
statements one at a time (`Database.send`), notes each in a trace, and refuses those that a fault names. A statement
that is refused inside a transaction aborts it: nothing but a rollback is taken after that.
-/

namespace Cohort

/-! ## Rows -/

/-- A log row as it is stored, with its status as text. -/
structure LogRow where
  /-- The group. -/
  groupId : Uuid
  /-- The entity. -/
  entityId : Uuid
  /-- When it was written, to the microsecond. -/
  calculatedAt : Instant
  /-- The number of members found. -/
  memberCount : Int
  /-- The name of the status. -/
  status : String
  /-- Why the calculation failed. -/
  errorMessage : Option String

/-- A log entry as a row. The column of the time keeps microseconds. -/
def LogRow.ofEntry (e : LogEntry) : LogRow :=
  ⟨e.groupId, e.entityId, e.calculatedAt.toMicrosecond, e.memberCount, e.status.name, e.errorMessage⟩

/-- The log entry in a row. -/
def LogRow.entry (r : LogRow) : Except DatabaseError LogEntry :=
  match CalculationStatus.read r.status with
  | .ok s => .ok ⟨r.groupId, r.entityId, r.calculatedAt, r.memberCount, s, r.errorMessage⟩
  | .error e => .error (.decoding e)

/-- An attribute as it is stored, with its declared type as text. -/
structure AttributeRow where
  /-- Its identifier. -/
  id : Uuid
  /-- The entity. -/
  entityId : Uuid
  /-- Its name. -/
  name : String
  /-- Its declared type. -/
  declaredType : String

/-- A relationship as it is stored, with its cardinality as text. -/
structure RelationshipRow where
  /-- Its identifier. -/
  id : Uuid
  /-- Its name. -/
  name : String
  /-- The entity at the source. -/
  sourceEntityId : Uuid
  /-- The attribute of the source. -/
  sourceAttributeId : Uuid
  /-- The entity at the target. -/
  targetEntityId : Uuid
  /-- The attribute of the target. -/
  targetAttributeId : Uuid
  /-- The name of the cardinality. -/
  cardinality : String

/-- A group as it is stored, with the document of its rules as text. -/
structure GroupRow where
  /-- Its identifier. -/
  id : Uuid
  /-- Its name. -/
  name : String
  /-- The entity. -/
  entityId : Uuid
  /-- The text of the rules. -/
  rules : String
  /-- A description, if there is one. -/
  description : Option String

/-- A group as a row. -/
def GroupRow.ofGroup (g : Group) : GroupRow := ⟨g.id, g.name, g.entityId, g.rules.render, g.description⟩

/-- The rows that definitions are read from. -/
structure MetadataRows where
  /-- The groups. -/
  groups : List GroupRow
  /-- The entities. -/
  entities : List Entity
  /-- The attributes. -/
  attributes : List AttributeRow
  /-- The relationships. -/
  relationships : List RelationshipRow
  /-- The active workflows, each with the group whose updates it waits for. -/
  workflows : List (Uuid × Uuid)

/-! ## Stores -/

/-- The rows that calculations write. -/
structure Store where
  /-- The log row of each group. -/
  logs : Table LogRow
  /-- The members, each with its group, in the order in which they were added. -/
  memberships : List (Uuid × Uuid)

namespace Store

/-- A store without rows. -/
def empty : Store := ⟨.empty, []⟩

/-- The store with the log row of a group written. -/
def writeLog (s : Store) (e : LogEntry) : Store := { s with logs := s.logs.insert e.groupId (.ofEntry e) }

/-- The store without the members of a group. -/
def removeMembers (s : Store) (group : Uuid) : Store :=
  { s with memberships := s.memberships.filter fun m => decide (m.1 ≠ group) }

/-- The store with one more member of a group. -/
def addMember (s : Store) (group member : Uuid) : Store :=
  { s with memberships := s.memberships ++ [(group, member)] }

/-- The members of a group, in the order in which they were added. -/
def membersOf (s : Store) (group : Uuid) : List Uuid :=
  (s.memberships.filter fun m => decide (m.1 = group)).map (·.2)

/-- The members of a group, in the order of their identifiers. -/
def sortedMembersOf (s : Store) (group : Uuid) : List Uuid := (s.membersOf group).mergeSort Uuid.notAfter

end Store

/-! ## The state -/

/-- An open transaction. -/
structure Transaction where
  /-- The store as the transaction sees it. -/
  working : Store
  /-- The store as it was at the savepoint. -/
  saved : Option Store
  /-- Whether a statement was refused, and not undone since. -/
  aborted : Bool

/-- The `nth` statement of a name, from one, is refused with a message. -/
structure Fault where
  /-- The name of the statement. -/
  on : String
  /-- Which statement of this name. -/
  nth : Nat
  /-- The words of the server. -/
  message : String

/-- A statement that was sent, with the words of the server if it was refused. -/
structure Event where
  /-- The statement. -/
  statement : Statement
  /-- The words of the server. -/
  refusal : Option String

/-- The database, and the one session that has a transaction. -/
structure Database where
  /-- What is committed. -/
  store : Store
  /-- The transaction. -/
  transaction : Option Transaction
  /-- How deep the session believes to be: zero outside of a transaction, one inside, two behind a savepoint. -/
  depth : Nat
  /-- A rollback that the session sends before its next statement. -/
  queued : Option Statement
  /-- The rows of definitions. -/
  metadata : MetadataRows
  /-- The rows that every membership query returns. -/
  answers : List Uuid
  /-- The faults. -/
  faults : List Fault
  /-- The statements sent so far. -/
  trace : List Event

/-- Work with the database, which may fail and changes it also then. -/
abbrev DatabaseM (α : Type) := ExceptT DatabaseError (StateM Database) α

namespace Database

/-- A database with committed rows, at rest. -/
def atRest (store : Store) (metadata : MetadataRows) (answers : List Uuid) (faults : List Fault) : Database :=
  ⟨store, none, 0, none, metadata, answers, faults, []⟩

/-! ## One statement -/

/-- The words with which the server refuses statements of an aborted transaction. -/
def abortedMessage : String := "current transaction is aborted, commands ignored until end of transaction block"

/-- How many statements of a name were sent. -/
def sent (db : Database) (name : String) : Nat := db.trace.countP fun e => e.statement.name == name

/-- The words with which a statement will be refused, if it will. -/
def refusal? (db : Database) (s : Statement) : Option String :=
  match db.faults.find? fun f => f.on == s.name && f.nth == db.sent s.name + 1 with
  | some f => some f.message
  | none =>
    match db.transaction with
    | some t => if t.aborted && !s.isRollback then some abortedMessage else none
    | none => none

/-- The database with a statement noted. -/
def note (db : Database) (s : Statement) (refusal : Option String) : Database :=
  { db with trace := db.trace ++ [⟨s, refusal⟩] }

/-- The database with its transaction aborted. -/
def abort (db : Database) : Database :=
  { db with transaction := db.transaction.map fun t => { t with aborted := true } }

/-- The database with a change to what the session sees: the working copy, or the committed store outside of a
transaction. -/
def write (db : Database) (f : Store → Store) : Database :=
  match db.transaction with
  | some t => { db with transaction := some { t with working := f t.working } }
  | none => { db with store := f db.store }

/-- What a statement does when it is not refused. -/
def perform (db : Database) : Statement → Database
  | .begin => { db with transaction := some ⟨db.store, none, false⟩ }
  | .upsertLog e => db.write (·.writeLog e)
  | .deleteMemberships group => db.write (·.removeMembers group)
  | .insertMembership group member => db.write (·.addMember group member)
  | .savepoint => { db with transaction := db.transaction.map fun t => { t with saved := some t.working } }
  | .release => { db with transaction := db.transaction.map fun t => { t with saved := none } }
  | .rollbackTo =>
    { db with transaction := db.transaction.map fun t => ⟨t.saved.getD t.working, none, false⟩ }
  | .commit =>
    { db with store := (db.transaction.map (·.working)).getD db.store, transaction := none }
  | .rollback => { db with transaction := none }
  | _ => db

/-- Sends a statement. -/
def send (s : Statement) : DatabaseM Unit := fun db =>
  match db.refusal? s with
  | some m => (.error (.server m), (db.note s (some m)).abort)
  | none => (.ok (), (db.note s none).perform s)

end Database
end Cohort
