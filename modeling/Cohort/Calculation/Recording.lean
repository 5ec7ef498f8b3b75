import Cohort.Calculation.Error
import Cohort.Store.Session

/-!
# Writing a calculation down

One transaction holds everything that a calculation writes: the log row that it runs, the removal of the old members,
the new members and the log row of its outcome (`Recording.run`). The query and the new members lie behind a savepoint,
so that a statement that is refused there can be undone and the failure still be written. Any other refusal ends the
transaction without effect.
-/

namespace Cohort.Recording

open Session

/-- Work with the database that may fail for any reason. -/
abbrev Recorder (α : Type) := ExceptT CalculationError (StateM Database) α

/-- A statement as a part of the work. -/
def database {α : Type} (work : DatabaseM α) : Recorder α := ExceptT.adapt .database work

/-- How a calculation is carried out. -/
structure Options where
  /-- Whether calculations of one group wait for each other. -/
  lock : Bool
  /-- The time. -/
  now : Instant

/-- A step behind the savepoint that failed, after the query had returned a number of members. -/
structure Failure where
  /-- The number of members. -/
  count : Nat
  /-- Why it failed. -/
  cause : DatabaseError

/-- Adds members to a group. -/
def insertAll (group : Uuid) : List Uuid → DatabaseM Unit
  | [] => pure ()
  | m :: ms => do
    statement (.insertMembership group m)
    insertAll group ms

/-- Runs the query and adds what it returns to the group. -/
def addMembers (group : Uuid) (q : Query) : ExceptT Failure (StateM Database) (List Uuid) := do
  ExceptT.adapt (Failure.mk 0) (statement (.membershipQuery q))
  let ids := (← get).answers
  ExceptT.adapt (Failure.mk ids.length) (insertAll group ids)
  return ids

/-- Undoes work that failed, whatever comes of that. -/
def undoing {α : Type} (work : ExceptT Failure (StateM Database) α) : ExceptT Failure (StateM Database) α := fun db =>
  match work.run db with
  | (.ok a, db) => (.ok a, db)
  | (.error f, db) => (.error f, (rollbackTo.run db).2)

/-- Runs the query and adds what it returns to the group, all behind a savepoint. -/
def materialize (group : Uuid) (q : Query) : ExceptT Failure (StateM Database) (List Uuid) := do
  ExceptT.adapt (Failure.mk 0) savepoint
  let ids ← undoing (addMembers group q)
  ExceptT.adapt (Failure.mk ids.length) release
  return ids

/-- Writes that the calculation failed, keeps that, and fails. -/
def fail {α : Type} (o : Options) (g : Group) (count : Nat) (e : CalculationError) : Recorder α := do
  database (statement (.upsertLog (.failed g.id g.entityId o.now count e.message)))
  database commit
  throw e

/-- Writes what was found, keeps that, and gives the members. -/
def complete (o : Options) (g : Group) (ids : List Uuid) : Recorder (List Uuid) := do
  database (statement (.upsertLog (.completed g.id g.entityId o.now ids.length)))
  database commit
  return ids

/-- Opens the transaction, writes that the calculation runs and removes the old members. -/
def start (o : Options) (g : Group) : Recorder Unit := do
  database begin
  if o.lock then database (statement (.lock g.id))
  database (statement (.upsertLog (.calculating g.id g.entityId o.now)))
  database (statement (.deleteMemberships g.id))

/-- The outcome of the query, written down. -/
def finish (o : Options) (g : Group) (query : Except RuleError Query) : Recorder (List Uuid) := do
  match query with
  | .error e => fail o g 0 (.rule e)
  | .ok q => fun db =>
    match (materialize g.id q).run db with
    | (.ok ids, db) => (complete o g ids).run db
    | (.error f, db) => (fail o g f.count (.database f.cause)).run db

/-- The new members of a group, all written down or nothing. -/
def run (o : Options) (g : Group) (query : Except RuleError Query) : Recorder (List Uuid) :=
  within do
    start o g
    finish o g query

/-- Writes that a calculation failed before it could start; whether that succeeds does not matter. -/
def note (o : Options) (g : Group) (e : CalculationError) : StateM Database Unit := fun db =>
  ((), ((statement (.upsertLog (.failed g.id g.entityId o.now 0 e.message))).run db).2)

end Cohort.Recording
