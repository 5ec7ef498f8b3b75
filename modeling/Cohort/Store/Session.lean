import Cohort.Store.Database

/-!
# Sessions

A session nests at most two levels, a transaction and a savepoint in it. Whatever ends a level without success leaves a
rollback of that level in the queue, which goes out before the next statement; if that rollback is refused, the next
statement fails with it and is not sent. `Session.close` ends the session: what is still open is undone.

A savepoint that cannot be set costs the whole transaction, so what follows it is written outside of one.
-/

namespace Cohort.Session

open Database

/-- Sends the rollback in the queue, if there is one. -/
def flush : DatabaseM Unit := do
  match (← get).queued with
  | none => pure ()
  | some s =>
    modify fun db => { db with queued := none }
    send s

/-- Sends a statement behind the rollback in the queue. -/
def statement (s : Statement) : DatabaseM Unit := do
  flush
  send s

/-- Sends a statement and goes to a level if it is not refused; else puts a rollback into the queue and goes to the
level below that. -/
def leaveBy (s : Statement) (level : Nat) (undo : Option Statement) (fallback : Nat) : DatabaseM Unit := fun db =>
  match (statement s).run db with
  | (.ok (), db) => (.ok (), { db with depth := level })
  | (.error e, db) => (.error e, { db with depth := fallback, queued := undo })

/-- Opens a transaction. -/
def begin : DatabaseM Unit := leaveBy .begin 1 none 0

/-- Sets a savepoint in the transaction. -/
def savepoint : DatabaseM Unit := leaveBy .savepoint 2 (some .rollback) 0

/-- Gives the savepoint up and keeps what was done since. -/
def release : DatabaseM Unit := leaveBy .release 1 (some .rollbackTo) 1

/-- Undoes what was done since the savepoint. -/
def rollbackTo : DatabaseM Unit := leaveBy .rollbackTo 1 (some .rollbackTo) 1

/-- Commits the transaction; outside of one there is nothing to commit. -/
def commit : DatabaseM Unit := do
  if (← get).depth = 0 then pure () else leaveBy .commit 0 (some .rollback) 0

/-- The database with a rollback of the transaction in the queue, if one is open. -/
def abandon (db : Database) : Database :=
  if db.depth = 0 then db else { db with depth := 0, queued := some .rollback }

/-- Ends the session. -/
def close : StateM Database Unit := fun db =>
  let (_, db) := flush.run (abandon db)
  ((), { db with transaction := none, depth := 0, queued := none })

/-- Work that is undone as far as it was not committed. -/
def within {ε α : Type} (work : ExceptT ε (StateM Database) α) : ExceptT ε (StateM Database) α := fun db =>
  let (r, db) := work.run db
  let (_, db) := close.run db
  (r, db)

end Cohort.Session
