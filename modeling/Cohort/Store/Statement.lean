import Cohort.Attribute.Parameter
import Cohort.Calculation.Log
import Cohort.Instant.Microsecond
import Cohort.Query.Membership

/-!
# Statements

What a session says to the database. A statement has a short name, by which faults refer to it, and the parameters
that go with it.
-/

namespace Cohort

/-- A statement. -/
inductive Statement where
  /-- Opens a transaction. -/
  | begin
  /-- Waits until no other calculation of the group runs. -/
  | lock (group : Uuid)
  /-- Writes the log row of a group. -/
  | upsertLog (entry : LogEntry)
  /-- Removes all members of a group. -/
  | deleteMemberships (group : Uuid)
  /-- Sets a savepoint in the transaction. -/
  | savepoint
  /-- Runs a membership query. -/
  | membershipQuery (query : Query)
  /-- Adds a member to a group. -/
  | insertMembership (group member : Uuid)
  /-- Gives the savepoint up. -/
  | release
  /-- Undoes what was done since the savepoint. -/
  | rollbackTo
  /-- Ends the transaction and keeps what it did. -/
  | commit
  /-- Ends the transaction and undoes what it did. -/
  | rollback
  /-- Reads the log row of a group. -/
  | latestLog (group : Uuid)
  /-- Reads the members of a group. -/
  | memberIds (group : Uuid)
  /-- Reads a group. -/
  | getGroup (id : Uuid)
  /-- Reads an entity. -/
  | getEntity (id : Uuid)
  /-- Reads an attribute of an entity. -/
  | getAttribute (id entity : Uuid)
  /-- Reads a relationship. -/
  | getRelationship (id : Uuid)
  /-- Reads the workflows that wait for updates of a group. -/
  | listWorkflows (group : Uuid)
  /-- Reads the number one. -/
  | selectOne

namespace Statement

/-- The short name of a statement. -/
def name : Statement → String
  | begin => "begin"
  | lock _ => "lock"
  | upsertLog _ => "upsert_log"
  | deleteMemberships _ => "delete_memberships"
  | savepoint => "savepoint"
  | membershipQuery _ => "membership_query"
  | insertMembership _ _ => "insert_membership"
  | release => "release"
  | rollbackTo => "rollback_to"
  | commit => "commit"
  | rollback => "rollback"
  | latestLog _ => "latest_log"
  | memberIds _ => "member_ids"
  | getGroup _ => "get_group"
  | getEntity _ => "get_entity"
  | getAttribute _ _ => "get_attribute"
  | getRelationship _ => "get_relationship"
  | listWorkflows _ => "list_workflows"
  | selectOne => "select_one"

/-- The parameters of a statement, the time of writing apart; none for a value that is not there. -/
def parameters : Statement → List (Option Parameter)
  | lock group | deleteMemberships group | latestLog group | memberIds group | listWorkflows group =>
    [some (.uuid group)]
  | upsertLog e =>
    [some (.uuid e.groupId), some (.uuid e.entityId), some (.integer e.memberCount),
      some (.text e.status.name), e.errorMessage.map .text]
  | membershipQuery q => q.parameters.map some
  | insertMembership group member => [some (.uuid group), some (.uuid member)]
  | getGroup id | getEntity id | getRelationship id => [some (.uuid id)]
  | getAttribute id entity => [some (.uuid id), some (.uuid entity)]
  | _ => []

/-- A parameter as the database receives it: an instant to the microsecond, a zero without sign and places. -/
def received : Parameter → Parameter
  | .instant t => .instant t.toMicrosecond
  | .numeric d => .numeric (if d.digits = 0 then .zero else d)
  | p => p

/-- A statement that ends or undoes work, which an aborted transaction still takes. -/
def isRollback : Statement → Bool
  | rollback => true
  | rollbackTo => true
  | _ => false

end Statement
end Cohort
