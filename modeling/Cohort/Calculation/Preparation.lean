import Cohort.Calculation.Error
import Cohort.Catalog.Prefetch
import Cohort.Query.Membership
import Cohort.Rule.Document

/-!
# Preparing a calculation

Before a group is calculated its definition is fetched, its rules are read, its entity is looked up and the
definitions that the rules need are fetched (`prepare`). `explain` stops there and gives the membership query.
-/

namespace Cohort

/-- Work with a client that may fail. -/
abbrev Work (σ α : Type) := ExceptT CalculationError (StateM σ) α

/-- A group that is ready to be calculated. -/
structure Prepared where
  /-- The group. -/
  group : Group
  /-- Its rules. -/
  rules : Criteria
  /-- What the rules need. -/
  definitions : Definitions

/-- The membership query of a prepared group. -/
def Prepared.query (p : Prepared) : Except RuleError Query := membershipQuery p.definitions p.rules p.group.entityId

variable {σ : Type}

/-- A question to the client as a part of the work. -/
def Lookup.work {α : Type} (q : Lookup σ α) : Work σ α := ExceptT.adapt .metadata q

/-- The definition of a group. -/
def fetchGroup (client : MetadataClient σ) (id : Uuid) : Work σ Group := fun s =>
  match (client.group id).run s with
  | (.ok g, s) => (.ok g, s)
  | (.error e, s) => (.error (if e.isNotFound then .groupNotFound id else .metadata e), s)

/-- The definitions that rules on rows of an entity need, starting with none at hand. -/
def fetchDefinitions (client : MetadataClient σ) (rules : Criteria) (entity : Uuid) : Work σ Definitions := fun s =>
  match (Prefetch.all client rules entity).run (.empty, s) with
  | (.ok (), d, s) => (.ok d, s)
  | (.error e, _, s) => (.error (.metadata e), s)

/-- Makes a group ready to be calculated. -/
def prepare (client : MetadataClient σ) (g : Group) : Work σ Prepared := do
  let rules ← liftM ((Criteria.ofDocument g.rules).mapError CalculationError.rule)
  let _ ← (client.entity g.entityId).work
  let definitions ← fetchDefinitions client rules g.entityId
  return ⟨g, rules, definitions⟩

/-- The membership query of a group. -/
def explain (client : MetadataClient σ) (id : Uuid) : Work σ Query := do
  let g ← fetchGroup client id
  let p ← prepare client g
  liftM (p.query.mapError CalculationError.rule)

end Cohort
