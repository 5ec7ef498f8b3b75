import Cohort.Calculation.Preparation
import Cohort.Calculation.Recording
import Cohort.Metadata.Rows
import Cohort.Notification.Delivery

/-!
# Calculating a group

`calculate` fetches and prepares a group, writes its new members down, and then tells the workflows that wait for it.
A failure to prepare is written to the log by itself. Nothing is told unless the members were committed, and what
becomes of that does not change the outcome.
-/

namespace Cohort

/-- The database and what a client keeps beside it. -/
structure World (σ : Type) where
  /-- The database. -/
  database : Database
  /-- The state of the client. -/
  metadata : σ

/-- What calculations need. -/
structure Service (σ : Type) where
  /-- The source of definitions. -/
  client : MetadataClient (World σ)
  /-- What triggers workflows, if anything does. -/
  orchestrator : Option (Orchestrator (World σ))
  /-- How calculations are carried out. -/
  options : Recording.Options

variable {σ : Type}

/-- Work on the database as work on the world. -/
def World.onDatabase {ε α : Type} (work : ExceptT ε (StateM Database) α) : ExceptT ε (StateM (World σ)) α := fun w =>
  let (r, db) := work.run w.database
  (r, { w with database := db })

/-- The rows of the database as a source of definitions. -/
def World.client : MetadataClient (World σ) := Database.client.zoom World.database fun w db => { w with database := db }

/-- The new members of a group, and the deliveries if there is an orchestrator. -/
structure Calculated where
  /-- The members, in the order of the query. -/
  memberIds : List Uuid
  /-- The deliveries. -/
  deliveries : Option (List Delivery)

namespace Service

/-- Prepares a group; a failure is written to the log. -/
def preparing (s : Service σ) (g : Group) : Work (World σ) Prepared := fun w =>
  match (prepare s.client g).run w with
  | (.ok p, w) => (.ok p, w)
  | (.error e, w) => (.error e, { w with database := ((Recording.note s.options g e).run w.database).2 })

/-- Tells the workflows of a group, if there is an orchestrator. -/
def tell (s : Service σ) (group : Uuid) : StateM (World σ) (Option (List Delivery)) :=
  match s.orchestrator with
  | none => pure none
  | some trigger => do return some (← notify s.client trigger group)

/-- Calculates a group. -/
def calculate (s : Service σ) (id : Uuid) : Work (World σ) Calculated := do
  let g ← fetchGroup s.client id
  let p ← s.preparing g
  let ids ← World.onDatabase (Recording.run s.options g p.query)
  let deliveries ← s.tell g.id
  return ⟨ids, deliveries⟩

end Service
end Cohort
