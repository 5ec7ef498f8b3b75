import Cohort.Metadata.Client
import Cohort.Notification.Orchestrator

/-!
# Telling workflows of an update

After a group was calculated, every workflow that waits for its updates is triggered, in the order in which they are
listed and whatever became of the ones before (`notify`). If they cannot be listed, none is triggered.
-/

namespace Cohort

/-- A workflow that was triggered, or failed to be. -/
structure Delivery where
  /-- The workflow. -/
  workflow : Uuid
  /-- What became of it. -/
  outcome : Except OrchestrationError Unit

/-- Whether the workflow was triggered. -/
def Delivery.succeeded (d : Delivery) : Bool := d.outcome.toBool

/-- The workflows that were triggered and those that failed to be, each in order. -/
structure Notified where
  /-- The ones that were triggered. -/
  triggered : List Uuid
  /-- The ones that were not. -/
  failed : List Uuid

/-- Deliveries by their outcome. -/
def Notified.ofDeliveries (ds : List Delivery) : Notified :=
  ⟨(ds.filter Delivery.succeeded).map (·.workflow), (ds.filter fun d => !d.succeeded).map (·.workflow)⟩

variable {σ : Type}

/-- Triggers workflows one after the other. -/
def triggerAll (trigger : Orchestrator σ) : List Uuid → StateM σ (List Delivery)
  | [] => pure []
  | w :: ws => do
    let outcome ← trigger w
    let rest ← triggerAll trigger ws
    return ⟨w, outcome⟩ :: rest

/-- Triggers the workflows that wait for updates of a group. -/
def notify (client : MetadataClient σ) (trigger : Orchestrator σ) (group : Uuid) : StateM σ (List Delivery) := do
  match ← (client.workflows group).run with
  | .error _ => return []
  | .ok workflows => triggerAll trigger workflows

end Cohort
