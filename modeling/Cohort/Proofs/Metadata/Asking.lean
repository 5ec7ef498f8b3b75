import Cohort.Calculation.Service
import Cohort.Proofs.Store.Session

/-!
# Questions leave the rows alone

Work asks (`Asks`) if, begun while no session is open, it leaves what is committed as it was and no session open, and
adds to the trace at most. Whatever is put together from questions asks (`Asks.bind`, `Asks.andThen`), so all that a
calculation does beside writing asks if its client does and its orchestrator does: fetching a group (`asks_fetchGroup`),
preparing it (`asks_prepare`) and telling workflows (`asks_tell`).

Fetching definitions is put together from the questions for them, whatever is to be shown of it
(`Prefetch.Composes.all`).

Any client that keeps its definitions beside the database asks (`asks_zoom_beside`).
-/

namespace Cohort

open Session

/-- Begun while no session is open, the work leaves what is committed as it was and no session open. -/
def Asks {τ α : Type} (view : τ → Database) (work : StateM τ α) : Prop :=
  ∀ db S, Runs db view work (.resting S) fun _ t _ => t = .resting S

namespace Asks

variable {τ τ' α β ε ε' : Type} {view : τ → Database}

protected theorem pure (a : α) : Asks view (pure a : StateM τ α) := fun _ _ => Runs.pure a rfl

protected theorem bind {x : StateM τ α} {f : α → StateM τ β} (hx : Asks view x) (hf : ∀ a, Asks view (f a)) :
    Asks view (x >>= f) := by
  intro db S
  refine Runs.bind (hx db S) fun a t es ht => ?_
  subst ht
  exact hf a db S

theorem andThen {x : ExceptT ε (StateM τ) α} {f : α → ExceptT ε (StateM τ) β} (hx : Asks view x.run)
    (hf : ∀ a, Asks view (f a).run) : Asks view (x >>= f).run := by
  rw [ExceptT.run_bind]
  refine Asks.bind hx fun r => ?_
  cases r with
  | ok a => exact hf a
  | error e => exact Asks.pure _

theorem adapt {x : ExceptT ε (StateM τ) α} (hx : Asks view x.run) (f : ε → ε') :
    Asks view (ExceptT.adapt f x).run :=
  fun db S => Runs.adapt f ((hx db S).mono fun _ _ _ h => h)

theorem lift (r : Except ε α) : Asks view (liftM r : ExceptT ε (StateM τ) α).run := by
  cases r <;> exact Asks.pure _

/-- Work that goes on with the answer of other work. -/
theorem through {x : StateM τ α} {w : StateM τ β} (k : α × τ → β × τ) (hw : ∀ t, w.run t = k (x.run t))
    (hx : Asks view x) (hk : ∀ a, Asks view fun t => k (a, t)) : Asks view w := by
  intro db S
  refine Runs.through k hw (hx db S) fun a t es ht => ?_
  subst ht
  exact hk a db S

/-- Work on a part of the state, seen through that part. -/
theorem onPart {x : StateM τ α} (hx : Asks view x) {view' : τ' → Database} {part : τ' → τ} {put : τ' → τ → τ'}
    (hpart : ∀ t, view' t = view (part t)) (hput : ∀ t s, view' (put t s) = view s) :
    Asks view' (fun t => ((x.run (part t)).1, put t (x.run (part t)).2) : StateM τ' α) :=
  fun db S => (hx db S).onPart hpart hput

/-- Work that does not touch what is seen. -/
theorem unseen {w : StateM τ α} (h : ∀ t, view (w.run t).2 = view t) : Asks view w :=
  fun _ _ => Runs.unseen h fun _ => rfl

end Asks

/-! ## Clients -/

/-- All questions to the client leave the rows alone. -/
structure MetadataClient.Asks {τ : Type} (client : MetadataClient τ) (view : τ → Database) : Prop where
  /-- Questions for groups. -/
  group : ∀ id, Cohort.Asks view (client.group id).run
  /-- Questions for entities. -/
  entity : ∀ id, Cohort.Asks view (client.entity id).run
  /-- Questions for attributes. -/
  attributeOf : ∀ entity id, Cohort.Asks view (client.attributeOf entity id).run
  /-- Questions for relationships. -/
  relationship : ∀ id, Cohort.Asks view (client.relationship id).run
  /-- Questions for workflows. -/
  workflows : ∀ group, Cohort.Asks view (client.workflows group).run

namespace MetadataClient

variable {σ τ : Type} {client : MetadataClient σ} {part : τ → σ} {put : τ → σ → τ}

/-- A client that keeps its definitions beside the database. -/
theorem asks_zoom_beside {view : τ → Database} (hput : ∀ t s, view (put t s) = view t) :
    (client.zoom part put).Asks view where
  group _ := Asks.unseen fun _ => hput _ _
  entity _ := Asks.unseen fun _ => hput _ _
  attributeOf _ _ := Asks.unseen fun _ => hput _ _
  relationship _ := Asks.unseen fun _ => hput _ _
  workflows _ := Asks.unseen fun _ => hput _ _

end MetadataClient

/-! ## Fetching -/

namespace Prefetch

variable {σ : Type} {client : MetadataClient σ}

/-- What holds of fetching nothing and of looking at and putting definitions, and of work after work of which it
holds. -/
structure Composes (P : ∀ {α : Type}, Prefetch σ α → Prop) : Prop where
  /-- Nothing is done. -/
  pure : ∀ {α : Type} (a : α), P (pure a)
  /-- Work after work. -/
  andThen : ∀ {α β : Type} {x : Prefetch σ α} {f : α → Prefetch σ β}, P x → (∀ a, P (f a)) → P (x >>= f)
  /-- The definitions are looked at. -/
  definitions : P definitions
  /-- Definitions are put. -/
  put : ∀ f, P (put f)

variable {P : ∀ {α : Type}, Prefetch σ α → Prop}

theorem Composes.heldAttribute (h : Composes P) (hattribute : ∀ entity id, P (ask (client.attributeOf entity id)))
    (entity id : Uuid) : P (heldAttribute client entity id) := by
  refine h.andThen h.definitions fun d => ?_
  split
  · exact h.pure _
  · exact h.andThen (hattribute entity id) fun _ => h.put _

theorem Composes.heldRelationship (h : Composes P) (hattribute : ∀ entity id, P (ask (client.attributeOf entity id)))
    (hrelationship : ∀ id, P (ask (client.relationship id))) (id : Uuid) : P (heldRelationship client id) := by
  refine h.andThen h.definitions fun d => ?_
  split
  · exact h.pure _
  · refine h.andThen (hrelationship id) fun r => h.andThen (h.heldAttribute hattribute _ _) fun _ => ?_
    exact h.andThen (h.heldAttribute hattribute _ _) fun _ => h.put _

theorem Composes.relationships (h : Composes P) (hattribute : ∀ entity id, P (ask (client.attributeOf entity id)))
    (hrelationship : ∀ id, P (ask (client.relationship id))) : ∀ ids, P (relationships client ids)
  | [] => h.pure _
  | id :: ids => h.andThen (h.heldRelationship hattribute hrelationship id) fun _ =>
    h.relationships hattribute hrelationship ids

theorem Composes.attributes (h : Composes P) (hattribute : ∀ entity id, P (ask (client.attributeOf entity id))) :
    ∀ ids, P (attributes client ids)
  | [] => h.pure _
  | (entity, id) :: rest => h.andThen (h.heldAttribute hattribute entity id) fun _ => h.attributes hattribute rest

/-- What composes and holds of the questions holds of fetching all that criteria need. -/
theorem Composes.all (h : Composes P) (hattribute : ∀ entity id, P (ask (client.attributeOf entity id)))
    (hrelationship : ∀ id, P (ask (client.relationship id))) (c : Criteria) (entity : Uuid) : P (all client c entity) :=
  h.andThen (h.relationships hattribute hrelationship _) fun _ =>
    h.andThen h.definitions fun _ => h.attributes hattribute _

end Prefetch

/-! ## Preparing and telling -/

section

variable {σ : Type} {client : MetadataClient σ} {view : σ → Database}

namespace Prefetch

/-- What is fetched and the client, seen through the client. -/
abbrev seen (view : σ → Database) (s : Definitions × σ) : Database := view s.2

theorem asks_ask {α : Type} {q : Lookup σ α} (hq : Asks view q.run) : Asks (seen view) (ask q).run :=
  hq.onPart (fun _ => rfl) fun _ _ => rfl

theorem asks_definitions : Asks (seen view) definitions.run := Asks.unseen fun _ => rfl

theorem asks_put (f : Definitions → Definitions) : Asks (seen view) (put f).run := Asks.unseen fun _ => rfl

theorem asks_all (h : client.Asks view) (c : Criteria) (entity : Uuid) : Asks (seen view) (all client c entity).run :=
  have hcomposes : Composes fun x : Prefetch σ _ => Asks (seen view) x.run :=
    ⟨fun _ => Asks.pure _, Asks.andThen, asks_definitions, asks_put⟩
  hcomposes.all (fun _ _ => asks_ask (h.attributeOf _ _)) (fun _ => asks_ask (h.relationship _)) c entity

end Prefetch

theorem asks_fetchGroup (h : client.Asks view) (id : Uuid) : Asks view (fetchGroup client id).run := by
  refine Asks.through (fun p : Except MetadataError Group × σ => match p with
    | (.ok g, s) => (.ok g, s)
    | (.error e, s) => (.error (if e.isNotFound then .groupNotFound id else .metadata e), s)) (fun _ => rfl)
    (h.group id) fun r => ?_
  cases r <;> exact Asks.unseen fun _ => rfl

theorem asks_fetchDefinitions (h : client.Asks view) (rules : Criteria) (entity : Uuid) :
    Asks view (fetchDefinitions client rules entity).run := by
  intro db S t es ht
  obtain ⟨t', es', hw, hs⟩ := Prefetch.asks_all h rules entity db S (.empty, t) es ht
  refine ⟨t', es', ?_, hs⟩
  have hstate : ∀ p : Except MetadataError Unit × Definitions × σ,
      (match p with
        | (.ok (), d, s) => ((.ok d : Except CalculationError Definitions), s)
        | (.error e, _, s) => (.error (.metadata e), s)).2 = p.2.2 := by
    rintro ⟨r, d, s⟩
    cases r <;> rfl
  exact (congrArg view (hstate _)).trans hw

theorem asks_prepare (h : client.Asks view) (g : Group) : Asks view (prepare client g).run :=
  Asks.andThen (Asks.lift _) fun _ => Asks.andThen ((h.entity _).adapt _) fun _ =>
    Asks.andThen (asks_fetchDefinitions h _ _) fun _ => Asks.pure _

theorem asks_triggerAll {trigger : Orchestrator σ} (h : ∀ w, Asks view (trigger w)) :
    ∀ ws, Asks view (triggerAll trigger ws)
  | [] => Asks.pure _
  | w :: ws => Asks.bind (h w) fun _ => Asks.bind (asks_triggerAll h ws) fun _ => Asks.pure _

theorem asks_notify (h : client.Asks view) {trigger : Orchestrator σ} (ht : ∀ w, Asks view (trigger w)) (group : Uuid) :
    Asks view (notify client trigger group) := by
  refine Asks.bind (h.workflows group) fun r => ?_
  cases r with
  | error e => exact Asks.pure _
  | ok ws => exact asks_triggerAll ht ws

end

namespace Service

variable {σ : Type} {s : Service σ}

/-- The client and the orchestrator, if there is one, leave the rows alone. -/
structure Quiet (s : Service σ) : Prop where
  /-- The client. -/
  client : s.client.Asks World.database
  /-- The orchestrator. -/
  orchestrator : ∀ trigger, s.orchestrator = some trigger → ∀ w, Asks World.database (trigger w)

theorem Quiet.asks_tell (h : s.Quiet) (group : Uuid) : Asks World.database (s.tell group) := by
  unfold tell
  split
  · exact Asks.pure _
  · rename_i trigger htrigger
    exact Asks.bind (asks_notify h.client (h.orchestrator trigger htrigger) group) fun _ => Asks.pure _

end Service
end Cohort
