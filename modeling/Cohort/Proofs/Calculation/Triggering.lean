import Cohort.Proofs.Calculation.Plan

/-!
# When workflows are triggered

A service with a record beside its state notes each trigger together with the database as it was then
(`Service.recorded`). The record changes nothing of what the service does, and it shows that workflows are triggered
only behind the commit of a completed calculation, and then each that is listed, once and in order, whatever the
orchestrator answers (`calculate_triggers`). What is made of the workflows changes neither the members nor what is
committed.
-/

namespace Cohort

open Session

variable {σ τ : Type}

/-! ## Worlds that share a database -/

/-- Related worlds have the same database, and they stay related if it changes in both. -/
structure Sharing (R : World σ → World τ → Prop) : Prop where
  /-- The databases are the same. -/
  database : ∀ v w, R v w → v.database = w.database
  /-- The databases may change. -/
  update : ∀ v w, R v w → ∀ db, R { v with database := db } { w with database := db }

section

variable {R : World σ → World τ → Prop} {s : Service σ} {s' : Service τ}

theorem agree_onDatabase (hR : Sharing R) {ε α : Type} (work : ExceptT ε (StateM Database) α) :
    Agree R (World.onDatabase work).run (World.onDatabase work).run := by
  intro v w h
  show (work.run v.database).1 = (work.run w.database).1 ∧
    R { v with database := (work.run v.database).2 } { w with database := (work.run w.database).2 }
  rw [hR.database v w h]
  exact ⟨rfl, hR.update v w h _⟩

theorem agree_preparing (h : s.client.Agrees s'.client R) (ho : s.options = s'.options) (hR : Sharing R) (g : Group) :
    Agree R (s.preparing g).run (s'.preparing g).run := by
  intro v w hvw
  obtain ⟨hanswer, hstate⟩ := agree_prepare h g v w hvw
  obtain ⟨⟨r, v'⟩, hv⟩ : ∃ p, (prepare s.client g).run.run v = p := ⟨_, rfl⟩
  obtain ⟨⟨r', w'⟩, hw⟩ : ∃ p, (prepare s'.client g).run.run w = p := ⟨_, rfl⟩
  rw [hv, hw] at hanswer hstate
  obtain rfl : r = r' := hanswer
  cases r with
  | ok p =>
    rw [Service.preparing_ok hv, Service.preparing_ok hw]
    exact ⟨rfl, hstate⟩
  | error e =>
    rw [Service.preparing_error hv, Service.preparing_error hw, ho, hR.database v' w' hstate]
    exact ⟨rfl, hR.update v' w' hstate _⟩

/-- Until the workflows are told, a calculation goes the same way for clients that agree. -/
theorem agree_writing (h : s.client.Agrees s'.client R) (ho : s.options = s'.options) (hR : Sharing R) (id : Uuid) :
    Agree R (s.writing id).run (s'.writing id).run := by
  refine Agree.andThen (agree_fetchGroup h id) fun g => Agree.andThen (agree_preparing h ho hR g) fun p => ?_
  rw [ho]
  exact Agree.andThen (agree_onDatabase hR _) fun _ => Agree.pure _

end

/-! ## Recording triggers -/

/-- A workflow that an orchestrator was asked to trigger. -/
structure Trigger where
  /-- The workflow. -/
  workflow : Uuid
  /-- The database when the orchestrator was asked. -/
  database : Database
  /-- What it answered. -/
  outcome : Except OrchestrationError Unit

/-- What is reported of a trigger. -/
def Trigger.delivery (t : Trigger) : Delivery := ⟨t.workflow, t.outcome⟩

/-- The world with triggers beside it. -/
def World.recorded (w : World σ) (triggers : List Trigger) : World (σ × List Trigger) :=
  ⟨w.database, w.metadata, triggers⟩

/-- The world without the triggers beside it. -/
def World.unrecorded (v : World (σ × List Trigger)) : World σ := ⟨v.database, v.metadata.1⟩

/-- The orchestrator, and every trigger is noted. -/
def Orchestrator.recorded (trigger : Orchestrator (World σ)) : Orchestrator (World (σ × List Trigger)) :=
  fun workflow v =>
    let (outcome, w) := (trigger workflow).run v.unrecorded
    (outcome, w.recorded (v.metadata.2 ++ [⟨workflow, v.database, outcome⟩]))

/-- The service, and every trigger is noted. -/
def Service.recorded (s : Service σ) : Service (σ × List Trigger) where
  client := s.client.zoom World.unrecorded fun v w => w.recorded v.metadata.2
  orchestrator := s.orchestrator.map Orchestrator.recorded
  options := s.options

/-- These triggers are beside the world. -/
abbrev Beside (triggers : List Trigger) (v : World (σ × List Trigger)) (w : World σ) : Prop := v = w.recorded triggers

theorem sharing_beside (triggers : List Trigger) : Sharing (Beside (σ := σ) triggers) where
  database _ _ h := h ▸ rfl
  update _ _ h _ := h ▸ rfl

namespace Service

variable {s : Service σ}

/-- The answers of the client are those without the record. -/
theorem agrees_recorded (s : Service σ) (triggers : List Trigger) :
    s.recorded.client.Agrees s.client (Beside triggers) where
  group _ := by rintro _ w rfl; exact ⟨rfl, rfl⟩
  entity _ := by rintro _ w rfl; exact ⟨rfl, rfl⟩
  attributeOf _ _ := by rintro _ w rfl; exact ⟨rfl, rfl⟩
  relationship _ := by rintro _ w rfl; exact ⟨rfl, rfl⟩

/-- Until the workflows are told, nothing is triggered. -/
theorem writing_recorded (s : Service σ) (id : Uuid) {w w' : World σ}
    {r : Except CalculationError (Group × List Uuid)} (h : (s.writing id).run.run w = (r, w'))
    (triggers : List Trigger) :
    (s.recorded.writing id).run.run (w.recorded triggers) = (r, w'.recorded triggers) := by
  have hsame := agree_writing (s.agrees_recorded triggers) rfl (sharing_beside triggers) id _ w rfl
  rw [h] at hsame
  exact Prod.ext hsame.1 hsame.2

end Service

theorem run_then {α β : Type} {x : StateM τ α} {f : α → StateM τ β} {a : α} {t t' : τ} (h : x.run t = (a, t')) :
    (x >>= f).run t = (f a).run t' := by
  show (f (x.run t).1).run (x.run t).2 = _
  rw [h]

/-- What comes behind statements of no session comes behind what was before them. -/
theorem after_of_after {db d d' : Database} {S : Store} {es : List Event} (h : d = db.after (.resting S) es)
    (h' : ∃ es', d' = d.after (.resting d.store) es') : ∃ es', d' = db.after (.resting S) es' := by
  subst h
  obtain ⟨es', rfl⟩ := h'
  exact ⟨es ++ es', Database.after_after ..⟩

/-- **Workflows are triggered one after the other, each once**, and every one sees what is committed. -/
theorem triggerAll_recorded {trigger : Orchestrator (World σ)}
    (h : ∀ workflow, Asks World.database (trigger workflow)) :
    ∀ (workflows : List Uuid) (w : World σ) (before : List Trigger), w.database.AtRest →
      ∃ triggers w', (triggerAll trigger workflows).run w = (triggers.map Trigger.delivery, w') ∧
        (triggerAll trigger.recorded workflows).run (w.recorded before) =
          (triggers.map Trigger.delivery, w'.recorded (before ++ triggers)) ∧
        triggers.map Trigger.workflow = workflows ∧
        ∀ t ∈ triggers, ∃ es, t.database = w.database.after (.resting w.database.store) es
  | [], w, before, _ => ⟨[], w, rfl, by rw [List.append_nil]; rfl, rfl, List.forall_mem_nil _⟩
  | workflow :: workflows, w, before, hw => by
    obtain ⟨outcome, w₁, hfirst⟩ : ∃ outcome w₁, (trigger workflow).run w = (outcome, w₁) := ⟨_, _, rfl⟩
    obtain ⟨_, es, hafter, rfl⟩ := h workflow w.database w.database.store w [] hw.eq_after
    rw [hfirst, List.nil_append] at hafter
    have hrest₁ : w₁.database.AtRest := hafter ▸ w.database.atRest_after w.database.store es
    let first : Trigger := ⟨workflow, w.database, outcome⟩
    obtain ⟨triggers, w', hrun, hrecorded, hworkflows, hsees⟩ :=
      triggerAll_recorded h workflows w₁ (before ++ [first]) hrest₁
    refine ⟨first :: triggers, w', ?_, ?_, congrArg (workflow :: ·) hworkflows, ?_⟩
    · exact (run_then hfirst).trans (run_then hrun)
    · have hnoted : (trigger.recorded workflow).run (w.recorded before) =
          (outcome, w₁.recorded (before ++ [first])) := by
        show ((trigger workflow).run w |> fun p => (p.1, p.2.recorded (before ++ [⟨workflow, w.database, p.1⟩]))) = _
        rw [hfirst]
      rw [List.append_assoc] at hrecorded
      exact (run_then hnoted).trans (run_then hrecorded)
    · exact List.forall_mem_cons.2 ⟨⟨[], hw.eq_after⟩, fun t ht => after_of_after hafter (hsees t ht)⟩

/-- The deliveries of triggers by their outcome. -/
theorem notified_deliveries (triggers : List Trigger) : Notified.ofDeliveries (triggers.map Trigger.delivery) =
    ⟨(triggers.filter fun t => t.outcome.toBool).map Trigger.workflow,
      (triggers.filter fun t => !t.outcome.toBool).map Trigger.workflow⟩ := by
  simp only [Notified.ofDeliveries, List.filter_map, List.map_map]
  rfl

namespace Service

variable {s : Service σ}

/-- The workflows that are listed are triggered, and none if they cannot be listed. -/
theorem notify_recorded (hs : s.Quiet) {trigger : Orchestrator (World σ)}
    (ht : ∀ workflow, Asks World.database (trigger workflow)) (group : Uuid) {w : World σ} (hw : w.database.AtRest) :
    ∃ triggers w', (notify s.client trigger group).run w = (triggers.map Trigger.delivery, w') ∧
      (notify s.recorded.client trigger.recorded group).run (w.recorded []) =
        (triggers.map Trigger.delivery, w'.recorded triggers) ∧
      triggers.map Trigger.workflow = ((s.client.workflows group).run.run w).1.toOption.getD [] ∧
      ∀ t ∈ triggers, ∃ es, t.database = w.database.after (.resting w.database.store) es := by
  obtain ⟨r, w₁, hlist⟩ : ∃ r w₁, (s.client.workflows group).run.run w = (r, w₁) := ⟨_, _, rfl⟩
  obtain ⟨_, es, hafter, rfl⟩ := hs.client.workflows group w.database w.database.store w [] hw.eq_after
  have hrecorded : (s.recorded.client.workflows group).run.run (w.recorded []) = (r, w₁.recorded []) := by
    show ((s.client.workflows group).run.run w |> fun p => (p.1, p.2.recorded [])) = _
    rw [hlist]
  rw [hlist, List.nil_append] at hafter
  rw [hlist]
  cases r with
  | error e => exact ⟨[], w₁, run_then hlist, run_then hrecorded, rfl, List.forall_mem_nil _⟩
  | ok workflows =>
    have hrest : w₁.database.AtRest := hafter ▸ w.database.atRest_after w.database.store es
    obtain ⟨triggers, w', hrun, hnoted, hworkflows, hsees⟩ := triggerAll_recorded ht workflows w₁ [] hrest
    exact ⟨triggers, w', (run_then hlist).trans hrun, (run_then hrecorded).trans hnoted, hworkflows,
      fun t ht => after_of_after hafter (hsees t ht)⟩

/-- Workflows are told if there is an orchestrator. -/
theorem tell_recorded (hs : s.Quiet) (group : Uuid) {w : World σ} (hw : w.database.AtRest) :
    ∃ triggers w', (s.tell group).run w = (s.orchestrator.map fun _ => triggers.map Trigger.delivery, w') ∧
      (s.recorded.tell group).run (w.recorded []) =
        (s.orchestrator.map fun _ => triggers.map Trigger.delivery, w'.recorded triggers) ∧
      triggers.map Trigger.workflow =
        (if s.orchestrator.isSome then ((s.client.workflows group).run.run w).1.toOption.getD [] else []) ∧
      ∀ t ∈ triggers, ∃ es, t.database = w.database.after (.resting w.database.store) es := by
  cases ho : s.orchestrator with
  | none =>
    refine ⟨[], w, ?_, ?_, rfl, List.forall_mem_nil _⟩
    · rw [tell, ho]
      rfl
    · rw [tell, recorded, ho]
      rfl
  | some trigger =>
    obtain ⟨triggers, w', hrun, hnoted, hrest⟩ := notify_recorded hs (hs.orchestrator trigger ho) group hw
    refine ⟨triggers, w', ?_, ?_, hrest⟩
    · rw [tell, ho]
      exact run_then hrun
    · have hnoting : s.recorded.orchestrator = some trigger.recorded :=
        congrArg (Option.map Orchestrator.recorded) ho
      rw [tell, hnoting]
      exact run_then hnoted

end Service

/-! ## The whole -/

/-- A calculation of a group has just been committed: from a world, it got to another one with these members. -/
structure Service.Commits (s : Service σ) (id : Uuid) (w : World σ) (g : Group) (ids : List Uuid) (w' : World σ) :
    Prop where
  /-- The workflows are still to be told. -/
  writing : (s.writing id).run.run w = (.ok (g, ids), w')
  /-- It is the group that was asked for. -/
  group : ((s.client.group id).run.run w).1 = .ok g
  /-- The last statements wrote that the calculation is complete and committed that. -/
  trace : ∃ es, w'.database.trace = w.database.trace ++ es ∧
    [.taken (.upsertLog (.completed g.id g.entityId s.options.now ids.length)), .taken .commit] <:+ es
  /-- So it stands in the store. -/
  records : w.database.store.Records w'.database.store g.id .completed ids.length none ids
  /-- No session is open. -/
  atRest : w'.database.AtRest

namespace Service

variable {s : Service σ}

/-- The plan of a calculation that is to give members: it ends by writing that the calculation is complete and
committing that. -/
theorem plan_ok {id : Uuid} {w : World σ} {g : Group} {ids : List Uuid} (h : (s.plan id w).result = .ok (g, ids)) :
    ((s.client.group id).run.run w).1 = .ok g ∧
      [.upsertLog (.completed g.id g.entityId s.options.now ids.length), .commit] <:+ (s.plan id w).statements ∧
      w.database.store.Records (s.plan id w).store g.id .completed ids.length none ids := by
  have hfetch := fetchGroup_run s.client id w
  obtain ⟨⟨r₁, w₁⟩, hgroup⟩ : ∃ p, (s.client.group id).run.run w = p := ⟨_, rfl⟩
  rw [hgroup] at hfetch
  rw [plan, hfetch] at h ⊢
  rw [hgroup]
  cases r₁ with
  | error e => cases h
  | ok g' =>
    obtain ⟨⟨r₂, w₂⟩, hprepare⟩ : ∃ p, (prepare s.client g').run.run w₁ = p := ⟨_, rfl⟩
    dsimp only [Except.mapError] at h ⊢
    rw [hprepare] at h ⊢
    cases r₂ with
    | error e => cases h
    | ok p =>
      dsimp only at h ⊢
      cases hq : p.query with
      | error e =>
        rw [hq] at h
        cases h
      | ok q =>
        rw [hq] at h
        cases h
        refine ⟨rfl, List.suffix_append _ _ |>.trans (List.suffix_append _ _), ?_⟩
        dsimp only [Recording.written]
        rw [Recording.writeLog_started s.options g w.database.store (.completed g.id g.entityId s.options.now _) rfl]
        exact Store.records_replace _ _ _ _ _ _ _ _

theorem commits_of_writing (hs : s.Quiet) {w w' : World σ} (hw : w.database.AtRest) {id : Uuid} {g : Group}
    {ids : List Uuid} (h : (s.writing id).run.run w = (.ok (g, ids), w')) : s.Commits id w g ids w' := by
  obtain ⟨r, w'', asked, sent, S, hrun, hafter, hwrites⟩ := s.writing_follows hs hw id
  cases h.symm.trans hrun
  obtain ⟨hresult, hstate, rfl⟩ := hwrites.follows.of_ok
  obtain ⟨hgroup, hlast, hrecords⟩ := plan_ok hresult
  have hstore : w'.database.store = (s.plan id w).store :=
    (congrArg Database.store hafter).trans (congrArg State.store hstate)
  refine ⟨h, hgroup, ⟨_, congrArg Database.trace hafter, ?_⟩, hstore ▸ hrecords, hafter ▸ w.database.atRest_after S _⟩
  exact (hlast.map Event.taken).trans (List.suffix_append _ _)

/-- The service with other workflows and another orchestrator, if there is one. -/
def withNotification (s : Service σ) (workflows : Uuid → Lookup (World σ) (List Uuid))
    (orchestrator : Option (Orchestrator (World σ))) : Service σ :=
  ⟨{ s.client with workflows := workflows }, orchestrator, s.options⟩

/-- Until the workflows are told, they do not matter. -/
theorem writing_withNotification (s : Service σ) (workflows : Uuid → Lookup (World σ) (List Uuid))
    (orchestrator : Option (Orchestrator (World σ))) (id : Uuid) (w : World σ) :
    ((s.withNotification workflows orchestrator).writing id).run.run w = (s.writing id).run.run w := by
  have hsharing : Sharing (Eq : World σ → World σ → Prop) := ⟨fun _ _ h => h ▸ rfl, fun _ _ h _ => h ▸ rfl⟩
  have hclient : s.client.Agrees (s.withNotification workflows orchestrator).client Eq := .eq s.client workflows
  have hsame := agree_writing hclient rfl hsharing id w w rfl
  exact (Prod.ext hsame.1 hsame.2).symm

end Service

/-- **Workflows are triggered behind the commit of a calculation and nowhere else.** Whatever is refused on the way: a
calculation that fails triggers none, and it has not committed that it is complete. One that does not fail has committed
that before any trigger. If there is an orchestrator, it then triggers the workflows that are listed, each once and in
their order, or none if they cannot be listed, whatever the orchestrator answers; what is reported of them are these
answers. The members and what is committed are the same for all workflows and orchestrators. -/
theorem calculate_triggers {s : Service σ} (hs : s.Consults) {w : World σ} (hw : w.database.AtRest) (id : Uuid) :
    ∃ r w' triggers es, (s.calculate id).run.run w = (r, w') ∧
      (s.recorded.calculate id).run.run (w.recorded []) = (r, w'.recorded triggers) ∧
      w'.database.trace = w.database.trace ++ es ∧
      (match r with
        | .error _ => triggers = [] ∧ ¬ Completed es
        | .ok c => ∃ g w₂, s.Commits id w g c.memberIds w₂ ∧
          (∀ t ∈ triggers, ∃ es, t.database = w₂.database.after (.resting w₂.database.store) es) ∧
          w'.database.store = w₂.database.store ∧
          match s.orchestrator with
          | none => triggers = [] ∧ c.deliveries = none
          | some _ => triggers.map Trigger.workflow = ((s.client.workflows g.id).run.run w₂).1.toOption.getD [] ∧
            c.deliveries = some (triggers.map Trigger.delivery) ∧
            c.deliveries.map Notified.ofDeliveries =
              some ⟨(triggers.filter fun t => t.outcome.toBool).map Trigger.workflow,
                (triggers.filter fun t => !t.outcome.toBool).map Trigger.workflow⟩) ∧
      ∀ workflows orchestrator, (s.withNotification workflows orchestrator).Quiet →
        ∃ r' w'', ((s.withNotification workflows orchestrator).calculate id).run.run w = (r', w'') ∧
          r'.map Calculated.memberIds = r.map Calculated.memberIds ∧ w''.database.store = w'.database.store := by
  obtain ⟨r, w₂, asked, sent, S, hrun, hafter, hwrites⟩ := s.writing_follows hs.quiet hw id
  have hrecorded := s.writing_recorded id hrun []
  have hother workflows orchestrator := (s.writing_withNotification workflows orchestrator id w).trans hrun
  cases r with
  | error e =>
    refine ⟨.error e, w₂, [], asked ++ sent, Service.calculate_error hrun, Service.calculate_error hrecorded,
      congrArg Database.trace hafter, ⟨rfl, ?_⟩, fun workflows orchestrator _ => ?_⟩
    · have hincomplete : ∀ event ∈ asked, event.statement.completes = false := fun event hm =>
        event.statement.completes_of_readsDefinitions (hwrites.reads hs event hm)
      exact ((hwrites.unfinished e rfl).behind hincomplete).not_completed
    · exact ⟨.error e, w₂, Service.calculate_error (hother workflows orchestrator), rfl, rfl⟩
  | ok p =>
    obtain ⟨g, ids⟩ := p
    have hcommits := Service.commits_of_writing hs.quiet hw hrun
    obtain ⟨triggers, w', htell, hnoted, hworkflows, hsees⟩ := Service.tell_recorded hs.quiet g.id hcommits.atRest
    obtain ⟨_, told, htold, rfl⟩ := hs.quiet.asks_tell g.id w.database S w₂ _ hafter
    have hcalculate := Service.calculate_ok hrun
    have hcalculate' := Service.calculate_ok hrecorded
    rw [htell] at hcalculate htold
    rw [hnoted] at hcalculate'
    refine ⟨_, w', triggers, asked ++ sent ++ told, hcalculate, hcalculate', congrArg Database.trace htold,
      ⟨g, w₂, hcommits, hsees, ?_, ?_⟩, fun workflows orchestrator hs' => ?_⟩
    · exact (congrArg Database.store htold).trans (congrArg Database.store hafter).symm
    · cases ho : s.orchestrator with
      | none =>
        rw [ho] at hworkflows
        exact ⟨List.map_eq_nil_iff.1 hworkflows, rfl⟩
      | some trigger =>
        rw [ho] at hworkflows
        exact ⟨hworkflows, rfl, congrArg some (notified_deliveries triggers)⟩
    · obtain ⟨_, told', htold', rfl⟩ := hs'.asks_tell g.id w.database S w₂ _ hafter
      refine ⟨_, _, Service.calculate_ok (hother workflows orchestrator), rfl, ?_⟩
      exact (congrArg Database.store htold').trans (congrArg Database.store htold).symm

namespace Shop

/-- An orchestrator that rejects one workflow and takes all others. -/
def choosy (rejected : Uuid) : Orchestrator (World Registry) := fun workflow =>
  pure (if workflow = rejected then .error (.rejected workflow "409 Conflict: ") else .ok ())

/-- Calculations that tell workflows. -/
def telling : Service Registry := ⟨memory, some (choosy (id 11)), service.options⟩

/-- A shop with three workflows, of which one is listed twice. -/
def watched : World Registry :=
  let w := world .empty noRules []
  { w with metadata := [12, 11, 12, 13].foldl (fun r n => r.addWorkflow (id 8) (id n)) w.metadata }

theorem consults_telling : telling.Consults :=
  ⟨MetadataClient.consults_zoom_beside fun _ _ => rfl, fun _ h _ => by
    cases h
    exact Consults.unseen fun _ => rfl⟩

end Shop

/-- The workflows of a shop are triggered in their order, and one is rejected. -/
theorem calculate_triggers_shop :
    ∃ c w' triggers, (Shop.telling.calculate (Shop.id 8)).run.run Shop.watched = (.ok c, w') ∧
      (Shop.telling.recorded.calculate (Shop.id 8)).run.run (Shop.watched.recorded []) = (.ok c, w'.recorded triggers) ∧
      triggers.map Trigger.workflow = [Shop.id 12, Shop.id 11, Shop.id 12, Shop.id 13] ∧
      c.deliveries.map Notified.ofDeliveries =
        some ⟨[Shop.id 12, Shop.id 12, Shop.id 13], [Shop.id 11]⟩ := by
  have hrest : Shop.watched.database.AtRest := ⟨rfl, rfl, rfl⟩
  have hok : ((Shop.telling.calculate (Shop.id 8)).run.run Shop.watched).1.isOk := by decide +kernel
  have htriggers : ((Shop.telling.recorded.calculate (Shop.id 8)).run.run (Shop.watched.recorded [])).2.metadata.2.map
      (fun t => (t.workflow, t.outcome.toBool)) =
        [(Shop.id 12, true), (Shop.id 11, false), (Shop.id 12, true), (Shop.id 13, true)] := by decide +kernel
  obtain ⟨r, w', triggers, es, hrun, hrecorded, -, hcases, -⟩ :=
    calculate_triggers Shop.consults_telling hrest (Shop.id 8)
  rw [hrun] at hok
  rw [hrecorded] at htriggers
  change triggers.map (fun t => (t.workflow, t.outcome.toBool)) = _ at htriggers
  have hworkflows := congrArg (List.map Prod.fst) htriggers
  have hsplit (p : Bool → Bool) := congrArg (fun l => (l.filter fun t => p t.2).map Prod.fst) htriggers
  simp only [List.filter_map, List.map_map] at hworkflows hsplit
  cases r with
  | error e => cases hok
  | ok c =>
    obtain ⟨g, w₂, -, -, -, -, -, hnotified⟩ := hcases
    refine ⟨c, w', triggers, hrun, hrecorded, hworkflows, hnotified.trans ?_⟩
    exact congrArg some (congr (congrArg Notified.mk (hsplit id)) (hsplit not))

end Cohort
