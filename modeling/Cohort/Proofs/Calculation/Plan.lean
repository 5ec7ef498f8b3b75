import Cohort.Command
import Cohort.Proofs.Calculation.Completion

/-!
# What a calculation sets out to do

What it finds of a group and of the definitions behind it decides what a calculation sets out to do: the statements that
it is to send once it has asked, the result that it is to come to and the store that it is to leave (`Service.plan`).
Until the workflows are told (`Service.writing`) it does so, or a statement is refused and it fails (`writing_follows`).

The plan is that of the answers: it is the same for clients that agree, whatever is stored (`plan_agree`). All that goes
out beside it asks for definitions, if the client and the orchestrator send nothing else (`Service.Consults`); so it is
with the service that a command makes (`Command.consults_service`).
-/

namespace Cohort

open Session

/-! ## Consulting -/

/-- No session is open, and since it was so with this store committed, nothing was sent but statements that ask for
definitions. -/
def Consulted {τ : Type} (view : τ → Database) (db : Database) (S : Store) (t : τ) : Prop :=
  ∃ es, view t = db.after (.resting S) es ∧ ∀ event ∈ es, event.statement.readsDefinitions

theorem Consulted.events {τ : Type} {view : τ → Database} {db : Database} {S : Store} {s : State} {t : τ}
    {es : List Event} (h : Consulted view db S t) (ht : view t = db.after s es) :
    ∀ event ∈ es, event.statement.readsDefinitions := by
  obtain ⟨es', ht', hes'⟩ := h
  obtain ⟨-, rfl⟩ := Database.after_inj (ht.symm.trans ht')
  exact hes'

/-- Begun while no session is open, the work sends nothing but statements that ask for definitions. -/
def Consults {τ α : Type} (view : τ → Database) (work : StateM τ α) : Prop :=
  ∀ db S, Runs db view work (.resting S) fun _ t es =>
    t = .resting S ∧ ∀ event ∈ es, event.statement.readsDefinitions

namespace Consults

variable {τ τ' α : Type} {view : τ → Database} {work : StateM τ α}

theorem asks (h : Consults view work) : Asks view work := fun db S => (h db S).mono fun _ _ _ hw => hw.1

theorem keeping (h : Consults view work) (db : Database) (S : Store) :
    Agree (Agree.Keeping (Consulted view db S)) work work := by
  refine Agree.keeping fun t ht => ?_
  obtain ⟨es, ht, hes⟩ := ht
  obtain ⟨_, es', hw, rfl, hes'⟩ := h db S t es ht
  exact ⟨es ++ es', hw, List.forall_mem_append.2 ⟨hes, hes'⟩⟩

theorem of_keeping (h : ∀ db S, Agree (Agree.Keeping (Consulted view db S)) work work) : Consults view work := by
  intro db S t es ht
  have hstart : Consulted view (db.after (.resting S) es) S t :=
    ⟨[], by rw [Database.after_after, List.append_nil, ht], List.forall_mem_nil _⟩
  obtain ⟨es', hw, hes'⟩ := (h _ S).kept hstart
  exact ⟨_, es', by rw [← Database.after_after]; exact hw, rfl, hes'⟩

/-- Work on a part of the state, seen through that part. -/
theorem onPart (h : Consults view work) {view' : τ' → Database} {part : τ' → τ} {put : τ' → τ → τ'}
    (hpart : ∀ t, view' t = view (part t)) (hput : ∀ t s, view' (put t s) = view s) :
    Consults view' (fun t => ((work.run (part t)).1, put t (work.run (part t)).2) : StateM τ' α) :=
  fun db S => (h db S).onPart hpart hput

/-- Work that does not touch what is seen. -/
theorem unseen (h : ∀ t, view (work.run t).2 = view t) : Consults view work :=
  fun _ _ => Runs.unseen h fun _ => ⟨rfl, List.forall_mem_nil _⟩

end Consults

/-- All questions to the client send nothing but statements that ask for definitions. -/
structure MetadataClient.Consults {τ : Type} (client : MetadataClient τ) (view : τ → Database) : Prop where
  /-- Questions for groups. -/
  group : ∀ id, Cohort.Consults view (client.group id).run
  /-- Questions for entities. -/
  entity : ∀ id, Cohort.Consults view (client.entity id).run
  /-- Questions for attributes. -/
  attributeOf : ∀ entity id, Cohort.Consults view (client.attributeOf entity id).run
  /-- Questions for relationships. -/
  relationship : ∀ id, Cohort.Consults view (client.relationship id).run
  /-- Questions for workflows. -/
  workflows : ∀ group, Cohort.Consults view (client.workflows group).run

namespace MetadataClient

variable {σ τ : Type} {client : MetadataClient σ} {view : σ → Database} {part : τ → σ} {put : τ → σ → τ}

theorem Consults.asks (h : client.Consults view) : client.Asks view where
  group id := (h.group id).asks
  entity id := (h.entity id).asks
  attributeOf entity id := (h.attributeOf entity id).asks
  relationship id := (h.relationship id).asks
  workflows group := (h.workflows group).asks

theorem Consults.agrees (h : client.Consults view) (db : Database) (S : Store) :
    client.Agrees client (Agree.Keeping (Consulted view db S)) where
  group id := (h.group id).keeping db S
  entity id := (h.entity id).keeping db S
  attributeOf entity id := (h.attributeOf entity id).keeping db S
  relationship id := (h.relationship id).keeping db S

theorem Consults.zoom (h : client.Consults view) {view' : τ → Database}
    (hpart : ∀ t, view' t = view (part t)) (hput : ∀ t s, view' (put t s) = view s) :
    (client.zoom part put).Consults view' where
  group id := (h.group id).onPart hpart hput
  entity id := (h.entity id).onPart hpart hput
  attributeOf entity id := (h.attributeOf entity id).onPart hpart hput
  relationship id := (h.relationship id).onPart hpart hput
  workflows group := (h.workflows group).onPart hpart hput

/-- A client that keeps its definitions beside the database. -/
theorem consults_zoom_beside {view : τ → Database} (hput : ∀ t s, view (put t s) = view t) :
    (client.zoom part put).Consults view where
  group _ := Consults.unseen fun _ => hput _ _
  entity _ := Consults.unseen fun _ => hput _ _
  attributeOf _ _ := Consults.unseen fun _ => hput _ _
  relationship _ := Consults.unseen fun _ => hput _ _
  workflows _ := Consults.unseen fun _ => hput _ _

end MetadataClient

namespace Database

theorem consults_statement {st : Statement} (h : st.readsDefinitions) : Consults id (statement st).run := by
  intro db S
  refine (alone_runs (Statement.isInner_of_readsDefinitions h)).mono fun r t es hs => ?_
  rw [Statement.change_of_readsDefinitions h] at hs
  cases hs <;> exact ⟨rfl, List.forall_mem_singleton.2 h⟩

theorem consults_query {α : Type} {st : Statement} (h : st.readsDefinitions) (rows : MetadataRows → α) :
    Consults id (query st rows).run :=
  Consults.of_keeping fun db S =>
    Agree.andThen (((consults_statement h).keeping db S).adapt _) fun _ => Agree.keeping fun _ hd => hd

/-- The rows of the database are a source of definitions that consults. -/
theorem consults_client : client.Consults id where
  group _ := Consults.of_keeping fun db S =>
    Agree.andThen ((consults_query rfl _).keeping db S) fun _ => Agree.andThen (Agree.found _ _) fun _ => Agree.lift _
  entity _ := Consults.of_keeping fun db S =>
    Agree.andThen ((consults_query rfl _).keeping db S) fun _ => Agree.found _ _
  attributeOf _ _ := Consults.of_keeping fun db S =>
    Agree.andThen ((consults_query rfl _).keeping db S) fun _ => Agree.found _ _
  relationship _ := Consults.of_keeping fun db S =>
    Agree.andThen ((consults_query rfl _).keeping db S) fun _ => Agree.andThen (Agree.found _ _) fun _ => Agree.lift _
  workflows _ := consults_query rfl _

end Database

theorem World.consults_client {σ : Type} : (World.client : MetadataClient (World σ)).Consults World.database :=
  Database.consults_client.zoom (fun _ => rfl) fun _ _ => rfl

namespace Service

variable {σ : Type} {s : Service σ}

/-- The client and the orchestrator, if there is one, send nothing but statements that ask for definitions. -/
structure Consults (s : Service σ) : Prop where
  /-- The client. -/
  client : s.client.Consults World.database
  /-- The orchestrator. -/
  orchestrator : ∀ trigger, s.orchestrator = some trigger → ∀ w, Cohort.Consults World.database (trigger w)

theorem Consults.quiet (h : s.Consults) : s.Quiet :=
  ⟨h.client.asks, fun trigger ht w => (h.orchestrator trigger ht w).asks⟩

theorem Consults.tell (h : s.Consults) (group : Uuid) : Cohort.Consults World.database (s.tell group) := by
  refine Consults.of_keeping fun db S => ?_
  unfold Service.tell
  split
  · exact Agree.pure _
  · rename_i trigger htrigger
    exact Agree.bind (agree_notify ((h.client.workflows group).keeping db S)
      fun w => (h.orchestrator trigger htrigger w).keeping db S) fun _ => Agree.pure _

end Service

/-- **The service of a command sends nothing but statements that ask for definitions**, if requests to the orchestrator
leave the database alone. -/
theorem Command.consults_service {σ : Type} {post : String → StateM (World σ) (Option Response)}
    (h : ∀ url w, ((post url).run w).2.database = w.database) (settings : Settings) (now : Instant) :
    (service settings now post).Consults where
  client := World.consults_client
  orchestrator trigger htrigger w := by
    obtain ⟨o, -, rfl⟩ := Option.map_eq_some_iff.1 htrigger
    exact Consults.unseen fun t => h _ t

/-! ## The plan -/

section

variable {σ : Type}

/-- What a calculation sets out to do behind its questions. -/
structure Plan where
  /-- What it is to send. -/
  statements : List Statement
  /-- What it is to come to: the group and its new members. -/
  result : Except CalculationError (Group × List Uuid)
  /-- What it is to leave committed. -/
  store : Store

namespace Service

/-- The plan of a calculation that begins in a world. -/
def plan (s : Service σ) (id : Uuid) (w : World σ) : Plan :=
  match (fetchGroup s.client id).run.run w with
  | (.error e, _) => ⟨[], .error e, w.database.store⟩
  | (.ok g, w₁) =>
    match (prepare s.client g).run.run w₁ with
    | (.error e, _) =>
      let entry := .failed g.id g.entityId s.options.now 0 e.message
      ⟨[.upsertLog entry], .error e, w.database.store.writeLog entry⟩
    | (.ok p, _) =>
      ⟨Recording.script s.options g p.query w.database.answers,
        (Recording.result p.query w.database.answers).map fun ids => (g, ids),
        Recording.written s.options g p.query w.database.answers w.database.store⟩

/-- The part of a calculation before the workflows are told: the group and its new members. -/
def writing (s : Service σ) (id : Uuid) : Work (World σ) (Group × List Uuid) := do
  let g ← fetchGroup s.client id
  let p ← s.preparing g
  let ids ← World.onDatabase (Recording.run s.options g p.query)
  return (g, ids)

theorem calculate_eq (s : Service σ) (id : Uuid) : s.calculate id = do
    let p ← s.writing id
    let deliveries ← s.tell p.1.id
    return ⟨p.2, deliveries⟩ := by
  simp only [calculate, writing, bind_assoc, pure_bind]

theorem calculate_error {s : Service σ} {id : Uuid} {w w' : World σ} {e : CalculationError}
    (h : (s.writing id).run.run w = (.error e, w')) : (s.calculate id).run.run w = (.error e, w') := by
  rw [calculate_eq]
  exact run_andThen_error h

theorem calculate_ok {s : Service σ} {id : Uuid} {w w' : World σ} {p : Group × List Uuid}
    (h : (s.writing id).run.run w = (.ok p, w')) : (s.calculate id).run.run w =
      (.ok ⟨p.2, ((s.tell p.1.id).run w').1⟩, ((s.tell p.1.id).run w').2) := by
  rw [calculate_eq]
  exact run_andThen_ok h

end Service

namespace Recording

variable {o : Options} {g : Group} {S : Store} {db : Database}

/-- A failure that is noted outside of a transaction follows a script of one statement. -/
theorem note_follows {α : Type} (e : CalculationError) : Runs db id (note o g e) (.resting S) fun _ t es =>
    (∃ S', t = .resting S') ∧ Unfinished es ∧
      Follows [.upsertLog (.failed g.id g.entityId o.now 0 e.message)] (.error e : Except CalculationError α)
        (.resting (S.writeLog (.failed g.id g.entityId o.now 0 e.message))) (.error e) t es := by
  refine (note_sent o g e).mono fun _ t es h => ?_
  obtain ⟨r, h⟩ := h
  cases h with
  | taken => exact ⟨⟨_, rfl⟩, .of_incomplete (List.forall_mem_singleton.2 rfl), .through⟩
  | refused words =>
    exact ⟨⟨_, rfl⟩, .of_incomplete (List.forall_mem_singleton.2 rfl), .stopped _ _ _ (disturbed_refused rfl words)⟩

end Recording

namespace Service

variable {s : Service σ}

/-- How a calculation that begins in a world went until the workflows are told: what it came to, what it had sent when
the group was prepared and what it sent after that, and what is committed. -/
structure Writes (s : Service σ) (id : Uuid) (w : World σ) (r : Except CalculationError (Group × List Uuid))
    (asked sent : List Event) (S : Store) : Prop where
  /-- The group is prepared by asking for definitions. -/
  reads : s.Consults → ∀ event ∈ asked, event.statement.readsDefinitions
  /-- The plan was carried out, or a statement was refused. -/
  follows : Follows (s.plan id w).statements (s.plan id w).result (.resting (s.plan id w).store) r (.resting S) sent
  /-- If it failed, no row was committed that it is complete. -/
  unfinished : ∀ e, r = .error e → Unfinished sent

/-- **Up to the point where workflows are told, a calculation does what it sets out to do**, or a statement is refused
and it fails. -/
theorem writing_follows (hs : s.Quiet) {w : World σ} (hw : w.database.AtRest) (id : Uuid) :
    ∃ r w' asked sent S, (s.writing id).run.run w = (r, w') ∧
      w'.database = w.database.after (.resting S) (asked ++ sent) ∧ s.Writes id w r asked sent S := by
  have hstart : s.Consults → Consulted World.database w.database w.database.store w :=
    fun _ => ⟨[], hw.eq_after, List.forall_mem_nil _⟩
  obtain ⟨r₁, w₁, hfetch⟩ : ∃ r w', (fetchGroup s.client id).run.run w = (r, w') := ⟨_, _, rfl⟩
  obtain ⟨_, es₁, h₁, rfl⟩ := asks_fetchGroup hs.client id w.database w.database.store w [] hw.eq_after
  have hc₁ (hc : s.Consults) := (agree_fetchGroup (hc.client.agrees w.database w.database.store) id).kept (hstart hc)
  rw [hfetch] at h₁ hc₁
  cases r₁ with
  | error e =>
    rw [writing, run_andThen_error hfetch]
    refine ⟨_, w₁, es₁, [], _, rfl, by rw [List.append_nil]; exact h₁, fun hc => (hc₁ hc).events h₁, ?_,
      fun _ _ => .of_incomplete (List.forall_mem_nil _)⟩
    rw [plan, hfetch]
    exact .through
  | ok g =>
    rw [writing, run_andThen_ok hfetch]
    obtain ⟨r₂, w₂, hprepare⟩ : ∃ r w', (prepare s.client g).run.run w₁ = (r, w') := ⟨_, _, rfl⟩
    obtain ⟨_, es₂, h₂, rfl⟩ := asks_prepare hs.client g w.database w.database.store w₁ _ h₁
    have hc₂ (hc : s.Consults) := (agree_prepare (hc.client.agrees w.database w.database.store) g).kept (hc₁ hc)
    rw [hprepare] at h₂ hc₂
    cases r₂ with
    | error e =>
      rw [run_andThen_error (preparing_error hprepare)]
      obtain ⟨_, sent, h₃, ⟨S, rfl⟩, hunfinished, hfollows⟩ := Recording.note_follows e w₂.database _ h₂
      refine ⟨_, _, _, sent, S, rfl, h₃, fun hc => (hc₂ hc).events h₂, ?_, fun _ _ => hunfinished⟩
      rw [plan, hfetch]
      dsimp only
      rw [hprepare]
      exact hfollows
    | ok p =>
      rw [run_andThen_ok (preparing_ok hprepare)]
      obtain ⟨r, d, hrun⟩ : ∃ r d, (Recording.run s.options g p.query).run.run w₂.database = (r, d) := ⟨_, _, rfl⟩
      have hscript : Runs w.database _ _ (.resting w.database.store) _ := Recording.run_follows s.options g p.query
      have hknown := (hscript.and (Recording.run_unfinished s.options g p.query)).and
        (Recording.run_runs s.options g p.query)
      obtain ⟨_, sent, h₃, ⟨hfollows, hunfinished⟩, S, rfl, -⟩ := hknown w₂.database _ h₂
      rw [hrun] at h₃ hfollows hunfinished
      refine ⟨r.map fun ids => (g, ids), { w₂ with database := d }, _, sent, S, ?_, h₃,
        fun hc => (hc₂ hc).events h₂, ?_, ?_⟩
      · cases r with
        | error e => exact run_andThen_error (onDatabase_run hrun)
        | ok ids => exact run_andThen_ok (onDatabase_run hrun)
      · rw [plan, hfetch]
        dsimp only
        rw [hprepare]
        exact hfollows.map _
      · cases r with
        | error e => exact fun _ _ => hunfinished e rfl
        | ok ids => exact fun _ h => nomatch h

end Service

end

end Cohort
