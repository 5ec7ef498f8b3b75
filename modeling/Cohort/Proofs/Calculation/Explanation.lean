import Cohort.Proofs.Calculation.Plan

/-!
# What an explanation says of a calculation

Explaining a group sends nothing but statements that ask for definitions, and it tells what a calculation would do
(`explain_foretells`): the one membership query that it would run, or the failure that it would come to, and then it
would run none. Both ask the same questions, so it is enough that the answers do not change in between. That is said by
a relation between states along which the client agrees with itself. The rows of the database are such a client as long
as no question is refused (`World.client_steady`), and so are definitions in memory (`Registry.client_steady`).
-/

namespace Cohort

open Session

/-! ## Steady answers -/

namespace Database

/-- No statement that asks for definitions is refused. -/
structure Answering (db : Database) : Prop where
  /-- No session is open. -/
  atRest : db.AtRest
  /-- There is no fault on such a statement. -/
  faults : ∀ st : Statement, st.readsDefinitions → ∀ fault ∈ db.faults, fault.on ≠ st.name

/-- Both give the same answers to all that ask for definitions. -/
structure Alike (db db' : Database) : Prop where
  /-- The rows are the same. -/
  metadata : db.metadata = db'.metadata
  /-- The first one answers. -/
  left : db.Answering
  /-- The second one answers. -/
  right : db'.Answering

theorem Answering.note {db : Database} (h : db.Answering) (st : Statement) : (db.note st none).Answering :=
  ⟨⟨h.atRest.transaction, h.atRest.depth, h.atRest.queued⟩, h.faults⟩

theorem Answering.statement {db : Database} (h : db.Answering) {st : Statement} (hst : st.readsDefinitions) :
    (statement st).run.run db = (.ok (), db.note st none) := by
  have hfault : db.faults.find? (fun f => f.on == st.name && f.nth == db.sent st.name + 1) = none :=
    List.find?_eq_none.2 fun fault hm => by simp [h.faults st hst fault hm]
  have hflush : flush.run.run db = (.ok (), db) := by
    obtain ⟨S, transaction, depth, queued, metadata, answers, faults, trace⟩ := db
    obtain rfl : queued = none := h.atRest.queued
    rfl
  have hperform : (db.note st none).perform st = db.note st none := by cases st <;> first | rfl | cases hst
  rw [Session.statement, run_andThen_ok hflush]
  show send st db = _
  rw [send, refusal?, hfault, h.atRest.transaction]
  exact congrArg _ hperform

theorem agree_query {α : Type} {st : Statement} (hst : st.readsDefinitions) (rows : MetadataRows → α) :
    Agree Alike (query st rows).run (query st rows).run := by
  have hsent : Agree Alike (Session.statement st).run (Session.statement st).run := by
    intro db db' h
    rw [h.left.statement hst, h.right.statement hst]
    exact ⟨rfl, h.metadata, h.left.note st, h.right.note st⟩
  refine Agree.andThen (hsent.adapt _) fun _ => Agree.reading fun db db' h => ?_
  rw [h.metadata]
  exact Agree.pure _

/-- The answers of rows that do not change do not change. -/
theorem client_steady : client.Agrees client Alike where
  group _ := Agree.andThen (agree_query rfl _) fun _ => Agree.andThen (Agree.found _ _) fun _ => Agree.lift _
  entity _ := Agree.andThen (agree_query rfl _) fun _ => Agree.found _ _
  attributeOf _ _ := Agree.andThen (agree_query rfl _) fun _ => Agree.found _ _
  relationship _ := Agree.andThen (agree_query rfl _) fun _ => Agree.andThen (Agree.found _ _) fun _ => Agree.lift _

end Database

/-- The answers of the rows of the database do not change, whatever is kept beside it. -/
theorem World.client_steady {σ : Type} : (World.client : MetadataClient (World σ)).Agrees World.client
    fun w w' : World σ => w.database.Alike w'.database :=
  Database.client_steady.zoom (fun _ _ h => h) fun _ _ _ _ _ h => h

/-! ## Membership queries -/

/-- The membership query that a statement runs. -/
def Statement.query? : Statement → Option Query
  | membershipQuery q => some q
  | _ => none

/-- The membership queries that were run. -/
def queries (es : List Event) : List Query := es.filterMap fun event => event.statement.query?

theorem queries_append (es es' : List Event) : queries (es ++ es') = queries es ++ queries es' :=
  List.filterMap_append

theorem queries_consulted {es : List Event} (h : ∀ event ∈ es, event.statement.readsDefinitions) : queries es = [] := by
  refine List.filterMap_eq_nil_iff.2 fun event hm => ?_
  obtain ⟨st, refusal⟩ := event
  have hreads := h _ hm
  cases st <;> first | rfl | cases hreads

theorem queries_taken (sts : List Statement) : queries (sts.map .taken) = sts.filterMap Statement.query? :=
  List.filterMap_map

/-- Writing a calculation down runs its membership query once. -/
theorem Recording.query?_script (o : Options) (g : Group) (query : Except RuleError Query) (found : List Uuid) :
    (script o g query found).filterMap Statement.query? = query.toOption.toList := by
  have hlock : (if o.lock then [.lock g.id] else []).filterMap Statement.query? = [] := by split <;> rfl
  have hinserts : (found.map (Statement.insertMembership g.id)).filterMap Statement.query? = [] := by
    rw [List.filterMap_map]
    exact List.filterMap_eq_nil_iff.2 fun _ _ => rfl
  cases query with
  | error e =>
    simp only [script, List.filterMap_append, hlock]
    rfl
  | ok q =>
    simp only [script, List.filterMap_append, hlock, hinserts]
    rfl

/-! ## What is foretold -/

namespace Service

variable {σ : Type} {s : Service σ}

/-- The plan of a calculation runs the query of the explanation, or it fails like the explanation. -/
theorem plan_of_explain (s : Service σ) (id : Uuid) (w : World σ) :
    match ((explain s.client id).run.run w).1 with
    | .ok q => (s.plan id w).statements.filterMap Statement.query? = [q] ∧
      ∃ g, (s.plan id w).result = .ok (g, w.database.answers)
    | .error e => (s.plan id w).statements.filterMap Statement.query? = [] ∧ (s.plan id w).result = .error e ∧
      match ((s.client.group id).run.run w).1 with
      | .ok g => (s.plan id w).store.Shows g.id .failed 0 (some e.message)
      | .error cause => e = (if cause.isNotFound then .groupNotFound id else .metadata cause) ∧
        (s.plan id w).store = w.database.store := by
  have hfetch := fetchGroup_run s.client id w
  obtain ⟨⟨r₁, w₁⟩, hgroup⟩ : ∃ p, (s.client.group id).run.run w = p := ⟨_, rfl⟩
  rw [hgroup] at hfetch
  rw [hgroup, explain, plan, hfetch]
  cases r₁ with
  | error cause =>
    rw [run_andThen_error hfetch]
    exact ⟨rfl, rfl, rfl, rfl⟩
  | ok g =>
    rw [run_andThen_ok hfetch]
    obtain ⟨⟨r₂, w₂⟩, hprepare⟩ : ∃ p, (prepare s.client g).run.run w₁ = p := ⟨_, rfl⟩
    dsimp only [Except.mapError]
    rw [hprepare]
    cases r₂ with
    | error e =>
      rw [run_andThen_error hprepare]
      exact ⟨rfl, rfl, Store.shows_writeLog _ _ _ _ _ _ _⟩
    | ok p =>
      rw [run_andThen_ok hprepare]
      dsimp only
      rw [Recording.query?_script]
      cases p.query with
      | error e => exact ⟨rfl, rfl, Store.shows_writeLog _ _ _ _ _ _ _⟩
      | ok q => exact ⟨rfl, g, rfl⟩

/-- A calculation that is not disturbed carries its plan out. -/
theorem calculate_undisturbed (hs : s.Consults) {w : World σ} (hw : w.database.AtRest) (id : Uuid) :
    ∃ r w' es, (s.calculate id).run.run w = (r, w') ∧ w'.database.trace = w.database.trace ++ es ∧
      (¬ Disturbed es → queries es = (s.plan id w).statements.filterMap Statement.query? ∧
        w'.database.store = (s.plan id w).store ∧
        match (s.plan id w).result with
        | .error e => r = .error e
        | .ok p => ∃ deliveries, r = .ok ⟨p.2, deliveries⟩) := by
  obtain ⟨r, w₁, asked, sent, S, hrun, hafter, hasked, hfollows, -⟩ := s.writing_follows hs.quiet hw id
  have hqueries : queries asked = [] := queries_consulted (hasked hs)
  cases r with
  | error e =>
    refine ⟨_, w₁, asked ++ sent, calculate_error hrun, congrArg Database.trace hafter, fun hes => ?_⟩
    obtain ⟨hresult, hstate, rfl⟩ :=
      hfollows.of_undisturbed fun hd => hes (hd.mono (List.subset_append_right asked sent))
    have hstore : S = (s.plan id w).store := congrArg State.store hstate
    rw [queries_append, hqueries, queries_taken, ← hresult, ← hstore]
    exact ⟨rfl, congrArg Database.store hafter, rfl⟩
  | ok p =>
    obtain ⟨_, told, htell, rfl, htold⟩ := hs.tell p.1.id w.database S w₁ _ hafter
    refine ⟨_, _, asked ++ sent ++ told, calculate_ok hrun, congrArg Database.trace htell, fun hes => ?_⟩
    have hsent : sent ⊆ asked ++ sent ++ told := by simp
    obtain ⟨hresult, hstate, rfl⟩ := hfollows.of_undisturbed fun hd => hes (hd.mono hsent)
    have hstore : S = (s.plan id w).store := congrArg State.store hstate
    rw [queries_append, queries_append, hqueries, queries_consulted htold, queries_taken, List.append_nil, ← hresult,
      ← hstore]
    exact ⟨rfl, congrArg Database.store htell, _, rfl⟩

end Service

/-- **An explanation tells what a calculation does.** While the answers of the client do not change, whatever else does:
explaining a group sends nothing but statements that ask for definitions and leaves everything as it is. If it gives a
query, a calculation of the group of which no statement is refused, but for questions, runs this query and no other one,
and ends with what it finds. If it fails, such a calculation runs no query and fails in the same way; the log row of the
group then says so and counts no members, unless the group itself could not be had. -/
theorem explain_foretells {σ : Type} {s : Service σ} (hs : s.Consults) {R : World σ → World σ → Prop}
    (hR : s.client.Agrees s.client R) {w w' : World σ} (hw : w.database.AtRest) (hw' : w'.database.AtRest)
    (h : R w w') (id : Uuid) :
    ∃ explained w₁ asked, (explain s.client id).run.run w = (explained, w₁) ∧
      w₁.database = w.database.after (.resting w.database.store) asked ∧
      (∀ event ∈ asked, event.statement.readsDefinitions) ∧
      ∃ r w'' es, (s.calculate id).run.run w' = (r, w'') ∧ w''.database.trace = w'.database.trace ++ es ∧
        (¬ Disturbed es →
          match explained with
          | .ok q => queries es = [q] ∧ ∃ deliveries, r = .ok ⟨w'.database.answers, deliveries⟩
          | .error e => queries es = [] ∧ r = .error e ∧
            match ((s.client.group id).run.run w').1 with
            | .ok g => w''.database.store.Shows g.id .failed 0 (some e.message)
            | .error cause => e = (if cause.isNotFound then .groupNotFound id else .metadata cause) ∧
              w''.database.store = w'.database.store) := by
  obtain ⟨explained, w₁, hexplain⟩ : ∃ r w₁, (explain s.client id).run.run w = (r, w₁) := ⟨_, _, rfl⟩
  obtain ⟨asked, hasked, hreads⟩ :=
    (agree_explain (hs.client.agrees w.database w.database.store) id).kept ⟨[], hw.eq_after, List.forall_mem_nil _⟩
  have hsame := (agree_explain hR id w w' h).1
  rw [hexplain] at hasked hsame
  obtain rfl : explained = _ := hsame
  refine ⟨_, w₁, asked, hexplain, hasked, hreads, ?_⟩
  obtain ⟨r, w'', es, hrun, htrace, hes⟩ := s.calculate_undisturbed hs hw' id
  refine ⟨r, w'', es, hrun, htrace, fun hundisturbed => ?_⟩
  obtain ⟨hqueries, hstore, hresult⟩ := hes hundisturbed
  have hplan := s.plan_of_explain id w'
  rw [hqueries, hstore]
  generalize ((explain s.client id).run.run w').1 = explained at hplan
  cases explained with
  | ok q =>
    obtain ⟨hq, g, hok⟩ := hplan
    rw [hok] at hresult
    exact ⟨hq, hresult⟩
  | error e =>
    obtain ⟨hq, herror, hgroup⟩ := hplan
    rw [herror] at hresult
    exact ⟨hq, hresult, hgroup⟩

namespace Shop

theorem consults_service : service.Consults :=
  ⟨MetadataClient.consults_zoom_beside fun _ _ => rfl, nofun⟩

/-- The answers of the shop do not change. -/
theorem steady_service : service.client.Agrees service.client fun w w' => w.metadata.Alike w'.metadata :=
  Registry.client_steady.zoom (fun _ _ h => h) fun _ _ _ _ _ h => h

end Shop

/-- The customers of a shop are explained and then calculated, by the query of the explanation. -/
theorem explain_foretells_shop :
    let w := Shop.world .empty Shop.noRules []
    ∃ q w₁ deliveries w₂, (explain Shop.service.client (Shop.id 8)).run.run w = (.ok q, w₁) ∧
      w₁.database.AtRest ∧ w.metadata.Alike w₁.metadata ∧
      (Shop.service.calculate (Shop.id 8)).run.run w₁ = (.ok ⟨[Shop.id 9, Shop.id 10], deliveries⟩, w₂) ∧
      queries w₂.database.trace = [q] := by
  intro w
  obtain ⟨⟨explained, w₁⟩, hexplain⟩ : ∃ p, (explain Shop.service.client (Shop.id 8)).run.run w = p := ⟨_, rfl⟩
  have hok : ((explain Shop.service.client (Shop.id 8)).run.run w).1.isOk := by decide +kernel
  have hrest : ((explain Shop.service.client (Shop.id 8)).run.run w).2.database.AtRest := ⟨rfl, rfl, rfl⟩
  have halike : w.metadata.Alike ((explain Shop.service.client (Shop.id 8)).run.run w).2.metadata := ⟨2, rfl⟩
  have hquiet : ∀ event ∈ ((Shop.service.calculate (Shop.id 8)).run.run
      ((explain Shop.service.client (Shop.id 8)).run.run w).2).2.database.trace, event.refusal = none := by
    decide +kernel
  have htrace : ((explain Shop.service.client (Shop.id 8)).run.run w).2.database.trace = [] := rfl
  have hanswers : ((explain Shop.service.client (Shop.id 8)).run.run w).2.database.answers = [Shop.id 9, Shop.id 10] :=
    rfl
  rw [hexplain] at hok hrest halike hquiet htrace hanswers
  obtain ⟨explained', w₁', asked, hexplain', -, -, r, w₂, es, hrun, hes, hforetold⟩ :=
    explain_foretells Shop.consults_service Shop.steady_service (Shop.atRest_world .empty Shop.noRules []) hrest halike
      (Shop.id 8)
  cases hexplain.symm.trans hexplain'
  rw [hrun] at hquiet
  rw [htrace, List.nil_append] at hes
  subst hes
  have hundisturbed : ¬ Disturbed w₂.database.trace := by
    rintro ⟨event, hm, hrefused, -⟩
    rw [hquiet event hm] at hrefused
    cases hrefused
  cases explained with
  | error e => cases hok
  | ok q =>
    obtain ⟨hqueries, deliveries, rfl⟩ := hforetold hundisturbed
    rw [hanswers] at hrun
    exact ⟨q, w₁, deliveries, w₂, hexplain, hrest, halike, hrun, hqueries⟩

end Cohort
