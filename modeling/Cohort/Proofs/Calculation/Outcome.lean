import Cohort.Metadata.Registry
import Cohort.Proofs.Calculation.Recording
import Cohort.Proofs.Metadata.Asking
import Cohort.Proofs.Query.Derivation

/-!
# What a calculation comes to

A calculation finds its group, prepares it and writes it down, and each of these may be its end (`Service.Course`,
`Service.calculate_course`). What it leaves of the rows of the group follows for each course: all that it set out to
write, or nothing, or a row that tells of its failure (`calculate_all_or_nothing`).
-/

namespace Cohort

open Session

variable {σ : Type}

/-! ## The course of a calculation -/

section

variable {τ ε α β : Type} {x : ExceptT ε (StateM τ) α} {f : α → ExceptT ε (StateM τ) β} {t t' : τ}

theorem run_andThen_ok {a : α} (h : x.run.run t = (.ok a, t')) : (x >>= f).run.run t = (f a).run.run t' := by
  rw [ExceptT.run_bind]
  show (match (x.run.run t).1 with
    | .ok a => (f a).run
    | .error e => pure (.error e) : StateM τ (Except ε β)).run (x.run.run t).2 = _
  rw [h]

theorem run_andThen_error {e : ε} (h : x.run.run t = (.error e, t')) : (x >>= f).run.run t = (.error e, t') := by
  rw [ExceptT.run_bind]
  show (match (x.run.run t).1 with
    | .ok a => (f a).run
    | .error e => pure (.error e) : StateM τ (Except ε β)).run (x.run.run t).2 = _
  rw [h]
  rfl

end

namespace Service

/-- How a calculation ends, given the world that it begins in: with a result, with this store committed, and after these
events. -/
inductive Course (s : Service σ) (id : Uuid) (w : World σ) :
    Except CalculationError Calculated → Store → List Event → Prop
  /-- There is no such group, or it could not be asked for. -/
  | unknown (e : CalculationError) (w₁ : World σ) (es : List Event) :
    (fetchGroup s.client id).run.run w = (.error e, w₁) → Course s id w (.error e) w.database.store es
  /-- The group could not be prepared. -/
  | unprepared (g : Group) (w₁ : World σ) (e : CalculationError) (w₂ : World σ) (es : List Event) :
    (fetchGroup s.client id).run.run w = (.ok g, w₁) → (prepare s.client g).run.run w₁ = (.error e, w₂) →
      Course s id w (.error e)
        (w.database.store.writeLog (.failed g.id g.entityId s.options.now 0 e.message)) es
  /-- The group could not be prepared, and that could not be written down. -/
  | unnoted (g : Group) (w₁ : World σ) (e : CalculationError) (w₂ : World σ) (es : List Event) :
    (fetchGroup s.client id).run.run w = (.ok g, w₁) → (prepare s.client g).run.run w₁ = (.error e, w₂) →
      LosesFailure es → Course s id w (.error e) w.database.store es
  /-- The members were written down. -/
  | written (g : Group) (w₁ : World σ) (p : Prepared) (w₂ : World σ) (ids : List Uuid)
      (deliveries : Option (List Delivery)) (S : Store) (es : List Event) :
    (fetchGroup s.client id).run.run w = (.ok g, w₁) → (prepare s.client g).run.run w₁ = (.ok p, w₂) →
      Recording.Outcome s.options g p.query w.database.store w.database.answers (.ok ids) S es →
        Course s id w (.ok ⟨ids, deliveries⟩) S es
  /-- The members were not written down. -/
  | unwritten (g : Group) (w₁ : World σ) (p : Prepared) (w₂ : World σ) (e : CalculationError) (S : Store)
      (es : List Event) :
    (fetchGroup s.client id).run.run w = (.ok g, w₁) → (prepare s.client g).run.run w₁ = (.ok p, w₂) →
      Recording.Outcome s.options g p.query w.database.store w.database.answers (.error e) S es →
        Course s id w (.error e) S es

theorem preparing_ok {s : Service σ} {g : Group} {w w' : World σ} {p : Prepared}
    (h : (prepare s.client g).run.run w = (.ok p, w')) : (s.preparing g).run.run w = (.ok p, w') := by
  show s.preparing g w = _
  rw [preparing, show (prepare s.client g).run w = (.ok p, w') from h]

theorem preparing_error {s : Service σ} {g : Group} {w w' : World σ} {e : CalculationError}
    (h : (prepare s.client g).run.run w = (.error e, w')) : (s.preparing g).run.run w =
      (.error e, { w' with database := ((Recording.note s.options g e).run w'.database).2 }) := by
  show s.preparing g w = _
  rw [preparing, show (prepare s.client g).run w = (.error e, w') from h]

theorem onDatabase_run {ε α : Type} {work : ExceptT ε (StateM Database) α} {w : World σ} {r : Except ε α} {d : Database}
    (h : work.run.run w.database = (r, d)) : (World.onDatabase work).run.run w = (r, { w with database := d }) := by
  show World.onDatabase work w = _
  rw [World.onDatabase, show work.run w.database = (r, d) from h]

/-- A prepared group is written down, and the workflows are told of that. -/
theorem write_course {s : Service σ} (hs : s.Quiet) {id : Uuid} {w w₁ w₂ : World σ} {g : Group} {p : Prepared}
    {es : List Event} (hfetch : (fetchGroup s.client id).run.run w = (.ok g, w₁))
    (hprepare : (prepare s.client g).run.run w₁ = (.ok p, w₂))
    (h : w₂.database = w.database.after (.resting w.database.store) es) :
    let work : Work (World σ) Calculated := do
      let ids ← World.onDatabase (Recording.run s.options g p.query)
      let deliveries ← s.tell g.id
      return ⟨ids, deliveries⟩
    ∃ S es', (work.run.run w₂).2.database = w.database.after (.resting S) es' ∧
      s.Course id w (work.run.run w₂).1 S es' := by
  intro work
  obtain ⟨r, d, hrun⟩ : ∃ r d, (Recording.run s.options g p.query).run.run w₂.database = (r, d) := ⟨_, _, rfl⟩
  have hwrite := onDatabase_run hrun
  obtain ⟨_, es', h', S, rfl, hout⟩ := Recording.run_runs s.options g p.query w₂.database _ h
  rw [hrun] at h' hout
  have hout := hout.mono (List.suffix_append es es').isInfix
  cases r with
  | error e =>
    rw [run_andThen_error hwrite]
    exact ⟨_, _, h', .unwritten g w₁ p w₂ e S _ hfetch hprepare hout⟩
  | ok ids =>
    rw [run_andThen_ok hwrite]
    obtain ⟨_, es'', h'', rfl⟩ := hs.asks_tell g.id w.database S { w₂ with database := d } _ h'
    exact ⟨_, _, h'', .written g w₁ p w₂ ids _ S _ hfetch hprepare (hout.mono (List.prefix_append _ es'').isInfix)⟩

/-- **Every calculation takes one of these courses**, and no session is open after it. -/
theorem calculate_course {s : Service σ} (hs : s.Quiet) {w : World σ} (hw : w.database.AtRest) (id : Uuid) :
    ∃ S es, ((s.calculate id).run.run w).2.database = w.database.after (.resting S) es ∧
      s.Course id w ((s.calculate id).run.run w).1 S es := by
  obtain ⟨r₁, w₁, hfetch⟩ : ∃ r w', (fetchGroup s.client id).run.run w = (r, w') := ⟨_, _, rfl⟩
  obtain ⟨_, es₁, h₁, rfl⟩ := asks_fetchGroup hs.client id w.database w.database.store w [] hw.eq_after
  rw [hfetch] at h₁
  cases r₁ with
  | error e =>
    rw [calculate, run_andThen_error hfetch]
    exact ⟨_, _, h₁, .unknown e w₁ _ hfetch⟩
  | ok g =>
    rw [calculate, run_andThen_ok hfetch]
    obtain ⟨r₂, w₂, hprepare⟩ : ∃ r w', (prepare s.client g).run.run w₁ = (r, w') := ⟨_, _, rfl⟩
    obtain ⟨_, es₂, h₂, rfl⟩ := asks_prepare hs.client g w.database w.database.store w₁ _ h₁
    rw [hprepare] at h₂
    cases r₂ with
    | error e =>
      rw [run_andThen_error (preparing_error hprepare)]
      obtain ⟨_, es₃, h₃, rfl | ⟨rfl, hlost⟩⟩ := Recording.note_runs s.options g e w₂.database _ h₂
      · exact ⟨_, _, h₃, .unprepared g w₁ e w₂ _ hfetch hprepare⟩
      · exact ⟨_, _, h₃, .unnoted g w₁ e w₂ _ hfetch hprepare (hlost.mono (List.suffix_append _ _).isInfix)⟩
    | ok p =>
      rw [run_andThen_ok (preparing_ok hprepare)]
      exact write_course hs hfetch hprepare h₂

end Service

/-! ## All or nothing -/

/-- What a step that failed leaves. -/
theorem Stage.records (stage : Stage) (S : Store) (o : Recording.Options) (g : Group) (count : Nat) (message : String) :
    S.Records ((stage.kept S (S.removeMembers g.id)).writeLog (.failed g.id g.entityId o.now count message)) g.id
      .failed count (some message) (stage.kept (S.membersOf g.id) []) := by
  cases stage
  case savepoint => exact S.records_writeLog g.id g.entityId o.now count .failed message
  all_goals exact S.records_replace g.id g.entityId o.now count .failed message []

/-- **A calculation writes all or nothing.** Whatever is refused on the way: either the members are those that the query
found, whatever they were before, and the log row says so; or the call fails and nothing has changed; or the call fails,
and the log row says why. In that case the failure is in preparing the group, which keeps the members of before, or in a
step behind the row that the calculation runs. Then the group has no members, unless the savepoint could not be set,
which keeps the members of before. The count is that of the members found once they are to be added, and zero before. No
other group is touched, and no session is left open. -/
theorem calculate_all_or_nothing {s : Service σ} (hs : s.Quiet) {w : World σ} (hw : w.database.AtRest) (id : Uuid) :
    ∃ r w' es, (s.calculate id).run.run w = (r, w') ∧ w'.database.AtRest ∧
      w'.database.trace = w.database.trace ++ es ∧
      ((∃ ids deliveries g w₁, r = .ok ⟨ids, deliveries⟩ ∧ (fetchGroup s.client id).run.run w = (.ok g, w₁) ∧
          ids = w.database.answers ∧
          w.database.store.Records w'.database.store g.id .completed ids.length none ids) ∨
        (∃ e, r = .error e ∧ w'.database.store = w.database.store) ∨
        ∃ e g w₁, r = .error e ∧ (fetchGroup s.client id).run.run w = (.ok g, w₁) ∧
          ((∃ w₂, (prepare s.client g).run.run w₁ = (.error e, w₂) ∧
              w.database.store.Records w'.database.store g.id .failed 0 (some e.message)
                (w.database.store.membersOf g.id)) ∨
            ∃ p w₂ stage, (prepare s.client g).run.run w₁ = (.ok p, w₂) ∧ Stage.Breaks p.query es stage e ∧
              w.database.store.Records w'.database.store g.id .failed (stage.count w.database.answers.length)
                (some e.message) (stage.kept (w.database.store.membersOf g.id) []))) := by
  obtain ⟨S, es, hafter, hcourse⟩ := Service.calculate_course hs hw id
  obtain ⟨r, w', hrun⟩ : ∃ r w', (s.calculate id).run.run w = (r, w') := ⟨_, _, rfl⟩
  rw [hrun] at hafter hcourse
  have hstore : w'.database.store = S := congrArg Database.store hafter
  subst hstore
  refine ⟨r, w', es, hrun, hafter ▸ Database.atRest_after _ _ _, congrArg Database.trace hafter, ?_⟩
  generalize hS : w'.database.store = S at hcourse
  cases hcourse with
  | unknown e w₁ _ hfetch => exact .inr (.inl ⟨e, rfl, rfl⟩)
  | unnoted g w₁ e w₂ _ hfetch hprepare hlost => exact .inr (.inl ⟨e, rfl, rfl⟩)
  | unprepared g w₁ e w₂ _ hfetch hprepare =>
    refine .inr (.inr ⟨e, g, w₁, rfl, hfetch, .inl ⟨w₂, hprepare, ?_⟩⟩)
    exact Store.records_writeLog _ g.id g.entityId s.options.now 0 .failed e.message
  | written g w₁ p w₂ ids deliveries S es hfetch hprepare hout =>
    cases hout with
    | completed q _ hq =>
      refine .inl ⟨_, deliveries, g, w₁, rfl, hfetch, rfl, ?_⟩
      exact Store.records_replace _ g.id g.entityId s.options.now _ .completed none _
  | unwritten g w₁ p w₂ e S es hfetch hprepare hout =>
    cases hout with
    | undone _ _ he => exact .inr (.inl ⟨e, rfl, rfl⟩)
    | failed stage _ _ hb =>
      refine .inr (.inr ⟨e, g, w₁, rfl, hfetch, .inr ⟨p, w₂, stage, hprepare, hb, ?_⟩⟩)
      exact stage.records _ s.options g _ _

/-! ## A shop in memory -/

namespace Shop

/-- A group of customers, given the document of its rules. -/
def customers (rules : Json) : Group := ⟨id 8, "customers", id 1, rules, none⟩

/-- Definitions in memory beside the database. -/
def memory : MetadataClient (World Registry) := Registry.client.zoom World.metadata fun w r => { w with metadata := r }

/-- Calculations that wait for each other, on definitions in memory. -/
def service : Service Registry := ⟨memory, none, ⟨true, ⟨⟨2024, 1, 1⟩, 0, 0, 0⟩⟩⟩

/-- A committed store, the rules of the group and the statements that are refused; the query finds two customers. -/
def world (store : Store) (rules : Json) (faults : List Fault) : World Registry :=
  ⟨.atRest store ⟨[], [], [], [], []⟩ [id 9, id 10] faults,
    (Registry.empty.addEntity ⟨id 1, "customer", none⟩).addGroup (customers rules)⟩

/-- Rules that every row satisfies. -/
def noRules : Json := .object [("rules", .array [])]

theorem quiet_service : service.Quiet :=
  ⟨MetadataClient.asks_zoom_beside fun _ _ => rfl, nofun⟩

theorem atRest_world (store : Store) (rules : Json) (faults : List Fault) :
    (world store rules faults).database.AtRest := ⟨rfl, rfl, rfl⟩

/-- The group is found. -/
theorem fetch_world (store : Store) (rules : Json) (faults : List Fault) :
    ∃ w, (fetchGroup service.client (id 8)).run.run (world store rules faults) = (.ok (customers rules), w) := ⟨_, rfl⟩

end Shop

/-- The customers of a shop replace the member that the group had. -/
theorem calculate_all_or_nothing_shop :
    let before := Store.empty.addMember (Shop.id 8) (Shop.id 5)
    let w := Shop.world before Shop.noRules []
    Shop.service.Quiet ∧ w.database.AtRest ∧
      before.Records ((Shop.service.calculate (Shop.id 8)).run.run w).2.database.store (Shop.id 8) .completed 2 none
        [Shop.id 9, Shop.id 10] := by
  intro before w
  refine ⟨Shop.quiet_service, Shop.atRest_world before Shop.noRules [], ?_⟩
  obtain ⟨r, w', es, hrun, -, -, h⟩ := calculate_all_or_nothing Shop.quiet_service
    (Shop.atRest_world before Shop.noRules []) (Shop.id 8)
  have hok : ((Shop.service.calculate (Shop.id 8)).run.run w).1.isOk := by decide +kernel
  rw [hrun] at hok ⊢
  obtain ⟨ids, deliveries, g, w₁, -, hfetch, rfl, hrecords⟩ | ⟨e, rfl, -⟩ | ⟨e, g, w₁, rfl, -⟩ := h
  · obtain ⟨w₂, hcustomers⟩ := Shop.fetch_world before Shop.noRules []
    rw [hcustomers] at hfetch
    cases hfetch
    exact hrecords
  · cases hok
  · cases hok

end Cohort
