import Cohort.Calculation.Reading
import Cohort.Proofs.Calculation.History
import Cohort.Proofs.Checking
import Mathlib.Data.List.Induction

/-!
# Results beside calculations

A reader asks for the log row of a group, and for its members if the row tells of a success. These are two reads, and
the store may have changed between them (`Reading.resultsAmid`): what a reader is told depends on the store at the first
read and on that at the second one (`Store.tells`, `resultsAmid_runs`).

* `results_after_calculate`: a reader that follows a calculation is told what the calculation did.
* `results_amid_calculations`: a reader whose reads lie among calculations is told when the last success before its
  first read was, and who the members are at its second read. These are the members of that success unless a
  calculation changes them in between; then what the reader is told is what no calculation did (`results_torn_shop`).
-/

namespace Cohort

open Session

/-! ## Reading -/

/-- The results of a group, with commits between the two reads. -/
def Reading.resultsAmid (commits : Store → Store) (group : Uuid) :
    ExceptT CalculationError (StateM Database) Results := do
  match ← ExceptT.adapt .database (latestLog group) with
  | none => return .never
  | some log =>
    if log.status = .completed then
      modify fun db => { db with store := commits db.store }
      let ids ← ExceptT.adapt .database (memberIds group)
      return ⟨ids, some log.calculatedAt⟩
    else throw (.notSuccessful group log.status log.calculatedAt log.errorMessage)

/-- With nothing between the reads, these are the results. -/
theorem Reading.resultsAmid_id (group : Uuid) : Reading.resultsAmid id group = Reading.results group := rfl

/-- What the log says of a group. -/
def Store.latest (S : Store) (group : Uuid) : Except DatabaseError (Option LogEntry) :=
  match S.log? group with
  | none => .ok none
  | some row => row.entry.map some

/-- What a reader is told of a group that finds one store at the first read and one at the second. -/
def Store.tells (S S' : Store) (group : Uuid) : Except CalculationError Results :=
  match S.latest group with
  | .error e => .error (.database e)
  | .ok none => .ok .never
  | .ok (some log) =>
    if log.status = .completed then .ok ⟨S'.sortedMembersOf group, some log.calculatedAt⟩
    else .error (.notSuccessful group log.status log.calculatedAt log.errorMessage)

namespace Reading

variable (db : Database) (S : Store) (group : Uuid)

theorem latestLog_runs : Runs db id (latestLog group).run (.resting S) fun r t es =>
    t = .resting S ∧ (refusals es = 0 → r = S.latest group) := by
  refine Runs.sentThen (alone_runs rfl) ?_ fun words => ⟨rfl, nofun⟩
  refine Runs.reading fun t es ht => ?_
  obtain rfl : t = db.after (.resting S) es := ht
  show Runs db id (match S.log? group with
    | none => (return none : DatabaseM (Option LogEntry))
    | some row => do return some (← liftM row.entry)).run (.resting S) _
  unfold Store.latest
  cases S.log? group with
  | none => exact Runs.pure _ ⟨rfl, fun _ => rfl⟩
  | some row =>
    dsimp only
    cases row.entry <;> refine Runs.pure _ ?_ <;> exact ⟨rfl, fun _ => rfl⟩

theorem memberIds_runs : Runs db id (memberIds group).run (.resting S) fun r _ es =>
    refusals es = 0 → r = .ok (S.sortedMembersOf group) := by
  refine Runs.sentThen (alone_runs rfl) ?_ fun words => nofun
  refine Runs.reading fun t es ht => ?_
  obtain rfl : t = db.after (.resting S) es := ht
  exact Runs.pure _ fun _ => rfl

theorem members_runs (commits : Store → Store) (time : Instant) :
    Runs db id (do
      modify fun db => { db with store := commits db.store }
      let ids ← ExceptT.adapt .database (memberIds group)
      return ⟨ids, some time⟩ : ExceptT CalculationError (StateM Database) Results).run (.resting S)
      fun r _ es => refusals es = 0 → r = .ok ⟨(commits S).sortedMembersOf group, some time⟩ := by
  have hids : Runs db id (ExceptT.adapt CalculationError.database (memberIds group)).run (.resting (commits S))
      fun r _ es => refusals es = 0 → r = .ok ((commits S).sortedMembersOf group) :=
    Runs.adapt _ ((memberIds_runs db (commits S) group).mono fun r _ es h hes => congrArg _ (h hes))
  have hthen : Runs db id (do
      let ids ← ExceptT.adapt .database (memberIds group)
      return ⟨ids, some time⟩ : ExceptT CalculationError (StateM Database) Results).run (.resting (commits S))
      fun r _ es => refusals es = 0 → r = .ok ⟨(commits S).sortedMembersOf group, some time⟩ := by
    refine Runs.andThen hids (fun ids t es h => Runs.pure _ fun hes => ?_) fun e t es h hes => ?_
    · rw [List.append_nil] at hes
      rw [Except.ok.inj (h hes)]
    · cases h hes
  intro t es ht
  obtain rfl : t = db.after (.resting S) es := ht
  exact hthen _ es rfl

/-- **What a reader is told**, unless a read is refused. -/
theorem resultsAmid_runs (commits : Store → Store) : Runs db id (resultsAmid commits group).run (.resting S)
    fun r _ es => refusals es = 0 → r = S.tells (commits S) group := by
  have hlog : Runs db id (ExceptT.adapt CalculationError.database (latestLog group)).run (.resting S) fun r t es =>
      t = .resting S ∧ (refusals es = 0 → r = (S.latest group).mapError .database) :=
    Runs.adapt _ ((latestLog_runs db S group).mono fun r t es h => ⟨h.1, fun hes => congrArg _ (h.2 hes)⟩)
  refine Runs.andThen hlog (fun log? t es h => ?_) fun e t es h hes => ?_
  · obtain ⟨rfl, hlatest⟩ := h
    have hlog? {es' : List Event} (hes : refusals (es ++ es') = 0) : S.latest group = .ok log? := by
      rw [refusals_append] at hes
      exact check_mapError_ok.1 (hlatest (by omega)).symm
    unfold Store.tells
    cases log? with
    | none =>
      refine Runs.pure _ fun hes => ?_
      rw [hlog? hes]
    | some log =>
      dsimp only
      split
      · rename_i hcompleted
        refine (members_runs db S group commits log.calculatedAt).mono fun r t es' h' hes => ?_
        rw [hlog? hes, h' (by rw [refusals_append] at hes; omega)]
        exact (if_pos hcompleted).symm
      · rename_i hother
        refine Runs.pure _ fun hes => ?_
        rw [hlog? hes]
        exact (if_neg hother).symm
  · obtain ⟨e', he, rfl⟩ := check_mapError_error.1 (h.2 hes).symm
    rw [Store.tells, he]

variable {db}

/-- A reader is given an answer, and none of its reads is refused. -/
def Answers (reader : ExceptT CalculationError (StateM Database) Results) (db : Database)
    (answer : Except CalculationError Results) : Prop :=
  ∃ db' es, reader.run.run db = (answer, db') ∧ db'.trace = db.trace ++ es ∧ refusals es = 0

theorem Answers.eq_tells {commits : Store → Store} {answer : Except CalculationError Results} (hdb : db.AtRest)
    (h : Answers (resultsAmid commits group) db answer) : answer = db.store.tells (commits db.store) group := by
  obtain ⟨db', es, hrun, htrace, hes⟩ := h
  obtain ⟨s', es', hafter, hanswer⟩ := resultsAmid_runs db db.store group commits db [] hdb.eq_after
  rw [hrun] at hafter hanswer
  -- Both are what the reader adds to the trace.
  have hsame : es' = es := List.append_cancel_left ((congrArg Database.trace hafter).symm.trans htrace)
  exact hanswer (hsame ▸ hes)

theorem answers_of_refusals {commits : Store → Store} (hdb : db.AtRest)
    (h : refusals ((resultsAmid commits group).run.run db).2.trace = refusals db.trace) :
    Answers (resultsAmid commits group) db ((resultsAmid commits group).run.run db).1 := by
  obtain ⟨s', es, hafter, -⟩ := resultsAmid_runs db db.store group commits db [] hdb.eq_after
  have htrace : ((resultsAmid commits group).run.run db).2.trace = db.trace ++ es := congrArg Database.trace hafter
  refine ⟨_, es, rfl, htrace, ?_⟩
  rw [htrace, refusals_append] at h
  omega

theorem Answers.eq_tells_self {answer : Except CalculationError Results} (hdb : db.AtRest)
    (h : Answers (results group) db answer) : answer = db.store.tells db.store group := by
  rw [← resultsAmid_id] at h
  exact h.eq_tells group hdb

end Reading

theorem CalculationStatus.read_name (status : CalculationStatus) : CalculationStatus.read status.name = .ok status := by
  cases status <;> rfl

theorem CalculationStatus.eq_name_of_read {raw : String} {status : CalculationStatus}
    (h : CalculationStatus.read raw = .ok status) : raw = status.name := by
  unfold CalculationStatus.read at h
  split at h
  · rename_i s hs
    cases h
    obtain ⟨before, after, hnames, _⟩ := List.lookup_eq_some_iff.1 hs
    have hmem : (raw, status) ∈ CalculationStatus.names := by
      rw [hnames]
      exact List.mem_append_right _ List.mem_cons_self
    have hall : ∀ entry ∈ CalculationStatus.names, entry.1 = entry.2.name := by decide
    exact hall _ hmem
  · cases h

namespace Store

variable {S S' : Store} {group : Uuid} {row : LogRow}

theorem latest_eq_ok {status : CalculationStatus} (hrow : S.log? group = some row)
    (hstatus : row.status = status.name) : S.latest group =
      .ok (some ⟨row.groupId, row.entityId, row.calculatedAt, row.memberCount, status, row.errorMessage⟩) := by
  rw [latest, hrow]
  dsimp only
  rw [LogRow.entry, hstatus, CalculationStatus.read_name]
  rfl

theorem tells_of_completed (hrow : S.log? group = some row) (hstatus : row.status = CalculationStatus.completed.name) :
    S.tells S' group = .ok ⟨S'.sortedMembersOf group, some row.calculatedAt⟩ := by
  rw [tells, latest_eq_ok hrow hstatus]
  rfl

theorem tells_of_failed (hrow : S.log? group = some row) (hstatus : row.status = CalculationStatus.failed.name) :
    S.tells S' group = .error (.notSuccessful group .failed row.calculatedAt row.errorMessage) := by
  rw [tells, latest_eq_ok hrow hstatus]
  rfl

theorem perm_sortedMembersOf (S : Store) (group : Uuid) : (S.sortedMembersOf group).Perm (S.membersOf group) :=
  List.mergeSort_perm _ _

/-- A reader is told of members with a time only if the row that it finds tells of a success. -/
theorem tells_eq_ok {ms : List Uuid} {time : Instant} (h : S.tells S' group = .ok ⟨ms, some time⟩) :
    ∃ row, S.log? group = some row ∧ row.status = CalculationStatus.completed.name ∧ row.calculatedAt = time ∧
      ms = S'.sortedMembersOf group := by
  unfold tells latest at h
  cases hrow : S.log? group with
  | none =>
    rw [hrow] at h
    cases h
  | some row =>
    rw [hrow] at h
    dsimp only at h
    unfold LogRow.entry at h
    cases hread : CalculationStatus.read row.status with
    | error e =>
      rw [hread] at h
      cases h
    | ok status =>
      rw [hread] at h
      dsimp only [Except.map] at h
      split at h
      · rename_i hcompleted
        cases h
        exact ⟨row, rfl, hcompleted ▸ CalculationStatus.eq_name_of_read hread, rfl, rfl⟩
      · cases h

end Store

/-- A reader that adds no refusal is given the members if its first read finds a success. -/
theorem Reading.answers_of_completed {db : Database} {commits : Store → Store} {group : Uuid} {row : LogRow}
    (hdb : db.AtRest) (h : refusals ((resultsAmid commits group).run.run db).2.trace = refusals db.trace)
    (hrow : db.store.log? group = some row) (hstatus : row.status = CalculationStatus.completed.name) :
    Answers (resultsAmid commits group) db
      (.ok ⟨(commits db.store).sortedMembersOf group, some row.calculatedAt⟩) := by
  have hanswer := answers_of_refusals group hdb h
  rw [hanswer.eq_tells group hdb, Store.tells_of_completed hrow hstatus] at hanswer
  exact hanswer

/-! ## What a calculation leaves -/

/-- What a calculation leaves of the store that it begins with: its members and a row that tells of its success, or
nothing new, or a row that tells of its failure. -/
inductive Service.Leaves {σ : Type} (s : Service σ) (id : Uuid) (w : World σ) :
    Except CalculationError Calculated → Store → Prop
  /-- It succeeds. -/
  | completed (g : Group) (w₁ : World σ) (c : Calculated) (S : Store) :
    (fetchGroup s.client id).run.run w = (.ok g, w₁) →
      w.database.store.Records S g.id .completed c.memberIds.length none c.memberIds → Leaves s id w (.ok c) S
  /-- It fails without a trace. -/
  | nothing (e : CalculationError) : Leaves s id w (.error e) w.database.store
  /-- It fails, and writes that down. -/
  | failed (g : Group) (w₁ : World σ) (e : CalculationError) (count : Nat) (members : List Uuid) (S : Store) :
    (fetchGroup s.client id).run.run w = (.ok g, w₁) →
      w.database.store.Records S g.id .failed count (some e.message) members → Leaves s id w (.error e) S

theorem Service.Course.leaves {σ : Type} {s : Service σ} {id : Uuid} {w : World σ}
    {r : Except CalculationError Calculated} {S : Store} {es : List Event} (h : s.Course id w r S es) :
    s.Leaves id w r S := by
  cases h with
  | unknown e _ _ _ => exact .nothing e
  | unnoted _ _ e _ _ _ _ _ => exact .nothing e
  | unprepared g w₁ e _ _ hfetch _ =>
    exact .failed g w₁ e 0 _ _ hfetch (Store.records_writeLog _ g.id g.entityId s.options.now 0 .failed _)
  | written g w₁ _ _ ids deliveries _ _ hfetch _ hout =>
    cases hout
    refine .completed g w₁ ⟨_, deliveries⟩ _ hfetch ?_
    exact Store.records_replace _ g.id g.entityId s.options.now _ .completed none _
  | unwritten g w₁ _ _ e _ _ hfetch _ hout =>
    cases hout with
    | undone => exact .nothing e
    | failed stage _ _ _ => exact .failed g w₁ e _ _ _ hfetch (stage.records _ s.options g _ _)

/-! ## The group that is found -/

theorem GroupRow.read_id {r : GroupRow} {g : Group} (h : r.read = .ok g) : g.id = r.id := by
  unfold GroupRow.read at h
  split at h <;> cases h
  rfl

/-- The rows of the database answer with the group that is asked for. -/
theorem Database.group_runs (db : Database) (S : Store) (group : Uuid) :
    Runs db id (Database.client.group group).run (.resting S) fun r _ _ => ∀ g, r = .ok g → g.id = group := by
  have hquery : Runs db id (query (.getGroup group) fun m => m.groups.find? fun g => g.id = group).run (.resting S)
      fun r _ _ => ∀ row, r = .ok (some row) → row.id = group := by
    refine Runs.andThen (Runs.adaptSent (alone_runs rfl) _) (fun _ t es _ => ?_) fun e t es _ => nofun
    refine Runs.reading fun t' es' _ => Runs.pure _ fun row h => ?_
    simpa using List.find?_some (Except.ok.inj h)
  refine Runs.andThen hquery (fun row? t es hrow => ?_) fun e t es _ => nofun
  cases row? with
  | none => exact Runs.pure _ nofun
  | some row =>
    refine Runs.pure _ fun g hg => ?_
    exact (GroupRow.read_id hg).trans (hrow row rfl)

theorem answer_of_fetchGroup {σ : Type} {client : MetadataClient σ} {group : Uuid} {s s' : σ} {g : Group}
    (h : (fetchGroup client group).run.run s = (.ok g, s')) : (client.group group).run.run s = (.ok g, s') := by
  have hwork : fetchGroup client group s = (.ok g, s') := h
  unfold fetchGroup at hwork
  split at hwork
  · rename_i hanswer
    cases hwork
    exact hanswer
  · cases hwork

/-- A calculation on definitions in the database finds the group that it is asked for. -/
theorem World.fetchGroup_client {σ : Type} {group : Uuid} {w w₁ : World σ} {g : Group} (hw : w.database.AtRest)
    (h : (fetchGroup World.client group).run.run w = (.ok g, w₁)) : g.id = group := by
  obtain ⟨_, _, _, hid⟩ := Database.group_runs w.database w.database.store group w.database [] hw.eq_after
  exact hid g (congrArg Prod.fst (answer_of_fetchGroup h))

/-! ## After a calculation -/

/-- **A reader is told what the calculation did**, if it follows the calculation, none of its reads is refused and it
asks for the group that the calculation has found (that is the one it was asked for if definitions are in the database,
`World.fetchGroup_client`). After a success it is given the members, in whatever order, and the time in the row of the
success. After a failure that is written down it is given the failure, with the time in its row and the words of the
error. After a failure that left nothing it is told what it would have been told before. A failure is one of these. -/
theorem results_after_calculate {σ : Type} {s : Service σ} (hs : s.Quiet) {w : World σ} (hw : w.database.AtRest)
    {id group : Uuid} (hgroup : ∀ g w₁, (fetchGroup s.client id).run.run w = (.ok g, w₁) → g.id = group) :
    ∃ r w', (s.calculate id).run.run w = (r, w') ∧ w'.database.AtRest ∧
      ∀ answer, Reading.Answers (Reading.results group) w'.database answer →
        (∀ c, r = .ok c → ∃ row ms, w'.database.store.log? group = some row ∧
          row.status = CalculationStatus.completed.name ∧ answer = .ok ⟨ms, some row.calculatedAt⟩ ∧
          ms.Perm c.memberIds) ∧
        ∀ e, r = .error e →
          (∀ row, w'.database.store.log? group = some row → row.status = CalculationStatus.failed.name →
            row.errorMessage = some e.message →
              answer = .error (.notSuccessful group .failed row.calculatedAt (some e.message))) ∧
          (w'.database.store = w.database.store →
            ∀ before, Reading.Answers (Reading.results group) w.database before → answer = before) ∧
          ((∃ row, w'.database.store.log? group = some row ∧ row.status = CalculationStatus.failed.name ∧
              row.errorMessage = some e.message) ∨ w'.database.store = w.database.store) := by
  obtain ⟨S, es, hafter, hcourse⟩ := Service.calculate_course hs hw id
  obtain ⟨r, w', hrun⟩ : ∃ r w', (s.calculate id).run.run w = (r, w') := ⟨_, _, rfl⟩
  rw [hrun] at hafter hcourse
  have hstore : w'.database.store = S := congrArg Database.store hafter
  have hrest : w'.database.AtRest := hafter ▸ Database.atRest_after _ _ _
  refine ⟨r, w', hrun, hrest, fun answer hanswer => ?_⟩
  obtain rfl : answer = S.tells S group := hstore ▸ hanswer.eq_tells_self group hrest
  rw [hstore]
  have hleaves := hcourse.leaves
  constructor
  · rintro c rfl
    cases hleaves with
    | completed g w₁ _ _ hfetch hrecords =>
      obtain ⟨row, hrow, hstatus, -⟩ := hrecords.shows
      rw [hgroup g w₁ hfetch] at hrow hrecords
      refine ⟨row, _, hrow, hstatus, Store.tells_of_completed hrow hstatus, ?_⟩
      rw [← hrecords.members]
      exact S.perm_sortedMembersOf group
  · rintro e rfl
    refine ⟨?_, ?_, ?_⟩
    · intro row hrow hstatus hmessage
      rw [Store.tells_of_failed hrow hstatus, hmessage]
    · rintro rfl before hbefore
      exact (hbefore.eq_tells_self group hw).symm
    · cases hleaves with
      | nothing => exact .inr rfl
      | failed g w₁ _ count members _ hfetch hrecords =>
        obtain ⟨row, hrow, hstatus, hmessage, -⟩ := hrecords.shows
        rw [hgroup g w₁ hfetch] at hrow
        exact .inl ⟨row, hrow, hstatus, hmessage⟩

/-- In a shop, the second new member is refused: the reader is told why the calculation failed. -/
theorem results_after_calculate_shop :
    let w := Shop.world .empty Shop.noRules [⟨"insert_membership", 2, "disk full"⟩]
    ∃ e w' row, (Shop.service.calculate (Shop.id 8)).run.run w = (.error e, w') ∧
      w'.database.store.log? (Shop.id 8) = some row ∧
      Reading.Answers (Reading.results (Shop.id 8)) w'.database
        (.error (.notSuccessful (Shop.id 8) .failed row.calculatedAt (some e.message))) := by
  intro w
  have hgroup : ∀ g w₁, (fetchGroup Shop.service.client (Shop.id 8)).run.run w = (.ok g, w₁) → g.id = Shop.id 8 := by
    intro g w₁ hfetch
    obtain ⟨w₂, hcustomers⟩ := Shop.fetch_world .empty Shop.noRules [⟨"insert_membership", 2, "disk full"⟩]
    cases hcustomers.symm.trans hfetch
    rfl
  obtain ⟨r, w', hrun, hrest, hreader⟩ := results_after_calculate Shop.quiet_service (Shop.atRest_world _ _ _) hgroup
  have hfails : ((Shop.service.calculate (Shop.id 8)).run.run w).1.isOk = false := by decide +kernel
  have hlogged : (((Shop.service.calculate (Shop.id 8)).run.run w).2.database.store.log? (Shop.id 8)).isSome := by
    decide +kernel
  have hunrefused : refusals ((Reading.resultsAmid id (Shop.id 8)).run.run
      ((Shop.service.calculate (Shop.id 8)).run.run w).2.database).2.trace =
      refusals ((Shop.service.calculate (Shop.id 8)).run.run w).2.database.trace := by
    decide +kernel
  rw [hrun] at hfails hlogged hunrefused
  have hanswer := Reading.answers_of_refusals (Shop.id 8) hrest hunrefused
  rw [Reading.resultsAmid_id] at hanswer
  cases r with
  | ok c => cases hfails
  | error e =>
    obtain ⟨hfailed, -, hleft⟩ := (hreader _ hanswer).2 e rfl
    obtain ⟨row, hrow, hstatus, hmessage⟩ | hsame := hleft
    · refine ⟨e, w', row, hrun, hrow, ?_⟩
      rw [hfailed row hrow hstatus hmessage] at hanswer
      exact hanswer
    · rw [hsame] at hlogged
      cases hlogged

/-! ## Amid calculations -/

/-- The store after further calculations. -/
def commitAll (attempts : List Attempt) (S : Store) : Store := attempts.foldl (fun S a => a.store S) S

theorem commitAll_storeAfter (before between : List Attempt) :
    commitAll between (storeAfter before) = storeAfter (before ++ between) := List.foldl_append.symm

namespace Attempt

theorem leaves (a : Attempt) (S : Store) : a.service.Leaves a.group (a.start S) (a.run S).1 (a.store S) := by
  have hrest : (a.start S).database.AtRest := ⟨a.atRest.transaction, a.atRest.depth, a.atRest.queued⟩
  obtain ⟨S', es, hafter, hcourse⟩ := Service.calculate_course a.quiet hrest a.group
  have hstore : a.store S = S' := congrArg Database.store hafter
  exact hstore ▸ hcourse.leaves

/-- A row that tells of a success was there before, with the members that are there now, or the calculation has
succeeded with these members. -/
theorem completes {a : Attempt} {S : Store} {group : Uuid} {row : LogRow} (hrow : (a.store S).log? group = some row)
    (hstatus : row.status = CalculationStatus.completed.name) :
    (S.log? group = some row ∧ (a.store S).membersOf group = S.membersOf group) ∨
      ∃ c, (a.run S).1 = .ok c ∧ (a.store S).membersOf group = c.memberIds := by
  have hleaves := a.leaves S
  generalize (a.run S).1 = r, a.store S = S' at hleaves hrow ⊢
  cases hleaves with
  | completed g w₁ c _ _ hrecords =>
    by_cases hg : group = g.id
    · subst hg
      exact .inr ⟨c, rfl, hrecords.members⟩
    · exact .inl ⟨(hrecords.otherLogs group hg).symm.trans hrow, hrecords.otherMembers group hg⟩
  | nothing e => exact .inl ⟨hrow, rfl⟩
  | failed g w₁ e count members _ _ hrecords =>
    by_cases hg : group = g.id
    · subst hg
      obtain ⟨row', hrow', hstatus', -⟩ := hrecords.shows
      rw [hrow] at hrow'
      cases hrow'
      rw [hstatus] at hstatus'
      exact absurd hstatus' (by decide)
    · exact .inl ⟨(hrecords.otherLogs group hg).symm.trans hrow, hrecords.otherMembers group hg⟩

end Attempt

/-- A row that tells of a success was written by a calculation that succeeded, and the members of the group are still
those of this calculation. -/
theorem success_of_log (history : List Attempt) {group : Uuid} {row : LogRow} :
    (storeAfter history).log? group = some row → row.status = CalculationStatus.completed.name →
    ∃ earlier a later c, history = earlier ++ a :: later ∧ (a.run (storeAfter earlier)).1 = .ok c ∧
      (storeAfter (earlier ++ [a])).log? group = some row ∧
      (storeAfter (earlier ++ [a])).membersOf group = c.memberIds ∧
      (storeAfter history).membersOf group = c.memberIds := by
  -- The last calculation has written the row, or it was there before with the same members.
  induction history using List.reverseRecOn with
  | nil => exact nofun
  | append_singleton history b ih =>
    intro hrow hstatus
    rw [storeAfter_append] at hrow ⊢
    obtain ⟨hbefore, hmembers⟩ | ⟨c, hc, hmembers⟩ := Attempt.completes hrow hstatus
    · obtain ⟨earlier, a, later, c, rfl, hc, hwritten, hcommitted, hsince⟩ := ih hbefore hstatus
      refine ⟨earlier, a, later ++ [b], c, ?_, hc, hwritten, hcommitted, hmembers.trans hsince⟩
      rw [List.append_assoc, List.cons_append]
    · refine ⟨history, b, [], c, rfl, hc, ?_, ?_, hmembers⟩
      · rw [storeAfter_append, hrow]
      · rw [storeAfter_append, hmembers]

/-- The members of a group stay as they are, or a calculation changes them. -/
theorem members_kept_or_changed (group : Uuid) : ∀ between before : List Attempt,
    (storeAfter (before ++ between)).membersOf group = (storeAfter before).membersOf group ∨
      ∃ earlier b later, between = earlier ++ b :: later ∧ (b.store (storeAfter (before ++ earlier))).membersOf group ≠
        (storeAfter (before ++ earlier)).membersOf group
  | [], before => by
    rw [List.append_nil]
    exact .inl rfl
  | b :: between, before => by
    by_cases hb : (b.store (storeAfter before)).membersOf group = (storeAfter before).membersOf group
    · rw [← storeAfter_append] at hb
      -- The first one keeps them, so the members before the others are those of the start.
      have ih := members_kept_or_changed group between (before ++ [b])
      rw [List.append_assoc, hb] at ih
      refine ih.imp id ?_
      rintro ⟨earlier, b', later, rfl, hchanged⟩
      refine ⟨b :: earlier, b', later, rfl, ?_⟩
      rwa [List.append_assoc] at hchanged
    · refine .inr ⟨[], b, between, rfl, ?_⟩
      rwa [List.append_nil]

/-- **What a reader is told amid calculations**, some before its first read and some between its two reads. If it is
given members with a time, then the time is that of the last success before its first read, and the members are those
at its second read. They are the members of that success, unless a calculation in between changes the members of the
group. A failure that stands at the first read is always told. -/
theorem results_amid_calculations (before between : List Attempt) (group : Uuid) {db : Database} (hdb : db.AtRest)
    (hstore : db.store = storeAfter before) {answer : Except CalculationError Results}
    (h : Reading.Answers (Reading.resultsAmid (commitAll between) group) db answer) :
    (∀ ms time, answer = .ok ⟨ms, some time⟩ →
      ∃ row earlier a later c, before = earlier ++ a :: later ∧ (a.run (storeAfter earlier)).1 = .ok c ∧
        (storeAfter (earlier ++ [a])).log? group = some row ∧
        (storeAfter (earlier ++ [a])).membersOf group = c.memberIds ∧ (storeAfter before).log? group = some row ∧
        row.status = CalculationStatus.completed.name ∧ row.calculatedAt = time ∧
        ms.Perm ((storeAfter (before ++ between)).membersOf group) ∧
        (ms.Perm c.memberIds ∨ ∃ earlier' b later', between = earlier' ++ b :: later' ∧
          (b.store (storeAfter (before ++ earlier'))).membersOf group ≠
            (storeAfter (before ++ earlier')).membersOf group)) ∧
    ∀ row, (storeAfter before).log? group = some row → row.status = CalculationStatus.failed.name →
      answer = .error (.notSuccessful group .failed row.calculatedAt row.errorMessage) := by
  have hanswer := h.eq_tells group hdb
  rw [hstore, commitAll_storeAfter] at hanswer
  constructor
  · rintro ms time rfl
    obtain ⟨row, hrow, hstatus, htime, rfl⟩ := Store.tells_eq_ok hanswer.symm
    obtain ⟨earlier, a, later, c, hbefore, hc, hwritten, hcommitted, hmembers⟩ := success_of_log before hrow hstatus
    have hperm := (storeAfter (before ++ between)).perm_sortedMembersOf group
    refine ⟨row, earlier, a, later, c, hbefore, hc, hwritten, hcommitted, hrow, hstatus, htime, hperm, ?_⟩
    refine (members_kept_or_changed group between before).imp (fun hkept => ?_) id
    rwa [hkept, hmembers] at hperm
  · intro row hrow hstatus
    rw [hanswer, Store.tells_of_failed hrow hstatus]

/-- A calculation in a shop whose rules every customer satisfies. -/
def Shop.attempt (group : Uuid) (faults : List Fault) : Attempt :=
  ⟨Registry, service, quiet_service, world .empty noRules faults, atRest_world _ _ _, group⟩

/-- In a shop, the customers are found, and a calculation of a group that is not there comes between the two reads. -/
theorem results_amid_calculations_shop :
    let before := [Shop.attempt (Shop.id 8) []]
    let between := [Shop.attempt (Shop.id 7) []]
    let db := (Shop.world (storeAfter before) Shop.noRules []).database
    ∃ ms time, Reading.Answers (Reading.resultsAmid (commitAll between) (Shop.id 8)) db (.ok ⟨ms, some time⟩) ∧
      ms.Perm [Shop.id 9, Shop.id 10] := by
  intro before between db
  have hlogged : ((storeAfter before).log? (Shop.id 8)).map (·.status) = some CalculationStatus.completed.name := by
    decide +kernel
  have hmembers : (storeAfter (before ++ between)).membersOf (Shop.id 8) = [Shop.id 9, Shop.id 10] := by decide +kernel
  obtain ⟨row, hrow, hstatus⟩ := Option.map_eq_some_iff.1 hlogged
  have hanswer : Reading.Answers (Reading.resultsAmid (commitAll between) (Shop.id 8)) db _ :=
    Reading.answers_of_completed (Shop.atRest_world _ _ _) (by decide +kernel) hrow hstatus
  obtain ⟨htold, -⟩ := results_amid_calculations before between (Shop.id 8) (Shop.atRest_world _ _ _) rfl hanswer
  obtain ⟨_, _, _, _, _, -, -, -, -, -, -, -, hperm, -⟩ := htold _ _ rfl
  exact ⟨_, _, hanswer, hmembers ▸ hperm⟩

/-- In a shop, the customers are found, and the next calculation fails between the two reads of a reader: it is told
that there are no customers, as of the time of the success. -/
theorem results_torn_shop :
    let succeeds := Shop.attempt (Shop.id 8) []
    let fails := Shop.attempt (Shop.id 8) [⟨"membership_query", 1, "out of memory"⟩]
    let db := (Shop.world (storeAfter [succeeds]) Shop.noRules []).database
    (succeeds.run .empty).1.toOption.map Calculated.memberIds = some [Shop.id 9, Shop.id 10] ∧
      (∃ row, (storeAfter [succeeds]).log? (Shop.id 8) = some row ∧
        row.status = CalculationStatus.completed.name ∧
        Reading.Answers (Reading.resultsAmid (commitAll [fails]) (Shop.id 8)) db
          (.ok ⟨[], some row.calculatedAt⟩)) ∧
      (fails.run (storeAfter [succeeds])).1.isOk = false ∧
      ((storeAfter [succeeds, fails]).log? (Shop.id 8)).map (·.status) = some CalculationStatus.failed.name := by
  intro succeeds fails db
  have hlogged : ((storeAfter [succeeds]).log? (Shop.id 8)).map (·.status) =
      some CalculationStatus.completed.name := by
    decide +kernel
  obtain ⟨row, hrow, hstatus⟩ := Option.map_eq_some_iff.1 hlogged
  have hnone : (commitAll [fails] (storeAfter [succeeds])).sortedMembersOf (Shop.id 8) = [] := by decide +kernel
  refine ⟨by decide +kernel, ⟨row, hrow, hstatus, ?_⟩, by decide +kernel, by decide +kernel⟩
  rw [← hnone]
  exact Reading.answers_of_completed (Shop.atRest_world _ _ _) (by decide +kernel) hrow hstatus

end Cohort
