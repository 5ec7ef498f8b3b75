import Cohort.Calculation.Recording
import Cohort.Proofs.Store.Rows
import Cohort.Proofs.Store.Session

/-!
# What writing a calculation down comes to

A calculation that is written down ends in one of three ways (`Recording.Outcome`, `Recording.run_runs`):

* its members and the row that it completed are committed;
* a step behind the row that it runs failed (`Stage`), and the row that it failed is committed;
* nothing is committed. Then a statement was refused whose refusal nobody writes down (`Statement.isBare`), or more than
  one statement was refused, or the row that it failed could not be committed (`Escapes`).

Each part of the work has its lemma, in the order of the work: `start_runs`, `insertAll_runs`, `addMembers_runs`,
`materialize_runs`, `complete_runs`, `fail_runs`, `finish_runs`.
-/

namespace Cohort

/-! ## Refusals -/

/-- How many statements were refused. -/
def refusals (es : List Event) : Nat := es.countP fun e => e.refusal.isSome

theorem refusals_append (es es' : List Event) : refusals (es ++ es') = refusals es + refusals es' :=
  List.countP_append

theorem refusals_pos {es : List Event} {st : Statement} {words : String} (h : ⟨st, some words⟩ ∈ es) :
    1 ≤ refusals es :=
  List.countP_pos_iff.2 ⟨_, h, rfl⟩

theorem refusals_eq_zero {es : List Event} : refusals es = 0 ↔ ∀ event ∈ es, event.refusal = none := by
  simp [refusals, List.countP_eq_zero]

/-- A row that tells of a failure was refused, or the commit behind it. -/
def LosesFailure (es : List Event) : Prop :=
  ∃ entry : LogEntry, entry.status = .failed ∧ ∃ words,
    ⟨.upsertLog entry, some words⟩ ∈ es ∨ [⟨.upsertLog entry, none⟩, ⟨.commit, some words⟩] <:+: es

theorem LosesFailure.mono {es es' : List Event} (h : LosesFailure es) (hes : es <:+: es') : LosesFailure es' := by
  obtain ⟨entry, hstatus, words, h | h⟩ := h
  · exact ⟨entry, hstatus, words, .inl (hes.subset h)⟩
  · exact ⟨entry, hstatus, words, .inr (h.trans hes)⟩

/-- A refusal of the statement is told to the caller and to nobody else. -/
def Statement.isBare : Statement → Bool
  | begin | lock _ | deleteMemberships _ | commit => true
  | upsertLog entry => entry.status ≠ .failed
  | _ => false

/-- How an error can come about that is not written down: a statement of the kind was refused, or more went wrong than
one statement, or the error could not be written down. -/
def Escapes (e : CalculationError) (es : List Event) : Prop :=
  (∃ st words, st.isBare ∧ ⟨st, some words⟩ ∈ es ∧ e = .database (.server words)) ∨ 2 ≤ refusals es ∨ LosesFailure es

theorem Escapes.mono {e : CalculationError} {es es' : List Event} (h : Escapes e es) (hes : es <:+: es') :
    Escapes e es' := by
  obtain ⟨st, words, hst, hm, he⟩ | hr | hl := h
  · exact .inl ⟨st, words, hst, hes.subset hm, he⟩
  · exact .inr (.inl (Nat.le_trans hr hes.sublist.countP_le))
  · exact .inr (.inr (hl.mono hes))

theorem escapes_of_isBare {st : Statement} (h : st.isBare) (words : String) :
    Escapes (.database (.server words)) [⟨st, some words⟩] :=
  .inl ⟨st, words, h, List.mem_singleton_self _, rfl⟩

/-! ## Stages -/

/-- The steps behind the row that a calculation runs. -/
inductive Stage where
  /-- Making the membership query. -/
  | compilation
  /-- Setting the savepoint. -/
  | savepoint
  /-- Running the membership query. -/
  | query
  /-- Adding a member. -/
  | insertion
  /-- Giving the savepoint up. -/
  | release
  deriving DecidableEq

/-- The step that a statement belongs to. -/
def Statement.stage? : Statement → Option Stage
  | savepoint => some .savepoint
  | membershipQuery _ => some .query
  | insertMembership _ _ => some .insertion
  | release => some .release
  | _ => none

namespace Stage

/-- The number of members that is written down if the step fails: what the query found, once it has been run. -/
def count (found : Nat) : Stage → Nat
  | insertion | release => found
  | _ => 0

/-- What can be kept if the step fails, out of what was there before the calculation and what there was at the
savepoint: a savepoint that cannot be set costs the transaction. -/
def kept {α : Type} (before atSavepoint : α) : Stage → α
  | savepoint => before
  | _ => atSavepoint

theorem kept_of_ne {α : Type} {stage : Stage} (h : stage ≠ .savepoint) (before atSavepoint : α) :
    stage.kept before atSavepoint = atSavepoint := by
  cases stage <;> first | rfl | exact absurd rfl h

/-- Why the step fails. -/
inductive Breaks (query : Except RuleError Query) (es : List Event) : Stage → CalculationError → Prop
  /-- The rules are faulty. -/
  | compilation (e : RuleError) : query = .error e → Breaks query es .compilation (.rule e)
  /-- A statement was refused. -/
  | refused (stage : Stage) (st : Statement) (words : String) :
    st.stage? = some stage → ⟨st, some words⟩ ∈ es → Breaks query es stage (.database (.server words))

theorem Breaks.mono {query : Except RuleError Query} {es es' : List Event} {stage : Stage} {e : CalculationError}
    (h : Breaks query es stage e) (hes : es <:+: es') : Breaks query es' stage e := by
  cases h with
  | compilation e he => exact .compilation e he
  | refused _ st words hst hm => exact .refused _ st words hst (hes.subset hm)

end Stage

namespace Recording

open Session

variable {db : Database} {o : Options} {g : Group} {q : Query} {S W : Store} {s : State} {α : Type}

theorem database_runs {x : DatabaseM Unit} {st : Statement} {a b : State}
    (h : Runs db id x.run s (Sent (fun e => e) st a b)) :
    Runs db id (database x).run s (Sent CalculationError.database st a b) :=
  h.adaptSent CalculationError.database

/-! ## Starting and completing -/

/-- Work that comes to a result and a state, or leaves what is committed alone. -/
inductive Reaches (S : Store) (a : α) (s : State) : Except CalculationError α → State → List Event → Prop
  /-- The work is done. -/
  | done (es : List Event) : Reaches S a s (.ok a) s es
  /-- The work failed. -/
  | escaped (e : CalculationError) (t : State) (es : List Event) : t.Keeps S → Escapes e es →
    Reaches S a s (.error e) t es

theorem Reaches.cons {a : α} {r : Except CalculationError α} {t : State} {es : List Event} (h : Reaches S a s r t es)
    (event : Event) : Reaches S a s r t (event :: es) := by
  cases h with
  | done es => exact .done _
  | escaped e t es ht he => exact .escaped e t _ ht (he.mono (List.suffix_cons event es).isInfix)

theorem reaches_of_isBare {a : α} {t : State} {st : Statement} (ht : t.Keeps S) (h : st.isBare) (words : String) :
    Reaches S a s (.error (.database (.server words))) t [⟨st, some words⟩] :=
  .escaped _ t _ ht (escapes_of_isBare h words)

/-- A bare statement inside the transaction, and work behind it. -/
theorem bare_runs {st : Statement} {f : Unit → Recorder α} {a : α} (hinner : st.isInner) (hbare : st.isBare)
    (h : Runs db id (f ()).run (.inside S (st.change W) none 1) (Reaches S a s)) :
    Runs db id (database (statement st) >>= f).run (.inside S W none 1) (Reaches S a s) := by
  refine Runs.sentThen (database_runs (inner_runs hinner)) ?_ fun words => ?_
  · exact h.mono fun r t es ht => ht.cons _
  · exact reaches_of_isBare State.keeps_broken hbare words

/-- What the transaction sees when the old members are removed. -/
def started (o : Options) (g : Group) (S : Store) : Store :=
  (S.writeLog (.calculating g.id g.entityId o.now)).removeMembers g.id

theorem start_runs : Runs db id (start o g).run (.resting S) (Reaches S () (.inside S (started o g S) none 1)) := by
  have hwrite : Runs db id (do
        database (statement (.upsertLog (.calculating g.id g.entityId o.now)))
        database (statement (.deleteMemberships g.id))).run
      (.inside S S none 1) (Reaches S () (.inside S (started o g S) none 1)) := by
    refine bare_runs rfl rfl ?_
    refine (database_runs (inner_runs rfl)).mono fun r t es h => ?_
    cases h with
    | taken => exact .done _
    | refused words => exact reaches_of_isBare State.keeps_broken rfl words
  rw [start]
  refine Runs.sentThen (database_runs begin_runs) ?_ fun words => reaches_of_isBare State.keeps_resting rfl words
  refine Runs.mono ?_ fun r t es h => Reaches.cons h _
  split
  · exact bare_runs rfl rfl hwrite
  · exact hwrite

theorem complete_runs (ids : List Uuid) : Runs db id (complete o g ids).run (.inside S W none 1)
    (Reaches S ids (.resting (W.writeLog (.completed g.id g.entityId o.now ids.length)))) := by
  rw [complete]
  refine bare_runs rfl rfl ?_
  refine Runs.sentThen (database_runs commit_runs) ?_ fun words => ?_
  · exact Runs.pure _ (.done _)
  · exact reaches_of_isBare (State.keeps_broken_queued rfl) rfl words

/-! ## Behind the savepoint -/

/-- Work behind the row that a calculation runs: it comes to a result and a state, or a statement of one of its steps is
refused and it ends in a state that fits the step. -/
inductive Works (found : Nat) (a : α) (s : State) (broken : Stage → State → Prop) :
    Except Failure α → State → List Event → Prop
  /-- The work is done. -/
  | done (es : List Event) : Works found a s broken (.ok a) s es
  /-- A statement was refused. -/
  | failed (stage : Stage) (st : Statement) (words : String) (t : State) (es : List Event) :
    st.stage? = some stage → ⟨st, some words⟩ ∈ es → broken stage t →
      Works found a s broken (.error ⟨stage.count found, .server words⟩) t es

/-- A failure after one more event, in work that would have come to another result. -/
theorem Works.error_cons {β : Type} {found : Nat} {a : α} {broken : Stage → State → Prop} {f : Failure} {t : State}
    {es : List Event} (h : Works found a s broken (.error f) t es) (b : β) (s' : State) (event : Event) :
    Works found b s' broken (.error f) t (event :: es) := by
  cases h with
  | failed stage st words _ _ hst hm hbroken =>
    exact .failed stage st words t _ hst (List.mem_cons_of_mem _ hm) hbroken

/-- Behind the savepoint, a refusal aborts the transaction. -/
def Aborted (S V : Store) (stage : Stage) (s : State) : Prop :=
  stage ≠ .savepoint ∧ ∃ W, s = .broken S W (some V) 2 none

/-- Members are added up to the first that is refused. -/
theorem insertAll_runs (group : Uuid) {V : Store} : ∀ (ms : List Uuid) (W : Store),
    Runs db id (insertAll group ms).run (.inside S W (some V) 2) fun r t es =>
      (r = .ok () ∧ t = .inside S (W.addMembers group ms) (some V) 2) ∨
        ∃ m words W', r = .error (.server words) ∧ t = .broken S W' (some V) 2 none ∧
          ⟨.insertMembership group m, some words⟩ ∈ es
  | [], W => Runs.pure _ (.inl ⟨rfl, rfl⟩)
  | m :: ms, W => by
    refine Runs.sentThen (inner_runs rfl) ?_ fun words => ?_
    · refine (insertAll_runs group ms (W.addMember group m)).mono fun r t es h => ?_
      obtain h | ⟨m', words, W', hr, ht, hm⟩ := h
      · exact .inl h
      · exact .inr ⟨m', words, W', hr, ht, List.mem_cons_of_mem _ hm⟩
    · exact .inr ⟨m, words, W, rfl, rfl, List.mem_singleton_self _⟩

theorem addMembers_runs : Runs db id (addMembers g.id q).run (.inside S W (some W) 2)
    (Works db.answers.length db.answers (.inside S (W.addMembers g.id db.answers) (some W) 2) (Aborted S W)) := by
  have hinsert : Runs db id (ExceptT.adapt (Failure.mk db.answers.length) (insertAll g.id db.answers)).run
      (.inside S W (some W) 2)
      (Works db.answers.length () (.inside S (W.addMembers g.id db.answers) (some W) 2) (Aborted S W)) := by
    refine Runs.adapt _ ((insertAll_runs g.id db.answers W).mono fun r t es h => ?_)
    obtain ⟨rfl, rfl⟩ | ⟨m, words, W', rfl, rfl, hm⟩ := h
    · exact .done es
    · exact .failed .insertion _ words _ es rfl hm ⟨nofun, W', rfl⟩
  refine Runs.sentThen ((inner_runs rfl).adaptSent (Failure.mk 0)) ?_ fun words => ?_
  · refine Runs.reading fun t es ht => ?_
    obtain rfl : t = db.after _ es := ht
    refine Runs.andThen hinsert (fun u t es h => ?_) fun e t es h => ?_
    · cases h
      exact Runs.pure _ (.done _)
    · exact h.error_cons _ _ _
  · exact .failed .query _ words _ _ rfl (List.mem_singleton_self _) ⟨nofun, W, rfl⟩

/-- How a transaction that sees `W` behind the row that a calculation runs may stand after a step failed. -/
inductive Resumes (S W : Store) : Stage → State → Prop
  /-- The savepoint was never set, or the rollback to it was taken. -/
  | ready (stage : Stage) : stage ≠ .savepoint → Resumes S W stage (.inside S W none 1)
  /-- The rollback to the savepoint is still to be sent. -/
  | undoing (stage : Stage) (W' : Store) : stage ≠ .savepoint →
    Resumes S W stage (.broken S W' (some W) 1 (some .rollbackTo))
  /-- The transaction is lost with the savepoint, and still to be rolled back. -/
  | lost : Resumes S W .savepoint (.broken S W none 0 (some .rollback))

/-- Work that failed goes on with the rollback. -/
theorem undoing_through {x : ExceptT Failure (StateM Database) α} {P Q : Except Failure α → State → List Event → Prop}
    (h : Runs db id x.run s P) (hok : ∀ a t es, P (.ok a) t es → Q (.ok a) t es)
    (herror : ∀ f t es, P (.error f) t es →
      Runs db id rollbackTo.run t fun _ t' es' => Q (.error f) t' (es ++ es')) : Runs db id (undoing x).run s Q := by
  refine Runs.through (fun p : Except Failure α × Database => match p with
    | (.ok a, db) => (.ok a, db)
    | (.error f, db) => (.error f, (rollbackTo.run db).2)) (fun d => rfl) h fun r t es hp => ?_
  cases r with
  | ok a => exact Runs.pure _ (by rw [List.append_nil]; exact hok a t es hp)
  | error f => exact herror f t es hp

/-- Work that failed behind the savepoint is undone as far as the rollback is taken. -/
theorem undoing_runs {x : ExceptT Failure (StateM Database) α} {found : Nat} {a : α} {t : State}
    (h : Runs db id x.run s (Works found a t (Aborted S W))) :
    Runs db id (undoing x).run s (Works found a t (Resumes S W)) := by
  refine undoing_through h (fun b s' es hp => ?_) fun f s' es hp => ?_
  · cases hp
    exact .done es
  · cases hp with
    | failed stage st words _ _ hst hm hbroken =>
      obtain ⟨hstage, W', rfl⟩ := hbroken
      refine rollbackTo_runs.mono fun r t' es' hs => ?_
      refine .failed stage st words _ _ hst (List.mem_append_left _ hm) ?_
      cases hs with
      | taken => exact .ready stage hstage
      | refused words => exact .undoing stage W' hstage

theorem materialize_runs : Runs db id (materialize g.id q).run (.inside S W none 1)
    (Works db.answers.length db.answers (.inside S (W.addMembers g.id db.answers) none 1) (Resumes S W)) := by
  refine Runs.sentThen (savepoint_runs.adaptSent (Failure.mk 0)) ?_ fun words => ?_
  · refine Runs.andThen (undoing_runs addMembers_runs) (fun ids t es h => ?_) fun e t es h => ?_
    · cases h
      refine Runs.sentThen (release_runs.adaptSent (Failure.mk db.answers.length)) ?_ fun words => ?_
      · exact Runs.pure _ (.done _)
      · exact .failed .release .release words _ _ rfl (by simp) (.undoing _ _ nofun)
    · exact h.error_cons _ _ _
  · exact .failed .savepoint _ words _ _ rfl (List.mem_singleton_self _) .lost

/-! ## Failing -/

/-- How a failure is written down: it is committed, or what is committed stays. If there was a rollback in the queue,
that can be because the rollback was refused. -/
inductive Fails (o : Options) (g : Group) (count : Nat) (e : CalculationError) (S B : Store)
    (queued : Option Statement) : Except CalculationError α → State → List Event → Prop
  /-- The row that tells of the failure is committed. -/
  | recorded (es : List Event) : Fails o g count e S B queued (.error e)
    (.resting (B.writeLog (.failed g.id g.entityId o.now count e.message))) es
  /-- The row is not committed. -/
  | lost (e' : CalculationError) (t : State) (es : List Event) :
    t.Keeps S → LosesFailure es ∨ queued ≠ none ∧ 1 ≤ refusals es → Fails o g count e S B queued (.error e') t es

theorem losesFailure_upsertLog {entry : LogEntry} (h : entry.status = .failed) (before after : List Event)
    (words : String) : LosesFailure (before ++ ⟨.upsertLog entry, some words⟩ :: after) :=
  ⟨entry, h, words, .inl (by simp)⟩

theorem losesFailure_commit {entry : LogEntry} (h : entry.status = .failed) (before after : List Event)
    (words : String) : LosesFailure (before ++ ⟨.upsertLog entry, none⟩ :: ⟨.commit, some words⟩ :: after) :=
  ⟨entry, h, words, .inr ⟨before, after, by simp⟩⟩

theorem database_commit_alone : Runs db id (database commit).run (.resting S) fun r t es =>
    r = .ok () ∧ t = .resting S ∧ es = [] := by
  refine Runs.adapt CalculationError.database (commit_runs_alone.mono fun r t es h => ?_)
  obtain ⟨rfl, ht⟩ := h
  exact ⟨rfl, ht⟩

/-- Wherever a step failed, the failure is written down behind what is still to be rolled back. -/
theorem fail_runs {stage : Stage} (h : Resumes S W stage s) (count : Nat) (e : CalculationError) :
    Runs db id (fail o g count e : Recorder α).run s (Fails o g count e S (stage.kept S W) s.queued) := by
  have hcommit : ∀ (before : List Event), Runs db id
      ((database commit >>= fun _ => throw e : Recorder α)).run
      (.inside S (W.writeLog (.failed g.id g.entityId o.now count e.message)) none 1)
      fun r t es => Fails o g count e S W s.queued r t
        (before ++ ⟨.upsertLog (.failed g.id g.entityId o.now count e.message), none⟩ :: es) := by
    intro before
    refine Runs.sentThen (database_runs commit_runs) (Runs.pure _ (.recorded _)) fun words => ?_
    exact .lost _ _ _ (State.keeps_broken_queued rfl) (.inl (losesFailure_commit rfl before [] words))
  cases h with
  | ready stage hstage =>
    rw [Stage.kept_of_ne hstage]
    refine Runs.sentThen (database_runs (inner_runs rfl)) (hcommit []) fun words => ?_
    exact .lost _ _ _ State.keeps_broken (.inl (losesFailure_upsertLog rfl [] [] words))
  | undoing stage W' hstage =>
    rw [Stage.kept_of_ne hstage]
    refine Runs.behindThen ((inner_runs_rollbackTo rfl).adaptBehind CalculationError.database)
      (hcommit [⟨.rollbackTo, none⟩]) (fun words => ?_) fun words => ?_
    · exact .lost _ _ _ State.keeps_broken (.inl (losesFailure_upsertLog rfl [⟨.rollbackTo, none⟩] [] words))
    · exact .lost _ _ _ State.keeps_broken (.inr ⟨nofun, refusals_pos (List.mem_singleton_self _)⟩)
  | lost =>
    refine Runs.behindThen ((inner_runs_rollback rfl).adaptBehind CalculationError.database) ?_ (fun words => ?_)
      fun words => ?_
    · -- The row is committed by itself, so the commit has nothing to do.
      refine Runs.andThen database_commit_alone (fun u t es hc => ?_) fun e' t es hc => by cases hc.1
      obtain ⟨_, rfl, _⟩ := hc
      exact Runs.pure _ (.recorded _)
    · exact .lost _ _ _ State.keeps_resting (.inl (losesFailure_upsertLog rfl [⟨.rollback, none⟩] [] words))
    · exact .lost _ _ _ State.keeps_broken (.inr ⟨nofun, refusals_pos (List.mem_singleton_self _)⟩)

/-! ## The whole -/

/-- A row that tells how a calculation ended overwrites the one that it runs. -/
theorem writeLog_started (o : Options) (g : Group) (S : Store) (e : LogEntry) (h : g.id = e.groupId) (ms : List Uuid) :
    ((started o g S).addMembers g.id ms).writeLog e = ((S.removeMembers g.id).addMembers g.id ms).writeLog e := by
  have hstarted : started o g S = (S.removeMembers g.id).writeLog (.calculating g.id g.entityId o.now) := rfl
  rw [hstarted, Store.addMembers_writeLog, Store.writeLog_writeLog _ _ _ h]

/-- How writing a calculation down ends, given the outcome of making the query, what was committed before and what the
query finds. -/
inductive Outcome (o : Options) (g : Group) (query : Except RuleError Query) (S : Store) (found : List Uuid) :
    Except CalculationError (List Uuid) → Store → List Event → Prop
  /-- The members are committed. -/
  | completed (q : Query) (es : List Event) : query = .ok q → Outcome o g query S found (.ok found)
    (((S.removeMembers g.id).addMembers g.id found).writeLog (.completed g.id g.entityId o.now found.length)) es
  /-- A step failed, and that is committed. -/
  | failed (stage : Stage) (e : CalculationError) (es : List Event) : stage.Breaks query es e →
    Outcome o g query S found (.error e)
      ((stage.kept S (S.removeMembers g.id)).writeLog
        (.failed g.id g.entityId o.now (stage.count found.length) e.message)) es
  /-- Nothing is committed. -/
  | undone (e : CalculationError) (es : List Event) : Escapes e es → Outcome o g query S found (.error e) S es

theorem Outcome.mono {query : Except RuleError Query} {found : List Uuid} {r : Except CalculationError (List Uuid)}
    {S' : Store} {es es' : List Event} (h : Outcome o g query S found r S' es) (hes : es <:+: es') :
    Outcome o g query S found r S' es' := by
  cases h with
  | completed q _ hq => exact .completed q _ hq
  | failed stage e _ hb => exact .failed stage e _ (hb.mono hes)
  | undone e _ he => exact .undone e _ (he.mono hes)

/-- What a session may end with before it is closed. -/
def Ends (o : Options) (g : Group) (query : Except RuleError Query) (S : Store) (found : List Uuid)
    (r : Except CalculationError (List Uuid)) (t : State) (es : List Event) : Prop :=
  t.Keeps t.store ∧ Outcome o g query S found r t.store es

variable {query : Except RuleError Query} {found : List Uuid}

theorem ends_completed (q : Query) (es : List Event) (hq : query = .ok q) :
    Ends o g query S found (.ok found) (.resting (((started o g S).addMembers g.id found).writeLog
      (.completed g.id g.entityId o.now found.length))) es := by
  refine ⟨State.keeps_resting, ?_⟩
  rw [writeLog_started o g S (.completed g.id g.entityId o.now found.length) rfl found]
  exact .completed q es hq

theorem ends_failed (stage : Stage) {e : CalculationError} {es : List Event} (h : stage.Breaks query es e) :
    Ends o g query S found (.error e) (.resting ((stage.kept S (started o g S)).writeLog
      (.failed g.id g.entityId o.now (stage.count found.length) e.message))) es := by
  refine ⟨State.keeps_resting, ?_⟩
  have hrest : (stage.kept S (started o g S)).writeLog
      (.failed g.id g.entityId o.now (stage.count found.length) e.message) =
      (stage.kept S (S.removeMembers g.id)).writeLog
        (.failed g.id g.entityId o.now (stage.count found.length) e.message) := by
    cases stage <;> first | rfl | exact writeLog_started o g S _ rfl []
  rw [hrest]
  exact .failed stage e es h

theorem ends_undone {e : CalculationError} {t : State} {es : List Event} (ht : t.Keeps S) (he : Escapes e es) :
    Ends o g query S found (.error e) t es := by
  obtain rfl := ht.store
  exact ⟨ht, .undone e es he⟩

/-- What the query finds is completed or its failure is written down. -/
theorem finish_through {P : Except Failure (List Uuid) → State → List Event → Prop}
    {Q : Except CalculationError (List Uuid) → State → List Event → Prop} (h : Runs db id (materialize g.id q).run s P)
    (hok : ∀ ids t es, P (.ok ids) t es → Runs db id (complete o g ids).run t fun r t' es' => Q r t' (es ++ es'))
    (herror : ∀ f t es, P (.error f) t es →
      Runs db id (fail o g f.count (.database f.cause) : Recorder (List Uuid)).run t fun r t' es' =>
        Q r t' (es ++ es')) : Runs db id (finish o g (.ok q)).run s Q := by
  refine Runs.through (fun p : Except Failure (List Uuid) × Database => match p with
    | (.ok ids, db) => (complete o g ids).run db
    | (.error f, db) => (fail o g f.count (.database f.cause)).run db) (fun d => rfl) h fun r t es hp => ?_
  cases r with
  | ok ids => exact hok ids t es hp
  | error f => exact herror f t es hp

theorem finish_runs : Runs db id (finish o g query).run (.inside S (started o g S) none 1)
    (Ends o g query S db.answers) := by
  cases query with
  | error e =>
    refine (fail_runs (.ready .compilation nofun) 0 (.rule e)).mono fun r t es h => ?_
    cases h with
    | recorded => exact ends_failed .compilation (.compilation e rfl)
    | lost e' t es ht hlost =>
      obtain hl | ⟨hq, _⟩ := hlost
      · exact ends_undone ht (.inr (.inr hl))
      · exact absurd rfl hq
  | ok q =>
    refine finish_through materialize_runs (fun ids t es hp => ?_) fun f t es hp => ?_
    · cases hp
      refine (complete_runs db.answers).mono fun r t es' h => ?_
      cases h with
      | done => exact ends_completed q _ rfl
      | escaped e t _ ht he => exact ends_undone ht (he.mono (List.suffix_append es es').isInfix)
    · cases hp with
      | failed stage st words _ _ hst hm hresumes =>
        refine (fail_runs hresumes _ _).mono fun r t es' h => ?_
        cases h with
        | recorded => exact ends_failed stage (.refused stage st words hst (List.mem_append_left _ hm))
        | lost e' t _ ht hlost =>
          refine ends_undone ht ?_
          obtain hl | ⟨_, hr⟩ := hlost
          · exact .inr (.inr (hl.mono (List.suffix_append es es').isInfix))
          · -- The step was refused, and the rollback behind it too.
            have hfirst := refusals_pos hm
            refine .inr (.inl ?_)
            rw [refusals_append]
            omega

/-- **Everything that writing a calculation down comes to.** -/
theorem run_runs (o : Options) (g : Group) (query : Except RuleError Query) :
    Runs db id (run o g query).run (.resting S) fun r t es =>
      ∃ S', t = .resting S' ∧ Outcome o g query S db.answers r S' es := by
  have hbody : Runs db id (start o g >>= fun _ => finish o g query).run (.resting S) (Ends o g query S db.answers) := by
    refine Runs.andThen start_runs (fun u t es h => ?_) fun e t es h => ?_
    · cases h
      exact finish_runs.mono fun r t es' h => ⟨h.1, h.2.mono (List.suffix_append es es').isInfix⟩
    · cases h with
      | escaped _ _ _ ht he => exact ends_undone ht he
  refine within_runs hbody fun r t es h => (close_runs h.1).mono fun _ t' es' ht => ?_
  exact ⟨t.store, ht, h.2.mono (List.prefix_append es es').isInfix⟩

/-- A failure that is noted outside of a transaction is a row that is committed or refused. -/
theorem note_sent (o : Options) (g : Group) (e : CalculationError) : Runs db id (note o g e) (.resting S) fun _ t es =>
    ∃ r : Except DatabaseError Unit, Sent (fun cause => cause) (.upsertLog (.failed g.id g.entityId o.now 0 e.message))
      (.resting (S.writeLog (.failed g.id g.entityId o.now 0 e.message))) (.resting S) r t es :=
  Runs.bind (alone_runs rfl) fun r t es h => Runs.pure () ⟨r, by rw [List.append_nil]; exact h⟩

/-- A failure that is noted outside of a transaction is committed, or its row was refused. -/
theorem note_runs (o : Options) (g : Group) (e : CalculationError) : Runs db id (note o g e) (.resting S) fun _ t es =>
    t = .resting (S.writeLog (.failed g.id g.entityId o.now 0 e.message)) ∨ t = .resting S ∧ LosesFailure es := by
  refine (note_sent o g e).mono fun _ t es h => ?_
  obtain ⟨r, h⟩ := h
  cases h with
  | taken => exact .inl rfl
  | refused words => exact .inr ⟨rfl, losesFailure_upsertLog rfl [] [] words⟩

end Recording
end Cohort
