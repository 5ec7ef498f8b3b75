import Cohort.Store.Session

/-!
# What work with the database does

`Runs db view work s post` says of some work: from the state `s` of the session it comes to an end, with an answer, a
state and events of which `post` holds. What a session cannot change, such as the faults, stays as it is in `db`; so do
the events of before, to which those of the work are added. The rules for sequences (`Runs.bind`, `Runs.andThen`) put
the events of the parts together.

A statement is taken or refused (`Sent`), and there is one lemma for each that says what either does to the session
(`begin_runs`, `inner_runs`, `savepoint_runs`, `release_runs`, `rollbackTo_runs`, `commit_runs`, `alone_runs`). A
rollback in the queue goes out first (`Behind`, `behind_runs`). At the end of a session only what was committed is left
(`close_runs`).
-/

namespace Cohort

/-! ## States of a session -/

/-- The part of the database that a session changes, the trace apart. -/
structure Session.State where
  /-- What is committed. -/
  store : Store
  /-- The transaction. -/
  transaction : Option Transaction
  /-- How deep the session believes to be. -/
  depth : Nat
  /-- A rollback that goes out before the next statement. -/
  queued : Option Statement

namespace Session.State

/-- Outside of a transaction. -/
def resting (S : Store) : State := ⟨S, none, 0, none⟩

/-- In a transaction that sees `W`, behind a savepoint if there is a copy of it. -/
def inside (S W : Store) (copy : Option Store) (depth : Nat) : State := ⟨S, some ⟨W, copy, false⟩, depth, none⟩

/-- In a transaction that was aborted, with a rollback in the queue if one is needed. -/
def broken (S W : Store) (copy : Option Store) (depth : Nat) (queued : Option Statement) : State :=
  ⟨S, some ⟨W, copy, true⟩, depth, queued⟩

/-- The transaction is aborted, if there is one. -/
def aborted (s : State) : State := { s with transaction := s.transaction.map fun t => { t with aborted := true } }

end Session.State

open Session

/-- The database in a state of the session, after events. -/
def Database.after (db : Database) (s : State) (es : List Event) : Database :=
  { db with
    store := s.store, transaction := s.transaction, depth := s.depth, queued := s.queued, trace := db.trace ++ es }

/-- No session is open. -/
structure Database.AtRest (db : Database) : Prop where
  /-- There is no transaction. -/
  transaction : db.transaction = none
  /-- The session knows that. -/
  depth : db.depth = 0
  /-- Nothing is left to undo. -/
  queued : db.queued = none

namespace Database

variable (db : Database)

theorem atRest_after (S : Store) (es : List Event) : (db.after (.resting S) es).AtRest := ⟨rfl, rfl, rfl⟩

theorem AtRest.eq_after {db : Database} (h : db.AtRest) : db = db.after (.resting db.store) [] := by
  obtain ⟨S, t, d, q, m, as, fs, es⟩ := db
  obtain ⟨rfl, rfl, rfl⟩ := h
  simp [after, State.resting]

theorem after_after (s t : State) (es fs : List Event) : (db.after s es).after t fs = db.after t (es ++ fs) := by
  simp [after]

theorem after_inj {db : Database} {s t : State} {es fs : List Event} (h : db.after s es = db.after t fs) :
    s = t ∧ es = fs := by
  obtain ⟨S, a, d, q⟩ := s
  obtain ⟨S', a', d', q'⟩ := t
  simpa [after, and_assoc] using h

end Database

/-! ## Runs -/

/-- From the state `s` of the session, the work ends with an answer, a state and events of which `post` holds. The work
may have a state of its own, in which `view` finds the database. -/
def Runs {τ α : Type} (db : Database) (view : τ → Database) (work : StateM τ α) (s : State)
    (post : α → State → List Event → Prop) : Prop :=
  ∀ t es, view t = db.after s es →
    ∃ s' es', view (work.run t).2 = db.after s' (es ++ es') ∧ post (work.run t).1 s' es'

namespace Runs

variable {τ τ' α β ε ε' : Type} {db : Database} {view : τ → Database} {s : State}

theorem mono {work : StateM τ α} {P Q : α → State → List Event → Prop} (h : Runs db view work s P)
    (hPQ : ∀ a s' es, P a s' es → Q a s' es) : Runs db view work s Q := by
  intro t es ht
  obtain ⟨s', es', hw, hp⟩ := h t es ht
  exact ⟨s', es', hw, hPQ _ _ _ hp⟩

/-- What is known in two ways is known together. -/
theorem and {work : StateM τ α} {P Q : α → State → List Event → Prop} (hP : Runs db view work s P)
    (hQ : Runs db view work s Q) : Runs db view work s fun r t es => P r t es ∧ Q r t es := by
  intro t es ht
  obtain ⟨s', es', hw, hp⟩ := hP t es ht
  obtain ⟨s'', es'', hw', hq⟩ := hQ t es ht
  obtain ⟨rfl, hes⟩ := Database.after_inj (hw.symm.trans hw')
  obtain rfl := List.append_cancel_left hes
  exact ⟨_, _, hw, hp, hq⟩

protected theorem pure (a : α) {P : α → State → List Event → Prop} (h : P a s []) :
    Runs db view (pure a : StateM τ α) s P := by
  intro t es ht
  refine ⟨s, [], ?_, h⟩
  rw [List.append_nil]
  exact ht

/-- Work after work. -/
theorem bind {x : StateM τ α} {f : α → StateM τ β} {P : α → State → List Event → Prop}
    {Q : β → State → List Event → Prop} (hx : Runs db view x s P)
    (hf : ∀ a s' es, P a s' es → Runs db view (f a) s' fun b s'' es' => Q b s'' (es ++ es')) :
    Runs db view (x >>= f) s Q := by
  intro t es ht
  obtain ⟨s', es', hw, hp⟩ := hx t es ht
  obtain ⟨s'', es'', hw', hq⟩ := hf _ _ _ hp _ _ hw
  refine ⟨s'', es' ++ es'', ?_, hq⟩
  rw [← List.append_assoc]
  exact hw'

/-- Work that goes on with the answer of other work, in whatever way. -/
theorem through {x : StateM τ α} {w : StateM τ β} {P : α → State → List Event → Prop}
    {Q : β → State → List Event → Prop} (k : α × τ → β × τ) (hw : ∀ t, w.run t = k (x.run t))
    (hx : Runs db view x s P)
    (hk : ∀ a s' es, P a s' es → Runs db view (fun t => k (a, t)) s' fun b s'' es' => Q b s'' (es ++ es')) :
    Runs db view w s Q := by
  intro t es ht
  rw [hw]
  exact Runs.bind hx hk t es ht

/-- Work that may fail after work that may fail. -/
theorem andThen {x : ExceptT ε (StateM τ) α} {f : α → ExceptT ε (StateM τ) β}
    {P : Except ε α → State → List Event → Prop} {Q : Except ε β → State → List Event → Prop}
    (hx : Runs db view x.run s P)
    (hok : ∀ a s' es, P (.ok a) s' es → Runs db view (f a).run s' fun r s'' es' => Q r s'' (es ++ es'))
    (herror : ∀ e s' es, P (.error e) s' es → Q (.error e) s' es) : Runs db view (x >>= f).run s Q := by
  rw [ExceptT.run_bind]
  refine Runs.bind hx fun r s' es hp => ?_
  cases r with
  | ok a => exact hok a s' es hp
  | error e => exact Runs.pure _ (by rw [List.append_nil]; exact herror e s' es hp)

/-- Work under other errors. -/
theorem adapt {x : ExceptT ε (StateM τ) α} (f : ε → ε') {P : Except ε' α → State → List Event → Prop}
    (h : Runs db view x.run s fun r => P (r.mapError f)) : Runs db view (ExceptT.adapt f x).run s P := by
  have hx : (ExceptT.adapt f x).run = Except.mapError f <$> x.run := rfl
  intro t es ht
  rw [hx]
  exact h t es ht

/-- Work that looks at the database. -/
theorem reading {f : τ → ExceptT ε (StateM τ) α} {P : Except ε α → State → List Event → Prop}
    (h : ∀ t es, view t = db.after s es → Runs db view (f t).run s P) : Runs db view (get >>= f).run s P :=
  fun t es ht => h t es ht t es ht

/-- Work on a part of the state, seen through that part. -/
theorem onPart {x : StateM τ α} {P : α → State → List Event → Prop} (h : Runs db view x s P) {view' : τ' → Database}
    {part : τ' → τ} {put : τ' → τ → τ'} (hpart : ∀ t, view' t = view (part t))
    (hput : ∀ t s, view' (put t s) = view s) :
    Runs db view' (fun t => ((x.run (part t)).1, put t (x.run (part t)).2) : StateM τ' α) s P := by
  intro t es ht
  obtain ⟨s', es', hw, hp⟩ := h (part t) es (hpart t ▸ ht)
  exact ⟨s', es', (hput t _).trans hw, hp⟩

/-- Work that does not touch what is seen. -/
theorem unseen {w : StateM τ α} (h : ∀ t, view (w.run t).2 = view t) {P : α → State → List Event → Prop}
    (hP : ∀ a, P a s []) : Runs db view w s P := by
  intro t es ht
  refine ⟨s, [], ?_, hP _⟩
  rw [h, List.append_nil, ht]

end Runs

/-! ## Statements -/

/-- How sending a statement ends: it is taken, or it is refused with some words, of which `f` makes an error. -/
inductive Sent {ε : Type} (f : DatabaseError → ε) (st : Statement) (taken refused : State) :
    Except ε Unit → State → List Event → Prop
  /-- The statement is taken. -/
  | taken : Sent f st taken refused (.ok ()) taken [⟨st, none⟩]
  /-- The statement is refused. -/
  | refused (words : String) : Sent f st taken refused (.error (f (.server words))) refused [⟨st, some words⟩]

/-- How sending a statement ends when a rollback is in the queue: the rollback is taken and the statement is sent, or
the rollback is refused and the statement is not sent. -/
inductive Behind {ε : Type} (f : DatabaseError → ε) (q st : Statement) (unsent taken refused : State) :
    Except ε Unit → State → List Event → Prop
  /-- Both are taken. -/
  | taken : Behind f q st unsent taken refused (.ok ()) taken [⟨q, none⟩, ⟨st, none⟩]
  /-- The rollback is taken and the statement is refused. -/
  | refused (words : String) :
    Behind f q st unsent taken refused (.error (f (.server words))) refused [⟨q, none⟩, ⟨st, some words⟩]
  /-- The rollback is refused. -/
  | unsent (words : String) :
    Behind f q st unsent taken refused (.error (f (.server words))) unsent [⟨q, some words⟩]

namespace Runs

variable {α ε ε' : Type} {db : Database} {s a b c : State} {st q : Statement} {f : DatabaseError → ε}

/-- A statement as a part of work with other errors. -/
theorem adaptSent {x : ExceptT ε (StateM Database) Unit} (h : Runs db id x.run s (Sent f st a b)) (g : ε → ε') :
    Runs db id (ExceptT.adapt g x).run s (Sent (fun e => g (f e)) st a b) := by
  refine Runs.adapt g (h.mono fun r s' es hs => ?_)
  cases hs with
  | taken => exact .taken
  | refused words => exact .refused words

/-- A statement behind a rollback as a part of work with other errors. -/
theorem adaptBehind {x : ExceptT ε (StateM Database) Unit} (h : Runs db id x.run s (Behind f q st c a b)) (g : ε → ε') :
    Runs db id (ExceptT.adapt g x).run s (Behind (fun e => g (f e)) q st c a b) := by
  refine Runs.adapt g (h.mono fun r s' es hs => ?_)
  cases hs with
  | taken => exact .taken
  | refused words => exact .refused words
  | unsent words => exact .unsent words

/-- Work behind a statement. -/
theorem sentThen {x : ExceptT ε (StateM Database) Unit} {g : Unit → ExceptT ε (StateM Database) α}
    {P : Except ε α → State → List Event → Prop} (h : Runs db id x.run s (Sent f st a b))
    (htaken : Runs db id (g ()).run a fun r s' es => P r s' (⟨st, none⟩ :: es))
    (hrefused : ∀ words, P (.error (f (.server words))) b [⟨st, some words⟩]) : Runs db id (x >>= g).run s P := by
  refine Runs.andThen h (fun u s' es hs => ?_) (fun e s' es hs => ?_)
  · cases hs
    exact htaken
  · cases hs
    exact hrefused _

/-- Work behind a statement that is behind a rollback. -/
theorem behindThen {x : ExceptT ε (StateM Database) Unit} {g : Unit → ExceptT ε (StateM Database) α}
    {P : Except ε α → State → List Event → Prop} (h : Runs db id x.run s (Behind f q st c a b))
    (htaken : Runs db id (g ()).run a fun r s' es => P r s' (⟨q, none⟩ :: ⟨st, none⟩ :: es))
    (hrefused : ∀ words, P (.error (f (.server words))) b [⟨q, none⟩, ⟨st, some words⟩])
    (hunsent : ∀ words, P (.error (f (.server words))) c [⟨q, some words⟩]) : Runs db id (x >>= g).run s P := by
  refine Runs.andThen h (fun u s' es hs => ?_) (fun e s' es hs => ?_)
  · cases hs
    exact htaken
  · cases hs with
    | refused words => exact hrefused words
    | unsent words => exact hunsent words

end Runs

/-- What statements on rows change. -/
def Statement.change : Statement → Store → Store
  | upsertLog e, S => S.writeLog e
  | deleteMemberships group, S => S.removeMembers group
  | insertMembership group member, S => S.addMember group member
  | _, S => S

/-- Statements that are not about transactions. -/
def Statement.isInner : Statement → Bool
  | begin | savepoint | release | rollbackTo | commit | rollback => false
  | _ => true

namespace Session

open Database

variable {db : Database} {s s' : State} {st q : Statement} {S W V : Store} {copy : Option Store} {depth : Nat}

/-! ### One statement -/

/-- A statement that is refused inside a transaction aborts it. -/
theorem send_runs (h : ∀ es, (db.after s es).perform st = db.after s' es) :
    Runs db id (send st).run s (Sent (fun e => e) st s' s.aborted) := by
  intro t es ht
  obtain rfl : t = db.after s es := ht
  have hnote : ∀ refusal, (db.after s es).note st refusal = db.after s (es ++ [⟨st, refusal⟩]) := fun refusal => by
    simp [note, after]
  cases hr : (db.after s es).refusal? st with
  | none =>
    have hs : (send st).run.run (db.after s es) = (.ok (), db.after s' (es ++ [⟨st, none⟩])) := by
      show send st (db.after s es) = _
      rw [send, hr]
      dsimp only
      rw [hnote, h]
    rw [hs]
    exact ⟨s', _, rfl, .taken⟩
  | some words =>
    have hs : (send st).run.run (db.after s es) =
        (.error (.server words), db.after s.aborted (es ++ [⟨st, some words⟩])) := by
      show send st (db.after s es) = _
      rw [send, hr]
      dsimp only
      rw [hnote]
      rfl
    rw [hs]
    exact ⟨s.aborted, _, rfl, .refused words⟩

/-- With nothing in the queue, nothing goes out first. -/
theorem flush_runs_none (hq : s.queued = none) :
    Runs db id flush.run s fun r t es => r = .ok () ∧ t = s ∧ es = [] := by
  refine Runs.reading fun t es ht => ?_
  obtain rfl : t = db.after s es := ht
  have hdb : (db.after s es).queued = none := hq
  rw [hdb]
  exact Runs.pure _ ⟨rfl, rfl, rfl⟩

/-- A rollback in the queue goes out, and is not in the queue then even if it is refused. -/
theorem flush_runs_some (hq : s.queued = some q)
    (h : ∀ es, (db.after { s with queued := none } es).perform q = db.after s' es) :
    Runs db id flush.run s (Sent (fun e => e) q s' ({ s with queued := none } : State).aborted) := by
  refine Runs.reading fun t es ht => ?_
  obtain rfl : t = db.after s es := ht
  have hdb : (db.after s es).queued = some q := hq
  rw [hdb]
  intro t es ht
  obtain rfl : t = db.after s es := ht
  exact send_runs h _ _ rfl

/-- With an empty queue, a statement is sent at once. -/
theorem statement_runs (hq : s.queued = none) (h : ∀ es, (db.after s es).perform st = db.after s' es) :
    Runs db id (statement st).run s (Sent (fun e => e) st s' s.aborted) := by
  refine Runs.andThen (flush_runs_none hq) (fun u t es hu => ?_) (fun e t es he => ?_)
  · obtain ⟨_, rfl, rfl⟩ := hu
    exact send_runs h
  · cases he.1

/-- With a rollback in the queue, the rollback goes out before the statement. -/
theorem behind_runs {t : State} (s' : State) (hq : s.queued = some q)
    (hflush : ∀ es, (db.after { s with queued := none } es).perform q = db.after s' es)
    (h : ∀ es, (db.after s' es).perform st = db.after t es) :
    Runs db id (statement st).run s
      (Behind (fun e => e) q st ({ s with queued := none } : State).aborted t s'.aborted) := by
  refine Runs.sentThen (flush_runs_some hq hflush) ((send_runs h).mono fun r t es hs => ?_) fun words => .unsent words
  cases hs with
  | taken => exact .taken
  | refused words => exact .refused words

/-- A statement that changes the level of the session. -/
theorem leaveBy_runs {level fallback : Nat} {undo : Option Statement} (s' : State) (hq : s.queued = none)
    (h : ∀ es, (db.after s es).perform st = db.after s' es) :
    Runs db id (leaveBy st level undo fallback).run s
      (Sent (fun e => e) st { s' with depth := level } { s.aborted with depth := fallback, queued := undo }) := by
  refine Runs.through (fun p : Except DatabaseError Unit × Database => match p with
    | (.ok (), db) => (.ok (), { db with depth := level })
    | (.error e, db) => (.error e, { db with depth := fallback, queued := undo })) (fun t => rfl) (statement_runs hq h)
    fun r t es hs d es' hd => ?_
  obtain rfl : d = db.after t es' := hd
  cases hs with
  | taken => exact ⟨_, [], by rw [List.append_nil]; rfl, .taken⟩
  | refused words => exact ⟨_, [], by rw [List.append_nil]; rfl, .refused words⟩

/-! ### Each statement -/

/-- A transaction that cannot be opened leaves nothing to undo. -/
theorem begin_runs :
    Runs db id begin.run (.resting S) (Sent (fun e => e) .begin (.inside S S none 1) (.resting S)) :=
  leaveBy_runs ⟨S, some ⟨S, none, false⟩, 0, none⟩ rfl fun _ => rfl

/-- A statement on rows changes what the transaction sees. -/
theorem inner_runs (h : st.isInner) : Runs db id (statement st).run (.inside S W copy depth)
    (Sent (fun e => e) st (.inside S (st.change W) copy depth) (.broken S W copy depth none)) := by
  refine statement_runs rfl fun es => ?_
  cases st <;> first | rfl | cases h

/-- Outside of a transaction, a statement on rows is committed by itself. -/
theorem alone_runs (h : st.isInner) : Runs db id (statement st).run (.resting S)
    (Sent (fun e => e) st (.resting (st.change S)) (.resting S)) := by
  refine statement_runs rfl fun es => ?_
  cases st <;> first | rfl | cases h

/-- A savepoint that cannot be set costs the transaction. -/
theorem savepoint_runs : Runs db id savepoint.run (.inside S W none 1)
    (Sent (fun e => e) .savepoint (.inside S W (some W) 2) (.broken S W none 0 (some .rollback))) :=
  leaveBy_runs (.inside S W (some W) 1) rfl fun _ => rfl

/-- A savepoint that cannot be given up is to be rolled back to. -/
theorem release_runs : Runs db id release.run (.inside S W (some V) 2)
    (Sent (fun e => e) .release (.inside S W none 1) (.broken S W (some V) 1 (some .rollbackTo))) :=
  leaveBy_runs (.inside S W none 2) rfl fun _ => rfl

/-- A rollback to a savepoint that is refused is to be sent again. -/
theorem rollbackTo_runs : Runs db id rollbackTo.run (.broken S W (some V) 2 none)
    (Sent (fun e => e) .rollbackTo (.inside S V none 1) (.broken S W (some V) 1 (some .rollbackTo))) :=
  leaveBy_runs (.inside S V none 2) rfl fun _ => rfl

/-- A commit that is refused keeps nothing. -/
theorem commit_runs : Runs db id commit.run (.inside S W none 1)
    (Sent (fun e => e) .commit (.resting W) (.broken S W none 0 (some .rollback))) := by
  refine Runs.reading fun t es ht => ?_
  obtain rfl : t = db.after (.inside S W none 1) es := ht
  exact leaveBy_runs ⟨W, none, 1, none⟩ rfl fun _ => rfl

/-- Outside of a transaction, there is nothing to commit. -/
theorem commit_runs_alone : Runs db id commit.run (.resting S) fun r t es => r = .ok () ∧ t = .resting S ∧ es = [] := by
  refine Runs.reading fun t es ht => ?_
  obtain rfl : t = db.after (.resting S) es := ht
  exact Runs.pure _ ⟨rfl, rfl, rfl⟩

/-- A statement on rows goes out behind the rollback to a savepoint. -/
theorem inner_runs_rollbackTo (h : st.isInner) : Runs db id (statement st).run
    (.broken S W (some V) depth (some .rollbackTo))
    (Behind (fun e => e) .rollbackTo st (.broken S W (some V) depth none) (.inside S (st.change V) none depth)
      (.broken S V none depth none)) := by
  refine behind_runs (.inside S V none depth) rfl (fun es => rfl) fun es => ?_
  cases st <;> first | rfl | cases h

/-- A statement on rows goes out behind the rollback of a transaction, and then is committed by itself. -/
theorem inner_runs_rollback (h : st.isInner) : Runs db id (statement st).run
    (.broken S W copy 0 (some .rollback))
    (Behind (fun e => e) .rollback st (.broken S W copy 0 none) (.resting (st.change S)) (.resting S)) := by
  refine behind_runs (.resting S) rfl (fun es => rfl) fun es => ?_
  cases st <;> first | rfl | cases h

/-! ### The end of a session -/

/-- What is committed, with at most a rollback in the queue. -/
structure State.Keeps (s : State) (S : Store) : Prop where
  /-- This is committed. -/
  store : s.store = S
  /-- What is in the queue is a rollback. -/
  queued : ∀ q, s.queued = some q → q.isRollback

theorem State.keeps_resting : (State.resting S).Keeps S := ⟨rfl, nofun⟩

theorem State.keeps_broken : (State.broken S W copy depth none).Keeps S := ⟨rfl, nofun⟩

theorem State.keeps_broken_queued (hq : q.isRollback) : (State.broken S W copy depth (some q)).Keeps S :=
  ⟨rfl, fun _ h => Option.some.inj h ▸ hq⟩

/-- A rollback in the queue does not touch what is committed, taken or not. -/
theorem flush_keeps (h : s.Keeps S) : Runs db id flush.run s fun _ t _ => t.store = S := by
  cases hq : s.queued with
  | none =>
    refine (flush_runs_none hq).mono fun r t es ht => ?_
    obtain ⟨_, rfl, _⟩ := ht
    exact h.store
  | some q =>
    obtain ⟨t, ht, hperform⟩ : ∃ t : State, t.store = S ∧
        ∀ es, (db.after { s with queued := none } es).perform q = db.after t es := by
      have hr := h.queued q hq
      cases q with
      | rollback => exact ⟨{ s with queued := none, transaction := none }, h.store, fun _ => rfl⟩
      | rollbackTo =>
        exact ⟨{ s with
          queued := none, transaction := s.transaction.map fun t => ⟨t.saved.getD t.working, none, false⟩ },
          h.store, fun _ => rfl⟩
      | _ => cases hr
    refine (flush_runs_some hq hperform).mono fun r t' es hs => ?_
    cases hs with
    | taken => exact ht
    | refused words => exact h.store

/-- At the end of a session, what is committed is left and nothing else. -/
theorem close_runs (h : s.Keeps S) : Runs db id close s fun _ t _ => t = .resting S := by
  intro t es ht
  obtain rfl : t = db.after s es := ht
  obtain ⟨s', hs', ha⟩ : ∃ s' : State, s'.Keeps S ∧ abandon (db.after s es) = db.after s' es := by
    rw [abandon]
    split
    · exact ⟨s, h, rfl⟩
    · exact ⟨{ s with depth := 0, queued := some .rollback }, ⟨h.store, fun _ hq => Option.some.inj hq ▸ rfl⟩, rfl⟩
  obtain ⟨t, es', hw, ht⟩ := flush_keeps hs' _ _ ha
  have hc : (close.run (db.after s es)).2 =
      { (flush.run.run (abandon (db.after s es))).2 with transaction := none, depth := 0, queued := none } := rfl
  refine ⟨.resting S, es', ?_, rfl⟩
  rw [id, hc, show (flush.run.run (abandon (db.after s es))).2 = db.after t (es ++ es') from hw]
  subst ht
  rfl

/-- Work that is undone as far as it was not committed, at the end of the session. -/
theorem within_runs {ε α : Type} {work : ExceptT ε (StateM Database) α}
    {P Q : Except ε α → State → List Event → Prop} (h : Runs db id work.run s P)
    (hclose : ∀ r t es, P r t es → Runs db id close t fun _ t' es' => Q r t' (es ++ es')) :
    Runs db id (within work).run s Q :=
  Runs.through (fun p : Except ε α × Database => (p.1, (close.run p.2).2)) (fun _ => rfl) h hclose

end Session
end Cohort
