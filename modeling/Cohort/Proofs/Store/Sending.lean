import Cohort.Proofs.Metadata.Agreement
import Cohort.Proofs.Store.Session

/-!
# What work with the database may send

`Sends P work` says of some work that it sends statements of a kind only, whatever state it is begun in, as long as no
other one is in the queue. It says nothing of what the work comes to. Sessions send what they are asked to and, besides,
the rollbacks that they leave in the queue (`sends_statement`, `sends_leaveBy`, `sends_commit`, `sends_close`).
-/

namespace Cohort

open Database Session

/-- No statement is in the queue but such of a kind. -/
def Session.State.Queues (P : Statement → Prop) (s : State) : Prop := ∀ q, s.queued = some q → P q

theorem Session.State.queues_of_none {P : Statement → Prop} {s : State} (h : s.queued = none) : s.Queues P := by
  intro q hq
  rw [h] at hq
  cases hq

/-- Since these events, only statements of a kind were sent, and no other one is in the queue. -/
def Sending (P : Statement → Prop) (db : Database) (es : List Event) (d : Database) : Prop :=
  ∃ s es', d = db.after s (es ++ es') ∧ s.Queues P ∧ ∀ event ∈ es', P event.statement

/-- Whatever state the work is begun in, it changes the state of the session at most, and sends only statements of a
kind if no other one is in the queue. -/
def Sends {α : Type} (P : Statement → Prop) (work : StateM Database α) : Prop :=
  ∀ db es, Agree (Agree.Keeping (Sending P db es)) work work

namespace Sends

variable {α : Type} {P : Statement → Prop} {work : StateM Database α}

theorem of_runs (h : ∀ db s, s.Queues P →
    Runs db id work s fun _ t es => t.Queues P ∧ ∀ event ∈ es, P event.statement) : Sends P work := by
  refine fun db es => Agree.keeping fun d hd => ?_
  obtain ⟨s, es', hd, hs, hes⟩ := hd
  obtain ⟨t, sent, hw, ht, hsent⟩ := h db s hs d _ hd
  exact ⟨t, es' ++ sent, by rw [← List.append_assoc]; exact hw, ht, List.forall_mem_append.2 ⟨hes, hsent⟩⟩

theorem runs (h : Sends P work) {db : Database} {s : State} (hs : s.Queues P) :
    Runs db id work s fun _ t es => t.Queues P ∧ ∀ event ∈ es, P event.statement := by
  intro t es ht
  have hstart : Sending P db es t := ⟨s, [], by rw [List.append_nil]; exact ht, hs, List.forall_mem_nil _⟩
  obtain ⟨s', es', hw, hkept⟩ := (h db es).kept hstart
  exact ⟨s', es', hw, hkept⟩

/-- Work of which nothing is known but that it changes the state of the session at most. -/
theorem moves (h : Sends (fun _ => True) work) (db : Database) (s : State) : Runs db id work s fun _ _ _ => True :=
  (h.runs fun _ _ => trivial).mono fun _ _ _ _ => trivial

end Sends

namespace Session

variable {P : Statement → Prop} {st : Statement}

theorem exists_perform (db : Database) (s : State) (st : Statement) :
    ∃ s', s'.queued = s.queued ∧ ∀ es, (db.after s es).perform st = db.after s' es := by
  obtain ⟨p, hp⟩ : ∃ p, (db.after s []).perform st = p := ⟨_, rfl⟩
  refine ⟨⟨p.store, p.transaction, p.depth, s.queued⟩, rfl, fun es => ?_⟩
  subst hp
  obtain ⟨S, t, d, q⟩ := s
  cases t <;> cases st <;> rfl

theorem sends_send (hst : P st) : Sends P (send st).run := by
  refine Sends.of_runs fun db s hs => ?_
  obtain ⟨s', hqueued, h⟩ := exists_perform db s st
  refine (send_runs h).mono fun r t es hsent => ?_
  cases hsent with
  | taken => exact ⟨fun q hq => hs q (hqueued ▸ hq), List.forall_mem_singleton.2 hst⟩
  | refused words => exact ⟨hs, List.forall_mem_singleton.2 hst⟩

theorem sends_flush : Sends P flush.run := by
  refine Sends.of_runs fun db s hs => ?_
  cases hq : s.queued with
  | none =>
    refine (flush_runs_none hq).mono fun r t es h => ?_
    obtain ⟨-, rfl, rfl⟩ := h
    exact ⟨hs, List.forall_mem_nil _⟩
  | some q =>
    obtain ⟨s', hqueued, h⟩ := exists_perform db { s with queued := none } q
    refine (flush_runs_some hq h).mono fun r t es hsent => ?_
    cases hsent with
    | taken => exact ⟨State.queues_of_none hqueued, List.forall_mem_singleton.2 (hs q hq)⟩
    | refused words => exact ⟨State.queues_of_none rfl, List.forall_mem_singleton.2 (hs q hq)⟩

theorem sends_statement (hst : P st) : Sends P (statement st).run :=
  fun db es => Agree.andThen (sends_flush db es) fun _ => sends_send hst db es

theorem sends_leaveBy {undo : Option Statement} (hst : P st) (hundo : ∀ q, undo = some q → P q) (level fallback : Nat) :
    Sends P (leaveBy st level undo fallback).run := by
  let leave : Except DatabaseError Unit × Database → Except DatabaseError Unit × Database
    | (.ok (), db) => (.ok (), { db with depth := level })
    | (.error e, db) => (.error e, { db with depth := fallback, queued := undo })
  refine fun db es => Agree.through leave leave (fun _ => rfl) (fun _ => rfl) (sends_statement hst db es)
    fun r d d' hd => ?_
  obtain ⟨rfl, s, es', rfl, hs, hes⟩ := hd
  cases r with
  | ok u => exact ⟨rfl, rfl, { s with depth := level }, es', rfl, hs, hes⟩
  | error e => exact ⟨rfl, rfl, { s with depth := fallback, queued := undo }, es', rfl, hundo, hes⟩

theorem sends_commit (hcommit : P .commit) (hrollback : P .rollback) : Sends P commit.run := by
  refine fun db es => Agree.reading fun d d' hd => ?_
  obtain ⟨rfl, -⟩ := hd
  split
  · exact Agree.pure _
  · exact sends_leaveBy hcommit (fun q hq => Option.some.inj hq ▸ hrollback) 0 0 db es

theorem sends_close (hrollback : P .rollback) : Sends P close := by
  refine fun db es => Agree.keeping fun d hd => ?_
  obtain ⟨s, es', rfl, hs, hes⟩ := hd
  have habandon : Sending P db es (abandon (db.after s (es ++ es'))) := by
    rw [abandon]
    split
    · exact ⟨s, es', rfl, hs, hes⟩
    · exact ⟨{ s with depth := 0, queued := some .rollback }, es', rfl, fun q hq => Option.some.inj hq ▸ hrollback, hes⟩
  obtain ⟨t, es'', hw, -, hes''⟩ := (sends_flush db es).kept habandon
  refine ⟨⟨t.store, none, 0, none⟩, es'', ?_, State.queues_of_none rfl, hes''⟩
  show { (flush.run.run (abandon (db.after s (es ++ es')))).2 with transaction := none, depth := 0, queued := none } = _
  rw [hw]
  rfl

/-- Nothing goes out at the end of a session that is not in a transaction. -/
theorem close_runs_resting {db : Database} {S : Store} :
    Runs db id close (.resting S) fun _ t es => t = .resting S ∧ es = [] := by
  intro t es ht
  obtain rfl : t = db.after (.resting S) es := ht
  exact ⟨.resting S, [], by rw [List.append_nil]; rfl, rfl, rfl⟩

end Session

end Cohort
