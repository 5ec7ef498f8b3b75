import Cohort.Proofs.Calculation.Script

/-!
# When it is committed that a calculation is complete

The row that a calculation is complete is written at its very end, and the commit behind it ends the work with a result.
So a calculation that fails has not committed such a row, whatever was refused (`Recording.run_unfinished`): all that it
sends before that row sends no such row (`sends_start`, `sends_materialize`, `sends_fail`), and if it gets to that row
then no commit is taken any more (`complete_falls`).
-/

namespace Cohort

open Database Session

/-! ## Committing a completed row -/

/-- Whether a statement writes that a calculation is complete. -/
def Statement.completes : Statement → Bool
  | upsertLog entry => entry.status = .completed
  | _ => false

theorem Statement.completes_of_readsDefinitions (st : Statement) (h : st.readsDefinitions) : st.completes = false := by
  cases st <;> first | rfl | cases h

/-- It was written that a calculation is complete, and a commit behind that was taken. -/
def Completed (es : List Event) : Prop := ∃ st : Statement, st.completes ∧ [.taken st, .taken .commit].Sublist es

/-- Up to some point it was not written that a calculation is complete, and no commit was taken from there on. -/
def Unfinished (es : List Event) : Prop :=
  ∃ es₁ es₂, es = es₁ ++ es₂ ∧ (∀ event ∈ es₁, event.statement.completes = false) ∧
    ∀ event ∈ es₂, event ≠ .taken .commit

namespace Unfinished

variable {es es' : List Event}

theorem not_completed (h : Unfinished es) : ¬ Completed es := by
  rintro ⟨st, hst, hsub⟩
  obtain ⟨es₁, es₂, rfl, h₁, h₂⟩ := h
  obtain ⟨front, back, hboth, hfront, hback⟩ := List.sublist_append_iff.1 hsub
  cases front with
  | nil =>
    obtain rfl : [.taken st, .taken .commit] = back := hboth
    exact h₂ (.taken .commit) (hback.subset (by simp)) rfl
  | cons event rest =>
    obtain ⟨rfl, -⟩ := List.cons.inj hboth
    have hfalse := h₁ (.taken st) (hfront.subset (by simp))
    rw [Event.taken, hst] at hfalse
    cases hfalse

theorem of_incomplete (h : ∀ event ∈ es, event.statement.completes = false) : Unfinished es :=
  ⟨es, [], (List.append_nil es).symm, h, List.forall_mem_nil _⟩

theorem behind (h : Unfinished es) (hes' : ∀ event ∈ es', event.statement.completes = false) :
    Unfinished (es' ++ es) := by
  obtain ⟨es₁, es₂, rfl, h₁, h₂⟩ := h
  exact ⟨es' ++ es₁, es₂, (List.append_assoc ..).symm, List.forall_mem_append.2 ⟨hes', h₁⟩, h₂⟩

theorem before (h : Unfinished es) (hes' : ∀ event ∈ es', event ≠ .taken .commit) : Unfinished (es ++ es') := by
  obtain ⟨es₁, es₂, rfl, h₁, h₂⟩ := h
  exact ⟨es₁, es₂ ++ es', List.append_assoc .., h₁, List.forall_mem_append.2 ⟨h₂, hes'⟩⟩

end Unfinished

namespace Recording

variable {db : Database} {o : Options} {g : Group} {S W : Store} {α : Type}

/-- A statement that does not write that a calculation is complete. -/
abbrev Incomplete (st : Statement) : Prop := st.completes = false

theorem sends_one (st : Statement) (h : Incomplete st) : Sends Incomplete (statement st).run := sends_statement h

theorem sends_leaving (st : Statement) (h : Incomplete st) (level : Nat) (undo : Option Statement)
    (hundo : ∀ q, undo = some q → Incomplete q) (fallback : Nat) :
    Sends Incomplete (leaveBy st level undo fallback).run :=
  sends_leaveBy h hundo level fallback

theorem sends_database {x : DatabaseM α} (h : Sends Incomplete x.run) : Sends Incomplete (database x).run :=
  fun db es => (h db es).adapt _

theorem sends_start : Sends Incomplete (start o g).run := by
  intro db es
  have hwrite (st : Statement) (h : Incomplete st) := sends_database (sends_one st h) db es
  refine Agree.andThen (sends_database (sends_leaving .begin rfl 1 none nofun 0) db es) fun _ => ?_
  have hrest := Agree.andThen (hwrite (.upsertLog (.calculating g.id g.entityId o.now)) rfl) fun _ =>
    hwrite (.deleteMemberships g.id) rfl
  split
  · exact Agree.andThen (hwrite (.lock g.id) rfl) fun _ => hrest
  · exact hrest

theorem sends_insertAll (group : Uuid) : ∀ ms, Sends Incomplete (insertAll group ms).run
  | [] => fun _ _ => Agree.pure _
  | m :: ms => fun db es =>
    Agree.andThen (sends_one (.insertMembership group m) rfl db es) fun _ => sends_insertAll group ms db es

theorem sends_addMembers (group : Uuid) (q : Query) : Sends Incomplete (addMembers group q).run := by
  intro db es
  refine Agree.andThen ((sends_one (.membershipQuery q) rfl db es).adapt _) fun _ => Agree.reading fun d d' hd => ?_
  obtain ⟨rfl, -⟩ := hd
  exact Agree.andThen ((sends_insertAll group _ db es).adapt _) fun _ => Agree.pure _

theorem sends_undoing {x : ExceptT Failure (StateM Database) α} (h : Sends Incomplete x.run) :
    Sends Incomplete (undoing x).run := by
  let undo : Except Failure α × Database → Except Failure α × Database
    | (.ok a, db) => (.ok a, db)
    | (.error f, db) => (.error f, (rollbackTo.run db).2)
  refine fun db es => Agree.through undo undo (fun _ => rfl) (fun _ => rfl) (h db es) fun r d d' hd => ?_
  obtain ⟨rfl, hd⟩ := hd
  cases r with
  | ok a => exact ⟨rfl, rfl, hd⟩
  | error f =>
    have hrollback := sends_leaving .rollbackTo rfl 1 (some .rollbackTo) (fun q hq => Option.some.inj hq ▸ rfl) 1
    exact ⟨rfl, rfl, (hrollback db es).kept hd⟩

theorem sends_materialize (group : Uuid) (q : Query) : Sends Incomplete (materialize group q).run := by
  intro db es
  have hsavepoint := sends_leaving .savepoint rfl 2 (some .rollback) (fun q hq => Option.some.inj hq ▸ rfl) 0
  have hrelease := sends_leaving .release rfl 1 (some .rollbackTo) (fun q hq => Option.some.inj hq ▸ rfl) 1
  refine Agree.andThen ((hsavepoint db es).adapt _) fun _ => ?_
  refine Agree.andThen (sends_undoing (sends_addMembers group q) db es) fun ids => ?_
  exact Agree.andThen ((hrelease db es).adapt _) fun _ => Agree.pure _

theorem sends_fail (count : Nat) (e : CalculationError) : Sends Incomplete (fail o g count e : Recorder α).run := by
  intro db es
  have hcommit : Sends Incomplete commit.run := sends_commit rfl rfl
  have hwrite := sends_one (.upsertLog (.failed g.id g.entityId o.now count e.message)) rfl
  refine Agree.andThen (sends_database hwrite db es) fun _ => ?_
  exact Agree.andThen (sends_database hcommit db es) fun _ => Agree.pure _

/-- How work stands that failed and that is still to be closed. -/
inductive Falls (t : State) (es : List Event) : Prop
  /-- It was not written that the calculation is complete. -/
  | early : t.Queues Incomplete → (∀ event ∈ es, Incomplete event.statement) → Falls t es
  /-- It was written, but not committed. -/
  | late : t.Queues (· ≠ .commit) → Unfinished es → Falls t es

theorem Falls.behind {t : State} {es es' : List Event} (h : Falls t es)
    (hes' : ∀ event ∈ es', Incomplete event.statement) : Falls t (es' ++ es) := by
  cases h with
  | early ht hes => exact .early ht (List.forall_mem_append.2 ⟨hes', hes⟩)
  | late ht hes => exact .late ht (hes.behind hes')

theorem complete_falls (ids : List Uuid) : Runs db id (complete o g ids).run (.inside S W none 1) fun r t es =>
    ∀ e, r = .error e → Falls t es := by
  have huncommitted (st : Statement) (words : String) (event : Event) (h : event = ⟨st, some words⟩) :
      event ≠ .taken .commit := by
    subst h
    exact fun heq => nomatch congrArg Event.refusal heq
  refine Runs.sentThen (database_runs (inner_runs rfl)) ?_ fun words e _ => ?_
  -- the row was taken: then the commit is what was refused, and only its rollback may still be sent
  · refine Runs.sentThen (database_runs commit_runs) (Runs.pure _ fun _ h => nomatch h) fun words e _ => ?_
    refine .late (fun q hq => Option.some.inj hq ▸ nofun) ⟨[], _, rfl, List.forall_mem_nil _, ?_⟩
    refine List.forall_mem_cons.2 ⟨?_, ?_⟩
    · exact fun heq => nomatch congrArg Event.statement heq
    · exact List.forall_mem_singleton.2 (huncommitted _ _ _ rfl)
  -- the row itself was refused: no statement is left in the queue
  · refine .late (State.queues_of_none rfl) ⟨[], _, rfl, List.forall_mem_nil _, ?_⟩
    exact List.forall_mem_singleton.2 (huncommitted _ _ _ rfl)

theorem finish_falls (query : Except RuleError Query) : Runs db id (finish o g query).run (.inside S W none 1)
    fun r t es => ∀ e, r = .error e → Falls t es := by
  cases query with
  | error e =>
    exact ((sends_fail 0 (.rule e)).runs (State.queues_of_none rfl)).mono fun _ _ _ h _ _ => .early h.1 h.2
  | ok q =>
    refine finish_through (materialize_follows.and ((sends_materialize g.id q).runs (State.queues_of_none rfl)))
      (fun ids t es hp => ?_) fun f t es hp => ?_
    · obtain ⟨hfollows, -, hes⟩ := hp
      cases hfollows
      exact (complete_falls db.answers).mono fun r t es' h e he => (h e he).behind hes
    · obtain ⟨-, ht, hes⟩ := hp
      refine ((sends_fail f.count (.database f.cause)).runs ht).mono fun r t es' h e _ => ?_
      exact .early h.1 (List.forall_mem_append.2 ⟨hes, h.2⟩)

/-- A calculation that fails has not committed that it is complete. -/
theorem run_unfinished (o : Options) (g : Group) (query : Except RuleError Query) :
    Runs db id (run o g query).run (.resting S) fun r _ es => ∀ e, r = .error e → Unfinished es := by
  have hbody : Runs db id (start o g >>= fun _ => finish o g query).run (.resting S)
      fun r t es => ∀ e, r = .error e → Falls t es := by
    refine Runs.andThen (start_follows.and (sends_start.runs (State.queues_of_none rfl))) (fun u t es h => ?_)
      fun _ _ _ h _ _ => .early h.2.1 h.2.2
    obtain ⟨hfollows, -, hes⟩ := h
    cases hfollows
    exact (finish_falls query).mono fun r t es' h e he => (h e he).behind hes
  refine within_runs hbody fun r t es hp => ?_
  cases r with
  | ok ids => exact ((sends_close trivial).moves db t).mono fun _ _ _ _ _ h => nomatch h
  | error e =>
    cases hp e rfl with
    | early ht hes =>
      have hclose : Sends Incomplete close := sends_close rfl
      refine (hclose.runs ht).mono fun _ _ es' h _ _ => ?_
      exact .of_incomplete (List.forall_mem_append.2 ⟨hes, h.2⟩)
    | late ht hes =>
      refine ((sends_close nofun).runs ht).mono fun _ _ es' h _ _ => ?_
      exact hes.before fun event hm heq => h.2 event hm (congrArg Event.statement heq)

end Recording
end Cohort
