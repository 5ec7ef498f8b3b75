import Cohort.Proofs.Calculation.Outcome
import Cohort.Proofs.Store.Sending

/-!
# The statements of a calculation

What is sent to write a calculation down is known beforehand if nothing is refused (`Recording.script`). Work follows
its script if all of it is taken and the work comes to the result that it is meant to come to, or some statement is
refused and the work fails (`Follows`). Following is put together from the parts of the work, in their order, up to
`Recording.run_follows`: so a calculation whose members are written down has sent the script and nothing else.
-/

namespace Cohort

open Database Session

/-! ## Disturbances -/

/-- A statement that asks for definitions. -/
def Statement.readsDefinitions : Statement → Bool
  | getGroup _ | getEntity _ | getAttribute _ _ | getRelationship _ | listWorkflows _ => true
  | _ => false

theorem Statement.isInner_of_readsDefinitions {st : Statement} (h : st.readsDefinitions) : st.isInner := by
  cases st <;> first | rfl | cases h

theorem Statement.change_of_readsDefinitions {st : Statement} (h : st.readsDefinitions) (S : Store) :
    st.change S = S := by
  cases st <;> first | rfl | cases h

/-- A statement that was taken. -/
def Event.taken (st : Statement) : Event := ⟨st, none⟩

/-- A statement was refused, and not one that asks for definitions. -/
def Disturbed (es : List Event) : Prop :=
  ∃ event ∈ es, event.refusal.isSome ∧ event.statement.readsDefinitions = false

theorem Disturbed.mono {es es' : List Event} (h : Disturbed es) (hes : es ⊆ es') : Disturbed es' := by
  obtain ⟨event, hm, hevent⟩ := h
  exact ⟨event, hes hm, hevent⟩

theorem disturbed_refused {st : Statement} (h : st.readsDefinitions = false) (words : String) :
    Disturbed [⟨st, some words⟩] :=
  ⟨_, List.mem_singleton_self _, rfl, h⟩

theorem not_disturbed_iff {es : List Event} :
    ¬ Disturbed es ↔ ∀ event ∈ es, event.refusal.isSome → event.statement.readsDefinitions := by
  simp [Disturbed]

theorem not_disturbed_append {es es' : List Event} : ¬ Disturbed (es ++ es') ↔ ¬ Disturbed es ∧ ¬ Disturbed es' := by
  simp only [not_disturbed_iff, List.forall_mem_append]

theorem not_disturbed_of_refusals {es : List Event} (h : refusals es = 0) : ¬ Disturbed es :=
  not_disturbed_iff.2 fun event hm hrefused => by simp [refusals_eq_zero.1 h event hm] at hrefused

theorem refusals_taken (sts : List Statement) : refusals (sts.map .taken) = 0 := by
  refine refusals_eq_zero.2 fun event hm => ?_
  obtain ⟨st, -, rfl⟩ := List.mem_map.1 hm
  rfl

/-! ## Following a script -/

/-- Work comes to its result and its state and sends its script, or a statement is refused and the work fails. -/
inductive Follows {ε α : Type} (sts : List Statement) (r : Except ε α) (s : State) :
    Except ε α → State → List Event → Prop
  /-- All of the script is taken. -/
  | through : Follows sts r s r s (sts.map .taken)
  /-- A statement is refused. -/
  | stopped (e : ε) (t : State) (es : List Event) : Disturbed es → Follows sts r s (.error e) t es

namespace Follows

variable {ε ε' α β : Type} {db : Database} {s a b : State} {st : Statement} {sts sts' : List Statement}

theorem of_sent {f : DatabaseError → ε} {x : ExceptT ε (StateM Database) Unit}
    (h : Runs db id x.run s (Sent f st a b)) (hst : st.readsDefinitions = false) :
    Runs db id x.run s (Follows [st] (.ok ()) a) := by
  refine h.mono fun r t es hs => ?_
  cases hs with
  | taken => exact .through
  | refused words => exact .stopped _ _ _ (disturbed_refused hst words)

protected theorem pure (c : α) : Runs db id (pure c : ExceptT ε (StateM Database) α).run s (Follows [] (.ok c) s) :=
  Runs.pure _ .through

/-- The script of work after work is one script after the other. -/
theorem andThen {x : ExceptT ε (StateM Database) α} {f : α → ExceptT ε (StateM Database) β} {c : α} {r : Except ε β}
    (hx : Runs db id x.run s (Follows sts (.ok c) a)) (hf : Runs db id (f c).run a (Follows sts' r b)) :
    Runs db id (x >>= f).run s (Follows (sts ++ sts') r b) := by
  refine Runs.andThen hx (fun c' t es h => ?_) fun e t es h => ?_
  · cases h
    refine hf.mono fun r' t' es' h' => ?_
    cases h' with
    | through =>
      rw [← List.map_append]
      exact .through
    | stopped e _ _ hd => exact .stopped e _ _ (hd.mono (List.subset_append_right _ _))
  · cases h with
    | stopped _ _ _ hd => exact .stopped e t es hd

/-- Work that gives something else than the work before it. -/
theorem giving {x : ExceptT ε (StateM Database) α} {c : α} (hx : Runs db id x.run s (Follows sts (.ok c) a)) (c' : β) :
    Runs db id (x >>= fun _ => pure c' : ExceptT ε (StateM Database) β).run s (Follows sts (.ok c') a) := by
  have h : Runs db id (x >>= fun _ => pure c' : ExceptT ε (StateM Database) β).run s
      (Follows (sts ++ []) (.ok c') a) := andThen hx (Follows.pure c')
  rwa [List.append_nil] at h

theorem of_ok {r : Except ε α} {c : α} {t : State} {es : List Event} (h : Follows sts r s (.ok c) t es) :
    r = .ok c ∧ t = s ∧ es = sts.map .taken := by
  cases h
  exact ⟨rfl, rfl, rfl⟩

theorem of_undisturbed {r r' : Except ε α} {t : State} {es : List Event} (h : Follows sts r s r' t es)
    (hes : ¬ Disturbed es) : r' = r ∧ t = s ∧ es = sts.map .taken := by
  cases h with
  | through => exact ⟨rfl, rfl, rfl⟩
  | stopped _ _ _ hd => exact absurd hd hes

theorem map {r r' : Except ε α} {t : State} {es : List Event} (h : Follows sts r s r' t es) (f : α → β) :
    Follows sts (r.map f) s (r'.map f) t es := by
  cases h with
  | through => exact .through
  | stopped e t es hd => exact .stopped e t es hd

theorem adapt {x : ExceptT ε (StateM Database) α} {c : α} (hx : Runs db id x.run s (Follows sts (.ok c) a))
    (f : ε → ε') : Runs db id (ExceptT.adapt f x).run s (Follows sts (.ok c) a) := by
  refine Runs.adapt f (hx.mono fun r t es h => ?_)
  cases h with
  | through => exact .through
  | stopped e _ _ hd => exact .stopped (f e) _ _ hd

end Follows

/-! ## Writing a calculation down -/

namespace Recording

/-- What is sent to write a calculation down, given the outcome of making the query and what the query finds. -/
def script (o : Options) (g : Group) (query : Except RuleError Query) (found : List Uuid) : List Statement :=
  [.begin] ++ (if o.lock then [.lock g.id] else []) ++
    [.upsertLog (.calculating g.id g.entityId o.now), .deleteMemberships g.id] ++
    match query with
    | .error e => [.upsertLog (.failed g.id g.entityId o.now 0 (CalculationError.rule e).message), .commit]
    | .ok q => [.savepoint, .membershipQuery q] ++ found.map (.insertMembership g.id) ++ [.release] ++
        [.upsertLog (.completed g.id g.entityId o.now found.length), .commit]

/-- What writing a calculation down comes to if nothing is refused. -/
def result (query : Except RuleError Query) (found : List Uuid) : Except CalculationError (List Uuid) :=
  match query with
  | .error e => .error (.rule e)
  | .ok _ => .ok found

/-- What is committed if nothing is refused. -/
def written (o : Options) (g : Group) (query : Except RuleError Query) (found : List Uuid) (S : Store) : Store :=
  match query with
  | .error e => (started o g S).writeLog (.failed g.id g.entityId o.now 0 (CalculationError.rule e).message)
  | .ok _ => ((started o g S).addMembers g.id found).writeLog (.completed g.id g.entityId o.now found.length)

variable {db : Database} {o : Options} {g : Group} {q : Query} {S W V : Store} {s : State}

theorem start_follows : Runs db id (start o g).run (.resting S)
    (Follows ([.begin] ++ (if o.lock then [.lock g.id] else []) ++
      [.upsertLog (.calculating g.id g.entityId o.now), .deleteMemberships g.id]) (.ok ())
      (.inside S (started o g S) none 1)) := by
  have hwrite : Runs db id (do
        database (statement (.upsertLog (.calculating g.id g.entityId o.now)))
        database (statement (.deleteMemberships g.id))).run (.inside S S none 1)
      (Follows ([.upsertLog (.calculating g.id g.entityId o.now)] ++ [.deleteMemberships g.id]) (.ok ())
        (.inside S (started o g S) none 1)) :=
    Follows.andThen (Follows.of_sent (database_runs (inner_runs rfl)) rfl)
      (Follows.of_sent (database_runs (inner_runs rfl)) rfl)
  rw [start, List.append_assoc]
  refine Follows.andThen (Follows.of_sent (database_runs begin_runs) rfl) ?_
  split
  · exact Follows.andThen (Follows.of_sent (database_runs (inner_runs rfl)) rfl) hwrite
  · exact hwrite

theorem insertAll_follows (group : Uuid) : ∀ (ms : List Uuid) (W : Store),
    Runs db id (insertAll group ms).run (.inside S W (some V) 2)
      (Follows (ms.map (.insertMembership group)) (.ok ()) (.inside S (W.addMembers group ms) (some V) 2))
  | [], _ => Follows.pure ()
  | m :: ms, W =>
    Follows.andThen (Follows.of_sent (inner_runs rfl) rfl) (insertAll_follows group ms (W.addMember group m))

theorem addMembers_follows : Runs db id (addMembers g.id q).run (.inside S W (some W) 2)
    (Follows ([.membershipQuery q] ++ db.answers.map (.insertMembership g.id)) (.ok db.answers)
      (.inside S (W.addMembers g.id db.answers) (some W) 2)) := by
  refine Follows.andThen (Follows.of_sent ((inner_runs rfl).adaptSent (Failure.mk 0)) rfl) ?_
  refine Runs.reading fun t es ht => ?_
  obtain rfl : t = db.after _ es := ht
  exact Follows.giving (Follows.adapt (insertAll_follows g.id db.answers W) (Failure.mk db.answers.length)) _

/-- Undoing adds nothing to work that does not fail. -/
theorem undoing_follows {α : Type} {x : ExceptT Failure (StateM Database) α} {sts : List Statement} {c : α} {a : State}
    (h : Runs db id x.run s (Follows sts (.ok c) a)) : Runs db id (undoing x).run s (Follows sts (.ok c) a) := by
  refine undoing_through h (fun b t es hp => ?_) fun f t es hp => ?_
  · cases hp
    exact .through
  · cases hp with
    | stopped _ _ _ hdisturbed =>
      refine ((sends_leaveBy trivial (fun _ _ => trivial) 1 1).moves db t).mono fun _ t' es' _ => ?_
      exact .stopped f _ _ (hdisturbed.mono (List.subset_append_left _ _))

theorem materialize_follows : Runs db id (materialize g.id q).run (.inside S W none 1)
    (Follows ([.savepoint] ++ ([.membershipQuery q] ++ db.answers.map (.insertMembership g.id) ++ [.release]))
      (.ok db.answers) (.inside S (W.addMembers g.id db.answers) none 1)) := by
  refine Follows.andThen (Follows.of_sent (savepoint_runs.adaptSent (Failure.mk 0)) rfl) ?_
  refine Follows.andThen (undoing_follows addMembers_follows) ?_
  exact Follows.giving (Follows.of_sent (release_runs.adaptSent (Failure.mk db.answers.length)) rfl) _

theorem complete_follows (ids : List Uuid) : Runs db id (complete o g ids).run (.inside S W none 1)
    (Follows ([.upsertLog (.completed g.id g.entityId o.now ids.length)] ++ [.commit]) (.ok ids)
      (.resting (W.writeLog (.completed g.id g.entityId o.now ids.length)))) := by
  refine Follows.andThen (Follows.of_sent (database_runs (inner_runs rfl)) rfl) ?_
  exact Follows.giving (Follows.of_sent (database_runs commit_runs) rfl) ids

theorem fail_follows {α : Type} (count : Nat) (e : CalculationError) :
    Runs db id (fail o g count e : Recorder α).run (.inside S W none 1)
      (Follows ([.upsertLog (.failed g.id g.entityId o.now count e.message)] ++ [.commit]) (.error e)
        (.resting (W.writeLog (.failed g.id g.entityId o.now count e.message)))) := by
  refine Follows.andThen (Follows.of_sent (database_runs (inner_runs rfl)) rfl) ?_
  have hthrow : Runs db id (throw e : Recorder α).run
      (.resting (W.writeLog (.failed g.id g.entityId o.now count e.message)))
      (Follows [] (.error e) (.resting (W.writeLog (.failed g.id g.entityId o.now count e.message)))) :=
    Runs.pure _ .through
  exact Follows.andThen (Follows.of_sent (database_runs commit_runs) rfl) hthrow

/-- Wherever a failure is written down, the work fails. -/
theorem fail_fails {α : Type} (count : Nat) (e : CalculationError) (s : State) :
    Runs db id (fail o g count e : Recorder α).run s fun r _ _ => ∃ e', r = .error e' := by
  have hmoves {x : DatabaseM Unit} (hx : Sends (fun _ => True) x.run) (s : State) :
      Runs db id (database x).run s fun _ _ _ => True := Runs.adapt _ (hx.moves db s)
  refine Runs.andThen (hmoves (sends_statement trivial) s) (fun _ t _ _ => ?_) fun e' _ _ _ => ⟨e', rfl⟩
  refine Runs.andThen (hmoves (sends_commit trivial trivial) t) (fun _ t _ _ => ?_) fun e' _ _ _ => ⟨e', rfl⟩
  exact Runs.pure _ ⟨e, rfl⟩

theorem finish_follows (query : Except RuleError Query) :
    Runs db id (finish o g query).run (.inside S (started o g S) none 1)
      (Follows (match query with
        | .error e => [.upsertLog (.failed g.id g.entityId o.now 0 (CalculationError.rule e).message), .commit]
        | .ok q => [.savepoint, .membershipQuery q] ++ db.answers.map (.insertMembership g.id) ++
            [.release] ++ [.upsertLog (.completed g.id g.entityId o.now db.answers.length), .commit])
        (result query db.answers) (.resting (written o g query db.answers S))) := by
  cases query with
  | error e => exact fail_follows 0 (.rule e)
  | ok q =>
    refine finish_through materialize_follows (fun ids t es hp => ?_) fun f t es hp => ?_
    · cases hp
      refine (complete_follows db.answers).mono fun r t es h => ?_
      cases h with
      | through =>
        rw [← List.map_append]
        exact .through
      | stopped e _ _ hd => exact .stopped e _ _ (hd.mono (List.subset_append_right _ _))
    · cases hp with
      | stopped _ _ _ hd =>
        refine (fail_fails f.count (.database f.cause) t).mono fun r t es' h => ?_
        obtain ⟨e, rfl⟩ := h
        exact .stopped e _ _ (hd.mono (List.subset_append_left _ _))

/-- **Writing a calculation down follows its script.** -/
theorem run_follows (o : Options) (g : Group) (query : Except RuleError Query) :
    Runs db id (run o g query).run (.resting S) (Follows (script o g query db.answers) (result query db.answers)
      (.resting (written o g query db.answers S))) := by
  have hbody : Runs db id (start o g >>= fun _ => finish o g query).run (.resting S)
      (Follows (script o g query db.answers) (result query db.answers) (.resting (written o g query db.answers S))) :=
    Follows.andThen start_follows (finish_follows query)
  refine within_runs hbody fun r t es hp => ?_
  cases hp with
  | through =>
    refine close_runs_resting.mono fun _ t es h => ?_
    obtain ⟨rfl, rfl⟩ := h
    rw [List.append_nil]
    exact .through
  | stopped e _ _ hdisturbed =>
    refine ((sends_close trivial).moves db t).mono fun _ t' es' _ => ?_
    exact .stopped e _ _ (hdisturbed.mono (List.subset_append_left _ _))

end Recording
end Cohort
