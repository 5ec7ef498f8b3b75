import Cohort.Proofs.Calculation.Failures
import Cohort.Proofs.Calculation.Plan

/-!
# What an error tells of its cause

An error of a calculation or an explanation on the definitions in the database comes of one of three things (`Cause`):
a definition is faulty or missing, and no statement was refused; a question for a definition was refused, and no other
statement; or some other statement was refused. Work is justified if it gives a result only when nothing was refused,
and otherwise an error with its cause (`Justified`). So are the questions (`Database.accounts_client`), all that is put
together from them (`Accounts.andThen`, `accounts_prepare`, `accounts_explain`), and writing a calculation down
(`Recording.run_justified`).

So a definition error does not mean that no statement was refused (`isDefinitionError_iff`): a refused question for a
definition gives one too, and is told from the others only by its words.
-/

namespace Cohort

open Database Session

/-! ## Causes -/

namespace CalculationError

/-- The error that a question for a definition comes to if it is refused. -/
def unanswered (words : String) : CalculationError := .metadata (.internal (DatabaseError.server words).message)

/-- The error of a definition that is faulty or missing. -/
def OfDefinition (e : CalculationError) : Prop := e.isDefinitionError ∧ ∀ words, e ≠ unanswered words

theorem ofDefinition_groupNotFound (id : Uuid) : (groupNotFound id).OfDefinition := ⟨rfl, nofun⟩

theorem ofDefinition_rule {α : Type} {r : Except RuleError α} {e : CalculationError} (h : r.mapError rule = .error e) :
    e.OfDefinition := by
  cases r with
  | ok a => exact nomatch h
  | error cause => exact Except.error.inj h ▸ ⟨rfl, nofun⟩

theorem ofDefinition_notFound (what : String) : (metadata (.notFound what)).OfDefinition := ⟨rfl, nofun⟩

theorem ofDefinition_invalid (what : String) : (metadata (.invalid what)).OfDefinition := ⟨rfl, nofun⟩

/-- The error of rules that are no document has other words than the server. -/
theorem ofDefinition_noDocument :
    (metadata (.internal "the rules of the group are no document")).OfDefinition := by
  refine ⟨rfl, fun words h => ?_⟩
  have hlist : "the rules of the group are no document".toList =
      "error returned from database: ".toList ++ words.toList := by
    rw [← String.toList_append]
    exact congrArg String.toList (MetadataError.internal.inj (metadata.inj h))
  have hfirst := congrArg List.head? hlist
  simp at hfirst

end CalculationError

/-- Why there is an error after these events. -/
inductive Cause : CalculationError → List Event → Prop
  /-- A definition is faulty or missing. -/
  | definition {e : CalculationError} {es : List Event} : e.OfDefinition → refusals es = 0 → Cause e es
  /-- A question for a definition was refused. -/
  | question {st : Statement} {words : String} {es : List Event} :
    ⟨st, some words⟩ ∈ es → ¬ Disturbed es → Cause (.unanswered words) es
  /-- A statement was refused that does not ask for a definition. -/
  | database {cause : DatabaseError} {es : List Event} : Disturbed es → Cause (.database cause) es

namespace Cause

variable {e : CalculationError} {es : List Event}

theorem between {front back : List Event} (h : Cause e es) (hfront : refusals front = 0) (hback : refusals back = 0) :
    Cause e (front ++ es ++ back) := by
  cases h with
  | definition he hes => exact .definition he (by rw [refusals_append, refusals_append, hfront, hes, hback])
  | question hm hes =>
    refine .question (List.mem_append_left _ (List.mem_append_right _ hm)) ?_
    rw [not_disturbed_append, not_disturbed_append]
    exact ⟨⟨not_disturbed_of_refusals hfront, hes⟩, not_disturbed_of_refusals hback⟩
  | database hes => exact .database (hes.mono (by simp))

theorem behind {front : List Event} (h : Cause e es) (hfront : refusals front = 0) : Cause e (front ++ es) := by
  have hbetween : Cause e (front ++ es ++ []) := h.between hfront rfl
  rwa [List.append_nil] at hbetween

/-- A definition error comes of a faulty definition or of a refused question. -/
theorem isDefinitionError_iff_not_disturbed (h : Cause e es) : e.isDefinitionError ↔ ¬ Disturbed es := by
  cases h with
  | definition he hes => exact iff_of_true he.1 (not_disturbed_of_refusals hes)
  | question hm hes => exact iff_of_true rfl hes
  | database hes => exact iff_of_false nofun (not_not_intro hes)

/-- The error of a faulty definition comes of nothing else. -/
theorem ofDefinition_iff (h : Cause e es) : e.OfDefinition ↔ refusals es = 0 := by
  cases h with
  | definition he hes => exact iff_of_true he hes
  | question hm hes => exact iff_of_false (fun he => he.2 _ rfl) (Nat.pos_iff_ne_zero.1 (refusals_pos hm))
  | database hes => exact iff_of_false nofun fun h => not_disturbed_of_refusals h hes

end Cause

/-! ## Justified work -/

variable {τ τ' ε ε' α β : Type}

/-- There is a result and nothing was refused, or there is an error, read as one of calculations, with its cause. -/
inductive Justified (f : ε → CalculationError) : Except ε α → List Event → Prop
  | ok (a : α) {es : List Event} : refusals es = 0 → Justified f (.ok a) es
  | error (e : ε) {es : List Event} : Cause (f e) es → Justified f (.error e) es

theorem Justified.behind {f : ε → CalculationError} {r : Except ε α} {front es : List Event} (h : Justified f r es)
    (hfront : refusals front = 0) : Justified f r (front ++ es) := by
  cases h with
  | ok a hes => exact .ok a (by rw [refusals_append, hfront, hes])
  | error e he => exact .error e (he.behind hfront)

theorem Justified.map {f : ε → CalculationError} {r : Except ε α} {es : List Event} (h : Justified f r es)
    (k : α → β) : Justified f (r.map k) es := by
  cases h with
  | ok a hes => exact .ok (k a) hes
  | error e he => exact .error e he

theorem Justified.mapError {f : ε → CalculationError} {g : ε' → CalculationError} {r : Except ε α} {es : List Event}
    (h : Justified f r es) {k : ε → ε'} (hk : ∀ e, Cause (f e) es → Cause (g (k e)) es) :
    Justified g (r.mapError k) es := by
  cases h with
  | ok a hes => exact .ok a hes
  | error e he => exact .error (k e) (hk e he)

/-- Begun while no session is open, the work leaves what is committed and is justified. -/
def Accounts (f : ε → CalculationError) (view : τ → Database) (work : ExceptT ε (StateM τ) α) : Prop :=
  ∀ db S, Runs db view work.run (.resting S) fun r t es => t = .resting S ∧ Justified f r es

namespace Accounts

variable {f : ε → CalculationError} {g : ε' → CalculationError} {view : τ → Database} {view' : τ' → Database}

protected theorem pure (a : α) : Accounts f view (pure a) := fun _ _ => Runs.pure _ ⟨rfl, .ok a rfl⟩

theorem andThen {x : ExceptT ε (StateM τ) α} {k : α → ExceptT ε (StateM τ) β} (hx : Accounts f view x)
    (hk : ∀ a, Accounts f view (k a)) : Accounts f view (x >>= k) := by
  refine fun db S => Runs.andThen (hx db S) (fun a t es h => ?_) fun e t es h => ?_
  · obtain ⟨rfl, h⟩ := h
    cases h with
    | ok a hes => exact (hk a db S).mono fun r t es' h => ⟨h.1, h.2.behind hes⟩
  · obtain ⟨rfl, h⟩ := h
    cases h with
    | error e he => exact ⟨rfl, .error e he⟩

/-- What is known beforehand is justified if its error is that of a definition. -/
theorem lift {r : Except ε α} (h : ∀ e, r = .error e → (f e).OfDefinition) :
    Accounts f view (liftM r : ExceptT ε (StateM τ) α) := by
  cases r with
  | ok a => exact Accounts.pure a
  | error e => exact fun _ _ => Runs.pure _ ⟨rfl, .error e (.definition (h e rfl) rfl)⟩

/-- Work that looks at what is there. -/
theorem reading {k : τ → ExceptT ε (StateM τ) α} (h : ∀ t, Accounts f view (k t)) : Accounts f view (get >>= k) :=
  fun db S => Runs.reading fun t _ _ => h t db S

/-- Work that does what other work does on a part of the state, and puts its answer in other words. -/
theorem through {x : ExceptT ε (StateM τ) α} {w : ExceptT ε' (StateM τ') β} (hx : Accounts f view x) (part : τ' → τ)
    (hpart : ∀ t, view (part t) = view' t)
    (hstate : ∀ t, view' (w.run.run t).2 = view (x.run.run (part t)).2)
    (hanswer : ∀ t es, Justified f (x.run.run (part t)).1 es → Justified g (w.run.run t).1 es) :
    Accounts g view' w := by
  intro db S t es ht
  obtain ⟨s, es', hs, rfl, h⟩ := hx db S (part t) es ((hpart t).trans ht)
  exact ⟨_, es', (hstate t).trans hs, rfl, hanswer t es' h⟩

theorem adapt {x : ExceptT ε (StateM τ) α} (h : Accounts f view x) (k : ε → ε') (hk : ∀ e, g (k e) = f e) :
    Accounts g view (ExceptT.adapt k x) :=
  h.through (fun t => t) (fun _ => rfl) (fun _ => rfl) fun _ _ hj => hj.mapError fun e he => (hk e).symm ▸ he

end Accounts

/-! ## Questions -/

/-- All questions to the client for definitions are justified. -/
structure MetadataClient.Accounts (client : MetadataClient τ) (view : τ → Database) : Prop where
  /-- Questions for groups. -/
  group : ∀ id, Cohort.Accounts .metadata view (client.group id)
  /-- Questions for entities. -/
  entity : ∀ id, Cohort.Accounts .metadata view (client.entity id)
  /-- Questions for attributes. -/
  attributeOf : ∀ entity id, Cohort.Accounts .metadata view (client.attributeOf entity id)
  /-- Questions for relationships. -/
  relationship : ∀ id, Cohort.Accounts .metadata view (client.relationship id)

theorem MetadataClient.Accounts.zoom {client : MetadataClient τ} {view : τ → Database} (h : client.Accounts view)
    {view' : τ' → Database} {part : τ' → τ} {put : τ' → τ → τ'} (hpart : ∀ t, view (part t) = view' t)
    (hput : ∀ t s, view' (put t s) = view s) : (client.zoom part put).Accounts view' where
  group id := (h.group id).through part hpart (fun _ => hput _ _) fun _ _ hj => hj
  entity id := (h.entity id).through part hpart (fun _ => hput _ _) fun _ _ hj => hj
  attributeOf entity id := (h.attributeOf entity id).through part hpart (fun _ => hput _ _) fun _ _ hj => hj
  relationship id := (h.relationship id).through part hpart (fun _ => hput _ _) fun _ _ hj => hj

theorem GroupRow.ofDefinition_read {row : GroupRow} {e : MetadataError} (h : row.read = .error e) :
    (CalculationError.metadata e).OfDefinition := by
  rw [GroupRow.read] at h
  split at h
  · exact nomatch h
  · exact Except.error.inj h ▸ CalculationError.ofDefinition_noDocument

theorem RelationshipRow.ofDefinition_read {row : RelationshipRow} {e : MetadataError} (h : row.read = .error e) :
    (CalculationError.metadata e).OfDefinition := by
  rw [RelationshipRow.read] at h
  split at h
  · exact nomatch h
  · obtain rfl := Except.error.inj h
    exact CalculationError.ofDefinition_invalid _

namespace Database

theorem accounts_query {st : Statement} (h : st.readsDefinitions) (rows : MetadataRows → α) :
    Accounts .metadata id (query st rows) := by
  refine Accounts.andThen (fun db S => Runs.adapt _ ?_) fun _ => Accounts.reading fun _ => Accounts.pure _
  refine (alone_runs (Statement.isInner_of_readsDefinitions h)).mono fun r t es hs => ?_
  rw [Statement.change_of_readsDefinitions h] at hs
  cases hs with
  | taken => exact ⟨rfl, .ok () rfl⟩
  | refused words =>
    refine ⟨rfl, .error _ (.question (List.mem_singleton_self _) (not_disturbed_iff.2 ?_))⟩
    exact List.forall_mem_singleton.2 fun _ => h

theorem accounts_found {view : τ → Database} (answer : Option α) (what : String) :
    Accounts .metadata view (Lookup.found answer (.notFound what)) := by
  cases answer with
  | some a => exact Accounts.pure a
  | none => exact fun _ _ => Runs.pure _ ⟨rfl, .error _ (.definition (CalculationError.ofDefinition_notFound what) rfl)⟩

/-- The questions to the rows of the database are justified. -/
theorem accounts_client : client.Accounts id where
  group _ := Accounts.andThen (accounts_query rfl _) fun _ => Accounts.andThen (accounts_found _ _) fun _ =>
    Accounts.lift fun _ => GroupRow.ofDefinition_read
  entity _ := Accounts.andThen (accounts_query rfl _) fun _ => accounts_found _ _
  attributeOf _ _ := Accounts.andThen (accounts_query rfl _) fun _ => accounts_found _ _
  relationship _ := Accounts.andThen (accounts_query rfl _) fun _ => Accounts.andThen (accounts_found _ _) fun _ =>
    Accounts.lift fun _ => RelationshipRow.ofDefinition_read

end Database

theorem World.accounts_client {σ : Type} : (World.client : MetadataClient (World σ)).Accounts World.database :=
  Database.accounts_client.zoom (fun _ => rfl) fun _ _ => rfl

/-! ## Preparing and explaining -/

section

variable {σ : Type} {client : MetadataClient σ} {view : σ → Database}

theorem Prefetch.accounts_all (h : client.Accounts view) (c : Criteria) (entity : Uuid) :
    Accounts .metadata (seen view) (all client c entity) :=
  have hask {α : Type} {q : Lookup σ α} (hq : Accounts .metadata view q) : Accounts .metadata (seen view) (ask q) :=
    hq.through Prod.snd (fun _ => rfl) (fun _ => rfl) fun _ _ hj => hj
  have hput (f : Definitions → Definitions) : Accounts .metadata (seen view) (put f : Prefetch σ Unit) :=
    (Accounts.pure ()).through (fun s => s) (fun _ => rfl) (fun _ => rfl) fun _ _ hj => hj
  have hcomposes : Composes fun x : Prefetch σ _ => Accounts .metadata (seen view) x :=
    ⟨Accounts.pure, Accounts.andThen, Accounts.reading fun _ => Accounts.pure _, hput⟩
  hcomposes.all (fun _ _ => hask (h.attributeOf _ _)) (fun _ => hask (h.relationship _)) c entity

/-- That a group is not found has the cause that the client's answer has. -/
theorem Cause.fetchGroup {id : Uuid} {e : MetadataError} {es : List Event} (h : Cause (.metadata e) es) :
    Cause (if e.isNotFound then .groupNotFound id else .metadata e) es := by
  cases e with
  | notFound what =>
    exact .definition (CalculationError.ofDefinition_groupNotFound id)
      (h.ofDefinition_iff.1 (CalculationError.ofDefinition_notFound what))
  | invalid what => exact h
  | internal what => exact h

theorem accounts_fetchGroup (h : client.Accounts view) (id : Uuid) :
    Accounts (fun e => e) view (fetchGroup client id) := by
  refine (h.group id).through (fun t => t) (fun _ => rfl) (fun t => ?_) fun t es hj => ?_
  · rw [fetchGroup_run]
  · rw [fetchGroup_run]
    exact hj.mapError fun e he => he.fetchGroup

theorem accounts_fetchDefinitions (h : client.Accounts view) (rules : Criteria) (entity : Uuid) :
    Accounts (fun e => e) view (fetchDefinitions client rules entity) := by
  refine (Prefetch.accounts_all h rules entity).through (fun s => (.empty, s)) (fun _ => rfl) (fun t => ?_)
    fun t es hj => ?_
  · rw [fetchDefinitions_run]
  · rw [fetchDefinitions_run]
    have hadapted := Justified.mapError (g := fun e => e) hj fun _ he => he
    exact hadapted.map _

theorem accounts_prepare (h : client.Accounts view) (g : Group) : Accounts (fun e => e) view (prepare client g) :=
  Accounts.andThen (Accounts.lift fun _ => CalculationError.ofDefinition_rule) fun _ =>
    Accounts.andThen ((h.entity _).adapt _ fun _ => rfl) fun _ =>
      Accounts.andThen (accounts_fetchDefinitions h _ _) fun _ => Accounts.pure _

/-- An explanation is justified. -/
theorem accounts_explain (h : client.Accounts view) (id : Uuid) : Accounts (fun e => e) view (explain client id) :=
  Accounts.andThen (accounts_fetchGroup h id) fun _ => Accounts.andThen (accounts_prepare h _) fun _ =>
    Accounts.lift fun _ => CalculationError.ofDefinition_rule

end

/-! ## Writing a calculation down -/

namespace Recording

variable {db : Database} {o : Options} {g : Group} {S W : Store} {s : State}

/-- If the work fails, then by the database. -/
def Relies (work : Recorder α) : Prop := ∀ db e, (work.run.run db).1 = .error e → ∃ cause, e = .database cause

theorem relies_pure (a : α) : Relies (pure a) := fun _ _ h => nomatch h

theorem relies_database (x : DatabaseM α) : Relies (database x) := by
  intro db e h
  have hrun : ((database x).run.run db).1 = (x.run.run db).1.mapError .database := rfl
  rw [hrun] at h
  generalize (x.run.run db).1 = r at h
  cases r with
  | ok a => exact nomatch h
  | error cause => exact ⟨cause, (Except.error.inj h).symm⟩

theorem Relies.andThen {x : Recorder α} {f : α → Recorder β} (hx : Relies x) (hf : ∀ a, Relies (f a)) :
    Relies (x >>= f) := by
  intro db e h
  obtain ⟨⟨r, d⟩, hr⟩ : ∃ p, x.run.run db = p := ⟨_, rfl⟩
  cases r with
  | ok a =>
    rw [run_andThen_ok hr] at h
    exact hf a d e h
  | error e' =>
    rw [run_andThen_error hr] at h
    obtain rfl := Except.error.inj h
    exact hx db e' (congrArg Prod.fst hr)

theorem relies_start : Relies (start o g) := by
  have hwrite : Relies (do
      database (statement (.upsertLog (.calculating g.id g.entityId o.now)))
      database (statement (.deleteMemberships g.id))) := (relies_database _).andThen fun _ => relies_database _
  refine (relies_database _).andThen fun _ => ?_
  split
  · exact (relies_database _).andThen fun _ => hwrite
  · exact hwrite

theorem relies_complete (ids : List Uuid) : Relies (complete o g ids) :=
  (relies_database _).andThen fun _ => (relies_database _).andThen fun _ => relies_pure ids

theorem relies_fail (count : Nat) (cause : DatabaseError) : Relies (fail o g count (.database cause) : Recorder α) :=
  (relies_database _).andThen fun _ => (relies_database _).andThen fun _ =>
    fun _ _ h => ⟨cause, (Except.error.inj h).symm⟩

theorem relies_finish (q : Query) : Relies (finish o g (.ok q)) := by
  intro db e h
  have hfinish : (finish o g (.ok q) db).1 = .error e := h
  rw [finish] at hfinish
  dsimp only at hfinish
  split at hfinish
  · exact relies_complete _ _ e hfinish
  · exact relies_fail _ _ _ e hfinish

/-- Work comes to its result and its state and nothing is refused, or a statement is refused and the work fails by the
database. -/
inductive Stops (r : Except CalculationError α) (s : State) : Except CalculationError α → State → List Event → Prop
  /-- Nothing is refused. -/
  | through {es : List Event} : refusals es = 0 → Stops r s r s es
  /-- A statement is refused. -/
  | stopped (cause : DatabaseError) (t : State) {es : List Event} : Disturbed es →
    Stops r s (.error (.database cause)) t es

/-- Work that follows a script to a result and relies on the database. -/
theorem Stops.of_follows {work : Recorder α} {sts : List Statement} {a : α} {t : State}
    (h : Runs db id work.run s (Follows sts (.ok a) t)) (hwork : Relies work) :
    Runs db id work.run s (Stops (.ok a) t) := by
  intro d es hd
  obtain ⟨t', es', hafter, hfollows⟩ := h d es hd
  refine ⟨t', es', hafter, ?_⟩
  have hfails := hwork d
  generalize (work.run.run d).1 = r at hfollows hfails
  cases hfollows with
  | through => exact .through (refusals_taken sts)
  | stopped e _ _ hdisturbed =>
    obtain ⟨cause, rfl⟩ := hfails e rfl
    exact .stopped cause _ hdisturbed

theorem fail_stops (count : Nat) (e : CalculationError) :
    Runs db id (fail o g count e : Recorder α).run (.inside S W none 1)
      (Stops (.error e) (.resting (W.writeLog (.failed g.id g.entityId o.now count e.message)))) := by
  refine Runs.sentThen (database_runs (inner_runs rfl)) ?_ fun words => .stopped _ _ (disturbed_refused rfl words)
  refine Runs.sentThen (database_runs commit_runs) (Runs.pure _ (.through rfl)) fun words => ?_
  have hcommit : Disturbed [⟨.commit, some words⟩] := disturbed_refused rfl words
  exact .stopped _ _ (hcommit.mono (List.subset_cons_self _ _))

theorem finish_stops (query : Except RuleError Query) :
    Runs db id (finish o g query).run (.inside S (started o g S) none 1)
      (Stops (result query db.answers) (.resting (written o g query db.answers S))) := by
  cases query with
  | error e => exact fail_stops 0 (.rule e)
  | ok q => exact Stops.of_follows (finish_follows (.ok q)) (relies_finish q)

/-- Writing a calculation down is justified. -/
theorem run_justified (o : Options) (g : Group) (query : Except RuleError Query) :
    Runs db id (run o g query).run (.resting S) fun r _ es => Justified (fun e => e) r es := by
  have hbody : Runs db id (start o g >>= fun _ => finish o g query).run (.resting S)
      (Stops (result query db.answers) (.resting (written o g query db.answers S))) := by
    refine Runs.andThen (Stops.of_follows start_follows relies_start) (fun u t es h => ?_) fun e t es h => ?_
    · cases h with
      | through hes =>
        refine (finish_stops query).mono fun r t es' h => ?_
        cases h with
        | through hes' => exact .through (by rw [refusals_append, hes, hes'])
        | stopped cause _ hd => exact .stopped cause t (hd.mono (List.subset_append_right _ _))
    · cases h with
      | stopped cause _ hd => exact .stopped cause t hd
  refine within_runs hbody fun r t es hp => ?_
  cases hp with
  -- nothing was refused, so the session is at rest and sends nothing at its end
  | through hes =>
    refine close_runs_resting.mono fun _ t es' h => ?_
    obtain ⟨rfl, rfl⟩ := h
    rw [List.append_nil]
    cases query with
    | error e => exact .error _ (.definition ⟨rfl, nofun⟩ hes)
    | ok q => exact .ok _ hes
  | stopped cause _ hdisturbed =>
    refine ((sends_close trivial).moves db t).mono fun _ t' es' _ => ?_
    exact .error _ (.database (hdisturbed.mono (List.subset_append_left _ _)))

/-- A failure that is noted outside of a transaction is written down with nothing refused, or lost. -/
theorem note_undisturbed (o : Options) (g : Group) (e : CalculationError) :
    Runs db id (note o g e) (.resting S) fun _ _ es => refusals es = 0 ∨ LosesFailure es := by
  refine (note_sent o g e).mono fun _ t es h => ?_
  obtain ⟨r, h⟩ := h
  cases h with
  | taken => exact .inl rfl
  | refused words => exact .inr (losesFailure_upsertLog rfl [] [] words)

end Recording

/-! ## Calculating -/

/-- The error has its cause, unless the row that tells of it was lost. -/
def Explained (e : CalculationError) (es : List Event) : Prop := LosesFailure es ∨ Cause e es

theorem Explained.behind {e : CalculationError} {front es : List Event} (h : Explained e es)
    (hfront : refusals front = 0) : Explained e (front ++ es) :=
  h.imp (·.mono (List.suffix_append front es).isInfix) (·.behind hfront)

theorem World.onDatabase_runs {σ : Type} {work : ExceptT ε (StateM Database) α} {db : Database} {s : State}
    {P : Except ε α → State → List Event → Prop} (h : Runs db id work.run s P) :
    Runs db World.database (World.onDatabase work : ExceptT ε (StateM (World σ)) α).run s P :=
  fun w es hw => h w.database es hw

namespace Service

variable {σ : Type} {s : Service σ} {db : Database} {S : Store}

theorem preparing_explained (hs : s.client.Accounts World.database) (g : Group) :
    Runs db World.database (s.preparing g).run (.resting S) fun r t es => match r with
      | .ok _ => t = .resting S ∧ refusals es = 0
      | .error e => Explained e es := by
  refine Runs.through (fun p : Except CalculationError Prepared × World σ => match p with
    | (.ok p, w) => (.ok p, w)
    | (.error e, w) => (.error e, { w with database := ((Recording.note s.options g e).run w.database).2 }))
    (fun _ => rfl) (accounts_prepare hs g db S) fun r t es h => ?_
  obtain ⟨rfl, h⟩ := h
  cases h with
  | ok p hes => exact Runs.pure _ ⟨rfl, by rw [List.append_nil]; exact hes⟩
  | error e he =>
    intro w es' hw
    obtain ⟨t, es'', hafter, hnote⟩ := Recording.note_undisturbed s.options g e w.database es' hw
    refine ⟨t, es'', hafter, ?_⟩
    obtain hes | hlost := hnote
    · have hnoted : Cause e ([] ++ es ++ es'') := he.between rfl hes
      exact .inr hnoted
    · exact .inl (hlost.mono (List.suffix_append es es'').isInfix)

/-- Up to the point where workflows are told, a calculation that fails says why. -/
theorem writing_explained (hs : s.client.Accounts World.database) (id : Uuid) :
    Runs db World.database (s.writing id).run (.resting S) fun r _ es => ∀ e, r = .error e → Explained e es := by
  refine Runs.andThen (accounts_fetchGroup hs id db S) (fun g t es h => ?_) fun e t es h e' he' => ?_
  · obtain ⟨rfl, h⟩ := h
    cases h with
    | ok _ hfetched =>
      refine Runs.andThen (preparing_explained hs g) (fun p t es' h => ?_) fun e t es' h e' he' => ?_
      · obtain ⟨rfl, hprepared⟩ := h
        refine Runs.andThen (World.onDatabase_runs (Recording.run_justified s.options g p.query))
          (fun ids t es'' _ => Runs.pure _ fun _ h => nomatch h) fun e t es'' h e' he' => ?_
        cases he'
        cases h with
        | error _ he => exact .inr ((he.behind hprepared).behind hfetched)
      · cases he'
        exact h.behind hfetched
  · cases he'
    cases h.2 with
    | error _ he => exact .inr he

end Service

/-- A calculation or an explanation that fails says why. -/
theorem calculate_or_explain_explained {σ : Type} {s : Service σ} (hs : s.client.Accounts World.database)
    {w w' : World σ} (hw : w.database.AtRest) {id : Uuid} {e : CalculationError} {es : List Event}
    (hrun : (s.calculate id).run.run w = (.error e, w') ∨ (explain s.client id).run.run w = (.error e, w'))
    (htrace : w'.database.trace = w.database.trace ++ es) : Explained e es := by
  have hevents {t : State} {es' : List Event} (h : w'.database = w.database.after t ([] ++ es')) : es' = es :=
    (List.append_cancel_left (htrace.symm.trans (congrArg Database.trace h))).symm
  obtain hrun | hrun := hrun
  · obtain ⟨t, es', hafter, hwriting⟩ := s.writing_explained hs id w [] hw.eq_after
    obtain ⟨⟨r, w₁⟩, hr⟩ : ∃ p, (s.writing id).run.run w = p := ⟨_, rfl⟩
    rw [hr] at hafter hwriting
    cases r with
    -- once the members are written down the call succeeds, whatever the orchestrator does to the database
    | ok p =>
      rw [Service.calculate_ok hr] at hrun
      cases hrun
    | error e' =>
      rw [Service.calculate_error hr] at hrun
      cases hrun
      exact hevents hafter ▸ hwriting e rfl
  · obtain ⟨t, es', hafter, rfl, h⟩ := accounts_explain hs id w.database w.database.store w [] hw.eq_after
    rw [hrun] at hafter h
    cases h with
    | error _ he => exact .inr (hevents hafter ▸ he)

/-- **A definition error comes of a definition, or of a question for one**, whatever is refused on the way, unless the
row that tells of the failure is lost: a calculation or an explanation on the definitions in the database fails with a
definition error just if every statement that was refused asks for definitions. So that alone does not say that none was
refused; none was just if, besides, the error is not the one that the words of the server make of a question. -/
theorem isDefinitionError_iff {σ : Type} (orchestrator : Option (Orchestrator (World σ)))
    (options : Recording.Options) {w w' : World σ} (hw : w.database.AtRest) (id : Uuid) {e : CalculationError}
    {es : List Event}
    (hrun : ((⟨World.client, orchestrator, options⟩ : Service σ).calculate id).run.run w = (.error e, w') ∨
      (explain World.client id).run.run w = (.error e, w'))
    (htrace : w'.database.trace = w.database.trace ++ es) (hkept : ¬ LosesFailure es) :
    (e.isDefinitionError ↔ ∀ event ∈ es, event.refusal.isSome → event.statement.readsDefinitions) ∧
      ((∀ event ∈ es, event.refusal = none) ↔ e.isDefinitionError ∧ ∀ words, e ≠ .unanswered words) := by
  let s : Service σ := ⟨World.client, orchestrator, options⟩
  have hs : s.client.Accounts World.database := World.accounts_client
  obtain hlost | hcause := calculate_or_explain_explained hs hw hrun htrace
  · exact absurd hlost hkept
  · exact ⟨hcause.isDefinitionError_iff_not_disturbed.trans not_disturbed_iff,
      refusals_eq_zero.symm.trans hcause.ofDefinition_iff.symm⟩

namespace Shop

/-- Calculations on definitions in the database. -/
def stored : Service Unit := ⟨World.client, none, service.options⟩

/-- A database with the group of customers, without rules, and the statements that are refused. -/
def database (faults : List Fault) : World Unit :=
  ⟨.atRest .empty ⟨[.ofGroup (customers noRules)], [⟨id 1, "customer", none⟩], [], [], []⟩ [id 9, id 10] faults, ()⟩

end Shop

/-- In a shop, the membership query is refused, which is no definition error. -/
theorem isDefinitionError_iff_shop :
    let w := Shop.database [⟨"membership_query", 1, "out of memory"⟩]
    ∃ e w', (Shop.stored.calculate (Shop.id 8)).run.run w = (.error e, w') ∧ ¬ LosesFailure w'.database.trace ∧
      ¬ e.isDefinitionError := by
  intro w
  have hfails : ((Shop.stored.calculate (Shop.id 8)).run.run w).1.isOk = false := by decide +kernel
  have hrefused : ∀ event ∈ ((Shop.stored.calculate (Shop.id 8)).run.run w).2.database.trace, event.refusal.isSome →
      event.statement.name ∉ ["upsert_log", "commit"] := by decide +kernel
  have hquery : ¬ ∀ event ∈ ((Shop.stored.calculate (Shop.id 8)).run.run w).2.database.trace, event.refusal.isSome →
      event.statement.readsDefinitions := by decide +kernel
  generalize hrun : (Shop.stored.calculate (Shop.id 8)).run.run w = p at hfails hrefused hquery
  obtain ⟨r, w'⟩ := p
  cases r with
  | ok c => cases hfails
  | error e =>
    have hkept := not_losesFailure hrefused
    have hrest : w.database.AtRest := ⟨rfl, rfl, rfl⟩
    obtain ⟨hiff, -⟩ := isDefinitionError_iff none Shop.service.options hrest (Shop.id 8) (.inl hrun)
      (List.nil_append w'.database.trace).symm hkept
    exact ⟨e, w', rfl, hkept, fun h => hquery (hiff.1 h)⟩

/-- Work failed with a definition error. -/
def failedByDefinition : Except CalculationError α → Bool
  | .ok _ => false
  | .error e => e.isDefinitionError

/-- In a shop, the question for the entity is refused: a calculation and an explanation both come to a definition
error. -/
theorem isDefinitionError_refused_shop :
    let w := Shop.database [⟨"get_entity", 1, "connection reset"⟩]
    let calculated := (Shop.stored.calculate (Shop.id 8)).run.run w
    let explained := (explain World.client (Shop.id 8)).run.run w
    failedByDefinition calculated.1 ∧ refusals calculated.2.database.trace = 1 ∧
      ¬ LosesFailure calculated.2.database.trace ∧
    failedByDefinition explained.1 ∧ refusals explained.2.database.trace = 1 ∧
      ¬ LosesFailure explained.2.database.trace := by
  refine ⟨?_, ?_, not_losesFailure ?_, ?_, ?_, not_losesFailure ?_⟩
  all_goals decide +kernel

end Cohort
