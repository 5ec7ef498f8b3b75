import Cohort.Calculation.Service
import Cohort.Metadata.Registry

/-!
# Questions with the same answers

Two pieces of work agree along a relation of their states (`Agree`) if, begun in related states, they give the same
answer and end in related states. Whatever is put together from work that agrees agrees (`Agree.bind`, `Agree.andThen`).
So a calculation goes the same way for two clients that agree (`MetadataClient.Agrees`), up to the point where it is
written down: the group that it fetches (`agree_fetchGroup`), how it prepares it (`agree_prepare`) and the query that it
makes (`agree_explain`).

The states may be those of one client at two times, or those of a client with and without a record beside them. Along a
relation of equal states with a property, agreeing means to keep the property (`Agree.keeping`, `Agree.kept`). A
registry agrees with itself however often it was asked (`Registry.client_steady`), so its answers are those of a client
without state (`Registry.answersAs_frozen`).
-/

namespace Cohort

/-- Begun in related states, the two give the same answer and end in related states. -/
def Agree {σ τ α : Type} (R : σ → τ → Prop) (x : StateM σ α) (y : StateM τ α) : Prop :=
  ∀ s t, R s t → (x.run s).1 = (y.run t).1 ∧ R (x.run s).2 (y.run t).2

namespace Agree

variable {σ τ σ' τ' α β ε ε' : Type} {R : σ → τ → Prop}

protected theorem pure (a : α) : Agree R (pure a) (pure a) := fun _ _ h => ⟨rfl, h⟩

protected theorem bind {x : StateM σ α} {y : StateM τ α} {f : α → StateM σ β} {g : α → StateM τ β} (hx : Agree R x y)
    (hf : ∀ a, Agree R (f a) (g a)) : Agree R (x >>= f) (y >>= g) := by
  intro s t h
  obtain ⟨hanswer, hstate⟩ := hx s t h
  show ((f (x.run s).1).run (x.run s).2).1 = ((g (y.run t).1).run (y.run t).2).1 ∧
    R ((f (x.run s).1).run (x.run s).2).2 ((g (y.run t).1).run (y.run t).2).2
  rw [hanswer]
  exact hf _ _ _ hstate

theorem andThen {x : ExceptT ε (StateM σ) α} {y : ExceptT ε (StateM τ) α} {f : α → ExceptT ε (StateM σ) β}
    {g : α → ExceptT ε (StateM τ) β} (hx : Agree R x.run y.run) (hf : ∀ a, Agree R (f a).run (g a).run) :
    Agree R (x >>= f).run (y >>= g).run := by
  rw [ExceptT.run_bind, ExceptT.run_bind]
  refine Agree.bind hx fun r => ?_
  cases r with
  | ok a => exact hf a
  | error e => exact Agree.pure _

theorem adapt {x : ExceptT ε (StateM σ) α} {y : ExceptT ε (StateM τ) α} (hx : Agree R x.run y.run) (f : ε → ε') :
    Agree R (ExceptT.adapt f x).run (ExceptT.adapt f y).run :=
  fun s t h => ⟨congrArg (Except.mapError f) (hx s t h).1, (hx s t h).2⟩

theorem lift (r : Except ε α) :
    Agree R (liftM r : ExceptT ε (StateM σ) α).run (liftM r : ExceptT ε (StateM τ) α).run := by
  cases r <;> exact Agree.pure _

theorem found (answer : Option α) (e : MetadataError) :
    Agree R (Lookup.found answer e : Lookup σ α).run (Lookup.found answer e : Lookup τ α).run := by
  cases answer <;> exact Agree.pure _

/-- Work that looks at what is there. -/
theorem reading {f : σ → ExceptT ε (StateM σ) α} {g : τ → ExceptT ε (StateM τ) α}
    (h : ∀ s t, R s t → Agree R (f s).run (g t).run) : Agree R (get >>= f).run (get >>= g).run :=
  fun s t hst => h s t hst s t hst

/-- Work that goes on with the answer of other work. -/
theorem through {x : StateM σ α} {y : StateM τ α} {v : StateM σ β} {w : StateM τ β} (k : α × σ → β × σ)
    (l : α × τ → β × τ) (hv : ∀ s, v.run s = k (x.run s)) (hw : ∀ t, w.run t = l (y.run t)) (hx : Agree R x y)
    (hkl : ∀ a s t, R s t → (k (a, s)).1 = (l (a, t)).1 ∧ R (k (a, s)).2 (l (a, t)).2) : Agree R v w := by
  intro s t h
  obtain ⟨hanswer, hstate⟩ := hx s t h
  rw [hv, hw]
  have hend := hkl (x.run s).1 _ _ hstate
  rwa [show l ((x.run s).1, (y.run t).2) = l (y.run t) from congrArg (fun a => l (a, (y.run t).2)) hanswer] at hend

/-- Work on parts of the states. -/
theorem onParts {R' : σ' → τ' → Prop} {x : StateM σ α} {y : StateM τ α} (hx : Agree R x y) {part : σ' → σ}
    {put : σ' → σ → σ'} {part' : τ' → τ} {put' : τ' → τ → τ'} (hpart : ∀ s t, R' s t → R (part s) (part' t))
    (hput : ∀ s t, R' s t → ∀ a b, R a b → R' (put s a) (put' t b)) :
    Agree R' (fun s => ((x.run (part s)).1, put s (x.run (part s)).2) : StateM σ' α)
      (fun t => ((y.run (part' t)).1, put' t (y.run (part' t)).2) : StateM τ' α) := by
  intro s t h
  obtain ⟨hanswer, hstate⟩ := hx _ _ (hpart s t h)
  exact ⟨hanswer, hput s t h _ _ hstate⟩

/-- Equal states with a property. -/
abbrev Keeping (I : σ → Prop) (s t : σ) : Prop := s = t ∧ I s

theorem keeping {I : σ → Prop} {x : StateM σ α} (h : ∀ s, I s → I (x.run s).2) : Agree (Keeping I) x x := by
  rintro s t ⟨rfl, hs⟩
  exact ⟨rfl, rfl, h s hs⟩

theorem kept {I : σ → Prop} {x : StateM σ α} (h : Agree (Keeping I) x x) {s : σ} (hs : I s) : I (x.run s).2 :=
  (h s s ⟨rfl, hs⟩).2.2

end Agree

/-! ## Clients -/

/-- Two clients give the same answers to all questions for definitions that are asked in related states. -/
structure MetadataClient.Agrees {σ τ : Type} (client : MetadataClient σ) (client' : MetadataClient τ)
    (R : σ → τ → Prop) : Prop where
  /-- Questions for groups. -/
  group : ∀ id, Agree R (client.group id).run (client'.group id).run
  /-- Questions for entities. -/
  entity : ∀ id, Agree R (client.entity id).run (client'.entity id).run
  /-- Questions for attributes. -/
  attributeOf : ∀ entity id, Agree R (client.attributeOf entity id).run (client'.attributeOf entity id).run
  /-- Questions for relationships. -/
  relationship : ∀ id, Agree R (client.relationship id).run (client'.relationship id).run

namespace MetadataClient.Agrees

variable {σ τ σ' τ' : Type} {client : MetadataClient σ} {client' : MetadataClient τ} {R : σ → τ → Prop}

/-- Clients on parts of larger states. -/
theorem zoom (h : client.Agrees client' R) {R' : σ' → τ' → Prop} {part : σ' → σ} {put : σ' → σ → σ'} {part' : τ' → τ}
    {put' : τ' → τ → τ'} (hpart : ∀ s t, R' s t → R (part s) (part' t))
    (hput : ∀ s t, R' s t → ∀ a b, R a b → R' (put s a) (put' t b)) :
    (client.zoom part put).Agrees (client'.zoom part' put') R' where
  group id := (h.group id).onParts hpart hput
  entity id := (h.entity id).onParts hpart hput
  attributeOf entity id := (h.attributeOf entity id).onParts hpart hput
  relationship id := (h.relationship id).onParts hpart hput

/-- A client agrees with what it is apart from workflows. -/
theorem eq (client : MetadataClient σ) (workflows : Uuid → Lookup σ (List Uuid)) :
    client.Agrees { client with workflows := workflows } Eq := by
  constructor
  all_goals
    intros
    rintro s _ rfl
    exact ⟨rfl, rfl⟩

end MetadataClient.Agrees

/-! ## Answers that do not change -/

namespace MetadataClient

variable {σ : Type}

/-- From this state on the answers do not change: they are those of a client without state. -/
def AnswersAs (client : MetadataClient σ) (s : σ) (fixed : MetadataClient Unit) : Prop :=
  ∃ R : σ → Unit → Prop, client.Agrees fixed R ∧ R s ()

/-- The client as it answers in one state. -/
def frozen (client : MetadataClient σ) (s : σ) : MetadataClient Unit := client.zoom (fun _ => s) fun u _ => u

end MetadataClient

/-! ## Definitions in memory -/

namespace Registry

/-- The same definitions, however often they were asked for. -/
def Alike (r r' : Registry) : Prop := ∃ n, r' = { r with lookups := n }

theorem agree_ask {α : Type} {answer : Registry → Option α} (h : ∀ r r', Alike r r' → answer r = answer r')
    (e : MetadataError) : Agree Alike (ask answer e).run (ask answer e).run := by
  have hcount : Agree Alike (modify fun r => { r with lookups := r.lookups + 1 } : Lookup Registry PUnit).run
      (modify fun r => { r with lookups := r.lookups + 1 } : Lookup Registry PUnit).run := by
    rintro r _ ⟨n, rfl⟩
    exact ⟨rfl, n + 1, rfl⟩
  refine Agree.andThen hcount fun _ => Agree.reading fun r r' hr => ?_
  rw [h r r' hr]
  exact Agree.found _ e

/-- The answers of a registry do not change. -/
theorem client_steady : client.Agrees client Alike where
  group _ := agree_ask (by rintro r _ ⟨n, rfl⟩; rfl) _
  entity _ := agree_ask (by rintro r _ ⟨n, rfl⟩; rfl) _
  attributeOf _ _ := agree_ask (by rintro r _ ⟨n, rfl⟩; rfl) _
  relationship _ := agree_ask (by rintro r _ ⟨n, rfl⟩; rfl) _

theorem alike_ask {α : Type} (answer : Registry → Option α) (e : MetadataError) (r : Registry) :
    r.Alike ((ask answer e).run.run r).2 := by
  show r.Alike ((Lookup.found (answer { r with lookups := r.lookups + 1 }) e : Lookup Registry α).run.run
    { r with lookups := r.lookups + 1 }).2
  cases answer { r with lookups := r.lookups + 1 } <;> exact ⟨r.lookups + 1, rfl⟩

theorem Alike.trans {r₁ r₂ r₃ : Registry} : r₁.Alike r₂ → r₂.Alike r₃ → r₁.Alike r₃ := by
  rintro ⟨n, rfl⟩ ⟨m, rfl⟩
  exact ⟨m, rfl⟩

/-- A registry answers at all times as it does now. -/
theorem answersAs_frozen (r : Registry) : client.AnswersAs r (client.frozen r) := by
  refine ⟨fun r' _ => r.Alike r', ⟨?_, ?_, ?_, ?_⟩, r.lookups, rfl⟩
  · exact fun id r' _ h => ⟨(client_steady.group id r r' h).1.symm, h.trans (alike_ask _ _ r')⟩
  · exact fun id r' _ h => ⟨(client_steady.entity id r r' h).1.symm, h.trans (alike_ask _ _ r')⟩
  · exact fun entity id r' _ h => ⟨(client_steady.attributeOf entity id r r' h).1.symm, h.trans (alike_ask _ _ r')⟩
  · exact fun id r' _ h => ⟨(client_steady.relationship id r r' h).1.symm, h.trans (alike_ask _ _ r')⟩

end Registry

/-! ## Preparing and telling -/

section

variable {σ τ : Type} {client : MetadataClient σ} {client' : MetadataClient τ} {R : σ → τ → Prop}

namespace Prefetch

/-- The same has been fetched, and the states of the clients are related. -/
abbrev Fetched (R : σ → τ → Prop) (s : Definitions × σ) (t : Definitions × τ) : Prop := s.1 = t.1 ∧ R s.2 t.2

theorem agree_ask {α : Type} {q : Lookup σ α} {q' : Lookup τ α} (hq : Agree R q.run q'.run) :
    Agree (Fetched R) (ask q).run (ask q').run :=
  hq.onParts (fun _ _ h => h.2) fun _ _ h _ _ hab => ⟨h.1, hab⟩

theorem agree_definitions : Agree (Fetched R) definitions.run definitions.run :=
  fun _ _ h => ⟨congrArg Except.ok h.1, h⟩

theorem agree_put (f : Definitions → Definitions) : Agree (Fetched R) (put f).run (put f).run :=
  fun _ _ h => ⟨rfl, congrArg f h.1, h.2⟩

theorem agree_heldAttribute (h : client.Agrees client' R) (entity id : Uuid) :
    Agree (Fetched R) (heldAttribute client entity id).run (heldAttribute client' entity id).run := by
  refine Agree.andThen agree_definitions fun d => ?_
  split
  · exact Agree.pure _
  · exact Agree.andThen (agree_ask (h.attributeOf entity id)) fun _ => agree_put _

theorem agree_heldRelationship (h : client.Agrees client' R) (id : Uuid) :
    Agree (Fetched R) (heldRelationship client id).run (heldRelationship client' id).run := by
  refine Agree.andThen agree_definitions fun d => ?_
  split
  · exact Agree.pure _
  · refine Agree.andThen (agree_ask (h.relationship id)) fun r => ?_
    refine Agree.andThen (agree_heldAttribute h _ _) fun _ => ?_
    exact Agree.andThen (agree_heldAttribute h _ _) fun _ => agree_put _

theorem agree_relationships (h : client.Agrees client' R) : ∀ ids,
    Agree (Fetched R) (relationships client ids).run (relationships client' ids).run
  | [] => Agree.pure _
  | id :: ids => Agree.andThen (agree_heldRelationship h id) fun _ => agree_relationships h ids

theorem agree_attributes (h : client.Agrees client' R) : ∀ ids,
    Agree (Fetched R) (attributes client ids).run (attributes client' ids).run
  | [] => Agree.pure _
  | (entity, id) :: rest => Agree.andThen (agree_heldAttribute h entity id) fun _ => agree_attributes h rest

theorem agree_all (h : client.Agrees client' R) (c : Criteria) (entity : Uuid) :
    Agree (Fetched R) (all client c entity).run (all client' c entity).run :=
  Agree.andThen (agree_relationships h _) fun _ => Agree.andThen agree_definitions fun _ => agree_attributes h _

end Prefetch

theorem fetchGroup_run (client : MetadataClient σ) (id : Uuid) (s : σ) : (fetchGroup client id).run.run s =
    let p := (client.group id).run.run s
    (p.1.mapError fun e => if e.isNotFound then .groupNotFound id else .metadata e, p.2) := by
  obtain ⟨p, hp⟩ : ∃ p, (client.group id).run.run s = p := ⟨_, rfl⟩
  show fetchGroup client id s = _
  rw [fetchGroup, show (client.group id).run s = p from hp, hp]
  rcases p with ⟨_ | _, s'⟩ <;> rfl

theorem agree_fetchGroup (h : client.Agrees client' R) (id : Uuid) :
    Agree R (fetchGroup client id).run (fetchGroup client' id).run := by
  intro s t hst
  obtain ⟨hanswer, hstate⟩ := h.group id s t hst
  rw [fetchGroup_run, fetchGroup_run]
  dsimp only
  rw [hanswer]
  exact ⟨rfl, hstate⟩

theorem fetchDefinitions_run (client : MetadataClient σ) (rules : Criteria) (entity : Uuid) (s : σ) :
    (fetchDefinitions client rules entity).run.run s =
      let p := (Prefetch.all client rules entity).run.run (.empty, s)
      ((p.1.mapError .metadata).map fun _ => p.2.1, p.2.2) := by
  obtain ⟨p, hp⟩ : ∃ p, (Prefetch.all client rules entity).run.run (.empty, s) = p := ⟨_, rfl⟩
  show fetchDefinitions client rules entity s = _
  rw [fetchDefinitions, show (Prefetch.all client rules entity).run (.empty, s) = p from hp, hp]
  rcases p with ⟨_ | _, d, s'⟩ <;> rfl

theorem agree_fetchDefinitions (h : client.Agrees client' R) (rules : Criteria) (entity : Uuid) :
    Agree R (fetchDefinitions client rules entity).run (fetchDefinitions client' rules entity).run := by
  intro s t hst
  obtain ⟨hanswer, hfetched, hstate⟩ := Prefetch.agree_all h rules entity (.empty, s) (.empty, t) ⟨rfl, hst⟩
  rw [fetchDefinitions_run, fetchDefinitions_run]
  dsimp only
  rw [hanswer, hfetched]
  exact ⟨rfl, hstate⟩

theorem agree_prepare (h : client.Agrees client' R) (g : Group) :
    Agree R (prepare client g).run (prepare client' g).run :=
  Agree.andThen (Agree.lift _) fun _ => Agree.andThen ((h.entity _).adapt _) fun _ =>
    Agree.andThen (agree_fetchDefinitions h _ _) fun _ => Agree.pure _

theorem agree_explain (h : client.Agrees client' R) (id : Uuid) :
    Agree R (explain client id).run (explain client' id).run :=
  Agree.andThen (agree_fetchGroup h id) fun _ => Agree.andThen (agree_prepare h _) fun _ => Agree.lift _

theorem agree_triggerAll {trigger : Orchestrator σ} {trigger' : Orchestrator τ}
    (h : ∀ w, Agree R (trigger w) (trigger' w)) : ∀ ws, Agree R (triggerAll trigger ws) (triggerAll trigger' ws)
  | [] => Agree.pure _
  | w :: ws => Agree.bind (h w) fun _ => Agree.bind (agree_triggerAll h ws) fun _ => Agree.pure _

theorem agree_notify {trigger : Orchestrator σ} {trigger' : Orchestrator τ} {group : Uuid}
    (hworkflows : Agree R (client.workflows group).run (client'.workflows group).run)
    (h : ∀ w, Agree R (trigger w) (trigger' w)) :
    Agree R (notify client trigger group) (notify client' trigger' group) := by
  refine Agree.bind hworkflows fun r => ?_
  cases r with
  | error e => exact Agree.pure _
  | ok ws => exact agree_triggerAll h ws

end

end Cohort
