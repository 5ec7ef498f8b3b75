import Cohort.Catalog.Prefetch
import Cohort.Metadata.Registry
import Cohort.Proofs.Query.WellFormed
import Cohort.Proofs.Rule.References

/-!
# Fetched definitions make queries

Whatever a client answers, fetching keeps what is held and keeps it closed: a relationship is held only together with
both attributes that it joins by (`Definitions.Closed`, `Progress`). `Leads` says how work on definitions ends; there is
one lemma for each part of fetching, up to `leads_all` for one call and `closed_runAll` for any number of them.

Fetching and building go through the same rules on rows of the same entities (`Criteria.wanted_eq`), so after a call
that succeeded no definition is missing for the query (`Node.Fault.not_missing`).
-/

namespace Cohort

/-! ## Closed definitions -/

/-- With a relationship both attributes that it joins by are held. -/
def Definitions.Closed (d : Definitions) : Prop :=
  ∀ id r, d.relationship? id = some r →
    (d.attribute? r.sourceAttributeId).isSome ∧ (d.attribute? r.targetAttributeId).isSome

/-- What is held stays as it is, and what comes is complete. -/
structure Progress (d d' : Definitions) : Prop where
  /-- The attributes stay. -/
  attributes : ∀ id a, d.attribute? id = some a → d'.attribute? id = some a
  /-- The relationships stay. -/
  relationships : ∀ id r, d.relationship? id = some r → d'.relationship? id = some r
  /-- With a relationship that comes both attributes that it joins by are held. -/
  brings : ∀ id r, d'.relationship? id = some r → d.relationship? id = some r ∨
    (d'.attribute? r.sourceAttributeId).isSome ∧ (d'.attribute? r.targetAttributeId).isSome

namespace Progress

theorem refl (d : Definitions) : Progress d d := ⟨fun _ _ => id, fun _ _ => id, fun _ _ => .inl⟩

variable {d d₁ d' : Definitions}

theorem holdsAttribute (h : Progress d d') {id : Uuid} (hid : (d.attribute? id).isSome) :
    (d'.attribute? id).isSome := by
  obtain ⟨a, ha⟩ := Option.isSome_iff_exists.1 hid
  rw [h.attributes id a ha, Option.isSome_some]

theorem holdsRelationship (h : Progress d d') {id : Uuid} (hid : (d.relationship? id).isSome) :
    (d'.relationship? id).isSome := by
  obtain ⟨r, hr⟩ := Option.isSome_iff_exists.1 hid
  rw [h.relationships id r hr, Option.isSome_some]

theorem trans (h : Progress d d₁) (h' : Progress d₁ d') : Progress d d' := by
  refine ⟨fun id a ha => h'.attributes id a (h.attributes id a ha),
    fun id r hr => h'.relationships id r (h.relationships id r hr), fun id r hr => ?_⟩
  obtain hr | hheld := h'.brings id r hr
  · exact (h.brings id r hr).imp_right fun hheld => hheld.imp h'.holdsAttribute h'.holdsAttribute
  · exact .inr hheld

/-- Closed definitions stay closed. -/
theorem closed (h : Progress d d') (hd : d.Closed) : d'.Closed := by
  intro id r hr
  obtain hr | hheld := h.brings id r hr
  · exact (hd id r hr).imp h.holdsAttribute h.holdsAttribute
  · exact hheld

end Progress

namespace Definitions

variable {d : Definitions}

theorem attribute?_withAttribute (id k : Uuid) (a : Attribute) :
    (d.withAttribute id a).attribute? k = if k = id then some a else d.attribute? k := Table.get?_insert _ _ _ _

theorem relationship?_withRelationship (id k : Uuid) (r : Relationship) :
    (d.withRelationship id r).relationship? k = if k = id then some r else d.relationship? k :=
  Table.get?_insert _ _ _ _

/-- One more attribute harms nothing. -/
theorem progress_withAttribute {id : Uuid} (hid : d.attribute? id = none) (a : Attribute) :
    Progress d (d.withAttribute id a) := by
  have hkept : ∀ k b, d.attribute? k = some b → (d.withAttribute id a).attribute? k = some b := by
    intro k b hk
    rw [attribute?_withAttribute, if_neg, hk]
    rintro rfl
    rw [hid] at hk
    cases hk
  exact ⟨hkept, fun _ _ h => h, fun _ _ h => .inl h⟩

/-- One more relationship needs its two attributes. -/
theorem progress_withRelationship {id : Uuid} {r : Relationship} (hid : d.relationship? id = none)
    (hsource : (d.attribute? r.sourceAttributeId).isSome) (htarget : (d.attribute? r.targetAttributeId).isSome) :
    Progress d (d.withRelationship id r) := by
  refine ⟨fun _ _ h => h, fun k r' hk => ?_, fun k r' hk => ?_⟩
  · rw [relationship?_withRelationship, if_neg, hk]
    rintro rfl
    rw [hid] at hk
    cases hk
  · rw [relationship?_withRelationship] at hk
    split at hk
    · cases hk
      exact .inr ⟨hsource, htarget⟩
    · exact .inl hk

end Definitions

/-! ## The same rules on the same rows -/

/-- The attribute that a node speaks of by itself, with the entity that it is looked up for. -/
def Rule.Node.lookup? : Rule.Node → Option (Uuid × Uuid)
  | .condition scope c => some (c.entityId.getD scope, c.attributeId)
  | .relationship _ _ => none

/-- The relationship that a node follows. -/
def Rule.Node.relationshipId? : Rule.Node → Option Uuid
  | .condition _ _ => none
  | .relationship _ id => some id

mutual

/-- What a rule wants is what its nodes look up. -/
theorem Rule.wantedRule_eq (d : Definitions) : ∀ (scope : Uuid) (r : Rule),
    d.wantedRule scope r = (r.nodes d scope).filterMap Node.lookup?
  | scope, .condition c => by
    rw [Definitions.wantedRule, Rule.nodes]
    rfl
  | scope, .nested ⟨_, _, rs⟩ => by
    rw [Definitions.wantedRule, Definitions.wanted, Rule.nodes]
    exact Rule.wantedRules_eq d scope rs
  | scope, .related id ⟨_, _, rs⟩ => by
    rw [Definitions.wantedRule, Rule.nodes, List.filterMap_cons_none rfl]
    cases (d.relationship? id).bind fun r => r.from? scope with
    | some t =>
      dsimp only
      rw [Definitions.wanted]
      exact Rule.wantedRules_eq d t.relatedEntityId rs
    | none => rfl

/-- **What is wanted is what the nodes look up**, in document order. -/
theorem Rule.wantedRules_eq (d : Definitions) : ∀ (scope : Uuid) (rs : List Rule),
    d.wantedRules scope rs = (Rule.allNodes d scope rs).filterMap Node.lookup?
  | scope, [] => by
    rw [Definitions.wantedRules, Rule.allNodes]
    rfl
  | scope, r :: rs => by
    rw [Definitions.wantedRules, Rule.allNodes, List.filterMap_append, Rule.wantedRule_eq d scope r,
      Rule.wantedRules_eq d scope rs]

end

theorem Criteria.wanted_eq (d : Definitions) (entity : Uuid) (c : Criteria) :
    d.wanted entity c = (c.nodes d entity).filterMap Rule.Node.lookup? := by
  obtain ⟨_, _, rs⟩ := c
  exact Rule.wantedRules_eq d entity rs

mutual

theorem Rule.nodes_congr {d d' : Definitions} (h : ∀ id, d'.relationship? id = d.relationship? id) :
    ∀ (scope : Uuid) (r : Rule), r.nodes d' scope = r.nodes d scope
  | scope, .condition c => by
    rw [Rule.nodes, Rule.nodes]
  | scope, .nested ⟨_, _, rs⟩ => by
    rw [Rule.nodes, Rule.nodes, Rule.allNodes_congr h scope rs]
  | scope, .related id ⟨_, _, rs⟩ => by
    rw [Rule.nodes, Rule.nodes, h id]
    split
    · rw [Rule.allNodes_congr h _ rs]
    · rfl

/-- Which nodes rules have depends on the relationships at hand alone. -/
theorem Rule.allNodes_congr {d d' : Definitions} (h : ∀ id, d'.relationship? id = d.relationship? id) :
    ∀ (scope : Uuid) (rs : List Rule), Rule.allNodes d' scope rs = Rule.allNodes d scope rs
  | scope, [] => by
    rw [Rule.allNodes, Rule.allNodes]
  | scope, r :: rs => by
    rw [Rule.allNodes, Rule.allNodes, Rule.nodes_congr h scope r, Rule.allNodes_congr h scope rs]

end

theorem Definitions.wanted_congr {d d' : Definitions} (h : ∀ id, d'.relationship? id = d.relationship? id)
    {scope : Uuid} {c : Criteria} : d'.wanted scope c = d.wanted scope c := by
  rw [Criteria.wanted_eq, Criteria.wanted_eq, Criteria.nodes, Criteria.nodes, Rule.allNodes_congr h]

/-! ## Fetching -/

namespace Prefetch

variable {σ α β : Type}

/-- Begun with these definitions, the work ends in a result and in definitions as described, whatever the client
answers. -/
def Leads (work : Prefetch σ α) (d : Definitions) (post : Except MetadataError α → Definitions → Prop) : Prop :=
  ∀ s, post (work.run (d, s)).1 (work.run (d, s)).2.1

namespace Leads

variable {d : Definitions} {post post' : Except MetadataError α → Definitions → Prop}

theorem mono {work : Prefetch σ α} (h : Leads work d post) (hpost : ∀ r d', post r d' → post' r d') :
    Leads work d post' := fun s => hpost _ _ (h s)

theorem pure {a : α} (h : post (.ok a) d) : Leads (σ := σ) (Pure.pure a) d post := fun _ => h

/-- Work goes on where other work has ended, unless that has failed. -/
theorem bind {x : Prefetch σ α} {f : α → Prefetch σ β} {post : Except MetadataError β → Definitions → Prop}
    {mid : Except MetadataError α → Definitions → Prop} (hx : Leads x d mid)
    (hok : ∀ a d₁, mid (.ok a) d₁ → Leads (f a) d₁ post) (herror : ∀ e d₁, mid (.error e) d₁ → post (.error e) d₁) :
    Leads (x >>= f) d post := by
  intro s
  have h := hx s
  revert h
  show _ → (fun p : Except MetadataError β × Definitions × σ => post p.1 p.2.1)
    (ExceptT.bindCont f (x.run (d, s)).1 (x.run (d, s)).2)
  rcases x.run (d, s) with ⟨_ | a, d₁, s₁⟩
  · exact herror _ _
  · exact fun h => hok _ _ h s₁

/-- A question may be answered by anything, and leaves the definitions as they are. -/
theorem ask {q : Lookup σ α} : Leads (Prefetch.ask q) d fun _ d' => d' = d := fun _ => rfl

theorem definitions_bind {f : Definitions → Prefetch σ α} (h : Leads (f d) d post) :
    Leads (definitions >>= f) d post := fun s => h s

theorem put {f : Definitions → Definitions} {post : Except MetadataError Unit → Definitions → Prop}
    (h : post (.ok ()) (f d)) : Leads (σ := σ) (Prefetch.put f) d post := fun _ => h

end Leads

variable (client : MetadataClient σ)

/-- What fetching attributes ends in: nothing has come to harm, and it has got what it was for unless it failed. -/
structure Gets (d : Definitions) (ids : List Uuid) (r : Except MetadataError Unit) (d' : Definitions) : Prop where
  /-- What was held is held. -/
  progress : Progress d d'
  /-- No relationship came or went. -/
  relationships : d'.relationships = d.relationships
  /-- All attributes are held. -/
  held : r = .ok () → ∀ id ∈ ids, (d'.attribute? id).isSome

theorem Gets.relationship?_eq {d d' : Definitions} {ids : List Uuid} {r : Except MetadataError Unit}
    (h : Gets d ids r d') (id : Uuid) : d'.relationship? id = d.relationship? id := by
  rw [Definitions.relationship?, Definitions.relationship?, h.relationships]

theorem leads_heldAttribute (entity id : Uuid) (d : Definitions) :
    Leads (heldAttribute client entity id) d (Gets d [id]) := by
  refine Leads.definitions_bind ?_
  split
  · rename_i hid
    exact Leads.pure ⟨.refl d, rfl, fun _ => List.forall_mem_singleton.2 hid⟩
  · rename_i hid
    have hnone : d.attribute? id = none := Option.not_isSome_iff_eq_none.1 hid
    refine Leads.bind Leads.ask ?_ ?_
    · rintro a d₁ rfl
      refine Leads.put ⟨Definitions.progress_withAttribute hnone a, rfl, fun _ => ?_⟩
      rw [List.forall_mem_singleton, Definitions.attribute?_withAttribute, if_pos rfl, Option.isSome_some]
    · rintro e d₁ rfl
      exact ⟨.refl d₁, rfl, fun h => by cases h⟩

theorem leads_attributes : ∀ (wanted : List (Uuid × Uuid)) (d : Definitions),
    Leads (attributes client wanted) d (Gets d (wanted.map (·.2)))
  | [], d => Leads.pure ⟨.refl d, rfl, fun _ => List.forall_mem_nil _⟩
  | (entity, id) :: rest, d => by
    refine Leads.bind (leads_heldAttribute client entity id d) ?_ ?_
    · intro _ d₁ h₁
      refine (leads_attributes rest d₁).mono fun r d' h => ⟨h₁.progress.trans h.progress, ?_, fun hr => ?_⟩
      · rw [h.relationships, h₁.relationships]
      · exact List.forall_mem_cons.2
          ⟨h.progress.holdsAttribute (h₁.held rfl id List.mem_cons_self), h.held hr⟩
    · intro e d₁ h₁
      exact ⟨h₁.progress, h₁.relationships, fun h => by cases h⟩

theorem leads_heldRelationship (id : Uuid) (d : Definitions) :
    Leads (heldRelationship client id) d fun r d' => Progress d d' ∧ (r = .ok () → (d'.relationship? id).isSome) := by
  refine Leads.definitions_bind ?_
  split
  · rename_i hid
    exact Leads.pure ⟨.refl d, fun _ => hid⟩
  · rename_i hid
    have hnone : d.relationship? id = none := Option.not_isSome_iff_eq_none.1 hid
    refine Leads.bind Leads.ask ?_ ?_
    · rintro r d₁ rfl
      refine Leads.bind (leads_heldAttribute client r.sourceEntityId r.sourceAttributeId d₁) ?_ ?_
      · intro _ d₂ h₂
        refine Leads.bind (leads_heldAttribute client r.targetEntityId r.targetAttributeId d₂) ?_ ?_
        · intro _ d₃ h₃
          -- the relationship is put down last, when both of its attributes are there
          have hsource := h₃.progress.holdsAttribute (h₂.held rfl _ List.mem_cons_self)
          have htarget := h₃.held rfl _ List.mem_cons_self
          have hnone₃ : d₃.relationship? id = none := by
            rw [Definitions.relationship?, h₃.relationships, h₂.relationships]
            exact hnone
          have hput := Definitions.progress_withRelationship hnone₃ hsource htarget
          refine Leads.put ⟨(h₂.progress.trans h₃.progress).trans hput, fun _ => ?_⟩
          rw [Definitions.relationship?_withRelationship, if_pos rfl, Option.isSome_some]
        · intro e d₃ h₃
          exact ⟨h₂.progress.trans h₃.progress, fun h => by cases h⟩
      · intro e d₂ h₂
        exact ⟨h₂.progress, fun h => by cases h⟩
    · rintro e d₁ rfl
      exact ⟨.refl d₁, fun h => by cases h⟩

theorem leads_relationships : ∀ (ids : List Uuid) (d : Definitions),
    Leads (relationships client ids) d fun r d' =>
      Progress d d' ∧ (r = .ok () → ∀ id ∈ ids, (d'.relationship? id).isSome)
  | [], d => Leads.pure ⟨.refl d, fun _ => List.forall_mem_nil _⟩
  | id :: ids, d => by
    refine Leads.bind (leads_heldRelationship client id d) ?_ ?_
    · rintro _ d₁ ⟨hp₁, hid⟩
      refine (leads_relationships ids d₁).mono ?_
      rintro r d' ⟨hp, hids⟩
      exact ⟨hp₁.trans hp, fun hr => List.forall_mem_cons.2 ⟨hp.holdsRelationship (hid rfl), hids hr⟩⟩
    · rintro e d₁ ⟨hp₁, _⟩
      exact ⟨hp₁, fun h => by cases h⟩

/-- **What one call ends in.** -/
theorem leads_all (c : Criteria) (entity : Uuid) (d : Definitions) :
    Leads (all client c entity) d fun r d' => Progress d d' ∧ (r = .ok () →
      (∀ id ∈ c.references.relationshipIds, (d'.relationship? id).isSome) ∧
      ∀ p ∈ d'.wanted entity c, (d'.attribute? p.2).isSome) := by
  refine Leads.bind (leads_relationships client _ d) ?_ ?_
  · rintro _ d₁ ⟨hp₁, hids⟩
    refine Leads.definitions_bind ((leads_attributes client _ d₁).mono fun r d' h => ?_)
    refine ⟨hp₁.trans h.progress, fun hr => ?_⟩
    refine ⟨fun id hid => h.progress.holdsRelationship (hids rfl id hid), fun p hp => ?_⟩
    rw [Definitions.wanted_congr h.relationship?_eq] at hp
    exact h.held hr _ (List.mem_map_of_mem hp)
  · rintro e d₁ ⟨hp₁, _⟩
    exact ⟨hp₁, fun h => by cases h⟩

/-! ## Calls -/

/-- A call for what criteria on rows of an entity need, with a client of its own. -/
structure Call where
  /-- What the client knows of. -/
  State : Type
  /-- The client. -/
  client : MetadataClient State
  /-- What it knows. -/
  state : State
  /-- The criteria. -/
  criteria : Criteria
  /-- The entity. -/
  entity : Uuid

/-- The result of a call, and the definitions at hand after it. -/
def Call.run (call : Call) (d : Definitions) : Except MetadataError Unit × Definitions :=
  let (r, d', _) := (all call.client call.criteria call.entity).run (d, call.state)
  (r, d')

/-- The definitions at hand after some calls, the first of which begins with none. -/
def runAll (calls : List Call) : Definitions := calls.foldl (fun d call => (call.run d).2) .empty

theorem Call.progress (call : Call) (d : Definitions) : Progress d (call.run d).2 :=
  (leads_all call.client call.criteria call.entity d call.state).1

theorem closed_empty : Definitions.empty.Closed := fun _ _ h => by cases h

/-- **Whatever has been fetched is closed**, also after calls that failed. -/
theorem closed_runAll (calls : List Call) : (runAll calls).Closed := by
  have key : ∀ (calls : List Call) (d : Definitions), d.Closed →
      (calls.foldl (fun d call => (call.run d).2) d).Closed := by
    intro calls
    induction calls with
    | nil => exact fun d hd => hd
    | cons call calls ih => exact fun d hd => ih _ ((call.progress d).closed hd)
  exact key calls _ closed_empty

end Prefetch

/-! ## Fetching and building -/

namespace Rule.Node

/-- With definitions that are closed and hold what a node speaks of, its fault is no missing definition. -/
theorem Fault.not_missing {d : Definitions} {n : Node} {e : RuleError} (h : n.Fault d e) (hd : d.Closed)
    (hattribute : ∀ p, n.lookup? = some p → (d.attribute? p.2).isSome)
    (hrelationship : ∀ id, n.relationshipId? = some id → (d.relationship? id).isSome) (id : Uuid) :
    e ≠ .attributeNotFound id ∧ e ≠ .relationshipNotFound id := by
  have hfault : ∀ {k scope e}, d.AttributeFault k scope e → (d.attribute? k).isSome →
      e ≠ .attributeNotFound id ∧ e ≠ .relationshipNotFound id := by
    intro k scope e he hk
    cases he with
    | notHeld hnone =>
      rw [hnone] at hk
      cases hk
    | foreign => exact ⟨nofun, nofun⟩
    | unsafeName => exact ⟨nofun, nofun⟩
  have hends : ∀ {k r scope t}, d.relationship? k = some r → r.from? scope = some t →
      (d.attribute? t.localAttributeId).isSome ∧ (d.attribute? t.relatedAttributeId).isSome := by
    intro k r scope t hr ht
    obtain ⟨hsource, htarget⟩ := hd k r hr
    rcases Relationship.from?_attributes ht with ⟨hl, hrel⟩ | ⟨hl, hrel⟩
    · rw [hl, hrel]
      exact ⟨hsource, htarget⟩
    · rw [hl, hrel]
      exact ⟨htarget, hsource⟩
  cases h with
  | subject he => exact hfault he (hattribute _ rfl)
  | operator => exact ⟨nofun, nofun⟩
  | value => exact ⟨nofun, nofun⟩
  | notHeld hnone =>
    have := hrelationship _ rfl
    rw [hnone] at this
    cases this
  | foreign => exact ⟨nofun, nofun⟩
  | localKey hr ht he => exact hfault he (hends hr ht).1
  | relatedKey hr ht _ he => exact hfault he (hends hr ht).2

end Rule.Node

mutual

theorem Rule.nodes_sublist (d : Definitions) : ∀ (scope : Uuid) (r : Rule),
    ((r.nodes d scope).filterMap Node.relationshipId?).Sublist r.relationshipIds
  | scope, .condition c => by
    rw [Rule.nodes]
    exact List.nil_sublist _
  | scope, .nested ⟨_, _, rs⟩ => by
    rw [Rule.nodes, Rule.relationshipIds]
    exact Rule.allNodes_sublist d scope rs
  | scope, .related id ⟨_, _, rs⟩ => by
    rw [Rule.nodes, Rule.relationshipIds]
    refine List.Sublist.cons_cons id ?_
    cases (d.relationship? id).bind fun r => r.from? scope with
    | some t => exact Rule.allNodes_sublist d t.relatedEntityId rs
    | none => exact List.nil_sublist _

/-- The nodes follow relationships that the rules refer to. -/
theorem Rule.allNodes_sublist (d : Definitions) : ∀ (scope : Uuid) (rs : List Rule),
    ((Rule.allNodes d scope rs).filterMap Node.relationshipId?).Sublist (Rule.allRelationshipIds rs)
  | scope, [] => by
    rw [Rule.allNodes]
    exact List.nil_sublist _
  | scope, r :: rs => by
    rw [Rule.allNodes, Rule.allRelationshipIds, List.filterMap_append]
    exact (Rule.nodes_sublist d scope r).append (Rule.allNodes_sublist d scope rs)

end

/-- With closed definitions that hold what criteria want and refer to, no definition is missing for their query. -/
theorem membershipQuery_not_missing {d : Definitions} {c : Criteria} {entity : Uuid} (hd : d.Closed)
    (hrelationships : ∀ id ∈ c.references.relationshipIds, (d.relationship? id).isSome)
    (hattributes : ∀ p ∈ d.wanted entity c, (d.attribute? p.2).isSome) {e : RuleError}
    (h : membershipQuery d c entity = .error e) (id : Uuid) :
    e ≠ .attributeNotFound id ∧ e ≠ .relationshipNotFound id := by
  obtain ⟨before, n, after, hnodes, _, hfault⟩ := ((membershipQuery_settles d c entity).error e).1 h
  have hn : n ∈ c.nodes d entity := by
    rw [hnodes]
    exact List.mem_append_right _ List.mem_cons_self
  refine hfault.not_missing hd ?_ ?_ id
  · intro p hp
    refine hattributes p ?_
    rw [Criteria.wanted_eq]
    exact List.mem_filterMap.2 ⟨n, hn, hp⟩
  · intro k hk
    have hmem : k ∈ Rule.allRelationshipIds c.rules :=
      (Rule.allNodes_sublist d entity c.rules).subset (List.mem_filterMap.2 ⟨n, hn, hk⟩)
    exact hrelationships k (Criteria.mem_relationshipIds_references.2 hmem)

/-- **Fetching and building agree on what is needed.** Take any calls for what criteria need, one after the other,
beginning with no definitions, each with any client. After each of them, whether it failed or not, every relationship
that is held is held together with both attributes that it joins by; and if the call did not fail, the query for its
criteria does not fail for a missing attribute or a missing relationship. -/
theorem prefetch_provides (earlier : List Prefetch.Call) (call : Prefetch.Call) :
    let after := call.run (Prefetch.runAll earlier)
    (∀ id rel, after.2.relationship? id = some rel →
      (after.2.attribute? rel.sourceAttributeId).isSome ∧ (after.2.attribute? rel.targetAttributeId).isSome) ∧
    (after.1 = .ok () → ∀ id, membershipQuery after.2 call.criteria call.entity ≠ .error (.attributeNotFound id) ∧
      membershipQuery after.2 call.criteria call.entity ≠ .error (.relationshipNotFound id)) := by
  intro after
  have hclosed : after.2.Closed := (call.progress _).closed (Prefetch.closed_runAll earlier)
  refine ⟨hclosed, fun hr id => ?_⟩
  obtain ⟨hrelationships, hattributes⟩ := (Prefetch.leads_all call.client call.criteria call.entity
    (Prefetch.runAll earlier) call.state).2 hr
  constructor
  · intro h
    exact (membershipQuery_not_missing hclosed hrelationships hattributes h id).1 rfl
  · intro h
    exact (membershipQuery_not_missing hclosed hrelationships hattributes h id).2 rfl

/-- The definitions of the shop in memory. -/
def Shop.registry : Registry :=
  { Registry.empty with attributes := Shop.definitions.attributes, relationships := Shop.definitions.relationships }

/-- A call that fails for an unknown attribute, after it has fetched a relationship, and one that does not fail. -/
theorem prefetch_provides_shop :
    let failing : Prefetch.Call := ⟨Registry, Registry.client, Shop.registry,
      ⟨none, .or, [.condition ⟨Shop.id 9, "", none, "=", .null, none⟩, .related (Shop.id 7) Criteria.empty]⟩, Shop.id 1⟩
    let call : Prefetch.Call := ⟨Registry, Registry.client, Shop.registry, Shop.criteria "ann" ["10"], Shop.id 1⟩
    let after := call.run (Prefetch.runAll [failing])
    (failing.run .empty).1.isOk = false ∧ ((Prefetch.runAll [failing]).relationship? (Shop.id 7)).isSome ∧
      after.1 = .ok () ∧
      ∀ id, membershipQuery after.2 call.criteria call.entity ≠ .error (.attributeNotFound id) := by
  intro failing call after
  have hr : after.1 = .ok () := rfl
  exact ⟨rfl, rfl, hr, fun id => ((prefetch_provides [failing] call).2 hr id).1⟩

end Cohort
