import Cohort.Proofs.Catalog.Questions
import Cohort.Proofs.Query.Dependence

/-!
# Criteria in another order

Rules that change places in their lists (`Criteria.Permuted`) have the same nodes in another order, so they ask for the
same definitions in another order. But an attribute that is held is not asked for again, and conditions may name
different entities to look one attribute up for: then it is the first of them that counts, and criteria may be accepted
in one order and not in another (`prefetch_order_matters_shop`).

Where this cannot happen (`Criteria.AnsweredAlike`), the order makes no difference for a client whose answers do not
change (`prefetch_order`). If one order is accepted, then whatever is asked for in the other is answered as it was there
(`Prefetch.Accepts.attribute_answered`), so the same definitions are held in the end.
-/

namespace Cohort

/-! ## Rules that change places -/

/-- The same rules in another order, in a list of rules and in those of the criteria inside them. -/
inductive Rule.Permuted : List Rule → List Rule → Prop
  | nil : Permuted [] []
  | condition {c : Condition} {rs rs' : List Rule} : Permuted rs rs' → Permuted (.condition c :: rs) (.condition c :: rs')
  | nested {i : Option Uuid} {k : Connective} {ss ss' rs rs' : List Rule} : Permuted ss ss' → Permuted rs rs' →
      Permuted (.nested ⟨i, k, ss⟩ :: rs) (.nested ⟨i, k, ss'⟩ :: rs')
  | related {id : Uuid} {i : Option Uuid} {k : Connective} {ss ss' rs rs' : List Rule} : Permuted ss ss' →
      Permuted rs rs' → Permuted (.related id ⟨i, k, ss⟩ :: rs) (.related id ⟨i, k, ss'⟩ :: rs')
  | swap {r r' : Rule} {rs : List Rule} : Permuted (r :: r' :: rs) (r' :: r :: rs)
  | trans {rs rs' rs'' : List Rule} : Permuted rs rs' → Permuted rs' rs'' → Permuted rs rs''

/-- Criteria that differ in the order of rules, at any depth. -/
structure Criteria.Permuted (c c' : Criteria) : Prop where
  /-- The entity is the same. -/
  entityId : c.entityId = c'.entityId
  /-- The connective is the same. -/
  connective : c.connective = c'.connective
  /-- The rules change places. -/
  rules : Rule.Permuted c.rules c'.rules

namespace Rule.Permuted

variable {rs rs' : List Rule}

mutual

theorem refl : ∀ rs : List Rule, Permuted rs rs
  | [] => .nil
  | r :: rs => keep r (refl rs)

/-- A rule keeps its place. -/
theorem keep {rs rs' : List Rule} : ∀ r : Rule, Permuted rs rs' → Permuted (r :: rs) (r :: rs')
  | .condition _, h => .condition h
  | .nested ⟨_, _, ss⟩, h => .nested (refl ss) h
  | .related _ ⟨_, _, ss⟩, h => .related (refl ss) h

end

/-- Rules may change places in any way. -/
theorem of_perm (h : rs.Perm rs') : Permuted rs rs' := by
  induction h with
  | nil => exact .nil
  | cons r _ ih => exact keep r ih
  | swap => exact .swap
  | trans _ _ ih ih' => exact .trans ih ih'

theorem symm (h : Permuted rs rs') : Permuted rs' rs := by
  induction h with
  | nil => exact .nil
  | condition _ ih => exact .condition ih
  | nested _ _ ihs ih => exact .nested ihs ih
  | related _ _ ihs ih => exact .related ihs ih
  | swap => exact .swap
  | trans _ _ ih ih' => exact .trans ih' ih

/-- The nodes change places. -/
theorem allNodes_perm (h : Permuted rs rs') (d : Definitions) :
    ∀ scope, (Rule.allNodes d scope rs).Perm (Rule.allNodes d scope rs') := by
  induction h with
  | nil => exact fun _ => .refl _
  | condition _ ih =>
    intro scope
    rw [Rule.allNodes, Rule.allNodes]
    exact (ih scope).append_left _
  | nested _ _ ihs ih =>
    intro scope
    rw [Rule.allNodes, Rule.allNodes, Rule.nodes, Rule.nodes]
    exact (ihs scope).append (ih scope)
  | related _ _ ihs ih =>
    intro scope
    rw [Rule.allNodes, Rule.allNodes, Rule.nodes, Rule.nodes]
    refine List.Perm.append (.cons _ ?_) (ih scope)
    split
    · exact ihs _
    · exact .refl _
  | swap =>
    intro scope
    simp only [Rule.allNodes]
    exact List.perm_append_comm_assoc _ _ _
  | trans _ _ ih ih' => exact fun scope => (ih scope).trans (ih' scope)

theorem allRelationshipIds_perm (h : Permuted rs rs') :
    (Rule.allRelationshipIds rs).Perm (Rule.allRelationshipIds rs') := by
  induction h with
  | nil => exact .refl _
  | condition _ ih =>
    rw [Rule.allRelationshipIds, Rule.allRelationshipIds]
    exact ih.append_left _
  | nested _ _ ihs ih =>
    rw [Rule.allRelationshipIds, Rule.allRelationshipIds, Rule.relationshipIds, Rule.relationshipIds]
    exact ihs.append ih
  | related _ _ ihs ih =>
    rw [Rule.allRelationshipIds, Rule.allRelationshipIds, Rule.relationshipIds, Rule.relationshipIds]
    exact (ihs.cons _).append ih
  | swap =>
    simp only [Rule.allRelationshipIds]
    exact List.perm_append_comm_assoc _ _ _
  | trans _ _ ih ih' => exact ih.trans ih'

end Rule.Permuted

namespace Criteria.Permuted

variable {c c' : Criteria}

theorem symm (h : c.Permuted c') : c'.Permuted c := ⟨h.entityId.symm, h.connective.symm, h.rules.symm⟩

theorem mem_nodes (h : c.Permuted c') {d : Definitions} {entity : Uuid} {n : Rule.Node} :
    n ∈ c.nodes d entity ↔ n ∈ c'.nodes d entity := (h.rules.allNodes_perm d entity).mem_iff

theorem mem_relationshipIds (h : c.Permuted c') {id : Uuid} :
    id ∈ c.references.relationshipIds ↔ id ∈ c'.references.relationshipIds := by
  rw [Criteria.mem_relationshipIds_references, Criteria.mem_relationshipIds_references]
  exact h.rules.allRelationshipIds_perm.mem_iff

theorem mem_wanted (h : c.Permuted c') {d : Definitions} {entity : Uuid} {p : Uuid × Uuid} :
    p ∈ d.wanted entity c ↔ p ∈ d.wanted entity c' := by
  rw [Criteria.wanted_eq, Criteria.wanted_eq, List.mem_filterMap, List.mem_filterMap]
  simp only [h.mem_nodes]

end Criteria.Permuted

/-! ## Nodes that are in order -/

/-- The attributes of a relationship, as seen from one of its ends. -/
theorem Relationship.mem_keys_of_from? {r : Relationship} {scope : Uuid} {t : Traversal} (h : r.from? scope = some t)
    {p : Uuid × Uuid} (hp : p ∈ r.keys) :
    p = (scope, t.localAttributeId) ∨ p = (t.relatedEntityId, t.relatedAttributeId) := by
  have hp : p = (r.sourceEntityId, r.sourceAttributeId) ∨ p = (r.targetEntityId, r.targetAttributeId) := by
    simpa [keys] using hp
  unfold Relationship.from? at h
  split at h
  · cases h
    rename_i hscope
    rw [hscope]
    exact hp
  · split at h
    · cases h
      rename_i hscope
      rw [hscope]
      exact hp.symm
    · cases h

mutual

/-- Where all nodes are in order, every relationship is reached. -/
theorem Rule.exists_node {d : Definitions} {id : Uuid} : ∀ (scope : Uuid) (r : Rule),
    (∀ n ∈ r.nodes d scope, n.WellFormed d) → id ∈ r.relationshipIds → ∃ scope', .relationship scope' id ∈ r.nodes d scope
  | _, .condition _, _, hid => by cases hid
  | scope, .nested ⟨_, _, rs⟩, h, hid => by
    rw [Rule.nodes] at h ⊢
    exact Rule.exists_mem_allNodes scope rs h hid
  | scope, .related k ⟨_, _, rs⟩, h, hid => by
    rw [Rule.nodes] at h ⊢
    obtain ⟨hfirst, hrest⟩ := List.forall_mem_cons.1 h
    cases hfirst with
    | @relationship _ _ r t _ _ hr ht _ _ =>
      rw [hr, Option.bind_some, ht] at hrest ⊢
      obtain rfl | hid := List.mem_cons.1 hid
      · exact ⟨scope, List.mem_cons_self⟩
      · obtain ⟨scope', hmem⟩ := Rule.exists_mem_allNodes t.relatedEntityId rs hrest hid
        exact ⟨scope', List.mem_cons_of_mem _ hmem⟩

theorem Rule.exists_mem_allNodes {d : Definitions} {id : Uuid} : ∀ (scope : Uuid) (rs : List Rule),
    (∀ n ∈ Rule.allNodes d scope rs, n.WellFormed d) → id ∈ Rule.allRelationshipIds rs →
      ∃ scope', .relationship scope' id ∈ Rule.allNodes d scope rs
  | _, [], _, hid => by cases hid
  | scope, r :: rs, h, hid => by
    rw [Rule.allNodes] at h ⊢
    obtain ⟨hr, hrs⟩ := List.forall_mem_append.1 h
    obtain hid | hid := List.mem_append.1 hid
    · exact (Rule.exists_node scope r hr hid).imp fun _ => List.mem_append_left _
    · exact (Rule.exists_mem_allNodes scope rs hrs hid).imp fun _ => List.mem_append_right _

end

/-! ## Fixed answers -/

namespace MetadataClient

/-- What a client without state answers for the attribute of an entity. -/
def attributeAnswer (fixed : MetadataClient Unit) (entity id : Uuid) : Except MetadataError Attribute :=
  ((fixed.attributeOf entity id).run.run ()).1

/-- What a client without state answers for a relationship. -/
def relationshipAnswer (fixed : MetadataClient Unit) (id : Uuid) : Except MetadataError Relationship :=
  ((fixed.relationship id).run.run ()).1

end MetadataClient

/-- The answer is that of a client without state. -/
def Asked.TrueTo (fixed : MetadataClient Unit) : Asked → Prop
  | .attribute entity id answer => fixed.attributeAnswer entity id = answer
  | .relationship id answer => fixed.relationshipAnswer id = answer

theorem MetadataClient.recorded_true (fixed : MetadataClient Unit) :
    fixed.recorded.Agrees fixed.recorded (Agree.Keeping fun t => ∀ x ∈ t.2, x.TrueTo fixed) where
  group _ := Agree.keeping fun _ h => h
  entity _ := Agree.keeping fun _ h => h
  attributeOf _ _ := Agree.keeping fun _ h => List.forall_mem_append.2 ⟨h, List.forall_mem_singleton.2 rfl⟩
  relationship _ := Agree.keeping fun _ h => List.forall_mem_append.2 ⟨h, List.forall_mem_singleton.2 rfl⟩

namespace Prefetch

/-- How a call ends that begins with no definitions, with a client without state. -/
structure Outcome (fixed : MetadataClient Unit) (c : Criteria) (entity : Uuid) (r : Except MetadataError Unit)
    (d : Definitions) (asked : List Asked) : Prop where
  /-- What was fetched is what was answered. -/
  fetches : Fetches .empty r d asked
  /-- Nothing was asked for without need. -/
  needed : ∀ x ∈ asked, x.Needed c entity d asked
  /-- The answers are those of the client. -/
  answers : ∀ x ∈ asked, x.TrueTo fixed
  /-- If all goes well, all relationships are held. -/
  relationships : r = .ok () → ∀ id ∈ c.references.relationshipIds, (d.relationship? id).isSome
  /-- If all goes well, all attributes that are wanted are held. -/
  attributes : r = .ok () → ∀ p ∈ d.wanted entity c, (d.attribute? p.2).isSome

theorem exists_outcome (fixed : MetadataClient Unit) (c : Criteria) (entity : Uuid) :
    ∃ r d asked, (all fixed c entity).run (.empty, ()) = (r, d, ()) ∧ Outcome fixed c entity r d asked := by
  obtain ⟨r, d, s, asked, hrun, h, hneeded⟩ := notes_all fixed c entity .empty () []
  rw [List.nil_append] at hrun
  have hsame := agree_all fixed.agrees_recorded c entity (.empty, (), []) (.empty, ()) ⟨rfl, rfl⟩
  have htrue := (agree_all fixed.recorded_true c entity (.empty, (), []) (.empty, (), [])
    ⟨rfl, rfl, List.forall_mem_nil _⟩).2.2.2
  have hends := leads_all fixed.recorded c entity .empty ((), [])
  rw [hrun] at hends
  rw [show (all fixed.recorded c entity).run.run (.empty, (), []) = (r, d, s, asked) from hrun] at hsame htrue
  refine ⟨r, d, asked, Prod.ext hsame.1.symm (Prod.ext hsame.2.1.symm rfl), h, hneeded, htrue, ?_, ?_⟩
  · exact fun hr => (hends.2 hr).1
  · exact fun hr => (hends.2 hr).2

namespace Outcome

variable {fixed : MetadataClient Unit} {c : Criteria} {entity : Uuid} {r : Except MetadataError Unit} {d : Definitions}
  {asked : List Asked}

theorem asked_attribute (h : Outcome fixed c entity r d asked) {id : Uuid} {a : Attribute}
    (ha : d.attribute? id = some a) : ∃ owner, .attribute owner id (.ok a) ∈ asked :=
  (h.fetches.attributes id a ha).resolve_left nofun

theorem asked_relationship (h : Outcome fixed c entity r d asked) {id : Uuid} {rel : Relationship}
    (hrel : d.relationship? id = some rel) : .relationship id (.ok rel) ∈ asked :=
  (h.fetches.relationships id rel hrel).resolve_left nofun

theorem mem_relationshipIds (h : Outcome fixed c entity r d asked) {id : Uuid}
    {answer : Except MetadataError Relationship} (hx : .relationship id answer ∈ asked) :
    id ∈ c.references.relationshipIds := by
  cases h.needed _ hx with
  | joining hjoining =>
    cases hjoining with
    | relationship hid => exact hid

end Outcome
end Prefetch

/-! ## Accepted criteria -/

/-- A relationship that is held joins by the attribute. -/
def Definitions.JoinsBy (d : Definitions) (id : Uuid) : Prop :=
  ∃ k rel, d.relationship? k = some rel ∧ ∃ p ∈ rel.keys, p.2 = id

/-- **Conditions on one attribute of the rows of one entity are answered alike**: a client says the same of the
attribute for the entities that they name, unless relationships join by it. Such an attribute is there before any
condition is looked at. -/
def Criteria.AnsweredAlike (fixed : MetadataClient Unit) (d : Definitions) (entity : Uuid) (c : Criteria) : Prop :=
  ∀ scope x y, .condition scope x ∈ c.nodes d entity → .condition scope y ∈ c.nodes d entity →
    x.attributeId = y.attributeId →
      fixed.attributeAnswer (x.entityId.getD scope) x.attributeId =
        fixed.attributeAnswer (y.entityId.getD scope) x.attributeId ∨ d.JoinsBy x.attributeId

/-- It is enough that conditions name no entity but that of the rows they are on. -/
theorem Criteria.answeredAlike_of_plain {d : Definitions} {entity : Uuid} {c : Criteria} (fixed : MetadataClient Unit)
    (h : ∀ scope x, .condition scope x ∈ c.nodes d entity → x.entityId.getD scope = scope) :
    c.AnsweredAlike fixed d entity := by
  intro scope x y hx hy _
  rw [h scope x hx, h scope y hy]
  exact .inl rfl

/-- Rules that change places stay so, also with other definitions that hold the same relationships. -/
theorem Criteria.AnsweredAlike.permuted {fixed : MetadataClient Unit} {d d' : Definitions} {entity : Uuid}
    {c c' : Criteria} (h : c.AnsweredAlike fixed d entity) (hc : c.Permuted c')
    (hsame : ∀ id, d.relationship? id = d'.relationship? id) : c'.AnsweredAlike fixed d' entity := by
  have hnodes (n : Rule.Node) (hn : n ∈ c'.nodes d' entity) : n ∈ c.nodes d entity := by
    rw [Criteria.nodes, Rule.allNodes_congr hsame]
    exact hc.mem_nodes.2 hn
  intro scope x y hx hy hid
  refine (h scope x y (hnodes _ hx) (hnodes _ hy) hid).imp_right ?_
  rintro ⟨k, rel, hrel, hkey⟩
  exact ⟨k, rel, (hsame k).symm.trans hrel, hkey⟩

namespace Prefetch

/-- A call with a client without state succeeds, and its criteria make a query. -/
structure Accepts (fixed : MetadataClient Unit) (c : Criteria) (entity : Uuid) (d : Definitions)
    (asked : List Asked) : Prop extends Outcome fixed c entity (.ok ()) d asked where
  /-- All nodes are in order. -/
  wellFormed : ∀ n ∈ c.nodes d entity, n.WellFormed d

namespace Accepts

variable {fixed : MetadataClient Unit} {c : Criteria} {entity : Uuid} {d : Definitions} {asked : List Asked}

/-- The attributes that relationships join by belong to the entities at their ends. -/
theorem key (h : Accepts fixed c entity d asked) {id : Uuid} {rel : Relationship} (hrel : d.relationship? id = some rel)
    {p : Uuid × Uuid} (hp : p ∈ rel.keys) : ∃ a, d.attribute? p.2 = some a ∧ a.entityId = p.1 := by
  have hid := Criteria.mem_relationshipIds_references.1 (h.mem_relationshipIds (h.asked_relationship hrel))
  obtain ⟨scope, hnode⟩ := Rule.exists_mem_allNodes entity c.rules h.wellFormed hid
  cases h.wellFormed _ hnode with
  | relationship hr ht hhere hthere =>
    cases hr.symm.trans hrel
    obtain rfl | rfl := Relationship.mem_keys_of_from? ht hp
    · exact ⟨_, hhere.held, hhere.scope⟩
    · exact ⟨_, hthere.held, hthere.scope⟩

/-- The attributes that are wanted belong to the entity in scope, which need not be the one that was named. -/
theorem condition (h : Accepts fixed c entity d asked) {p : Uuid × Uuid} (hp : p ∈ d.wanted entity c) :
    ∃ a x, d.attribute? p.2 = some a ∧ .condition a.entityId x ∈ c.nodes d entity ∧
      p = (x.entityId.getD a.entityId, x.attributeId) := by
  rw [Criteria.wanted_eq] at hp
  obtain ⟨n, hn, hlookup⟩ := List.mem_filterMap.1 hp
  cases n with
  | relationship => cases hlookup
  | condition scope x =>
    cases hlookup
    cases h.wellFormed _ hn with
    | condition hsubject =>
      obtain rfl := hsubject.scope
      exact ⟨_, x, hsubject.held, hn, rfl⟩

/-- An attribute that a relationship joins by was looked up for the entity that it belongs to. -/
theorem owner_of_key (h : Accepts fixed c entity d asked) {owner : Uuid} {a : Attribute} {id : Uuid} {rel : Relationship}
    {p : Uuid × Uuid} (hx : .attribute owner p.2 (.ok a) ∈ asked) (hrel : d.relationship? id = some rel)
    (hp : p ∈ rel.keys) : owner = p.1 := by
  have hheld := h.fetches.attribute_of_asked hx
  obtain ⟨b, hb, hentity⟩ := h.key hrel hp
  cases hheld.symm.trans hb
  cases h.needed _ hx with
  | joining hjoining =>
    cases hjoining with
    | key _ hrel' hq =>
      obtain ⟨b', hb', howner⟩ := h.key (h.fetches.relationship_of_asked hrel') hq
      cases hheld.symm.trans hb'
      exact howner.symm.trans hentity
  | condition _ _ hnot => exact absurd rfl (hnot id rel (h.asked_relationship hrel) p hp)

section Reordered

/-! Beside it, the outcome of a call for the same rules in another order. -/

variable {c' : Criteria} {r' : Except MetadataError Unit} {d' : Definitions} {asked' : List Asked}
  (h : Accepts fixed c entity d asked) (h' : Outcome fixed c' entity r' d' asked') (hc : c.Permuted c')

include h h' hc

/-- All questions for relationships are answered as before. -/
theorem relationship_answered {id : Uuid} {answer : Except MetadataError Relationship}
    (hx : .relationship id answer ∈ asked') : ∃ rel, answer = .ok rel ∧ d.relationship? id = some rel := by
  have hid := hc.mem_relationshipIds.2 (h'.mem_relationshipIds hx)
  obtain ⟨rel, hrel⟩ := Option.isSome_iff_exists.1 (h.relationships rfl id hid)
  exact ⟨rel, (h'.answers _ hx).symm.trans (h.answers _ (h.asked_relationship hrel)), hrel⟩

/-- Once all relationships are there, they are the same. -/
theorem relationship?_eq (hheld : ∀ id ∈ c'.references.relationshipIds, (d'.relationship? id).isSome) (id : Uuid) :
    d'.relationship? id = d.relationship? id := by
  have hsame {rel : Relationship} (hrel : d'.relationship? id = some rel) : d.relationship? id = some rel := by
    obtain ⟨rel', hanswer, hrel'⟩ := h.relationship_answered h' hc (h'.asked_relationship hrel)
    cases hanswer
    exact hrel'
  refine Option.ext fun rel => ⟨hsame, fun hrel => ?_⟩
  have hid := hc.mem_relationshipIds.1 (h.mem_relationshipIds (h.asked_relationship hrel))
  obtain ⟨rel', hrel'⟩ := Option.isSome_iff_exists.1 (hheld id hid)
  cases hrel.symm.trans (hsame hrel')
  exact hrel'

variable (halike : (∀ id, d'.relationship? id = d.relationship? id) → c.AnsweredAlike fixed d entity)

include halike

/-- **All questions for attributes are answered as before.** Those that relationships join by are asked for the same
entities; any other is asked for the entity that some condition on it names, here and there on rows of one entity. -/
theorem attribute_answered {owner id : Uuid} {answer : Except MetadataError Attribute}
    (hx : .attribute owner id answer ∈ asked') : ∃ a, answer = .ok a ∧ d.attribute? id = some a := by
  cases h'.needed _ hx with
  | joining hjoining =>
    cases hjoining with
    | key _ hrel' hp =>
      obtain ⟨rel, hanswer, hrel⟩ := h.relationship_answered h' hc hrel'
      cases hanswer
      obtain ⟨a, ha, -⟩ := h.key hrel hp
      obtain ⟨owner₀, hx₀⟩ := h.asked_attribute ha
      obtain rfl : owner₀ = owner := h.owner_of_key hx₀ hrel hp
      exact ⟨a, (h'.answers _ hx).symm.trans (h.answers _ hx₀), ha⟩
  | condition hheld hwanted hnot =>
    have hsame := h.relationship?_eq h' hc hheld
    -- no relationship joins by it, in this order or in the other
    have hfree : ∀ k rel, d.relationship? k = some rel → ∀ p ∈ rel.keys, p.2 ≠ id := fun k rel hrel =>
      hnot k rel (h'.asked_relationship ((hsame k).trans hrel))
    rw [Definitions.wanted_congr hsame, ← hc.mem_wanted] at hwanted
    obtain ⟨a, x, ha, hxnode, hxname⟩ := h.condition hwanted
    obtain ⟨owner₀, hx₀⟩ := h.asked_attribute ha
    refine ⟨a, (h'.answers _ hx).symm.trans (Eq.trans ?_ (h.answers _ hx₀)), ha⟩
    cases h.needed _ hx₀ with
    | joining hjoining =>
      cases hjoining with
      | key _ hrel hp => exact absurd rfl (hfree _ _ (h.fetches.relationship_of_asked hrel) _ hp)
    | condition _ hwanted₀ _ =>
      obtain ⟨b, y, hb, hynode, hyname⟩ := h.condition hwanted₀
      cases ha.symm.trans hb
      obtain ⟨rfl, hid⟩ := Prod.mk.inj hxname
      obtain ⟨rfl, hid₀⟩ := Prod.mk.inj hyname
      obtain hanswers | ⟨k, rel, hrel, p, hp, hpid⟩ := halike hsame a.entityId x y hxnode hynode (hid.symm.trans hid₀)
      · rwa [← hid] at hanswers
      · exact absurd (hpid.trans hid.symm) (hfree k rel hrel p hp)

/-- No question is answered by an error, so the call succeeds. -/
theorem succeeds : r' = .ok () := by
  cases r' with
  | ok _ => rfl
  | error e =>
    obtain ⟨before, last, rfl, -, hlast⟩ := h'.fetches.error e rfl
    have hmem : last ∈ before ++ [last] := List.mem_append_right _ (List.mem_singleton_self _)
    rcases last with ⟨owner, id, answer⟩ | ⟨id, answer⟩
    · obtain ⟨a, rfl, -⟩ := h.attribute_answered h' hc halike hmem
      cases hlast
    · obtain ⟨rel, rfl, -⟩ := h.relationship_answered h' hc hmem
      cases hlast

/-- The same attributes are held. -/
theorem attribute?_eq (id : Uuid) : d'.attribute? id = d.attribute? id := by
  obtain rfl := h.succeeds h' hc halike
  have hrelationships := h.relationship?_eq h' hc (h'.relationships rfl)
  have hsame {a : Attribute} (ha : d'.attribute? id = some a) : d.attribute? id = some a := by
    obtain ⟨owner, hx⟩ := h'.asked_attribute ha
    obtain ⟨a', hanswer, ha'⟩ := h.attribute_answered h' hc halike hx
    cases hanswer
    exact ha'
  refine Option.ext fun a => ⟨hsame, fun ha => ?_⟩
  have hheld : (d'.attribute? id).isSome := by
    obtain ⟨owner, hx⟩ := h.asked_attribute ha
    cases h.needed _ hx with
    | joining hjoining =>
      cases hjoining with
      | @key k _ _ rel _ _ hrel hp =>
        have hrel' := (hrelationships k).trans (h.fetches.relationship_of_asked hrel)
        exact h'.fetches.keys_of_asked (h'.asked_relationship hrel') _ hp
    | condition _ hwanted _ =>
      refine h'.attributes rfl (owner, id) ?_
      rwa [Definitions.wanted_congr hrelationships, ← hc.mem_wanted]
  obtain ⟨a', ha'⟩ := Option.isSome_iff_exists.1 hheld
  cases ha.symm.trans (hsame ha')
  exact ha'

/-- **The rules in the other order are accepted.** -/
theorem permuted : r' = .ok () ∧ ∀ n ∈ c'.nodes d' entity, n.WellFormed d' := by
  obtain rfl := h.succeeds h' hc halike
  have hrelationships := h.relationship?_eq h' hc (h'.relationships rfl)
  have hattributes := h.attribute?_eq h' hc halike
  have hquery : membershipQuery d' c' entity = membershipQuery d c' entity :=
    membershipQuery_congr ⟨fun id _ => hattributes id, fun id _ => hrelationships id,
      fun _ _ r _ => ⟨hattributes r.sourceAttributeId, hattributes r.targetAttributeId⟩⟩ entity
  obtain ⟨q, hq⟩ := (membershipQuery_settles d c' entity).ok.2 fun n hn => h.wellFormed n (hc.mem_nodes.2 hn)
  exact ⟨rfl, (membershipQuery_settles d' c' entity).ok.1 ⟨q, hquery.trans hq⟩⟩

end Reordered
end Accepts

/-! ## Calls -/

/-- A call that begins with no definitions succeeds, and the definitions that it fetches make a query for its
criteria. -/
def Call.Accepted (call : Call) : Prop :=
  (call.run .empty).1 = .ok () ∧ ∃ q, membershipQuery (call.run .empty).2 call.criteria call.entity = .ok q

variable {σ : Type} {client : MetadataClient σ} {s : σ} {fixed : MetadataClient Unit}

/-- A client whose answers do not change makes the call of one without state. -/
theorem exists_outcome_run (hfixed : client.AnswersAs s fixed) (c : Criteria) (entity : Uuid) :
    ∃ r d asked, Call.run ⟨σ, client, s, c, entity⟩ .empty = (r, d) ∧ Outcome fixed c entity r d asked := by
  obtain ⟨r, d, asked, hrun, h⟩ := exists_outcome fixed c entity
  obtain ⟨R, hagrees, hs⟩ := hfixed
  obtain ⟨hanswer, hfetched, -⟩ := agree_all hagrees c entity (.empty, s) (.empty, ()) ⟨rfl, hs⟩
  rw [show (all fixed c entity).run.run (.empty, ()) = (r, d, ()) from hrun] at hanswer hfetched
  exact ⟨r, d, asked, Prod.ext hanswer hfetched, h⟩

end Prefetch

/-- **The order of rules makes no difference where conditions on one attribute are answered alike.** Take criteria and
the same rules in another order, at any depth, and a client whose answers do not change. If conditions on one attribute
that are on rows of one entity are answered alike, a call for the one that begins with no definitions succeeds and makes
a query if and only if a call for the other does. -/
theorem prefetch_order {σ : Type} {client : MetadataClient σ} {s : σ} {fixed : MetadataClient Unit}
    (hfixed : client.AnswersAs s fixed) {c c' : Criteria} (hc : c.Permuted c') {entity : Uuid}
    (halike : c.AnsweredAlike fixed (Prefetch.Call.run ⟨σ, client, s, c, entity⟩ .empty).2 entity) :
    Prefetch.Call.Accepted ⟨σ, client, s, c, entity⟩ ↔ Prefetch.Call.Accepted ⟨σ, client, s, c', entity⟩ := by
  obtain ⟨r, d, asked, hrun, h⟩ := Prefetch.exists_outcome_run hfixed c entity
  obtain ⟨r', d', asked', hrun', h'⟩ := Prefetch.exists_outcome_run hfixed c' entity
  rw [show (Prefetch.Call.run ⟨σ, client, s, c, entity⟩ .empty).2 = d from congrArg Prod.snd hrun] at halike
  rw [Prefetch.Call.Accepted, Prefetch.Call.Accepted, hrun, hrun', (membershipQuery_settles d c entity).ok,
    (membershipQuery_settles d' c' entity).ok]
  constructor
  · rintro ⟨hr, hnodes⟩
    obtain rfl : r = .ok () := hr
    exact Prefetch.Accepts.permuted ⟨h, hnodes⟩ h' hc fun _ => halike
  · rintro ⟨hr, hnodes⟩
    obtain rfl : r' = .ok () := hr
    exact Prefetch.Accepts.permuted ⟨h', hnodes⟩ h hc.symm fun hsame => halike.permuted hc hsame

/-- Names of customers, one condition for the customers in scope and one for an entity that it names. -/
def Shop.names (entity : Uuid) : List Rule :=
  [.condition ⟨Shop.id 3, "name", none, "=", .string "ann", none⟩,
    .condition ⟨Shop.id 3, "name", some entity, "=", .string "bob", none⟩]

/-- Names of customers before and behind their orders, the second time with the entity that they belong to. -/
theorem prefetch_order_shop :
    let orders : Rule := .related (Shop.id 7) Criteria.empty
    let c : Criteria := ⟨none, .or, [.nested ⟨none, .and, Shop.names (Shop.id 1)⟩, orders]⟩
    let c' : Criteria := ⟨none, .or, [orders, .nested ⟨none, .and, (Shop.names (Shop.id 1)).reverse⟩]⟩
    let call : Criteria → Prefetch.Call := fun c => ⟨Registry, Registry.client, Shop.registry, c, Shop.id 1⟩
    c.Permuted c' ∧ Registry.client.AnswersAs Shop.registry (Registry.client.frozen Shop.registry) ∧
      c.AnsweredAlike (Registry.client.frozen Shop.registry) ((call c).run .empty).2 (Shop.id 1) ∧
      (call c).Accepted ∧ (call c').Accepted := by
  intro orders c c' call
  have hc : c.Permuted c' := ⟨rfl, rfl, .trans (.nested (.of_perm (List.reverse_perm _).symm) (.refl _)) .swap⟩
  have hfixed := Registry.answersAs_frozen Shop.registry
  have halike : c.AnsweredAlike (Registry.client.frozen Shop.registry) ((call c).run .empty).2 (Shop.id 1) := by
    have hnodes : c.nodes ((call c).run .empty).2 (Shop.id 1) =
      [.condition (Shop.id 1) ⟨Shop.id 3, "name", none, "=", .string "ann", none⟩,
        .condition (Shop.id 1) ⟨Shop.id 3, "name", some (Shop.id 1), "=", .string "bob", none⟩,
        .relationship (Shop.id 1) (Shop.id 7)] := rfl
    refine Criteria.answeredAlike_of_plain _ fun scope x hx => ?_
    rw [hnodes] at hx
    simp only [List.mem_cons, Rule.Node.condition.injEq, List.not_mem_nil, or_false, reduceCtorEq] at hx
    obtain ⟨rfl, rfl⟩ | ⟨rfl, rfl⟩ := hx <;> rfl
  have haccepted : (call c).Accepted := ⟨rfl, _, rfl⟩
  exact ⟨hc, hfixed, halike, haccepted, (prefetch_order hfixed hc halike).1 haccepted⟩

/-- **The order of rules matters** where the second of two conditions on one attribute names another entity: the
attribute is there by then. If it comes first, the attribute is looked up for that entity, which has none like it. -/
theorem prefetch_order_matters_shop :
    let c : Criteria := ⟨none, .or, Shop.names (Shop.id 2)⟩
    let c' : Criteria := ⟨none, .or, (Shop.names (Shop.id 2)).reverse⟩
    let call : Criteria → Prefetch.Call := fun c => ⟨Registry, Registry.client, Shop.registry, c, Shop.id 1⟩
    c.Permuted c' ∧ Registry.client.AnswersAs Shop.registry (Registry.client.frozen Shop.registry) ∧
      (call c).Accepted ∧ ¬(call c').Accepted :=
  ⟨⟨rfl, rfl, .swap⟩, Registry.answersAs_frozen Shop.registry, ⟨rfl, _, rfl⟩, fun h => nomatch h.1⟩

end Cohort
