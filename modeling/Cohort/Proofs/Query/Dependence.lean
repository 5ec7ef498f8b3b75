import Cohort.Proofs.Query.Derivation
import Cohort.Proofs.Query.Resolution
import Cohort.Proofs.Rule.References

/-!
# What a query depends on

Building looks definitions up at the identifiers that the rules refer to, and attributes at the two that a relationship
found there joins by (`Definitions.join_congr`). So definitions that agree there (`Definitions.AgreeOn`) are the same for
every run of a builder over the rules, refused or not (`Builder.rules_congr`), and make the same query or have the same
fault (`membershipQuery_dependence`).
-/

namespace Cohort

/-! ## Definitions that agree -/

/-- The same is held under some identifiers, and under those of the attributes that the relationships among them join
by. -/
structure Definitions.AgreeOn (d d' : Definitions) (refs : References) : Prop where
  /-- The same attributes. -/
  attributes : ∀ id ∈ refs.attributeIds, d.attribute? id = d'.attribute? id
  /-- The same relationships. -/
  relationships : ∀ id ∈ refs.relationshipIds, d.relationship? id = d'.relationship? id
  /-- The same attributes to join by. -/
  keys : ∀ id ∈ refs.relationshipIds, ∀ r, d.relationship? id = some r →
    d.attribute? r.sourceAttributeId = d'.attribute? r.sourceAttributeId ∧
      d.attribute? r.targetAttributeId = d'.attribute? r.targetAttributeId

namespace Definitions

variable {d d' : Definitions}

theorem AgreeOn.mono {refs refs' : References} (h : d.AgreeOn d' refs)
    (hattributes : refs'.attributeIds ⊆ refs.attributeIds)
    (hrelationships : refs'.relationshipIds ⊆ refs.relationshipIds) : d.AgreeOn d' refs' where
  attributes id hid := h.attributes id (hattributes hid)
  relationships id hid := h.relationships id (hrelationships hid)
  keys id hid := h.keys id (hrelationships hid)

theorem usable_congr {id : Uuid} (h : d.attribute? id = d'.attribute? id) (scope : Uuid) :
    d.usable id scope = d'.usable id scope := by
  rw [usable, usable, Definitions.scoped, Definitions.scoped, h]

/-- A join is found in the relationship and in the two attributes that it joins by. -/
theorem join_congr {id : Uuid} (hrelationship : d.relationship? id = d'.relationship? id)
    (hkeys : ∀ r, d.relationship? id = some r → d.attribute? r.sourceAttributeId = d'.attribute? r.sourceAttributeId ∧
      d.attribute? r.targetAttributeId = d'.attribute? r.targetAttributeId) (scope : Uuid) :
    d.join scope id = d'.join scope id := by
  rw [join, join, ← hrelationship]
  cases hr : d.relationship? id with
  | none => rfl
  | some r =>
    dsimp only
    cases ht : r.from? scope with
    | none => rfl
    | some t =>
      obtain ⟨hsource, htarget⟩ := hkeys r hr
      dsimp only
      rcases Relationship.from?_attributes ht with ⟨hl, hrel⟩ | ⟨hl, hrel⟩
      · rw [hl, hrel, usable_congr hsource, usable_congr htarget]
      · rw [hl, hrel, usable_congr hsource, usable_congr htarget]

end Definitions

theorem Condition.resolve_congr {d d' : Definitions} {c : Condition}
    (h : d.attribute? c.attributeId = d'.attribute? c.attributeId) (scope : Uuid) :
    c.resolve d scope = c.resolve d' scope := by
  rw [Condition.resolve, Condition.resolve, Definitions.usable_congr h]

/-! ## Building -/

namespace Builder

variable {d d' : Definitions}

mutual

/-- **Definitions that agree on what rules refer to are the same for every run over the rules.** -/
theorem rules_congr (row : Alias) (scope : Uuid) : ∀ rs : List Rule,
    d.AgreeOn d' ⟨Rule.allAttributeIds rs, Rule.allRelationshipIds rs⟩ → rules d row scope rs = rules d' row scope rs
  | [], _ => by
    rw [rules, rules]
  | r :: rs, h => by
    have hr := rule_congr row scope r (h.mono (List.subset_append_left _ _) (List.subset_append_left _ _))
    have hrs := rules_congr row scope rs (h.mono (List.subset_append_right _ _) (List.subset_append_right _ _))
    rw [rules, rules, hr, hrs]

theorem rule_congr (row : Alias) (scope : Uuid) : ∀ r : Rule,
    d.AgreeOn d' ⟨r.attributeIds, r.relationshipIds⟩ → rule d row scope r = rule d' row scope r
  | .condition c, h => by
    rw [rule, rule, Condition.resolve_congr (h.attributes _ (List.mem_singleton_self _))]
  | .nested ⟨_, k, rs⟩, h => by
    rw [rule, rule, rules_congr row scope rs h]
  | .related id ⟨_, k, rs⟩, h => by
    have hid : id ∈ id :: Rule.allRelationshipIds rs := List.mem_cons_self
    have hrs (row : Alias) (scope : Uuid) : rules d row scope rs = rules d' row scope rs :=
      rules_congr row scope rs (h.mono (List.Subset.refl _) (List.subset_cons_self _ _))
    rw [rule, rule, Definitions.join_congr (h.relationships _ hid) (h.keys _ hid)]
    simp only [hrs]

end

end Builder

/-! ## Queries -/

theorem membershipQuery_congr {d d' : Definitions} {c : Criteria}
    (h : d.AgreeOn d' ⟨Rule.allAttributeIds c.rules, Rule.allRelationshipIds c.rules⟩) (entity : Uuid) :
    membershipQuery d c entity = membershipQuery d' c entity := by
  rw [membershipQuery_eq, membershipQuery_eq, Builder.clause, Builder.clause, Builder.rules_congr _ _ _ h]

/-- **A query depends on nothing but what its criteria refer to.** Definitions that agree on all attributes and
relationships that criteria refer to, and on the two attributes that each such relationship joins by if it is held, make
the same query for the criteria, with the same text and parameters, or refuse them with the same error. -/
theorem membershipQuery_dependence {d d' : Definitions} {c : Criteria} (h : d.AgreeOn d' c.references) (entity : Uuid) :
    membershipQuery d c entity = membershipQuery d' c entity := by
  refine membershipQuery_congr (h.mono ?_ ?_) entity
  · exact fun id hid => Criteria.mem_attributeIds_references.2 hid
  · exact fun id hid => Criteria.mem_relationshipIds_references.2 hid

/-- The query for customers of a shop does not change when another name and another relationship become known. -/
theorem membershipQuery_dependence_shop :
    let d := (Shop.definitions.withAttribute (Shop.id 9) ⟨Shop.id 9, Shop.id 1, "name'; --", .text⟩).withRelationship
      (Shop.id 8) ⟨Shop.id 8, "friends", Shop.id 1, Shop.id 9, Shop.id 1, Shop.id 4, .oneToOne⟩
    Shop.definitions.AgreeOn d (Shop.criteria "ann" ["10"]).references ∧
      (membershipQuery Shop.definitions (Shop.criteria "ann" ["10"]) (Shop.id 1)).isOk ∧
      membershipQuery Shop.definitions (Shop.criteria "ann" ["10"]) (Shop.id 1) =
        membershipQuery d (Shop.criteria "ann" ["10"]) (Shop.id 1) := by
  intro d
  have hagree : Shop.definitions.AgreeOn d (Shop.criteria "ann" ["10"]).references := by
    have hattributes : (Shop.criteria "ann" ["10"]).references.attributeIds = [Shop.id 3, Shop.id 6] := rfl
    have hrelationships : (Shop.criteria "ann" ["10"]).references.relationshipIds = [Shop.id 7] := rfl
    constructor
    · rw [hattributes]
      exact List.forall_mem_cons.2 ⟨rfl, List.forall_mem_singleton.2 rfl⟩
    · rw [hrelationships]
      exact List.forall_mem_singleton.2 rfl
    · rw [hrelationships]
      refine List.forall_mem_singleton.2 fun r hr => ?_
      cases hr
      exact ⟨rfl, rfl⟩
  exact ⟨hagree, by decide +kernel, membershipQuery_dependence hagree (Shop.id 1)⟩

end Cohort
