import Cohort.Rule.References

/-!
# The references of a rule tree

`Rule.allAttributeIds` and `Rule.allRelationshipIds` go through rules in document order and list what they refer to at
each place where they do. Collecting references adds these one after the other (`References.ofRules_eq`), so a tree
refers to exactly what occurs in it (`Criteria.mem_attributeIds_references`,
`Criteria.mem_relationshipIds_references`).
-/

namespace Cohort

/-! ## Occurrences -/

mutual

/-- The attributes of the conditions of a rule, in document order. -/
def Rule.attributeIds : Rule → List Uuid
  | .condition c => [c.attributeId]
  | .nested ⟨_, _, rs⟩ => Rule.allAttributeIds rs
  | .related _ ⟨_, _, rs⟩ => Rule.allAttributeIds rs

/-- The attributes of the conditions of rules, in document order. -/
def Rule.allAttributeIds : List Rule → List Uuid
  | [] => []
  | r :: rs => r.attributeIds ++ Rule.allAttributeIds rs

end

mutual

/-- The relationships of a rule, in document order. -/
def Rule.relationshipIds : Rule → List Uuid
  | .condition _ => []
  | .nested ⟨_, _, rs⟩ => Rule.allRelationshipIds rs
  | .related id ⟨_, _, rs⟩ => id :: Rule.allRelationshipIds rs

/-- The relationships of rules, in document order. -/
def Rule.allRelationshipIds : List Rule → List Uuid
  | [] => []
  | r :: rs => r.relationshipIds ++ Rule.allRelationshipIds rs

end

/-! ## Collecting -/

namespace References

theorem mem_add {ids : List Uuid} {id k : Uuid} : id ∈ add ids k ↔ id ∈ ids ∨ id = k := by
  unfold add
  split
  · rename_i h
    constructor
    · exact .inl
    · rintro (h' | rfl)
      · exact h'
      · exact List.contains_iff_mem.1 h
  · rw [List.mem_append, List.mem_singleton]

theorem mem_foldl_add {id : Uuid} : ∀ {ks ids : List Uuid}, id ∈ ks.foldl add ids ↔ id ∈ ids ∨ id ∈ ks
  | [], ids => by simp
  | k :: ks, ids => by
    rw [List.foldl_cons, mem_foldl_add, mem_add, List.mem_cons, or_assoc]

mutual

/-- What a rule refers to is added in document order. -/
theorem ofRule_eq : ∀ (refs : References) (r : Rule), ofRule refs r =
    ⟨r.attributeIds.foldl add refs.attributeIds, r.relationshipIds.foldl add refs.relationshipIds⟩
  | refs, .condition c => by
    rw [ofRule]
    rfl
  | refs, .nested ⟨_, _, rs⟩ => by
    rw [ofRule, ofCriteria, ofRules_eq refs rs]
    rfl
  | refs, .related id ⟨_, _, rs⟩ => by
    rw [ofRule, ofCriteria, ofRules_eq _ rs]
    rfl

/-- **What rules refer to is added in document order.** -/
theorem ofRules_eq : ∀ (refs : References) (rs : List Rule), ofRules refs rs =
    ⟨(Rule.allAttributeIds rs).foldl add refs.attributeIds, (Rule.allRelationshipIds rs).foldl add refs.relationshipIds⟩
  | refs, [] => by
    rw [ofRules]
    rfl
  | refs, r :: rs => by
    rw [ofRules, ofRule_eq refs r, ofRules_eq _ rs, Rule.allAttributeIds, Rule.allRelationshipIds, List.foldl_append,
      List.foldl_append]

end

end References

theorem Criteria.references_eq (c : Criteria) : c.references =
    ⟨(Rule.allAttributeIds c.rules).foldl References.add [],
      (Rule.allRelationshipIds c.rules).foldl References.add []⟩ := by
  obtain ⟨_, _, rs⟩ := c
  rw [Criteria.references, References.ofCriteria, References.ofRules_eq]
  rfl

theorem Criteria.mem_attributeIds_references {c : Criteria} {id : Uuid} :
    id ∈ c.references.attributeIds ↔ id ∈ Rule.allAttributeIds c.rules := by
  rw [Criteria.references_eq, References.mem_foldl_add]
  simp

theorem Criteria.mem_relationshipIds_references {c : Criteria} {id : Uuid} :
    id ∈ c.references.relationshipIds ↔ id ∈ Rule.allRelationshipIds c.rules := by
  rw [Criteria.references_eq, References.mem_foldl_add]
  simp

end Cohort
