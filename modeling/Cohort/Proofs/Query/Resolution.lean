import Cohort.Proofs.Checking
import Cohort.Query.Resolution

/-!
# What resolving finds out

One lemma for each check says everything that it has found out when it passes: `usable_ok` for attributes,
`Compares` for operators and values, `Condition.resolve_ok` for conditions and `join_ok` for relationships.
-/

namespace Cohort

/-! ## Attributes -/

theorem Definitions.scoped_ok {d : Definitions} {id scope : Uuid} {a : Attribute} (h : d.scoped id scope = .ok a) :
    d.attribute? id = some a ∧ a.entityId = scope := by
  rw [Definitions.scoped] at h
  split at h
  · cases h
  · rename_i a' ha
    split at h
    · cases h
      exact ⟨ha, ‹_›⟩
    · cases h

theorem Definitions.usable_ok {d : Definitions} {id scope : Uuid} {a : Attribute} (h : d.usable id scope = .ok a) :
    d.attribute? id = some a ∧ a.entityId = scope ∧ isSafeName a.name = true := by
  rw [Definitions.usable] at h
  obtain ⟨a', ha, h⟩ := check_bind_ok.1 h
  obtain ⟨hd, hs⟩ := Definitions.scoped_ok ha
  split at h
  · cases h
    exact ⟨hd, hs, ‹_›⟩
  · cases h

theorem isSafeName.no_quote {name : String} (h : isSafeName name = true) : ∀ c ∈ name.toList, c ≠ '\'' := by
  simp only [isSafeName, Bool.and_eq_true, List.all_eq_true] at h
  rintro c hc rfl
  exact absurd (h.2 _ hc) (by decide)

/-! ## Conditions -/

/-- What an operator and a value compare an attribute of a kind with. -/
inductive AttributeKind.Compares (kind : AttributeKind) : Operator → Json → Comparison → Prop
  | nullCheck {op : Operator} {value : Json} : op.isNullCheck = true → Compares kind op value (.nullCheck op)
  | among {value : Json} {items : List Json} {ps : List Parameter} : value.array? = some items →
      List.Forall₂ (fun item p => kind.coerce item = .ok p) items ps → Compares kind .among value (.among ps)
  | contains {value : Json} {p : Parameter} : kind.coerce value = .ok p →
      Compares kind .contains value (.value .contains (containsPattern p))
  | value {op : Operator} {value : Json} {p : Parameter} : op.isNullCheck = false → op ≠ .among → op ≠ .contains →
      kind.coerce value = .ok p → Compares kind op value (.value op p)

namespace Attribute

variable {a : Attribute}

theorem operator_ok {written : String} {op : Operator} (h : a.operator written = .ok op) :
    Operator.parse? written = some op ∧ a.kind.supports op = true := by
  rw [Attribute.operator] at h
  split at h
  · rename_i op' hop
    cases h
    exact Option.filter_eq_some_iff.1 hop
  · cases h

theorem parameter_ok {value : Json} {p : Parameter} (h : a.parameter value = .ok p) : a.kind.coerce value = .ok p := by
  rw [Attribute.parameter] at h
  cases hc : a.kind.coerce value with
  | error e =>
    rw [hc] at h
    cases h
  | ok p' =>
    rw [hc] at h
    cases h
    rfl

/-- **What an attribute is compared with.** -/
theorem comparison_ok {op : Operator} {value : Json} {k : Comparison} (h : a.comparison op value = .ok k) :
    a.kind.Compares op value k := by
  unfold Attribute.comparison at h
  split at h
  · cases h
    exact .nullCheck ‹_›
  · rename_i hnull
    split at h
    · split at h
      · rename_i items hitems
        obtain ⟨ps, hps, rfl⟩ := check_map_ok.1 h
        exact .among hitems ((check_all_ok hps).imp fun _ _ => parameter_ok)
      · cases h
    · obtain ⟨p, hp, rfl⟩ := check_map_ok.1 h
      exact .contains (parameter_ok hp)
    · rename_i op hamong hcontains
      obtain ⟨p, hp, rfl⟩ := check_map_ok.1 h
      exact .value (Bool.eq_false_iff.2 hnull) hamong hcontains (parameter_ok hp)

end Attribute

/-- **What resolving a condition finds out.** -/
theorem Condition.resolve_ok {d : Definitions} {scope : Uuid} {c : Condition} {t : Test}
    (h : c.resolve d scope = .ok t) : d.attribute? c.attributeId = some t.subject ∧ t.subject.entityId = scope ∧
      isSafeName t.subject.name = true ∧ ∃ op, Operator.parse? c.operator = some op ∧
        t.subject.kind.supports op = true ∧ t.subject.kind.Compares op c.value t.comparison := by
  rw [Condition.resolve] at h
  obtain ⟨a, ha, h⟩ := check_bind_ok.1 h
  obtain ⟨op, hop, h⟩ := check_bind_ok.1 h
  obtain ⟨k, hk, h⟩ := check_bind_ok.1 h
  cases h
  obtain ⟨hd, hs, hn⟩ := Definitions.usable_ok ha
  obtain ⟨hw, hsup⟩ := Attribute.operator_ok hop
  exact ⟨hd, hs, hn, op, hw, hsup, Attribute.comparison_ok hk⟩

/-! ## Relationships -/

/-- A relationship is followed from its source or from its target. -/
theorem Relationship.from?_attributes {r : Relationship} {entity : Uuid} {t : Traversal} (h : r.from? entity = some t) :
    (t.localAttributeId = r.sourceAttributeId ∧ t.relatedAttributeId = r.targetAttributeId) ∨
      (t.localAttributeId = r.targetAttributeId ∧ t.relatedAttributeId = r.sourceAttributeId) := by
  unfold Relationship.from? at h
  split at h
  · cases h
    exact .inl ⟨rfl, rfl⟩
  · split at h
    · cases h
      exact .inr ⟨rfl, rfl⟩
    · cases h

/-- **What joining two entities finds out.** -/
theorem Definitions.join_ok {d : Definitions} {scope id : Uuid} {join : Join} (h : d.join scope id = .ok join) :
    ∃ r t here there, d.relationship? id = some r ∧ r.from? scope = some t ∧
      d.attribute? t.localAttributeId = some here ∧ here.entityId = scope ∧ isSafeName here.name = true ∧
      d.attribute? t.relatedAttributeId = some there ∧ there.entityId = t.relatedEntityId ∧
      isSafeName there.name = true ∧ join = ⟨t.relatedEntityId, here.name, there.name⟩ := by
  rw [Definitions.join] at h
  split at h
  · cases h
  · rename_i r hr
    split at h
    · cases h
    · rename_i t ht
      obtain ⟨here, hhere, h⟩ := check_bind_ok.1 h
      obtain ⟨there, hthere, h⟩ := check_bind_ok.1 h
      cases h
      obtain ⟨hd, hs, hn⟩ := Definitions.usable_ok hhere
      obtain ⟨hd', hs', hn'⟩ := Definitions.usable_ok hthere
      exact ⟨r, t, here, there, hr, ht, hd, hs, hn, hd', hs', hn', rfl⟩

end Cohort
