import Cohort.Proofs.Json.Record
import Cohort.Rule.Document

/-!
# Documents of rules

What reading a rule comes to, by the type that its document names: one equation for each (`Criteria.ofDocument_group`,
`Rule.ofDocument_condition` and so on). The documents of the rules inside are those in the list of the document
(`Criteria.ruleDocuments`), read one after the other.

The parts of a rule are read from the fields of its document, each by itself (`Criteria.Head.ofDocument_eq_ok`,
`Condition.ofDocument_eq_ok`, `Rule.relationshipOf_eq_ok`).
-/

namespace Cohort

open Json

/-! ## Parts -/

theorem Json.Decoder.list_document_eq_ok {doc : Json} {xs : List Json} :
    Decoder.list Decoder.document doc = .ok xs ↔ doc = .array xs := by
  cases doc with
  | array ys =>
    have hall : ys.mapM Decoder.document = .ok ys := by
      show ys.mapM (fun y => pure y) = _
      rw [List.mapM_pure, List.map_id']
      rfl
    rw [Decoder.list, hall]
    simp
  | _ => simp [Decoder.list]

theorem Criteria.Head.ofDocument_eq_ok {doc : Json} {head : Criteria.Head} :
    Criteria.Head.ofDocument doc = .ok head ↔ ∃ s, Criteria.shape.Offers doc s ∧
      (s.field? Criteria.shape "entityId").elim (.ok none) Decoder.blankableUuid = .ok head.entityId ∧
      (s.field? Criteria.shape "logicalOperator").elim (.ok none) Decoder.string.nullable = .ok head.connective ∧
      (s.field? Criteria.shape "rules").elim (.ok []) (Decoder.list Decoder.document) = .ok head.rules := by
  rw [Criteria.Head.ofDocument, Shape.decode_eq_ok]
  simp only [Fields.seq_eq_ok, Fields.map_eq_ok, Fields.defaulted_eq_ok]
  constructor
  · rintro ⟨s, hs, _, rules, ⟨_, connective, ⟨entityId, hentity, rfl⟩, hconnective, rfl⟩, hrules, rfl⟩
    exact ⟨s, hs, hentity, hconnective, hrules⟩
  · rintro ⟨s, hs, hentity, hconnective, hrules⟩
    exact ⟨s, hs, _, _, ⟨_, _, ⟨_, hentity, rfl⟩, hconnective, rfl⟩, hrules, rfl⟩

theorem Condition.ofDocument_eq_ok {doc : Json} {c : Condition} :
    Condition.ofDocument doc = .ok c ↔ ∃ s, Condition.shape.Offers doc s ∧
      (∃ v, s.field? Condition.shape "attributeId" = some v ∧ Decoder.uuid v = .ok c.attributeId) ∧
      (s.field? Condition.shape "attributeName").elim (.ok "") Decoder.string = .ok c.attributeName ∧
      (s.field? Condition.shape "entityId").elim (.ok none) Decoder.blankableUuid = .ok c.entityId ∧
      (∃ v, s.field? Condition.shape "operator" = some v ∧ Decoder.string v = .ok c.operator) ∧
      (s.field? Condition.shape "value").elim (.ok .null) Decoder.document = .ok c.value ∧
      (s.field? Condition.shape "valueType").elim (.ok none) Decoder.string.nullable = .ok c.valueType := by
  rw [Condition.ofDocument, Shape.decode_eq_ok]
  simp only [Fields.seq_eq_ok, Fields.map_eq_ok, Fields.defaulted_eq_ok, Fields.required_eq_ok]
  constructor
  · rintro ⟨s, hs, _, _, ⟨_, _, ⟨_, _, ⟨_, _, ⟨_, _, ⟨_, hattribute, rfl⟩, hname, rfl⟩, hentity, rfl⟩, hoperator, rfl⟩,
      hvalue, rfl⟩, htype, rfl⟩
    exact ⟨s, hs, hattribute, hname, hentity, hoperator, hvalue, htype⟩
  · rintro ⟨s, hs, hattribute, hname, hentity, hoperator, hvalue, htype⟩
    exact ⟨s, hs, _, _, ⟨_, _, ⟨_, _, ⟨_, _, ⟨_, _, ⟨_, hattribute, rfl⟩, hname, rfl⟩, hentity, rfl⟩, hoperator, rfl⟩,
      hvalue, rfl⟩, htype, rfl⟩

theorem Rule.relationshipOf_eq_ok {doc : Json} {id : Uuid} :
    Rule.relationshipOf doc = .ok id ↔ ∃ s, Rule.relatedShape.Offers doc s ∧
      ∃ v, s.field? Rule.relatedShape "relationshipId" = some v ∧ Decoder.uuid v = .ok id := by
  have hany (o : Option Json) : ∃ v, o.elim (.ok .null) Decoder.document = .ok v := by
    cases o <;> exact ⟨_, rfl⟩
  rw [Rule.relationshipOf, Shape.decode_eq_ok]
  simp only [Fields.seq_eq_ok, Fields.map_eq_ok, Fields.defaulted_eq_ok, Fields.required_eq_ok]
  constructor
  · rintro ⟨s, hs, _, _, ⟨_, hid, rfl⟩, _, rfl⟩
    exact ⟨s, hs, hid⟩
  · rintro ⟨s, hs, hid⟩
    obtain ⟨v, hv⟩ := hany (s.field? Rule.relatedShape "relatedEntityRules")
    exact ⟨s, hs, _, v, ⟨_, hid, rfl⟩, hv, rfl⟩

/-- Criteria that have been read, have been read part by part. -/
theorem Criteria.assemble_eq_ok {doc : Json} {rules : Except RuleError (List Rule)} {c : Criteria} :
    Criteria.assemble doc rules = .ok c ↔ ∃ head, Criteria.Head.ofDocument doc = .ok head ∧
      head.entityId = c.entityId ∧ Connective.read head.connective = .ok c.connective ∧ rules = .ok c.rules := by
  constructor
  · intro h
    obtain ⟨head, hhead, h⟩ := check_bind_ok.1 h
    obtain ⟨connective, hconnective, h⟩ := check_bind_ok.1 h
    obtain ⟨rs, hrules, h⟩ := check_bind_ok.1 h
    cases h
    exact ⟨head, check_mapError_ok.1 hhead, rfl, hconnective, hrules⟩
  · obtain ⟨_, _, _⟩ := c
    rintro ⟨head, hhead, rfl, hconnective, hrules⟩
    refine check_bind_ok.2 ⟨head, check_mapError_ok.2 hhead, check_bind_ok.2 ⟨_, hconnective, ?_⟩⟩
    exact check_bind_ok.2 ⟨_, hrules, rfl⟩

/-! ## Rules inside -/

/-- The documents of the rules of criteria; none if they are not in a list. -/
def Criteria.ruleDocuments : Json → List Json
  | .object ms => ((ms.lookup "rules").bind array?).getD []
  | .array xs => (xs[2]?.bind array?).getD []
  | _ => []

theorem rulesList_eq : ∀ xs : List Json, rulesList xs = xs.mapM Rule.ofDocument
  | [] => rfl
  | x :: xs => by
    rw [rulesList, List.mapM_cons, rulesList_eq xs]

theorem rulesOf_eq (doc : Json) : rulesOf doc = (doc.array?.getD []).mapM Rule.ofDocument := by
  cases doc with
  | array xs => exact rulesList_eq xs
  | _ => rfl

theorem rulesMember_eq : ∀ ms : List (String × Json),
    rulesMember ms = (((ms.lookup "rules").bind array?).getD []).mapM Rule.ofDocument
  | [] => rfl
  | (name, doc) :: ms => by
    rw [rulesMember, List.lookup_cons]
    by_cases h : name = "rules"
    · rw [if_pos h, h, beq_self_eq_true]
      exact rulesOf_eq doc
    · rw [if_neg h, beq_eq_false_iff_ne.2 (Ne.symm h)]
      exact rulesMember_eq ms

theorem rulesElement_eq : ∀ (n : Nat) (xs : List Json),
    rulesElement n xs = ((xs[n]?.bind array?).getD []).mapM Rule.ofDocument
  | _, [] => rfl
  | 0, x :: _ => rulesOf_eq x
  | n + 1, _ :: xs => rulesElement_eq n xs

theorem relatedMember_eq : ∀ ms : List (String × Json),
    relatedMember ms = (ms.lookup "relatedEntityRules").elim (.ok .empty) Criteria.ofDocument
  | [] => rfl
  | (name, doc) :: ms => by
    rw [relatedMember, List.lookup_cons]
    by_cases h : name = "relatedEntityRules"
    · rw [if_pos h, h, beq_self_eq_true]
      rfl
    · rw [if_neg h, beq_eq_false_iff_ne.2 (Ne.symm h)]
      exact relatedMember_eq ms

/-! ## Types -/

variable {doc : Json}

theorem typeOf?_eq_some {t : String} (h : typeOf? doc = some t) :
    ∃ ms, doc = .object ms ∧ typeOf? (.object ms) = some t := by
  cases doc with
  | object ms => exact ⟨ms, rfl, h⟩
  | _ => cases h

namespace Criteria

theorem ofDocument_group (hnull : doc ≠ .null) (htype : ∀ t, typeOf? doc = some t → t = "group") :
    ofDocument doc = assemble doc ((ruleDocuments doc).mapM Rule.ofDocument) := by
  cases doc with
  | null => exact absurd rfl hnull
  | object ms =>
    rw [ofDocument]
    cases h : typeOf? (.object ms) with
    | none => rw [rulesMember_eq]; rfl
    | some t =>
      obtain rfl := htype t h
      rw [rulesMember_eq]
      rfl
  | array xs => rw [ofDocument, rulesElement_eq]; rfl
  | bool => rfl
  | number => rfl
  | string => rfl

theorem ofDocument_foreign {t : String} (htype : typeOf? doc = some t) (ht : t ≠ "group") :
    ofDocument doc = .error (.unknownType t) := by
  obtain ⟨ms, rfl, htype⟩ := typeOf?_eq_some htype
  rw [ofDocument, htype]
  split
  · cases ‹some t = none›
  · cases ‹some t = some "group"›
    exact absurd rfl ht
  · cases ‹some t = some _›
    rfl

end Criteria

namespace Rule

theorem ofDocument_untyped (htype : typeOf? doc = none) : ofDocument doc = .error .missingType := by
  cases doc with
  | object ms => rw [ofDocument, htype]
  | _ => rfl

theorem ofDocument_condition (htype : typeOf? doc = some "condition") :
    ofDocument doc = (wellFormed (Condition.ofDocument doc)).map .condition := by
  obtain ⟨ms, rfl, htype⟩ := typeOf?_eq_some htype
  rw [ofDocument, htype]
  rfl

theorem ofDocument_group (htype : typeOf? doc = some "group") :
    ofDocument doc = (Criteria.assemble doc ((Criteria.ruleDocuments doc).mapM ofDocument)).map .nested := by
  obtain ⟨ms, rfl, htype⟩ := typeOf?_eq_some htype
  rw [ofDocument, htype, rulesMember_eq]
  rfl

theorem ofDocument_related (htype : typeOf? doc = some "relationship_group") : ofDocument doc = do
    let id ← wellFormed (relationshipOf doc)
    let criteria ← (doc.member? "relatedEntityRules").elim (.ok .empty) Criteria.ofDocument
    return .related id criteria := by
  obtain ⟨ms, rfl, htype⟩ := typeOf?_eq_some htype
  rw [ofDocument, htype, relatedMember_eq]
  rfl

theorem ofDocument_unknown {t : String} (htype : typeOf? doc = some t)
    (ht : t ∉ ["condition", "group", "relationship_group"]) : ofDocument doc = .error (.unknownType t) := by
  obtain ⟨ms, rfl, htype⟩ := typeOf?_eq_some htype
  rw [ofDocument, htype]
  split <;> simp_all

end Rule
end Cohort
