import Cohort.Proofs.Rule.Document
import Cohort.Proofs.Uuid

/-!
# Written rules read back

A written part of a rule reads back as it, whether the type stands beside it or not (`Condition.ofDocument_members`,
`Criteria.assemble_members`). By induction along the tree so do rules, and lists of them (`Rule.ofDocument_document`,
`mapM_ofDocument`), and criteria with and without their type (`Criteria.ofDocument_document`,
`Criteria.ofDocument_members`).

Hence whatever spelling criteria have been read from, they are written in one (`Canonical`), and it means the same.
-/

namespace Cohort

open Json

/-! ## Members -/

theorem lookup_presentMember (name field : String) (o : Option Json) :
    (presentMember name o).lookup field = if field = name then o else none := by
  cases o with
  | none => rw [presentMember, List.lookup_nil, ite_self]
  | some v =>
    rw [presentMember, List.lookup_cons]
    by_cases h : field = name
    · rw [if_pos h, h, beq_self_eq_true]
    · rw [if_neg h, beq_eq_false_iff_ne.2 h, List.lookup_nil]

/-- Members that say nothing but a type. -/
def Tag (tag : List (String × Json)) : Prop := ∀ field, field ≠ "type" → tag.lookup field = none

theorem tag_nil : Tag [] := fun _ _ => rfl

theorem tag_type (doc : Json) : Tag [("type", doc)] := by
  intro field h
  rw [List.lookup_cons, beq_eq_false_iff_ne.2 h, List.lookup_nil]

/-! ## Values -/

theorem Connective.read_text (k : Connective) : Connective.read (some k.text) = .ok k := by
  cases k <;> rfl

namespace Json.Decoder

theorem uuid_text (u : Uuid) : uuid (.string u.text) = .ok u := by
  rw [uuid, Uuid.read_text]
  rfl

theorem blankableUuid_present (o : Option Uuid) :
    (o.map fun u => Json.string u.text).elim (.ok none) blankableUuid = .ok o := by
  cases o with
  | none => rfl
  | some u =>
    rw [Option.map_some, Option.elim_some, blankableUuid, u.isBlankText_text, u.trim_text, Uuid.read_text]
    rfl

theorem nullable_string_present (o : Option String) : (o.map Json.string).elim (.ok none) string.nullable = .ok o := by
  cases o <;> rfl

end Json.Decoder

/-! ## Conditions and criteria -/

theorem Condition.ofDocument_members (c : Condition) {tag : List (String × Json)} (htag : Tag tag) :
    Condition.ofDocument (.object (c.members tag)) = .ok c := by
  have hmember (field : String) (h : field ≠ "type") : tag.lookup field = none := htag field h
  obtain ⟨hattribute, hname, hentity, hoperator, hvalue, htype⟩ :
      (c.members tag).lookup "attributeId" = some (.string c.attributeId.text) ∧
      (c.members tag).lookup "attributeName" = some (.string c.attributeName) ∧
      (c.members tag).lookup "entityId" = c.entityId.map (fun u => .string u.text) ∧
      (c.members tag).lookup "operator" = some (.string c.operator) ∧
      (c.members tag).lookup "value" = some c.value ∧
      (c.members tag).lookup "valueType" = c.valueType.map .string := by
    simp [Condition.members, List.lookup_append, List.lookup_cons, lookup_presentMember, hmember]
  refine Condition.ofDocument_eq_ok.2
    ⟨_, .object, ⟨_, hattribute, Decoder.uuid_text _⟩, ?_, ?_, ⟨_, hoperator, rfl⟩, ?_, ?_⟩
  · rw [Source.field?, hname]
    rfl
  · rw [Source.field?, hentity]
    exact Decoder.blankableUuid_present _
  · rw [Source.field?, hvalue]
    rfl
  · rw [Source.field?, htype]
    exact Decoder.nullable_string_present _

namespace Criteria

variable {c : Criteria} {tag : List (String × Json)}

theorem lookup_rules : (c.members ++ tag).lookup "rules" = some (.array (rulesDocuments c.rules)) := by
  obtain ⟨_, _, _⟩ := c
  simp [members, List.lookup_append, List.lookup_cons, lookup_presentMember]

theorem ruleDocuments_members : ruleDocuments (.object (c.members ++ tag)) = rulesDocuments c.rules := by
  rw [ruleDocuments, lookup_rules]
  rfl

/-- Criteria read back if their rules do. -/
theorem assemble_members (htag : Tag tag) {rules : Except RuleError (List Rule)} (hrules : rules = .ok c.rules) :
    assemble (.object (c.members ++ tag)) rules = .ok c := by
  have hmember (field : String) (h : field ≠ "type") : tag.lookup field = none := htag field h
  obtain ⟨hentity, hconnective⟩ :
      (c.members ++ tag).lookup "entityId" = c.entityId.map (fun u => .string u.text) ∧
      (c.members ++ tag).lookup "logicalOperator" = some (.string c.connective.text) := by
    obtain ⟨_, _, _⟩ := c
    simp [members, List.lookup_append, List.lookup_cons, lookup_presentMember, hmember]
  have hhead : Head.ofDocument (.object (c.members ++ tag)) =
      .ok ⟨c.entityId, some c.connective.text, rulesDocuments c.rules⟩ := by
    refine Head.ofDocument_eq_ok.2 ⟨_, .object, ?_, ?_, ?_⟩
    · rw [Source.field?, hentity]
      exact Decoder.blankableUuid_present _
    · rw [Source.field?, hconnective]
      rfl
    · rw [Source.field?, lookup_rules]
      exact Decoder.list_document_eq_ok.2 rfl
  exact assemble_eq_ok.2 ⟨_, hhead, rfl, Connective.read_text _, hrules⟩

theorem typeOf?_members : typeOf? (.object (c.members ++ tag)) = typeOf? (.object tag) := by
  obtain ⟨_, _, _⟩ := c
  simp [typeOf?, member?, Json.members, members, List.lookup_append, List.lookup_cons, lookup_presentMember]

/-- Criteria read back with their type or without it, if their rules do. -/
theorem ofDocument_members (htag : Tag tag) (htype : ∀ t, typeOf? (.object tag) = some t → t = "group")
    (hrules : (rulesDocuments c.rules).mapM Rule.ofDocument = .ok c.rules) :
    ofDocument (.object (c.members ++ tag)) = .ok c := by
  refine (ofDocument_group ?_ ?_).trans ?_
  · exact nofun
  · rwa [typeOf?_members]
  · rw [ruleDocuments_members]
    exact assemble_members htag hrules

end Criteria

/-! ## Trees -/

theorem Condition.typeOf?_tagged (c : Condition) (t : String) :
    typeOf? (.object (c.members [("type", .string t)])) = some t := by
  simp [typeOf?, member?, Json.members, members, List.lookup_append, List.lookup_cons, lookup_presentMember, string?]

mutual

/-- **A written rule reads back.** -/
theorem Rule.ofDocument_document : ∀ r : Rule, Rule.ofDocument r.document = .ok r
  | .condition c => by
    rw [Rule.document, Rule.ofDocument_condition (c.typeOf?_tagged _), Condition.ofDocument_members c (tag_type _)]
    rfl
  | .nested ⟨entityId, connective, rules⟩ => by
    rw [Rule.document, Rule.ofDocument_group Criteria.typeOf?_members, Criteria.ruleDocuments_members,
      Criteria.assemble_members (tag_type _) (mapM_ofDocument rules)]
    rfl
  | .related id ⟨entityId, connective, rules⟩ => by
    have hid : Rule.relationshipOf (Rule.related id ⟨entityId, connective, rules⟩).document = .ok id := by
      rw [Rule.document]
      exact Rule.relationshipOf_eq_ok.2 ⟨_, .object, _, rfl, Decoder.uuid_text id⟩
    have hcriteria : Criteria.ofDocument (.object (Criteria.members ⟨entityId, connective, rules⟩)) =
        .ok ⟨entityId, connective, rules⟩ := by
      rw [← List.append_nil (Criteria.members _)]
      exact Criteria.ofDocument_members tag_nil nofun (mapM_ofDocument rules)
    rw [Rule.document] at hid ⊢
    rw [Rule.ofDocument_related rfl, hid]
    exact check_bind_ok.2 ⟨id, rfl, check_bind_ok.2 ⟨_, hcriteria, rfl⟩⟩

/-- The documents of rules read back one by one. -/
theorem mapM_ofDocument : ∀ rs : List Rule, (rulesDocuments rs).mapM Rule.ofDocument = .ok rs
  | [] => rfl
  | r :: rs => by
    rw [rulesDocuments, List.mapM_cons, Rule.ofDocument_document r, mapM_ofDocument rs]
    rfl

end

/-- **Written criteria read back.** -/
theorem Criteria.ofDocument_document (c : Criteria) : Criteria.ofDocument c.document = .ok c :=
  Criteria.ofDocument_members (tag_type _) (fun _ h => (Option.some.inj h).symm) (mapM_ofDocument c.rules)

/-! ## Spellings -/

/-- Criteria that are written as they were read. -/
def Canonical (doc : Json) : Prop := (Criteria.ofDocument doc).map Criteria.document = .ok doc

theorem canonical_document (c : Criteria) : Canonical c.document := by
  rw [Canonical, Criteria.ofDocument_document]
  rfl

theorem Canonical.eq_document {doc : Json} {c : Criteria} (hdoc : Canonical doc) (h : Criteria.ofDocument doc = .ok c) :
    doc = c.document := by
  rw [Canonical, h] at hdoc
  exact (Except.ok.inj hdoc).symm

/-- **Writing and reading are inverse**: criteria and rules that are written read back as what they were. So from any
document that is read as criteria, in whatever spelling, comes a canonical document that is read as the same criteria,
and it is the only one. -/
theorem document_roundTrip :
    (∀ c : Criteria, Criteria.ofDocument c.document = .ok c) ∧
    (∀ r : Rule, Rule.ofDocument r.document = .ok r) ∧
    ∀ (doc : Json) (c : Criteria), Criteria.ofDocument doc = .ok c →
      Canonical c.document ∧ Criteria.ofDocument c.document = .ok c ∧
      ∀ doc', Canonical doc' → Criteria.ofDocument doc' = .ok c → doc' = c.document :=
  ⟨Criteria.ofDocument_document, Rule.ofDocument_document, fun _ c _ =>
    ⟨canonical_document c, Criteria.ofDocument_document c, fun _ => Canonical.eq_document⟩⟩

/-- Criteria as an array, with blanks for no entity, null for no connective and a connective in small letters. -/
def lenientDocument : Json :=
  .array [.string " ", .null, .array [.object [("logicalOperator", .string "or "), ("type", .string "group")]]]

/-- The criteria that it stands for. -/
def lenientCriteria : Criteria := ⟨none, .and, [.nested ⟨none, .or, []⟩]⟩

/-- The one way to write them. -/
def canonicalDocument : Json :=
  .object [("logicalOperator", .string "AND"), ("rules", .array [.object [("logicalOperator", .string "OR"),
    ("rules", .array []), ("type", .string "group")]]), ("type", .string "group")]

theorem document_roundTrip_lenient : Criteria.ofDocument lenientDocument = .ok lenientCriteria ∧
    Canonical lenientCriteria.document ∧ canonicalDocument = lenientCriteria.document := by
  have hread : Criteria.ofDocument lenientDocument = .ok lenientCriteria := rfl
  obtain ⟨hcanonical, _, honly⟩ := document_roundTrip.2.2 lenientDocument lenientCriteria hread
  exact ⟨hread, hcanonical, honly canonicalDocument rfl rfl⟩

end Cohort
