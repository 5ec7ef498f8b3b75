import Cohort.Proofs.Rule.Document
import Cohort.Proofs.Text.Blank

/-!
# The parts of rules

What the document of a rule has to hold for the rule itself, whatever stands in the rules inside it: a form for the
value of each field that is not free (`EntityForm`, `ConnectiveForm`, `IdentifierForm`), and one for all fields of
criteria and of a condition (`HeadForm`, `ConditionForm`). Each is what its reader reads (`exists_opening`,
`exists_condition`, `exists_relationship`); criteria that are not read have a `HeadFault`.
-/

namespace Cohort

open Json

/-! ## Forms -/

/-- The value of an `entityId`, if there is one: nothing, or an identifier with blanks around it. -/
inductive EntityForm : Option Json → Prop where
  | absent : EntityForm none
  | null : EntityForm (some .null)
  | blank {s : String} (h : ∀ c ∈ s.toList, Text.isBlank c = true) : EntityForm (some (.string s))
  | identifier {s : String} {u : Uuid} (h : Uuid.read (Text.trim s) = .ok u) : EntityForm (some (.string s))

/-- The value of a `logicalOperator`, if there is one: nothing, or one of the two words in any case with blanks around
it. -/
inductive ConnectiveForm : Option Json → Prop where
  | absent : ConnectiveForm none
  | null : ConnectiveForm (some .null)
  | blank {s : String} (h : ∀ c ∈ s.toList, Text.isBlank c = true) : ConnectiveForm (some (.string s))
  | word {s word : String} (k : Connective) (hpadded : Text.Padded word.toList s.toList)
      (hword : Text.upper word = k.text) : ConnectiveForm (some (.string s))

/-- An identifier that must be there. -/
def IdentifierForm (value : Option Json) : Prop := ∃ s u, value = some (.string s) ∧ Uuid.read s = .ok u

/-- The fields of criteria, whatever the rules in their list are. -/
structure HeadForm (s : Source) : Prop where
  /-- The entity. -/
  entity : EntityForm (s.field? Criteria.shape "entityId")
  /-- The connective. -/
  connective : ConnectiveForm (s.field? Criteria.shape "logicalOperator")
  /-- The list of the rules. -/
  rules : ∀ v, s.field? Criteria.shape "rules" = some v → ∃ xs, v = .array xs

/-- The members of a condition. -/
structure ConditionForm (ms : List (String × Json)) : Prop where
  /-- The attribute. -/
  attributeId : IdentifierForm (ms.lookup "attributeId")
  /-- Its name. -/
  attributeName : ∀ v, ms.lookup "attributeName" = some v → ∃ s, v = .string s
  /-- The entity. -/
  entity : EntityForm (ms.lookup "entityId")
  /-- The operator. -/
  operator : ∃ s, ms.lookup "operator" = some (.string s)
  /-- The type of the value. -/
  valueType : ∀ v, ms.lookup "valueType" = some v → v = .null ∨ ∃ s, v = .string s

/-! ## Values -/

namespace Json.Decoder

theorem exists_string {v : Json} : (∃ s, string v = .ok s) ↔ ∃ s, v = .string s := by
  cases v <;> simp [string]

theorem exists_uuid {o : Option Json} : (∃ v, o = some v ∧ ∃ u, uuid v = .ok u) ↔ IdentifierForm o := by
  constructor
  · rintro ⟨v, rfl, u, h⟩
    cases v with
    | string s => exact ⟨s, u, rfl, check_mapError_ok.1 h⟩
    | _ => cases h
  · rintro ⟨s, u, rfl, h⟩
    exact ⟨_, rfl, u, check_mapError_ok.2 h⟩

theorem exists_blankableUuid {o : Option Json} : (∃ a, o.elim (.ok none) blankableUuid = .ok a) ↔ EntityForm o := by
  have hblank (s : String) : Text.isBlankText s = true ↔ ∀ c ∈ s.toList, Text.isBlank c = true := by
    rw [Text.isBlankText, List.all_eq_true]
  constructor
  · rintro ⟨a, h⟩
    match o with
    | none => exact .absent
    | some .null => exact .null
    | some (.string s) =>
      rw [Option.elim_some, blankableUuid] at h
      split at h
      · exact .blank ((hblank s).1 ‹_›)
      · obtain ⟨u, hu, _⟩ := check_map_ok.1 (check_mapError_ok.1 h)
        exact .identifier hu
    | some (.bool _) | some (.number _) | some (.array _) | some (.object _) => cases h
  · intro h
    cases h with
    | absent => exact ⟨_, rfl⟩
    | null => exact ⟨_, rfl⟩
    | blank h =>
      rw [Option.elim_some, blankableUuid, if_pos ((hblank _).2 h)]
      exact ⟨_, rfl⟩
    | @identifier s u h =>
      rw [Option.elim_some, blankableUuid]
      split
      · exact ⟨_, rfl⟩
      · exact ⟨_, check_mapError_ok.2 (check_map_ok.2 ⟨u, h, rfl⟩)⟩

theorem exists_list {o : Option Json} : (∃ xs, o.elim (.ok []) (list document) = .ok xs) ↔
    ∀ v, o = some v → ∃ xs, v = .array xs := by
  cases o with
  | none => simp
  | some v => simp [list_document_eq_ok]

theorem exists_defaulted_string {o : Option Json} :
    (∃ s, o.elim (.ok "") string = .ok s) ↔ ∀ v, o = some v → ∃ s, v = .string s := by
  cases o with
  | none => simp
  | some v => simp [exists_string]

theorem exists_nullable_string {o : Option Json} :
    (∃ s, o.elim (.ok none) string.nullable = .ok s) ↔ ∀ v, o = some v → v = .null ∨ ∃ s, v = .string s := by
  cases o with
  | none => simp
  | some v => cases v <;> simp [nullable, string, Except.map]

end Json.Decoder

/-! ## Connectives -/

namespace Connective

theorem not_blank_of_upper {word : String} {k : Connective} (h : Text.upper word = k.text) :
    ∀ c ∈ word.toList, Text.isBlank c = false := by
  intro c hc
  have hletter : ∀ d ∈ k.text.toList, Text.isBlank d = false := by
    cases k <;> simp [Connective.text, Text.isBlank]
  rw [← h, Text.upper, String.toList_ofList] at hletter
  exact Text.isBlank_of_toUpper (hletter _ (List.mem_map_of_mem hc))

/-- A connective is written in what is left of a text between its ends. -/
theorem form_string {s : String} :
    ConnectiveForm (some (.string s)) ↔ Text.trim s = "" ∨ ∃ k : Connective, Text.upper (Text.trim s) = k.text := by
  have hempty : Text.trim s = "" ↔ ∀ c ∈ s.toList, Text.isBlank c = true := by
    rw [← Text.trimChars_eq_nil, Text.trim]
    simp
  constructor
  · intro h
    cases h with
    | blank h => exact .inl (hempty.2 h)
    | word k hpadded hword =>
      rw [Text.trim, hpadded.trimChars_eq (not_blank_of_upper hword), String.ofList_toList]
      exact .inr ⟨k, hword⟩
  · rintro (h | ⟨k, hk⟩)
    · exact .blank (hempty.1 h)
    · refine .word k ?_ hk
      rw [Text.trim, String.toList_ofList]
      exact Text.padded_trimChars _

theorem read_of_form {s : String} (h : ConnectiveForm (some (.string s))) : ∃ k, read (some s) = .ok k := by
  rw [read]
  split
  · exact ⟨_, rfl⟩
  · rename_i hempty
    rw [form_string, ← String.isEmpty_iff] at h
    obtain ⟨k, hk⟩ := h.resolve_left hempty
    rw [hk]
    cases k <;> exact ⟨_, rfl⟩

theorem read_of_not_form {s : String} (h : ¬ConnectiveForm (some (.string s))) :
    read (some s) = .error (.invalidConnective (Text.trim s)) := by
  rw [form_string, ← String.isEmpty_iff] at h
  obtain ⟨hempty, hword⟩ := not_or.1 h
  have hand : Text.upper (Text.trim s) ≠ "AND" := fun h => hword ⟨.and, h⟩
  have hor : Text.upper (Text.trim s) ≠ "OR" := fun h => hword ⟨.or, h⟩
  rw [read, if_neg hempty, if_neg hand, if_neg hor]

theorem read_eq_error {raw : Option String} {e : RuleError} : read raw = .error e ↔
    ∃ s, raw = some s ∧ ¬ConnectiveForm (some (.string s)) ∧ e = .invalidConnective (Text.trim s) := by
  constructor
  · intro h
    cases raw with
    | none => cases h
    | some s =>
      have hform : ¬ConnectiveForm (some (.string s)) := by
        intro hform
        obtain ⟨k, hk⟩ := read_of_form hform
        rw [hk] at h
        cases h
      rw [read_of_not_form hform] at h
      cases h
      exact ⟨s, rfl, hform, rfl⟩
  · rintro ⟨s, rfl, hform, rfl⟩
    exact read_of_not_form hform

theorem exists_read {o : Option Json} :
    (∃ raw, o.elim (.ok none) Decoder.string.nullable = .ok raw ∧ ∃ k, read raw = .ok k) ↔ ConnectiveForm o := by
  constructor
  · rintro ⟨raw, hraw, k, hk⟩
    match o with
    | none => exact .absent
    | some .null => exact .null
    | some (.string s) =>
      cases hraw
      by_contra h
      rw [read_of_not_form h] at hk
      cases hk
    | some (.bool _) | some (.number _) | some (.array _) | some (.object _) => cases hraw
  · intro h
    cases h with
    | absent => exact ⟨none, rfl, _, rfl⟩
    | null => exact ⟨none, rfl, _, rfl⟩
    | blank h => exact ⟨_, rfl, read_of_form (.blank h)⟩
    | word k hpadded hword => exact ⟨_, rfl, read_of_form (.word k hpadded hword)⟩

end Connective

/-! ## Criteria -/

namespace Criteria

variable {doc : Json}

/-- The entity and the connective of criteria, before any of their rules is read. -/
def opening (doc : Json) : Except RuleError (Option Uuid × Connective) := do
  let head ← wellFormed (Head.ofDocument doc)
  let connective ← Connective.read head.connective
  return (head.entityId, connective)

/-- What is wrong with criteria themselves. -/
inductive HeadFault (doc : Json) : RuleError → Prop where
  /-- A field does not have its type. -/
  | fields {m : Mismatch} (h : Head.ofDocument doc = .error m) : HeadFault doc (.malformed m)
  /-- There is no such connective. -/
  | connective {head : Head} {s : String} (hhead : Head.ofDocument doc = .ok head) (hs : head.connective = some s)
      (h : ¬ConnectiveForm (some (.string s))) : HeadFault doc (.invalidConnective (Text.trim s))

theorem assemble_eq (doc : Json) (rules : Except RuleError (List Rule)) :
    assemble doc rules = opening doc >>= fun o => rules.map fun rs => ⟨o.1, o.2, rs⟩ := by
  rw [assemble, opening, bind_assoc]
  refine bind_congr fun head => ?_
  rw [bind_assoc]
  refine bind_congr fun connective => ?_
  cases rules <;> rfl

theorem exists_opening : (∃ o, opening doc = .ok o) ↔ ∃ s, shape.Offers doc s ∧ HeadForm s := by
  constructor
  · rintro ⟨o, h⟩
    obtain ⟨head, hhead, h⟩ := check_bind_ok.1 h
    obtain ⟨k, hk, h⟩ := check_bind_ok.1 h
    obtain ⟨s, hs, hentity, hconnective, hrules⟩ := Head.ofDocument_eq_ok.1 (check_mapError_ok.1 hhead)
    exact ⟨s, hs, Decoder.exists_blankableUuid.1 ⟨_, hentity⟩, Connective.exists_read.1 ⟨_, hconnective, _, hk⟩,
      Decoder.exists_list.1 ⟨_, hrules⟩⟩
  · rintro ⟨s, hs, hform⟩
    obtain ⟨entityId, hentity⟩ := Decoder.exists_blankableUuid.2 hform.entity
    obtain ⟨raw, hraw, k, hk⟩ := Connective.exists_read.2 hform.connective
    obtain ⟨rules, hrules⟩ := Decoder.exists_list.2 hform.rules
    have hhead : Head.ofDocument doc = .ok ⟨entityId, raw, rules⟩ :=
      Head.ofDocument_eq_ok.2 ⟨s, hs, hentity, hraw, hrules⟩
    exact ⟨(entityId, k), check_bind_ok.2 ⟨_, check_mapError_ok.2 hhead, check_bind_ok.2 ⟨k, hk, rfl⟩⟩⟩

theorem opening_eq_error {e : RuleError} : opening doc = .error e ↔ HeadFault doc e := by
  constructor
  · intro h
    rcases check_bind_error.1 h with h | ⟨head, hhead, h⟩
    · obtain ⟨m, hm, rfl⟩ := check_mapError_error.1 h
      exact .fields hm
    · rcases check_bind_error.1 h with h | ⟨k, _, h⟩
      · obtain ⟨s, hs, hform, rfl⟩ := Connective.read_eq_error.1 h
        exact .connective (check_mapError_ok.1 hhead) hs hform
      · cases h
  · intro h
    cases h with
    | fields h => exact check_bind_error.2 (.inl (check_mapError_error.2 ⟨_, h, rfl⟩))
    | connective hhead hs hform =>
      refine check_bind_error.2 (.inr ⟨_, check_mapError_ok.2 hhead, check_bind_error.2 (.inl ?_)⟩)
      rw [hs]
      exact Connective.read_of_not_form hform

end Criteria

/-! ## Conditions and relationships -/

variable {ms : List (String × Json)}

theorem exists_condition : (∃ c, Condition.ofDocument (.object ms) = .ok c) ↔ ConditionForm ms := by
  constructor
  · rintro ⟨c, h⟩
    obtain ⟨s, hs, ⟨v, hv, hu⟩, hname, hentity, ⟨w, hw, hoperator⟩, _, htype⟩ := Condition.ofDocument_eq_ok.1 h
    cases hs
    obtain ⟨operator, rfl⟩ := Decoder.exists_string.1 ⟨_, hoperator⟩
    exact ⟨Decoder.exists_uuid.1 ⟨v, hv, _, hu⟩, Decoder.exists_defaulted_string.1 ⟨_, hname⟩,
      Decoder.exists_blankableUuid.1 ⟨_, hentity⟩, ⟨operator, hw⟩, Decoder.exists_nullable_string.1 ⟨_, htype⟩⟩
  · intro h
    obtain ⟨v, hv, attributeId, hattribute⟩ := Decoder.exists_uuid.2 h.attributeId
    obtain ⟨attributeName, hname⟩ := Decoder.exists_defaulted_string.2 h.attributeName
    obtain ⟨entityId, hentity⟩ := Decoder.exists_blankableUuid.2 h.entity
    obtain ⟨operator, hoperator⟩ := h.operator
    obtain ⟨valueType, htype⟩ := Decoder.exists_nullable_string.2 h.valueType
    have hvalue : (ms.lookup "value").elim (.ok .null) Decoder.document = .ok ((ms.lookup "value").getD .null) := by
      cases ms.lookup "value" <;> rfl
    exact ⟨⟨attributeId, attributeName, entityId, operator, _, valueType⟩, Condition.ofDocument_eq_ok.2
      ⟨_, .object, ⟨v, hv, hattribute⟩, hname, hentity, ⟨_, hoperator, rfl⟩, hvalue, htype⟩⟩

theorem exists_relationship :
    (∃ id, Rule.relationshipOf (.object ms) = .ok id) ↔ IdentifierForm (ms.lookup "relationshipId") := by
  rw [← Decoder.exists_uuid]
  constructor
  · rintro ⟨id, h⟩
    obtain ⟨s, hs, v, hv, hid⟩ := Rule.relationshipOf_eq_ok.1 h
    cases hs
    exact ⟨v, hv, id, hid⟩
  · rintro ⟨v, hv, id, hid⟩
    exact ⟨id, Rule.relationshipOf_eq_ok.2 ⟨_, .object, v, hv, hid⟩⟩

end Cohort
