import Cohort.Proofs.Rule.Grammar

/-!
# The types that rule documents name

Where a rule is to be read, a document has to name one of the three types. Where criteria are to be read it may name
the type of criteria, and no other one (`Position.Fine.named`). But only a string names a type: anything else under
`type` is passed over there, as if it were not there (`Criteria.ofDocument_withoutType`). So in a document that is read,
the type is right at every position where it is a string (`criteria_types`), and it may be of another kind where
criteria stand (`criteria_types_passed_over`).
-/

namespace Cohort

open Json

variable {ms : List (String × Json)}

/-! ## Members beside the type -/

/-- The members of an object but for its type. -/
def withoutType (ms : List (String × Json)) : List (String × Json) := ms.filter fun m => m.1 ≠ "type"

theorem lookup_withoutType {name : String} (h : name ≠ "type") :
    ∀ ms : List (String × Json), (withoutType ms).lookup name = ms.lookup name
  | [] => rfl
  | (k, v) :: ms => by
    have ih := lookup_withoutType h ms
    rw [withoutType] at ih ⊢
    by_cases hk : k = "type"
    · rw [List.filter_cons_of_neg (by simpa using hk), ih, List.lookup_cons, beq_eq_false_iff_ne.2 (hk ▸ h)]
    · rw [List.filter_cons_of_pos (by simpa using hk), List.lookup_cons, List.lookup_cons, ih]

theorem typeOf?_withoutType : typeOf? (.object (withoutType ms)) = none := by
  have hnone : (withoutType ms).lookup "type" = none := by
    rw [List.lookup_eq_none_iff]
    intro m hm
    have hname : m.1 ≠ "type" := by simpa using (List.mem_filter.1 hm).2
    exact bne_iff_ne.2 (Ne.symm hname)
  show ((withoutType ms).lookup "type").bind string? = none
  rw [hnone]
  rfl

namespace Criteria

theorem Head.ofDocument_object {head : Head} : Head.ofDocument (.object ms) = .ok head ↔
    (ms.lookup "entityId").elim (.ok none) Decoder.blankableUuid = .ok head.entityId ∧
    (ms.lookup "logicalOperator").elim (.ok none) Decoder.string.nullable = .ok head.connective ∧
    (ms.lookup "rules").elim (.ok []) (Decoder.list Decoder.document) = .ok head.rules := by
  rw [Head.ofDocument_eq_ok]
  constructor
  · rintro ⟨s, hs, h⟩
    cases hs
    exact h
  · exact fun h => ⟨_, .object, h⟩

/-- A type that is no string is passed over. -/
theorem ofDocument_withoutType (h : typeOf? (.object ms) = none) (c : Criteria) :
    ofDocument (.object ms) = .ok c ↔ ofDocument (.object (withoutType ms)) = .ok c := by
  have hdocuments : ruleDocuments (.object (withoutType ms)) = ruleDocuments (.object ms) := by
    rw [ruleDocuments, ruleDocuments, lookup_withoutType (by decide)]
  have hgroup {ms : List (String × Json)} (h : typeOf? (.object ms) = none) : ofDocument (.object ms) =
      assemble (.object ms) ((ruleDocuments (.object ms)).mapM Rule.ofDocument) :=
    ofDocument_group (fun h => nomatch h) fun t ht => by
      rw [h] at ht
      cases ht
  rw [hgroup h, hgroup typeOf?_withoutType, assemble_eq_ok, assemble_eq_ok, hdocuments]
  simp only [Head.ofDocument_object]
  rw [lookup_withoutType (by decide), lookup_withoutType (by decide), lookup_withoutType (by decide)]

end Criteria

/-! ## Types at positions -/

/-- The type at a position is right, or it stands with criteria and is no string. -/
def Position.Named : Position → Prop
  | criteria doc => ∀ t, doc.member? "type" = some t → t = .string "group" ∨ ∀ s, t ≠ .string s
  | rule doc => ∃ t ∈ ["condition", "group", "relationship_group"], doc.member? "type" = some (.string t)

theorem Position.Fine.named {p : Position} (h : p.Fine) : p.Named := by
  have hobject {doc : Json} {t : String} (ht : typeOf? doc = some t) : doc.member? "type" = some (.string t) := by
    obtain ⟨ms, rfl, ht⟩ := typeOf?_eq_some ht
    exact typeOf?_object.1 ht
  cases h with
  | null => exact nofun
  | criteria htype hs hhead =>
    intro t ht
    cases t with
    | string s => exact .inl (congrArg Json.string (htype s (by rw [typeOf?, ht]; rfl)))
    | _ => exact .inr nofun
  | condition htype => exact ⟨_, by simp, hobject htype⟩
  | nested htype => exact ⟨_, by simp, hobject htype⟩
  | related htype => exact ⟨_, by simp, hobject htype⟩

/-- **The types in a document of criteria that is read.** Every rule in it names one of the three types, at any depth.
Wherever criteria stand, the type is that of criteria or no string; and a type that is no string makes no difference:
the criteria are read as they are without it. -/
theorem criteria_types {doc : Json} {c : Criteria} (h : Criteria.ofDocument doc = .ok c) :
    (∀ p ∈ (Position.criteria doc).preorder, p.Named) ∧
      ∀ ms, doc = .object ms → typeOf? doc = none → Criteria.ofDocument (.object (withoutType ms)) = .ok c := by
  have hsettled : Settles Position.Fine Position.Fault (Position.criteria doc).preorder (Criteria.ofDocument doc) :=
    (Position.criteria doc).settled
  refine ⟨fun p hp => (hsettled.ok.1 ⟨c, h⟩ p hp).named, ?_⟩
  rintro ms rfl htype
  exact (Criteria.ofDocument_withoutType htype c).1 h

/-- Criteria with null for their type, which have criteria in the place of a rule. -/
theorem criteria_types_nested :
    let nested : Json := .object [("rules", .array []), ("type", .string "group")]
    let doc : Json := .object [("rules", .array [nested]), ("type", .null)]
    Criteria.ofDocument doc = .ok ⟨none, .and, [.nested .empty]⟩ ∧ (Position.rule nested).Named ∧
      Criteria.ofDocument (.object [("rules", .array [nested])]) = .ok ⟨none, .and, [.nested .empty]⟩ := by
  intro nested doc
  have hread : Criteria.ofDocument doc = .ok ⟨none, .and, [.nested .empty]⟩ := rfl
  obtain ⟨hnamed, hwithout⟩ := criteria_types hread
  refine ⟨hread, hnamed _ ?_, hwithout _ rfl rfl⟩
  rw [Position.preorder_eq, List.mem_cons]
  exact .inr (List.mem_flatMap.2 ⟨.rule nested, List.mem_cons_self, Position.preorder_eq _ ▸ List.mem_cons_self⟩)

/-- Criteria with a number as their type are read as criteria. -/
theorem criteria_types_passed_over :
    let doc : Json := .object [("rules", .array []), ("type", .number (.whole 7))]
    Criteria.ofDocument doc = .ok .empty ∧ Position.criteria doc ∈ (Position.criteria doc).preorder ∧
      doc.member? "type" = some (.number (.whole 7)) := by
  intro doc
  refine ⟨rfl, ?_, rfl⟩
  rw [Position.preorder_eq]
  exact List.mem_cons_self

end Cohort
