import Cohort.Proofs.Rule.Position

/-!
# The grammar of rule trees

`CriteriaForm` is the grammar of criteria: null, an object or an array, with rules that are objects of three types
(`RuleForm`). It says nothing of how criteria are read, or in which order.

A document is in the grammar exactly if all its positions are fine (`Position.form_iff_preorder`), step by step from
one position to those right inside of it (`form_criteria`, `form_rule`). So reading, which settles the positions,
accepts exactly the grammar (`criteria_grammar`).
-/

namespace Cohort

open Json

/-! ## The grammar -/

mutual

/-- Criteria. -/
inductive CriteriaForm : Json → Prop where
  /-- Null stands for criteria without rules. -/
  | null : CriteriaForm .null
  /-- An object may leave out its type. -/
  | object {ms : List (String × Json)} (htype : ms.lookup "type" = none ∨ ms.lookup "type" = some (.string "group"))
      (h : FieldsForm (.named ms)) : CriteriaForm (.object ms)
  /-- An array has the fields at their places. -/
  | array {xs : List Json} (hlength : xs.length ≤ 3) (h : FieldsForm (.positional xs)) : CriteriaForm (.array xs)

/-- The fields of criteria. -/
inductive FieldsForm : Source → Prop where
  | mk {s : Source} (hentity : EntityForm (s.field? Criteria.shape "entityId"))
      (hconnective : ConnectiveForm (s.field? Criteria.shape "logicalOperator"))
      (hrules : RulesForm (s.field? Criteria.shape "rules")) : FieldsForm s

/-- The rules of criteria, if there is a list of them. -/
inductive RulesForm : Option Json → Prop where
  | absent : RulesForm none
  | list {xs : List Json} (h : ∀ x ∈ xs, RuleForm x) : RulesForm (some (.array xs))

/-- A rule. -/
inductive RuleForm : Json → Prop where
  /-- A condition. -/
  | condition {ms : List (String × Json)} (htype : ms.lookup "type" = some (.string "condition"))
      (h : ConditionForm ms) : RuleForm (.object ms)
  /-- Criteria of its own. -/
  | nested {ms : List (String × Json)} (htype : ms.lookup "type" = some (.string "group"))
      (h : FieldsForm (.named ms)) : RuleForm (.object ms)
  /-- Criteria on related rows. -/
  | related {ms : List (String × Json)} (htype : ms.lookup "type" = some (.string "relationship_group"))
      (hid : IdentifierForm (ms.lookup "relationshipId")) (h : RelatedForm (ms.lookup "relatedEntityRules")) :
      RuleForm (.object ms)

/-- The criteria on related rows, if there are any. -/
inductive RelatedForm : Option Json → Prop where
  | absent : RelatedForm none
  | present {doc : Json} (h : CriteriaForm doc) : RelatedForm (some doc)

end

/-- Every member called `type`, at any depth, is a string. -/
inductive TypesNamed : Json → Prop where
  | null : TypesNamed .null
  | bool {b : Bool} : TypesNamed (.bool b)
  | number {n : Json.Number} : TypesNamed (.number n)
  | string {s : String} : TypesNamed (.string s)
  | array {xs : List Json} (h : ∀ x ∈ xs, TypesNamed x) : TypesNamed (.array xs)
  | object {ms : List (String × Json)} (htype : ∀ m ∈ ms, m.1 = "type" → ∃ s, m.2 = .string s)
      (h : ∀ m ∈ ms, TypesNamed m.2) : TypesNamed (.object ms)

/-! ## Positions and the grammar -/

namespace Position

theorem typeOf?_object {ms : List (String × Json)} {t : String} :
    typeOf? (.object ms) = some t ↔ ms.lookup "type" = some (.string t) := by
  show (ms.lookup "type").bind string? = some t ↔ _
  cases ms.lookup "type" with
  | none => simp
  | some v => cases v <;> simp [string?]

/-- The document at a position has the form that it is to be read as. -/
def Form : Position → Prop
  | criteria doc => CriteriaForm doc
  | rule doc => RuleForm doc

end Position

theorem rulesForm_iff {o : Option Json} :
    RulesForm o ↔ (∀ v, o = some v → ∃ xs, v = .array xs) ∧ ∀ x ∈ (o.bind array?).getD [], RuleForm x := by
  constructor
  · intro h
    cases h with
    | absent => exact ⟨nofun, nofun⟩
    | list h =>
      refine ⟨?_, h⟩
      rintro v hv
      cases hv
      exact ⟨_, rfl⟩
  · rintro ⟨hlist, hrules⟩
    cases o with
    | none => exact .absent
    | some v =>
      obtain ⟨xs, rfl⟩ := hlist v rfl
      exact .list hrules

theorem fieldsForm_iff {doc : Json} {s : Source} (hs : Criteria.shape.Offers doc s) :
    FieldsForm s ↔ HeadForm s ∧ ∀ q ∈ (Criteria.ruleDocuments doc).map Position.rule, q.Form := by
  have hdocuments : ((s.field? Criteria.shape "rules").bind array?).getD [] = Criteria.ruleDocuments doc := by
    cases hs <;> rfl
  rw [List.forall_mem_map, ← hdocuments]
  constructor
  · rintro ⟨hentity, hconnective, hrules⟩
    obtain ⟨hlist, hrules⟩ := rulesForm_iff.1 hrules
    exact ⟨⟨hentity, hconnective, hlist⟩, hrules⟩
  · rintro ⟨⟨hentity, hconnective, hlist⟩, hrules⟩
    exact ⟨hentity, hconnective, rulesForm_iff.2 ⟨hlist, hrules⟩⟩

namespace TypesNamed

theorem of_within {x doc : Json} (hx : Within x doc) (h : TypesNamed doc) : TypesNamed x := by
  have hinside {x doc : Json} (hx : Inside x doc) (h : TypesNamed doc) : TypesNamed x := by
    cases hx with
    | element hx =>
      cases h with
      | array h => exact h _ hx
    | member hx =>
      cases h with
      | object _ h => exact h _ hx
  induction hx with
  | single hx => exact hinside hx h
  | tail _ hx ih => exact ih (hinside hx h)

/-- A type that is not named is not there. -/
theorem lookup_type {ms : List (String × Json)} (h : TypesNamed (.object ms)) (htype : typeOf? (.object ms) = none) :
    ms.lookup "type" = none := by
  cases h with
  | object hstring _ =>
    cases hv : ms.lookup "type" with
    | none => rfl
    | some v =>
      obtain ⟨s, hs⟩ := hstring _ (mem_of_lookup hv) rfl
      have hs : v = .string s := hs
      rw [hs] at hv
      rw [Position.typeOf?_object.2 hv] at htype
      cases htype

end TypesNamed

namespace Position

theorem form_criteria {doc : Json} (htypes : TypesNamed doc) :
    CriteriaForm doc ↔ (criteria doc).Fine ∧ ∀ q ∈ (criteria doc).children, q.Form := by
  constructor
  · intro h
    cases h with
    | null => exact ⟨.null, List.forall_mem_nil _⟩
    | object htype h =>
      obtain ⟨hhead, hrules⟩ := (fieldsForm_iff .object).1 h
      refine ⟨.criteria ?_ .object hhead, hrules⟩
      intro t ht
      rw [typeOf?_object] at ht
      simp_all
    | array hlength h =>
      obtain ⟨hhead, hrules⟩ := (fieldsForm_iff (.array hlength)).1 h
      exact ⟨.criteria nofun (.array hlength) hhead, hrules⟩
  · rintro ⟨hfine, hrules⟩
    cases hfine with
    | null => exact .null
    | criteria htype hs hhead =>
      have hfields := (fieldsForm_iff hs).2 ⟨hhead, hrules⟩
      cases hs with
      | array hlength => exact .array hlength hfields
      | object =>
        refine .object ?_ hfields
        cases ht : typeOf? (.object _) with
        | none => exact .inl (htypes.lookup_type ht)
        | some t => exact .inr (typeOf?_object.1 (htype t ht ▸ ht))

theorem relatedForm_iff {o : Option Json} : RelatedForm o ↔ ∀ q ∈ o.toList.map criteria, q.Form := by
  constructor
  · intro h
    cases h with
    | absent => exact List.forall_mem_nil _
    | present h =>
      intro q hq
      rw [List.mem_singleton.1 hq]
      exact h
  · intro h
    cases o with
    | none => exact .absent
    | some doc => exact .present (h _ List.mem_cons_self)

theorem form_rule {doc : Json} : RuleForm doc ↔ (rule doc).Fine ∧ ∀ q ∈ (rule doc).children, q.Form := by
  constructor
  · intro h
    cases h with
    | condition htype h =>
      rw [← typeOf?_object] at htype
      rw [children, htype]
      exact ⟨.condition htype h, List.forall_mem_nil _⟩
    | nested htype h =>
      rw [← typeOf?_object] at htype
      rw [children, htype]
      obtain ⟨hhead, hrules⟩ := (fieldsForm_iff .object).1 h
      exact ⟨.nested htype .object hhead, hrules⟩
    | related htype hid h =>
      rw [← typeOf?_object] at htype
      rw [children, htype]
      exact ⟨.related htype hid, relatedForm_iff.1 h⟩
  · rintro ⟨hfine, hchildren⟩
    cases hfine with
    | condition htype h => exact .condition (typeOf?_object.1 htype) h
    | nested htype hs hhead =>
      rw [children, htype] at hchildren
      have hfields := (fieldsForm_iff hs).2 ⟨hhead, hchildren⟩
      cases hs with
      | object => exact .nested (typeOf?_object.1 htype) hfields
      | array => cases htype
    | related htype hid =>
      rw [children, htype] at hchildren
      exact .related (typeOf?_object.1 htype) hid (relatedForm_iff.2 hchildren)

theorem form_iff {p : Position} (h : TypesNamed p.doc) : p.Form ↔ p.Fine ∧ ∀ q ∈ p.children, q.Form := by
  cases p with
  | criteria doc => exact form_criteria h
  | rule doc => exact form_rule

theorem form_iff_preorder (p : Position) (h : TypesNamed p.doc) : p.Form ↔ ∀ q ∈ p.preorder, q.Fine := by
  induction p using induction with
  | h p ih =>
    rw [form_iff h, preorder_eq, List.forall_mem_cons, List.forall_mem_flatMap]
    exact and_congr_right fun _ => forall₂_congr fun q hq => ih q hq (h.of_within (within_children hq))

end Position

/-- **Criteria are read exactly from documents of the grammar**, in which every `type` is a string. From any other the
error is the first fault of the first position in order that is not fine. -/
theorem criteria_grammar (doc : Json) (htypes : TypesNamed doc) :
    ((∃ c, Criteria.ofDocument doc = .ok c) ↔ CriteriaForm doc) ∧
    ∀ e, Criteria.ofDocument doc = .error e ↔ ∃ before p after,
      (Position.criteria doc).preorder = before ++ p :: after ∧ (∀ q ∈ before, q.Fine) ∧ p.Fault e :=
  have h : Settles Position.Fine Position.Fault (Position.criteria doc).preorder (Criteria.ofDocument doc) :=
    (Position.criteria doc).settled
  ⟨h.ok.trans ((Position.criteria doc).form_iff_preorder htypes).symm, h.error⟩

/-- Criteria as an array, with criteria under a connective and more rules. -/
def sampleDocument (connective : String) (more : List Json) : Json :=
  .array [.null, .string " ", .array
    (.object [("logicalOperator", .string connective), ("type", .string "group")] :: more)]

/-- A connective in any case with blanks around it will do; another word is the fault, also before a rule that is
none. -/
theorem criteria_grammar_sample : TypesNamed (sampleDocument " And" []) ∧ CriteriaForm (sampleDocument " And" []) ∧
    TypesNamed (sampleDocument "xor" [.null]) ∧ ¬CriteriaForm (sampleDocument "xor" [.null]) ∧
    ∃ before p after, (Position.criteria (sampleDocument "xor" [.null])).preorder = before ++ p :: after ∧
      (∀ q ∈ before, q.Fine) ∧ p.Fault (.invalidConnective "xor") := by
  have htypes (connective : String) {more : List Json} (h : ∀ x ∈ more, TypesNamed x) :
      TypesNamed (sampleDocument connective more) := by
    have hnested : TypesNamed (.object [("logicalOperator", .string connective), ("type", .string "group")]) := by
      refine .object (by simp) ?_
      simp only [List.forall_mem_cons]
      exact ⟨.string, .string, nofun⟩
    refine .array ?_
    simp only [List.forall_mem_cons]
    exact ⟨.null, .string, .array (List.forall_mem_cons.2 ⟨hnested, h⟩), nofun⟩
  have hgood : TypesNamed (sampleDocument " And" []) := htypes _ nofun
  have hbad : TypesNamed (sampleDocument "xor" [.null]) := htypes _ (List.forall_mem_singleton.2 .null)
  have herror : Criteria.ofDocument (sampleDocument "xor" [.null]) = .error (.invalidConnective "xor") := rfl
  refine ⟨hgood, (criteria_grammar _ hgood).1.1 ⟨_, rfl⟩, hbad, fun h => ?_, ((criteria_grammar _ hbad).2 _).1 herror⟩
  obtain ⟨c, hc⟩ := (criteria_grammar _ hbad).1.2 h
  rw [herror] at hc
  cases hc

end Cohort
