import Cohort.Proofs.Rule.Form

/-!
# Positions in the documents of rules

A rule tree is read position by position (`Position.preorder`), each before those inside of it. What is inside of a
position stands inside of its document (`Position.within_children`), so there is an end to it. At each position only the
parts there count (`Position.Fine`, `Position.Fault`): if they are not in order, there is one fault
(`Position.existsUnique_fault`).

What is checked at a position depends on the type that is named there (`settles_condition` and so on), and reading goes
on inside only after that: it settles the position and all those inside of it (`Position.settled`).
-/

namespace Cohort

open Json

/-! ## Documents inside documents -/

/-- A document that is an element or a member of another one. -/
inductive Json.Inside : Json → Json → Prop where
  | element {x : Json} {xs : List Json} (h : x ∈ xs) : Inside x (.array xs)
  | member {name : String} {x : Json} {ms : List (String × Json)} (h : (name, x) ∈ ms) : Inside x (.object ms)

/-- A document inside of another one, at any depth. -/
abbrev Json.Within : Json → Json → Prop := Relation.TransGen Inside

theorem Json.Inside.sizeOf_lt {x doc : Json} (h : Inside x doc) : sizeOf x < sizeOf doc := by
  cases h with
  | element h =>
    have := List.sizeOf_lt_of_mem h
    simp
    omega
  | member h =>
    have := List.sizeOf_lt_of_mem h
    simp at this ⊢
    omega

theorem Json.Within.sizeOf_lt {x doc : Json} (h : Within x doc) : sizeOf x < sizeOf doc := by
  induction h with
  | single h => exact h.sizeOf_lt
  | tail _ h ih => exact ih.trans h.sizeOf_lt

theorem Criteria.within_ruleDocuments {x doc : Json} (h : x ∈ ruleDocuments doc) : Within x doc := by
  have hlist {o : Option Json} (h : x ∈ (o.bind array?).getD []) : ∃ v, o = some v ∧ Inside x v := by
    match o with
    | some (.array xs) => exact ⟨_, rfl, .element h⟩
    | none => cases h
    | some .null | some (.bool _) | some (.number _) | some (.string _) | some (.object _) => cases h
  cases doc with
  | object ms =>
    obtain ⟨v, hv, hx⟩ := hlist h
    exact .tail (.single hx) (.member (mem_of_lookup hv))
  | array xs =>
    obtain ⟨v, hv, hx⟩ := hlist h
    exact .tail (.single hx) (.element (List.mem_of_getElem? hv))
  | _ => cases h

/-! ## Positions -/

/-- A document in a rule tree, with what it is read as. -/
inductive Position where
  /-- The document of criteria. -/
  | criteria (doc : Json)
  /-- The document of a rule. -/
  | rule (doc : Json)

namespace Position

/-- The document at a position. -/
def doc : Position → Json
  | criteria doc => doc
  | rule doc => doc

/-- The positions right inside of a position. -/
def children : Position → List Position
  | criteria doc => (Criteria.ruleDocuments doc).map rule
  | rule doc =>
    match typeOf? doc with
    | some "group" => (Criteria.ruleDocuments doc).map rule
    | some "relationship_group" => (doc.member? "relatedEntityRules").toList.map criteria
    | _ => []

theorem within_children {p q : Position} (h : q ∈ p.children) : Within q.doc p.doc := by
  have hrules {doc : Json} (h : q ∈ (Criteria.ruleDocuments doc).map rule) : Within q.doc doc := by
    obtain ⟨x, hx, rfl⟩ := List.mem_map.1 h
    exact Criteria.within_ruleDocuments hx
  cases p with
  | criteria doc => exact hrules h
  | rule doc =>
    rw [children] at h
    split at h
    · exact hrules h
    · obtain ⟨v, hv, rfl⟩ := List.mem_map.1 h
      cases doc with
      | object ms => exact .single (.member (mem_of_lookup (Option.mem_toList.1 hv)))
      | _ => cases hv
    · cases h

/-- A position and all positions inside of it, each before those inside of it. -/
def preorder (p : Position) : List Position :=
  p :: p.children.attach.flatMap fun q => preorder q.1
termination_by sizeOf p.doc
decreasing_by exact (within_children q.2).sizeOf_lt

theorem preorder_eq (p : Position) : p.preorder = p :: p.children.flatMap preorder := by
  rw [preorder]
  simp

/-- What holds of a position if it holds of those right inside of it holds of all positions. -/
theorem induction {motive : Position → Prop} (h : ∀ p, (∀ q ∈ p.children, motive q) → motive p) (p : Position) :
    motive p :=
  h p fun q _ => induction h q
termination_by sizeOf p.doc
decreasing_by exact (within_children ‹_›).sizeOf_lt

/-! ## The parts at a position -/

/-- The parts at a position are in order, whatever is inside of it. -/
inductive Fine : Position → Prop where
  /-- Null for criteria without rules. -/
  | null : Fine (criteria .null)
  /-- Criteria that name the right type or none. -/
  | criteria {doc : Json} {s : Source} (htype : ∀ t, typeOf? doc = some t → t = "group")
      (hs : Criteria.shape.Offers doc s) (h : HeadForm s) : Fine (criteria doc)
  /-- A condition. -/
  | condition {ms : List (String × Json)} (htype : typeOf? (.object ms) = some "condition") (h : ConditionForm ms) :
      Fine (rule (.object ms))
  /-- Criteria in the place of a rule. -/
  | nested {doc : Json} {s : Source} (htype : typeOf? doc = some "group") (hs : Criteria.shape.Offers doc s)
      (h : HeadForm s) : Fine (rule doc)
  /-- A relationship. -/
  | related {ms : List (String × Json)} (htype : typeOf? (.object ms) = some "relationship_group")
      (h : IdentifierForm (ms.lookup "relationshipId")) : Fine (rule (.object ms))

/-- The first thing that is wrong with the parts at a position: its type, then its fields, then its connective. -/
inductive Fault : Position → RuleError → Prop where
  /-- Criteria name another type. -/
  | foreign {doc : Json} {t : String} (htype : typeOf? doc = some t) (ht : t ≠ "group") :
      Fault (criteria doc) (.unknownType t)
  /-- Criteria have something wrong with them. -/
  | criteria {doc : Json} {e : RuleError} (hnull : doc ≠ .null) (htype : ∀ t, typeOf? doc = some t → t = "group")
      (h : Criteria.HeadFault doc e) : Fault (criteria doc) e
  /-- A rule does not name its type. -/
  | untyped {doc : Json} (htype : typeOf? doc = none) : Fault (rule doc) .missingType
  /-- A rule names none of the three types. -/
  | unknown {doc : Json} {t : String} (htype : typeOf? doc = some t)
      (ht : t ∉ ["condition", "group", "relationship_group"]) : Fault (rule doc) (.unknownType t)
  /-- A condition has a part that is wrong or missing. -/
  | condition {doc : Json} {m : Mismatch} (htype : typeOf? doc = some "condition")
      (h : Condition.ofDocument doc = .error m) : Fault (rule doc) (.malformed m)
  /-- Criteria in the place of a rule have something wrong with them. -/
  | nested {doc : Json} {e : RuleError} (htype : typeOf? doc = some "group") (h : Criteria.HeadFault doc e) :
      Fault (rule doc) e
  /-- No relationship is named. -/
  | related {doc : Json} {m : Mismatch} (htype : typeOf? doc = some "relationship_group")
      (h : Rule.relationshipOf doc = .error m) : Fault (rule doc) (.malformed m)

/-! ## Checks -/

section Checks

variable {doc : Json} {t : String}

theorem settles_null : Settles Fine Fault [criteria .null] (Criteria.ofDocument .null) := by
  refine .single ?_ fun e => ?_
  · exact ⟨fun _ => .null, fun _ => ⟨.empty, rfl⟩⟩
  · constructor
    · intro h
      cases h
    · intro h
      cases h with
      | foreign htype => cases htype
      | criteria hnull => exact absurd rfl hnull

theorem settles_criteria (hnull : doc ≠ .null) (htype : ∀ t, typeOf? doc = some t → t = "group") :
    Settles Fine Fault [criteria doc] (Criteria.opening doc) := by
  refine .single (Criteria.exists_opening.trans ?_) fun e => Criteria.opening_eq_error.trans ?_
  · constructor
    · rintro ⟨s, hs, h⟩
      exact .criteria htype hs h
    · intro h
      cases h with
      | null => exact absurd rfl hnull
      | criteria _ hs h => exact ⟨_, hs, h⟩
  · constructor
    · exact .criteria hnull htype
    · intro h
      cases h with
      | foreign htype' ht => exact absurd (htype _ htype') ht
      | criteria _ _ h => exact h

/-- A document of the wrong type is refused for it. -/
theorem settles_refused {α : Type} {p : Position} {e : RuleError} (hfine : ¬Fine p)
    (hfault : ∀ e', Fault p e' ↔ e = e') : Settles (β := α) Fine Fault [p] (.error e) := by
  refine .single ?_ fun e' => ?_
  · simp [hfine]
  · rw [hfault, Except.error.injEq]

theorem settles_foreign (htype : typeOf? doc = some t) (ht : t ≠ "group") :
    Settles Fine Fault [criteria doc] (Criteria.ofDocument doc) := by
  rw [Criteria.ofDocument_foreign htype ht]
  refine settles_refused ?_ fun e => ⟨?_, ?_⟩
  · intro h
    cases h with
    | null => cases htype
    | criteria htype' => exact ht (htype' t htype)
  · intro h
    cases h with
    | foreign htype' => rw [Option.some.inj (htype.symm.trans htype')]
    | criteria _ htype' => exact absurd (htype' t htype) ht
  · rintro rfl
    exact .foreign htype ht

theorem settles_untyped (htype : typeOf? doc = none) : Settles Fine Fault [rule doc] (Rule.ofDocument doc) := by
  rw [Rule.ofDocument_untyped htype]
  refine settles_refused ?_ fun e => ⟨?_, ?_⟩
  · intro h
    cases h <;> simp_all
  · intro h
    cases h <;> simp_all
  · rintro rfl
    exact .untyped htype

theorem settles_unknown (htype : typeOf? doc = some t) (ht : t ∉ ["condition", "group", "relationship_group"]) :
    Settles Fine Fault [rule doc] (Rule.ofDocument doc) := by
  rw [Rule.ofDocument_unknown htype ht]
  refine settles_refused ?_ fun e => ⟨?_, ?_⟩
  · intro h
    cases h <;> simp_all
  · intro h
    cases h <;> simp_all
  · rintro rfl
    exact .unknown htype ht

theorem settles_condition (htype : typeOf? doc = some "condition") :
    Settles Fine Fault [rule doc] (wellFormed (Condition.ofDocument doc)) := by
  obtain ⟨ms, rfl, _⟩ := typeOf?_eq_some htype
  refine .single ?_ fun e => check_mapError_error.trans ?_
  · simp only [wellFormed, check_mapError_ok]
    refine exists_condition.trans ⟨.condition htype, fun h => ?_⟩
    cases h <;> simp_all
  · constructor
    · rintro ⟨m, hm, rfl⟩
      exact .condition htype hm
    · intro h
      cases h <;> simp_all

theorem settles_nested (htype : typeOf? doc = some "group") :
    Settles Fine Fault [rule doc] (Criteria.opening doc) := by
  refine .single (Criteria.exists_opening.trans ?_) fun e => Criteria.opening_eq_error.trans ?_
  · constructor
    · rintro ⟨s, hs, h⟩
      exact .nested htype hs h
    · intro h
      cases h with
      | nested _ hs h => exact ⟨_, hs, h⟩
      | condition => simp_all
      | related => simp_all
  · constructor
    · exact .nested htype
    · intro h
      cases h <;> simp_all

theorem settles_related (htype : typeOf? doc = some "relationship_group") :
    Settles Fine Fault [rule doc] (wellFormed (Rule.relationshipOf doc)) := by
  obtain ⟨ms, rfl, _⟩ := typeOf?_eq_some htype
  refine .single ?_ fun e => check_mapError_error.trans ?_
  · simp only [wellFormed, check_mapError_ok]
    refine exists_relationship.trans ⟨.related htype, fun h => ?_⟩
    cases h <;> simp_all
  · constructor
    · rintro ⟨m, hm, rfl⟩
      exact .related htype hm
    · intro h
      cases h <;> simp_all

/-- What criteria may be: null, of the right type, or of another type. -/
theorem criteria_cases (doc : Json) : doc = .null ∨ (doc ≠ .null ∧ ∀ t, typeOf? doc = some t → t = "group") ∨
    ∃ t, typeOf? doc = some t ∧ t ≠ "group" := by
  by_cases hnull : doc = .null
  · exact .inl hnull
  · by_cases htype : ∃ t, typeOf? doc = some t ∧ t ≠ "group"
    · exact .inr (.inr htype)
    · simp only [not_exists, not_and, not_not] at htype
      exact .inr (.inl ⟨hnull, htype⟩)

/-- What a rule may be. -/
theorem rule_cases (doc : Json) : typeOf? doc = none ∨ typeOf? doc = some "condition" ∨ typeOf? doc = some "group" ∨
    typeOf? doc = some "relationship_group" ∨
    ∃ t, typeOf? doc = some t ∧ t ∉ ["condition", "group", "relationship_group"] := by
  cases typeOf? doc with
  | none => exact .inl rfl
  | some t =>
    by_cases ht : t ∈ ["condition", "group", "relationship_group"]
    · simp at ht
      tauto
    · exact .inr (.inr (.inr (.inr ⟨t, rfl, ht⟩)))

/-- Every position is checked on its own. -/
theorem exists_check (p : Position) : ∃ (α : Type) (r : Except RuleError α), Settles Fine Fault [p] r := by
  cases p with
  | criteria doc =>
    rcases criteria_cases doc with rfl | ⟨hnull, htype⟩ | ⟨t, htype, ht⟩
    · exact ⟨_, _, settles_null⟩
    · exact ⟨_, _, settles_criteria hnull htype⟩
    · exact ⟨_, _, settles_foreign htype ht⟩
  | rule doc =>
    rcases rule_cases doc with htype | htype | htype | htype | ⟨t, htype, ht⟩
    · exact ⟨_, _, settles_untyped htype⟩
    · exact ⟨_, _, settles_condition htype⟩
    · exact ⟨_, _, settles_nested htype⟩
    · exact ⟨_, _, settles_related htype⟩
    · exact ⟨_, _, settles_unknown htype ht⟩

/-- **A position that is not fine has one fault, and a position that is fine has none.** -/
theorem existsUnique_fault (p : Position) : (∃! e, p.Fault e) ↔ ¬p.Fine := by
  obtain ⟨α, r, h⟩ := p.exists_check
  exact h.existsUnique_fault

end Checks

/-! ## Reading -/

/-- Reading settles a position and all positions inside of it. -/
def Settled : Position → Prop
  | criteria doc => Settles Fine Fault (preorder (.criteria doc)) (Criteria.ofDocument doc)
  | rule doc => Settles Fine Fault (preorder (.rule doc)) (Rule.ofDocument doc)

/-- The rules of criteria come after the criteria themselves. -/
theorem settles_assemble {p : Position} {doc : Json} (hopening : Settles Fine Fault [p] (Criteria.opening doc))
    (hrules : ∀ q ∈ (Criteria.ruleDocuments doc).map rule, q.Settled) :
    Settles Fine Fault (p :: ((Criteria.ruleDocuments doc).map rule).flatMap preorder)
      (Criteria.assemble doc ((Criteria.ruleDocuments doc).mapM Rule.ofDocument)) := by
  rw [Criteria.assemble_eq, List.flatMap_map]
  refine hopening.bind fun o _ => (Settles.flatMap fun x hx => ?_).map _
  exact hrules _ (List.mem_map_of_mem hx)

theorem settled_criteria {doc : Json} (ih : ∀ q ∈ (criteria doc).children, q.Settled) : (criteria doc).Settled := by
  rw [Settled, preorder_eq]
  rcases criteria_cases doc with rfl | ⟨hnull, htype⟩ | ⟨t, htype, ht⟩
  · exact settles_null
  · rw [Criteria.ofDocument_group hnull htype]
    exact settles_assemble (settles_criteria hnull htype) ih
  · have h := settles_foreign htype ht
    rw [Criteria.ofDocument_foreign htype ht] at h ⊢
    exact h.stop

theorem settled_rule {doc : Json} (ih : ∀ q ∈ (rule doc).children, q.Settled) : (rule doc).Settled := by
  rw [Settled, preorder_eq]
  rcases rule_cases doc with htype | htype | htype | htype | ⟨t, htype, ht⟩
  · rw [children, htype]
    exact settles_untyped htype
  · rw [children, htype, Rule.ofDocument_condition htype]
    exact (settles_condition htype).map _
  · rw [children, htype] at ih ⊢
    rw [Rule.ofDocument_group htype]
    exact (settles_assemble (settles_nested htype) ih).map _
  · rw [children, htype] at ih ⊢
    rw [Rule.ofDocument_related htype]
    refine (settles_related htype).bind fun id _ => ?_
    cases hrules : doc.member? "relatedEntityRules" with
    | none => exact .nil _
    | some v =>
      rw [hrules] at ih
      have hv : (criteria v).Settled := ih _ List.mem_cons_self
      exact hv.bind fun c _ => .nil _
  · have hnone : (rule doc).children = [] := by
      rw [children, htype]
      split <;> simp_all
    rw [hnone]
    exact settles_unknown htype ht

/-- **Reading settles every position with all that is inside of it.** -/
theorem settled (p : Position) : p.Settled := by
  induction p using induction with
  | h p ih =>
    cases p with
    | criteria doc => exact settled_criteria ih
    | rule doc => exact settled_rule ih

end Position

end Cohort
