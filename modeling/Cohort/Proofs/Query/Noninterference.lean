import Cohort.Proofs.Query.Derivation
import Cohort.Proofs.Query.Resolution

/-!
# Values stay out of the text

Two rule trees that differ in nothing but the values of their conditions are `Similar`. If both make a query, the
texts are the same, and parameters differ only where a condition with another value has bound them
(`membershipQuery_noninterference`).

`Criteria.bindings` says of each parameter which condition binds it, if any, along the tree and without a builder;
these are the parameters of the query (`membershipQuery_parameters`).
-/

namespace Cohort

/-! ## Who binds a parameter -/

/-- A parameter with the condition that binds it, or without one if it is the identifier of an entity. -/
abbrev Binding := Option Condition × Parameter

mutual

/-- The parameters of a rule on rows of an entity, in their order. -/
def Rule.bindings (d : Definitions) (scope : Uuid) : Rule → List Binding
  | .condition c =>
    match c.resolve d scope with
    | .ok t => t.comparison.parameters.map (some c, ·)
    | .error _ => []
  | .nested ⟨_, _, rs⟩ => Rule.allBindings d scope rs
  | .related id ⟨_, _, rs⟩ =>
    match d.join scope id with
    | .ok join => (none, .uuid join.relatedEntityId) :: Rule.allBindings d join.relatedEntityId rs
    | .error _ => []

/-- The parameters of rules on rows of an entity, in their order. -/
def Rule.allBindings (d : Definitions) (scope : Uuid) : List Rule → List Binding
  | [] => []
  | r :: rs => r.bindings d scope ++ Rule.allBindings d scope rs

end

/-- The parameters of the query for the rows of an entity that satisfy criteria, in their order. -/
def Criteria.bindings (d : Definitions) (entity : Uuid) (c : Criteria) : List Binding :=
  (none, .uuid entity) :: Rule.allBindings d entity c.rules

theorem Rule.bindings_condition {d : Definitions} {scope : Uuid} {c : Condition} {t : Test}
    (h : c.resolve d scope = .ok t) :
    (Rule.condition c).bindings d scope = t.comparison.parameters.map (some c, ·) := by
  rw [Rule.bindings, h]

theorem Rule.bindings_related {d : Definitions} {scope id : Uuid} {join : Join} (h : d.join scope id = .ok join)
    (c : Criteria) : (Rule.related id c).bindings d scope =
      (none, .uuid join.relatedEntityId) :: Rule.allBindings d join.relatedEntityId c.rules := by
  obtain ⟨_, k, rs⟩ := c
  rw [Rule.bindings, h]

theorem Rule.bindings_nested (d : Definitions) (scope : Uuid) (c : Criteria) :
    (Rule.nested c).bindings d scope = Rule.allBindings d scope c.rules := by
  obtain ⟨_, k, rs⟩ := c
  rw [Rule.bindings]

/-- **A builder hands out the parameters of the rules.** -/
theorem Builder.Builds.parameters_eq {d : Definitions} {row : Alias} {scope : Uuid} {rs : List Rule} {b b' : Builder}
    {ps : List Predicate} (h : Builder.Builds d row scope rs b ps b') :
    b'.parameters = b.parameters ++ (Rule.allBindings d scope rs).map Prod.snd := by
  induction h with
  | nil => exact (List.append_nil _).symm
  | condition ht _ ih =>
    rw [ih, Rule.allBindings, Rule.bindings_condition ht, List.map_append, List.map_map, List.append_assoc]
    exact congrArg _ (congrArg (· ++ _) (List.map_id _).symm)
  | nested _ _ ihc ih =>
    rw [ih, ihc, Rule.allBindings, Rule.bindings_nested, List.map_append, List.append_assoc]
  | related hj _ _ ihc ih =>
    rw [ih, ihc, Rule.allBindings, Rule.bindings_related hj, List.map_append, List.map_cons, List.append_assoc,
      List.append_assoc]
    rfl

/-- The parameters of a query are those of its criteria. -/
theorem membershipQuery_parameters {d : Definitions} {c : Criteria} {entity : Uuid} {q : Query}
    (h : membershipQuery d c entity = .ok q) : q.parameters = (c.bindings d entity).map Prod.snd := by
  obtain ⟨ps, b, hb, rfl⟩ := membershipQuery_ok h
  exact hb.parameters_eq

/-! ## Trees that differ in their values -/

/-- Conditions that differ in nothing but their values, of which two lists for `in` have the same length. -/
structure Condition.Similar (c c' : Condition) : Prop where
  /-- Nothing else differs. -/
  eq : c' = { c with value := c'.value }
  /-- Lists have the same length. -/
  length : Operator.parse? c.operator = some .among → ∀ xs xs', c.value.array? = some xs → c'.value.array? = some xs' →
    xs.length = xs'.length

mutual

/-- Rules that differ in nothing but the values of their conditions. -/
def Rule.Similar : Rule → Rule → Prop
  | .condition c, .condition c' => c.Similar c'
  | .nested ⟨i, k, rs⟩, .nested ⟨i', k', rs'⟩ => i = i' ∧ k = k' ∧ Rule.AllSimilar rs rs'
  | .related id ⟨i, k, rs⟩, .related id' ⟨i', k', rs'⟩ => id = id' ∧ i = i' ∧ k = k' ∧ Rule.AllSimilar rs rs'
  | _, _ => False

/-- Lists of rules that differ in nothing but the values of their conditions. -/
def Rule.AllSimilar : List Rule → List Rule → Prop
  | [], [] => True
  | r :: rs, r' :: rs' => r.Similar r' ∧ Rule.AllSimilar rs rs'
  | _, _ => False

end

/-- Criteria that differ in nothing but the values of their conditions. -/
structure Criteria.Similar (c c' : Criteria) : Prop where
  /-- The entity is the same. -/
  entityId : c.entityId = c'.entityId
  /-- The connective is the same. -/
  connective : c.connective = c'.connective
  /-- The rules differ in nothing but the values of their conditions. -/
  rules : Rule.AllSimilar c.rules c'.rules

/-- Parameters that are the same unless conditions with different values bind them. -/
def Binding.Agrees (x x' : Binding) : Prop :=
  x.2 ≠ x'.2 → ∃ c c', x.1 = some c ∧ x'.1 = some c' ∧ c.value ≠ c'.value

/-! ## One condition -/

/-- Comparisons that bind as many parameters and differ in nothing else. -/
inductive Comparison.Similar : Comparison → Comparison → Prop
  | nullCheck {op : Operator} : Similar (.nullCheck op) (.nullCheck op)
  | value {op : Operator} {p p' : Parameter} : Similar (.value op p) (.value op p')
  | among {ps ps' : List Parameter} : ps.length = ps'.length → Similar (.among ps) (.among ps')

theorem AttributeKind.Compares.similar {kind : AttributeKind} {op : Operator} {v v' : Json} {k k' : Comparison}
    (h : kind.Compares op v k) (h' : kind.Compares op v' k')
    (hlen : op = .among → ∀ xs xs', v.array? = some xs → v'.array? = some xs' → xs.length = xs'.length) :
    k.Similar k' := by
  cases h with
  | nullCheck hop =>
    cases h' with
    | nullCheck _ => exact .nullCheck
    | among _ _ | contains _ => cases hop
    | value hop' _ _ _ => rw [hop] at hop'; cases hop'
  | among hxs hps =>
    cases h' with
    | nullCheck hop => cases hop
    | among hxs' hps' =>
      have := hlen rfl _ _ hxs hxs'
      exact .among (by rw [← hps.length_eq, ← hps'.length_eq, this])
    | value _ hne _ _ => exact absurd rfl hne
  | contains _ =>
    cases h' with
    | nullCheck hop => cases hop
    | contains _ => exact .value
    | value _ _ hne _ => exact absurd rfl hne
  | value hop hamong hcontains _ =>
    cases h' with
    | nullCheck hop' => rw [hop] at hop'; cases hop'
    | among _ _ => exact absurd rfl hamong
    | contains _ => exact absurd rfl hcontains
    | value _ _ _ _ => exact .value

theorem Comparison.Similar.length_eq {k k' : Comparison} (h : k.Similar k') :
    k.parameters.length = k'.parameters.length := by
  cases h with
  | nullCheck | value => rfl
  | among h => exact h

theorem Comparison.Similar.predicate_eq {a : Attribute} {k k' : Comparison} (h : k.Similar k') (row : Alias) (n : Nat) :
    Test.predicate row n ⟨a, k⟩ = Test.predicate row n ⟨a, k'⟩ := by
  cases h with
  | nullCheck | value => rfl
  | @among ps ps' h =>
    cases ps with
    | nil =>
      obtain rfl : ps' = [] := List.eq_nil_of_length_eq_zero h.symm
      rfl
    | cons p ps =>
      cases ps' with
      | nil => cases h
      | cons p' ps' =>
        show Predicate.membership _ (List.range' (n + 1) (p :: ps).length) =
          Predicate.membership _ (List.range' (n + 1) (p' :: ps').length)
        rw [h]

/-- Similar conditions are tests of one attribute that bind as many parameters. -/
theorem Condition.Similar.tests {d : Definitions} {scope : Uuid} {c c' : Condition} {t t' : Test} (h : c.Similar c')
    (ht : c.resolve d scope = .ok t) (ht' : c'.resolve d scope = .ok t') :
    t.subject = t'.subject ∧ t.comparison.Similar t'.comparison := by
  obtain ⟨ha, _, _, op, hop, _, hk⟩ := Condition.resolve_ok ht
  obtain ⟨ha', _, _, op', hop', _, hk'⟩ := Condition.resolve_ok ht'
  rw [h.eq] at ha' hop'
  obtain rfl : op = op' := Option.some.inj (hop.symm.trans hop')
  have hsubject : t.subject = t'.subject := Option.some.inj (ha.symm.trans ha')
  rw [← hsubject] at hk'
  refine ⟨hsubject, hk.similar hk' ?_⟩
  rintro rfl
  exact h.length hop

/-- Similar conditions bind parameters that agree. -/
theorem Condition.Similar.agree {d : Definitions} {scope : Uuid} {c c' : Condition} {t t' : Test} (h : c.Similar c')
    (ht : c.resolve d scope = .ok t) (ht' : c'.resolve d scope = .ok t') :
    List.Forall₂ Binding.Agrees (t.comparison.parameters.map (some c, ·))
      (t'.comparison.parameters.map (some c', ·)) := by
  have hlen := (h.tests ht ht').2.length_eq
  -- With the same value the conditions are the same; with another one every parameter may differ.
  by_cases hv : c.value = c'.value
  · obtain rfl : c' = c := by rw [h.eq, ← hv]
    obtain rfl : t = t' := Except.ok.inj (ht.symm.trans ht')
    exact List.forall₂_same.2 fun x _ hx => absurd rfl hx
  · rw [List.forall₂_map_left_iff, List.forall₂_map_right_iff]
    exact List.forall₂_of_length_eq_of_get hlen fun i _ _ _ => ⟨c, c', rfl, rfl, hv⟩

/-! ## Rules -/

/-- A list similar to one that starts with a condition starts with a similar condition. -/
theorem Rule.AllSimilar.condition {c : Condition} {rs rs' : List Rule} (h : Rule.AllSimilar (.condition c :: rs) rs') :
    ∃ c' rest, rs' = .condition c' :: rest ∧ c.Similar c' ∧ Rule.AllSimilar rs rest := by
  match rs', h with
  | .condition c' :: rest, ⟨hr, hrs⟩ => exact ⟨c', rest, rfl, hr, hrs⟩

/-- A list similar to one that starts with criteria starts with similar criteria. -/
theorem Rule.AllSimilar.nested {c : Criteria} {rs rs' : List Rule} (h : Rule.AllSimilar (.nested c :: rs) rs') :
    ∃ c' rest, rs' = .nested c' :: rest ∧ c.Similar c' ∧ Rule.AllSimilar rs rest := by
  obtain ⟨i, k, ss⟩ := c
  match rs', h with
  | .nested ⟨i', k', ss'⟩ :: rest, ⟨⟨hi, hk, hss⟩, hrs⟩ => exact ⟨_, rest, rfl, ⟨hi, hk, hss⟩, hrs⟩

/-- A list similar to one that starts with a relationship starts with this relationship to similar criteria. -/
theorem Rule.AllSimilar.related {id : Uuid} {c : Criteria} {rs rs' : List Rule}
    (h : Rule.AllSimilar (.related id c :: rs) rs') :
    ∃ c' rest, rs' = .related id c' :: rest ∧ c.Similar c' ∧ Rule.AllSimilar rs rest := by
  obtain ⟨i, k, ss⟩ := c
  match rs', h with
  | .related id' ⟨i', k', ss'⟩ :: rest, ⟨⟨hid, hi, hk, hss⟩, hrs⟩ =>
    exact ⟨⟨i', k', ss'⟩, rest, by rw [hid], ⟨hi, hk, hss⟩, hrs⟩

namespace Builder

/-- As much has been handed out. -/
structure SameCounts (b b' : Builder) : Prop where
  /-- As many parameters. -/
  parameters : b.parameters.length = b'.parameters.length
  /-- As many aliases. -/
  aliases : b.aliases = b'.aliases

theorem SameCounts.push {b b' : Builder} (h : b.SameCounts b') {ps ps' : List Parameter}
    (hlen : ps.length = ps'.length) : (b.push ps).SameCounts (b'.push ps') := by
  refine ⟨?_, h.aliases⟩
  rw [List.length_append, List.length_append, h.parameters, hlen]

/-- **Similar rules give the same predicates and bind parameters that agree.** -/
theorem Builds.similar {d : Definitions} {row : Alias} {scope : Uuid} {rs : List Rule} {b₁ b₂ : Builder}
    {ps : List Predicate} (h : Builds d row scope rs b₁ ps b₂) : ∀ {rs' : List Rule} {b₁' b₂' : Builder}
      {ps' : List Predicate}, Rule.AllSimilar rs rs' → b₁.SameCounts b₁' → Builds d row scope rs' b₁' ps' b₂' →
      ps = ps' ∧ b₂.SameCounts b₂' ∧
        List.Forall₂ Binding.Agrees (Rule.allBindings d scope rs) (Rule.allBindings d scope rs') := by
  induction h with
  | nil =>
    intro rs' b₁' b₂' ps' hrs hb h'
    match rs', hrs with
    | [], _ =>
      cases h'
      exact ⟨rfl, hb, .nil⟩
  | @condition row scope c t rs b _ _ ht _ ih =>
    intro rs' b₁' b₂' ps' hrs hb h'
    obtain ⟨c', rest, rfl, hc, hrs⟩ := hrs.condition
    cases h' with
    | @condition _ _ _ t' _ _ _ _ ht' hrest =>
      obtain ⟨hsubject, hk⟩ := hc.tests ht ht'
      obtain ⟨rfl, hb', hagree⟩ := ih hrs (hb.push hk.length_eq) hrest
      refine ⟨?_, hb', ?_⟩
      -- The predicate depends on the attribute, the operator and the number of values, but on no value.
      · obtain ⟨a, k⟩ := t
        obtain ⟨a', k'⟩ := t'
        obtain rfl : a = a' := hsubject
        rw [hk.predicate_eq, hb.parameters]
      · rw [Rule.allBindings, Rule.allBindings, Rule.bindings_condition ht, Rule.bindings_condition ht']
        exact List.rel_append (hc.agree ht ht') hagree
  | nested _ _ ihc ih =>
    intro rs' b₁' b₂' ps' hrs hb h'
    obtain ⟨c', rest, rfl, hc, hrs⟩ := hrs.nested
    cases h' with
    | nested hc' hrest =>
      obtain ⟨rfl, hb', hagreec⟩ := ihc hc.rules hb hc'
      obtain ⟨rfl, hb', hagree⟩ := ih hrs hb' hrest
      refine ⟨by rw [hc.connective], hb', ?_⟩
      rw [Rule.allBindings, Rule.allBindings, Rule.bindings_nested, Rule.bindings_nested]
      exact List.rel_append hagreec hagree
  | @related row scope id join c rs b _ _ _ _ hj _ _ ihc ih =>
    intro rs' b₁' b₂' ps' hrs hb h'
    obtain ⟨c', rest, rfl, hc, hrs⟩ := hrs.related
    cases h' with
    | related hj' hc' hrest =>
      obtain rfl := Except.ok.inj (hj.symm.trans hj')
      rw [← hb.aliases] at hc'
      have hstart : SameCounts ⟨b.parameters ++ [.uuid join.relatedEntityId], b.aliases + 1⟩
          ⟨b₁'.parameters ++ [.uuid join.relatedEntityId], b.aliases + 1⟩ :=
        ⟨by rw [List.length_append, List.length_append, hb.parameters], rfl⟩
      obtain ⟨rfl, hb', hagreec⟩ := ihc hc.rules hstart hc'
      obtain ⟨rfl, hb', hagree⟩ := ih hrs hb' hrest
      refine ⟨by rw [hc.connective, hb.parameters, hb.aliases], hb', ?_⟩
      rw [Rule.allBindings, Rule.allBindings, Rule.bindings_related hj, Rule.bindings_related hj]
      exact List.rel_append (.cons (fun hx => absurd rfl hx) hagreec) hagree

end Builder

/-! ## Queries -/

/-- **Values never reach the text of a query.** Take criteria that differ in nothing but the values of their
conditions, of which two lists for `in` have the same length. If both make a query, the texts are the same, there are
as many parameters, and two parameters under one number differ only if conditions with different values bind them. -/
theorem membershipQuery_noninterference {d : Definitions} {c c' : Criteria} {entity : Uuid} {q q' : Query}
    (hsimilar : c.Similar c') (h : membershipQuery d c entity = .ok q) (h' : membershipQuery d c' entity = .ok q') :
    q.text = q'.text ∧ q.parameters.length = q'.parameters.length ∧
      q.parameters = (c.bindings d entity).map Prod.snd ∧ q'.parameters = (c'.bindings d entity).map Prod.snd ∧
      ∀ (i : Nat) (x x' : Binding), (c.bindings d entity)[i]? = some x → (c'.bindings d entity)[i]? = some x' →
        x.2 ≠ x'.2 → ∃ k k', x.1 = some k ∧ x'.1 = some k' ∧ k.value ≠ k'.value := by
  have hp := membershipQuery_parameters h
  have hp' := membershipQuery_parameters h'
  obtain ⟨ps, b, hb, rfl⟩ := membershipQuery_ok h
  obtain ⟨ps', b', hb', rfl⟩ := membershipQuery_ok h'
  obtain ⟨rfl, hcounts, hagree⟩ := hb.similar hsimilar.rules ⟨rfl, rfl⟩ hb'
  have hall : List.Forall₂ Binding.Agrees (c.bindings d entity) (c'.bindings d entity) :=
    .cons (fun hx => absurd rfl hx) hagree
  refine ⟨by rw [hsimilar.connective], hcounts.parameters, hp, hp', ?_⟩
  intro i x x' hx hx'
  obtain ⟨hi, rfl⟩ := List.getElem?_eq_some_iff.1 hx
  obtain ⟨hi', rfl⟩ := List.getElem?_eq_some_iff.1 hx'
  exact hall.get hi hi'

/-- Two texts and two lists of totals for the same shop. -/
theorem membershipQuery_noninterference_shop : ∃ q q',
    membershipQuery Shop.definitions (Shop.criteria "ann" ["10", "20"]) (Shop.id 1) = .ok q ∧
    membershipQuery Shop.definitions (Shop.criteria "' OR TRUE --" ["10", "30"]) (Shop.id 1) = .ok q' ∧
    q.text = q'.text ∧ q.parameters.length = q'.parameters.length := by
  obtain ⟨q, h⟩ : ∃ q, membershipQuery Shop.definitions (Shop.criteria "ann" ["10", "20"]) (Shop.id 1) = .ok q :=
    exists_of_isOk (by decide +kernel)
  obtain ⟨q', h'⟩ : ∃ q, membershipQuery Shop.definitions (Shop.criteria "' OR TRUE --" ["10", "30"]) (Shop.id 1) =
    .ok q := exists_of_isOk (by decide +kernel)
  have hsimilar : (Shop.criteria "ann" ["10", "20"]).Similar (Shop.criteria "' OR TRUE --" ["10", "30"]) := by
    refine ⟨rfl, rfl, ⟨rfl, ?_⟩, ⟨rfl, rfl, ⟨rfl, rfl, trivial⟩, ⟨rfl, rfl, rfl, ⟨rfl, ?_⟩, trivial⟩, trivial⟩, trivial⟩
    · intro _ xs xs' hxs _
      cases hxs
    · intro _ xs xs' hxs hxs'
      cases hxs
      cases hxs'
      rfl
  obtain ⟨htext, hlen, _⟩ := membershipQuery_noninterference hsimilar h h'
  exact ⟨q, q', h, h', htext, hlen⟩

end Cohort
