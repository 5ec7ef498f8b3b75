import Cohort.Proofs.Catalog.Prefetch

/-!
# What a successful call has loaded

Fetching may begin with definitions that were put together in any way. A call that succeeds has loaded all relationships
that the criteria refer to, the attributes of all conditions that are reached (`Definitions.Reaches`) and, with each
relationship that it fetches, both attributes that it joins by (`prefetch_loads`). It does not look into relationships
that are held already: the attributes of such a one that are not held may still be missing afterwards
(`prefetch_skips_shop`).
-/

namespace Cohort

/-- A condition of a rule on rows of an entity, behind relationships only that start from the entity in scope. -/
inductive Definitions.Reaches (d : Definitions) : Uuid → Rule → Condition → Prop
  /-- The rule is the condition. -/
  | condition (scope : Uuid) (c : Condition) : Reaches d scope (.condition c) c
  /-- The condition belongs to a rule of nested criteria. -/
  | nested (scope : Uuid) (criteria : Criteria) (r : Rule) (c : Condition) :
    r ∈ criteria.rules → Reaches d scope r c → Reaches d scope (.nested criteria) c
  /-- The condition belongs to a rule on related rows. -/
  | related (scope id : Uuid) (rel : Relationship) (t : Traversal) (criteria : Criteria) (r : Rule) (c : Condition) :
    d.relationship? id = some rel → rel.from? scope = some t → r ∈ criteria.rules →
      Reaches d t.relatedEntityId r c → Reaches d scope (.related id criteria) c

namespace Definitions

variable {d : Definitions}

theorem mem_wantedRules {scope : Uuid} {p : Uuid × Uuid} {r : Rule} (hp : p ∈ d.wantedRule scope r) :
    ∀ {rs : List Rule}, r ∈ rs → p ∈ d.wantedRules scope rs
  | s :: rs, hr => by
    rw [wantedRules, List.mem_append]
    cases hr with
    | head => exact .inl hp
    | tail _ hr => exact .inr (mem_wantedRules hp hr)

theorem mem_wanted {scope : Uuid} {p : Uuid × Uuid} {r : Rule} {criteria : Criteria} (hr : r ∈ criteria.rules)
    (hp : p ∈ d.wantedRule scope r) : p ∈ d.wanted scope criteria := by
  obtain ⟨_, _, rs⟩ := criteria
  rw [wanted]
  exact mem_wantedRules hp hr

/-- The attributes of conditions that are reached are wanted. -/
theorem Reaches.wanted {scope : Uuid} {r : Rule} {c : Condition} (h : d.Reaches scope r c) :
    ∃ entity, (entity, c.attributeId) ∈ d.wantedRule scope r := by
  induction h with
  | condition scope c =>
    rw [wantedRule]
    exact ⟨_, List.mem_singleton_self _⟩
  | nested scope criteria r c hr _ ih =>
    obtain ⟨entity, hwanted⟩ := ih
    rw [wantedRule]
    exact ⟨entity, mem_wanted hr hwanted⟩
  | related scope id rel t criteria r c hrel ht hr _ ih =>
    obtain ⟨entity, hwanted⟩ := ih
    rw [wantedRule, hrel, Option.bind_some, ht]
    exact ⟨entity, mem_wanted hr hwanted⟩

end Definitions

/-- **What a successful call has loaded**, whatever was held before: every relationship that the criteria refer to is
held; each of the two attributes that it joins by is held, unless the relationship was held before without it; and the
attribute of every condition is held behind relationships that start from the entity in scope. -/
theorem prefetch_loads (call : Prefetch.Call) (d : Definitions) (h : (call.run d).1 = .ok ()) :
    (∀ id ∈ Rule.allRelationshipIds call.criteria.rules, ∃ rel, (call.run d).2.relationship? id = some rel ∧
      ∀ key ∈ [rel.sourceAttributeId, rel.targetAttributeId], ((call.run d).2.attribute? key).isSome ∨
        d.relationship? id = some rel ∧ d.attribute? key = none) ∧
    ∀ r ∈ call.criteria.rules, ∀ c, (call.run d).2.Reaches call.entity r c →
      ((call.run d).2.attribute? c.attributeId).isSome := by
  obtain ⟨hprogress, hloaded⟩ := Prefetch.leads_all call.client call.criteria call.entity d call.state
  obtain ⟨hrelationships, hattributes⟩ := hloaded h
  refine ⟨fun id hid => ?_, fun r hr c hc => ?_⟩
  · obtain ⟨rel, hrel⟩ := Option.isSome_iff_exists.1
      (hrelationships id (Criteria.mem_relationshipIds_references.2 hid))
    refine ⟨rel, hrel, fun key hkey => ?_⟩
    obtain hheld | ⟨hsource, htarget⟩ := hprogress.brings id rel hrel
    · cases hold : d.attribute? key with
      | none => exact .inr ⟨hheld, rfl⟩
      | some a => exact .inl (hprogress.holdsAttribute (by rw [hold, Option.isSome_some]))
    · obtain rfl | rfl : key = rel.sourceAttributeId ∨ key = rel.targetAttributeId := by simpa using hkey
      · exact .inl hsource
      · exact .inl htarget
  · obtain ⟨entity, hwanted⟩ := hc.wanted
    exact hattributes _ (Definitions.mem_wanted hr hwanted)

/-- A call that begins with the orders of a shop and one of their two keys. The orders and this key are held afterwards,
and so are the names, which were not held before. -/
theorem prefetch_loads_shop :
    let call : Prefetch.Call := ⟨Registry, Registry.client, Shop.registry, Shop.criteria "ann" ["10"], Shop.id 1⟩
    let d := (⟨.empty, Shop.definitions.relationships⟩ : Definitions).withAttribute (Shop.id 4)
      ⟨Shop.id 4, Shop.id 1, "key", .text⟩
    (call.run d).1 = .ok () ∧ d.attribute? (Shop.id 3) = none ∧ ((call.run d).2.attribute? (Shop.id 3)).isSome ∧
      ∃ rel, d.relationship? (Shop.id 7) = some rel ∧ (call.run d).2.relationship? (Shop.id 7) = some rel ∧
        ((call.run d).2.attribute? rel.sourceAttributeId).isSome := by
  intro call d
  obtain ⟨hrelationships, hconditions⟩ := prefetch_loads call d rfl
  have hname : ((call.run d).2.attribute? (Shop.id 3)).isSome :=
    hconditions _ List.mem_cons_self _ (.condition (Shop.id 1) _)
  obtain ⟨rel, hrel, hkeys⟩ := hrelationships (Shop.id 7) (by decide)
  obtain rfl : _ = rel := Option.some.inj hrel
  refine ⟨rfl, rfl, hname, _, rfl, hrel, (hkeys (Shop.id 4) (by decide)).resolve_right ?_⟩
  rintro ⟨-, hmissing⟩
  cases hmissing

/-- Of a relationship that is held without its attributes none is loaded. -/
theorem prefetch_skips_shop :
    let call : Prefetch.Call :=
      ⟨Registry, Registry.client, Shop.registry, ⟨none, .and, [.related (Shop.id 7) Criteria.empty]⟩, Shop.id 1⟩
    let d : Definitions := ⟨.empty, Shop.definitions.relationships⟩
    (call.run d).1 = .ok () ∧ Shop.id 7 ∈ Rule.allRelationshipIds call.criteria.rules ∧
      ∃ rel, (call.run d).2.relationship? (Shop.id 7) = some rel ∧
        (call.run d).2.attribute? rel.sourceAttributeId = none ∧
        (call.run d).2.attribute? rel.targetAttributeId = none := by
  intro call d
  exact ⟨rfl, by decide, _, rfl, rfl, rfl⟩

end Cohort
