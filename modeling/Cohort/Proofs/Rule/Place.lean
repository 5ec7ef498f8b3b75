import Cohort.Proofs.Rule.References
import Mathlib.Data.List.Induction
import Mathlib.Data.List.Lex
import Mathlib.Data.List.Perm.Basic
import Mathlib.Data.List.Nodup

/-!
# Places in a rule tree

A rule stands at a place of a tree (`Rule.At`): the numbers of the rules that one goes through to get there, from the
top, and its own number at the end. Places are compared number by number, which is document order: a rule stands before
all rules inside of it (`Rule.At.append`), and these stand before the next rule beside it.

`Rule.placed` goes through all rules in this order and notes their places (`Rule.mem_placed`, `Rule.pairwise_placed`).
What a tree refers to is listed by places (`References.Lists`): every identifier that occurs at some place, once, in the
order of the places where they first occur. No other lists are like that, so these are the references of the tree
(`Criteria.eq_references_iff`).
-/

namespace Cohort

/-! ## Places -/

/-- The rules right inside of a rule. -/
def Rule.inner : Rule → List Rule
  | .condition _ => []
  | .nested c => c.rules
  | .related _ c => c.rules

/-- A rule stands at a place among rules: it is one of them, or it stands at a place inside of one of them. -/
inductive Rule.At : List Rule → List Nat → Rule → Prop
  | top {rs : List Rule} {i : Nat} {r : Rule} : rs[i]? = some r → At rs [i] r
  | inside {rs : List Rule} {i : Nat} {r : Rule} {p : List Nat} {s : Rule} :
    rs[i]? = some r → At r.inner p s → At rs (i :: p) s

mutual

/-- The rules inside of a rule, with their places there. -/
def Rule.placedInside : Rule → List (List Nat × Rule)
  | .condition _ => []
  | .nested ⟨_, _, rs⟩ => Rule.placed 0 rs
  | .related _ ⟨_, _, rs⟩ => Rule.placed 0 rs

/-- Rules and the rules inside of them, with their places, the first of the rules having the number `k`. -/
def Rule.placed (k : Nat) : List Rule → List (List Nat × Rule)
  | [] => []
  | r :: rs => ([k], r) :: (r.placedInside.map fun e => (k :: e.1, e.2)) ++ Rule.placed (k + 1) rs

end

namespace Rule

variable {r s : Rule} {rs : List Rule} {i k : Nat} {p : List Nat}

theorem placed_cons (k : Nat) (r : Rule) (rs : List Rule) : placed k (r :: rs) =
    ([k], r) :: ((placed 0 r.inner).map fun e => (k :: e.1, e.2)) ++ placed (k + 1) rs := by
  rcases r with c | ⟨_, _, ss⟩ | ⟨id, _, _, ss⟩
  · rw [placed, placedInside, inner, placed]
  · rw [placed, placedInside, inner]
  · rw [placed, placedInside, inner]

/-- What holds of no rules, and of rules if it holds of those inside of the first one and of those behind it, holds of
all rules. -/
theorem induction {motive : List Rule → Prop} (nil : motive [])
    (cons : ∀ r rs, motive r.inner → motive rs → motive (r :: rs)) : ∀ rs, motive rs
  | [] => nil
  | .condition c :: rs => cons (.condition c) rs nil (Rule.induction nil cons rs)
  | .nested ⟨_, _, ss⟩ :: rs => cons (.nested ⟨_, _, ss⟩) rs (Rule.induction nil cons ss) (Rule.induction nil cons rs)
  | .related id ⟨_, _, ss⟩ :: rs =>
    cons (.related id ⟨_, _, ss⟩) rs (Rule.induction nil cons ss) (Rule.induction nil cons rs)

theorem not_at_nil : ¬ At [] p s := by
  intro h
  cases h with
  | top h => cases h
  | inside h _ => cases h

theorem At.ne_nil (h : At rs p s) : p ≠ [] := by
  cases h <;> exact List.cons_ne_nil _ _

/-- What stands inside of a rule stands behind it in the tree. -/
theorem At.append {q : List Nat} (h : At rs p r) (hq : At r.inner q s) : At rs (p ++ q) s ∧ p < p ++ q := by
  induction h with
  | top h =>
    obtain ⟨j, q', rfl⟩ := List.exists_cons_of_ne_nil hq.ne_nil
    exact ⟨.inside h hq, List.cons_lt_cons_iff.2 (.inr ⟨rfl, List.nil_lt_cons _ _⟩)⟩
  | inside h _ ih => exact ⟨.inside h (ih hq).1, List.cons_lt_cons_iff.2 (.inr ⟨rfl, (ih hq).2⟩)⟩

theorem at_cons_zero : At (r :: rs) (0 :: p) s ↔ p = [] ∧ s = r ∨ At r.inner p s := by
  constructor
  · intro h
    cases h with
    | top h => exact .inl ⟨rfl, (Option.some.inj h).symm⟩
    | inside h hp => exact .inr (Option.some.inj h ▸ hp)
  · rintro (⟨rfl, rfl⟩ | h)
    · exact .top rfl
    · exact .inside rfl h

theorem at_cons_succ : At (r :: rs) ((i + 1) :: p) s ↔ At rs (i :: p) s := by
  constructor
  · intro h
    cases h with
    | top h => exact .top h
    | inside h hp => exact .inside h hp
  · intro h
    cases h with
    | top h => exact .top h
    | inside h hp => exact .inside h hp

/-- **The rules that are gone through are those that stand at some place.** -/
theorem mem_placed : (p, s) ∈ placed k rs ↔ ∃ i q, p = (k + i) :: q ∧ At rs (i :: q) s := by
  induction rs using Rule.induction generalizing k p with
  | nil => simp [placed, not_at_nil]
  | cons r rs ihInner ih =>
    rw [placed_cons, List.cons_append, List.mem_cons, List.mem_append, ih, List.mem_map]
    constructor
    · rintro (h | ⟨⟨q, s'⟩, hq, h⟩ | ⟨i, q, rfl, h⟩)
      · obtain ⟨rfl, rfl⟩ := Prod.mk.inj h
        exact ⟨0, [], rfl, .top rfl⟩
      · obtain ⟨rfl, rfl⟩ := Prod.mk.inj h
        obtain ⟨i, q', rfl, hat⟩ := ihInner.1 hq
        rw [Nat.zero_add]
        exact ⟨0, i :: q', rfl, .inside rfl hat⟩
      · exact ⟨i + 1, q, by rw [Nat.add_right_comm, Nat.add_assoc], at_cons_succ.2 h⟩
    · rintro ⟨i, q, rfl, h⟩
      cases i with
      | zero =>
        obtain ⟨rfl, rfl⟩ | hat := at_cons_zero.1 h
        · exact .inl rfl
        · obtain ⟨j, q', rfl⟩ := List.exists_cons_of_ne_nil hat.ne_nil
          exact .inr (.inl ⟨(j :: q', s), ihInner.2 ⟨j, q', by rw [Nat.zero_add], hat⟩, rfl⟩)
      | succ i => exact .inr (.inr ⟨i, q, by rw [Nat.add_right_comm, Nat.add_assoc], at_cons_succ.1 h⟩)

theorem mem_placed_zero : (p, s) ∈ placed 0 rs ↔ At rs p s := by
  rw [mem_placed]
  constructor
  · rintro ⟨i, q, rfl, h⟩
    rwa [Nat.zero_add]
  · intro h
    obtain ⟨i, q, rfl⟩ := List.exists_cons_of_ne_nil h.ne_nil
    exact ⟨i, q, by rw [Nat.zero_add], h⟩

/-- **Rules are gone through in the order of their places.** -/
theorem pairwise_placed : (placed k rs).Pairwise fun a b => a.1 < b.1 := by
  induction rs using Rule.induction generalizing k with
  | nil => exact .nil
  | cons r rs ihInner ih =>
    have hlater : ∀ e ∈ placed (k + 1) rs, ∀ q, k :: q < e.1 := by
      rintro ⟨p, s⟩ he q
      obtain ⟨i, q', rfl, -⟩ := mem_placed.1 he
      exact List.cons_lt_cons_iff.2 (.inl (by omega))
    rw [placed_cons, List.cons_append, List.pairwise_cons, List.pairwise_append]
    refine ⟨fun e he => ?_, ?_, ih, fun e he e' he' => ?_⟩
    · obtain he | he := List.mem_append.1 he
      · obtain ⟨⟨q, s⟩, hq, rfl⟩ := List.mem_map.1 he
        obtain ⟨j, q', rfl⟩ := List.exists_cons_of_ne_nil (mem_placed_zero.1 hq).ne_nil
        exact List.cons_lt_cons_iff.2 (.inr ⟨rfl, List.nil_lt_cons _ _⟩)
      · exact hlater e he []
    · rw [List.pairwise_map]
      exact ihInner.imp fun h => List.cons_lt_cons_iff.2 (.inr ⟨rfl, h⟩)
    · obtain ⟨e, -, rfl⟩ := List.mem_map.1 he
      exact hlater e' he' e.1

/-! ## What is found at the places -/

/-- The attribute that a rule itself names. -/
def attributeId? : Rule → Option Uuid
  | .condition c => some c.attributeId
  | _ => none

/-- The relationship that a rule itself names. -/
def relationshipId? : Rule → Option Uuid
  | .related id _ => some id
  | _ => none

theorem attributeId?_eq_some {id : Uuid} :
    r.attributeId? = some id ↔ ∃ condition, r = .condition condition ∧ condition.attributeId = id := by
  cases r <;> simp [attributeId?]

theorem relationshipId?_eq_some {id : Uuid} : r.relationshipId? = some id ↔ ∃ criteria, r = .related id criteria := by
  cases r <;> simp [relationshipId?]

/-- What is listed rule by rule, what is inside of a rule right after the rule itself, is listed by places. -/
theorem eq_filterMap_placed {name : Rule → Option Uuid} {ids : List Rule → List Uuid} (hnil : ids [] = [])
    (hcons : ∀ r rs, ids (r :: rs) = (name r).toList ++ ids r.inner ++ ids rs) :
    ids rs = (placed k rs).filterMap fun e => name e.2 := by
  induction rs using Rule.induction generalizing k with
  | nil => rw [hnil, placed, List.filterMap_nil]
  | cons r rs ihInner ih =>
    have hinner : ((placed 0 r.inner).map fun e => (k :: e.1, e.2)).filterMap (fun e => name e.2) = ids r.inner := by
      rw [List.filterMap_map, ihInner (k := 0)]
      rfl
    rw [hcons, placed_cons, List.cons_append, List.filterMap_cons, List.filterMap_append, hinner, ← ih]
    cases name r <;> simp

theorem allAttributeIds_eq : allAttributeIds rs = (placed 0 rs).filterMap fun e => e.2.attributeId? := by
  refine eq_filterMap_placed (by rw [allAttributeIds]) fun r rs => ?_
  rw [allAttributeIds]
  rcases r with c | ⟨_, _, ss⟩ | ⟨id, _, _, ss⟩ <;> simp [attributeIds, attributeId?, inner, allAttributeIds]

theorem allRelationshipIds_eq : allRelationshipIds rs = (placed 0 rs).filterMap fun e => e.2.relationshipId? := by
  refine eq_filterMap_placed (by rw [allRelationshipIds]) fun r rs => ?_
  rw [allRelationshipIds]
  rcases r with c | ⟨_, _, ss⟩ | ⟨id, _, _, ss⟩ <;> simp [relationshipIds, relationshipId?, inner, allRelationshipIds]

end Rule

/-! ## Lists by first places -/

namespace References

/-- The identifiers that occur at places, each once, in the order of the places where they first occur: of two of them,
the earlier one has a place before all places of the later one. -/
structure Lists (occurs : List Nat → Uuid → Prop) (ids : List Uuid) : Prop where
  /-- What occurs at some place is listed, and nothing else. -/
  mem : ∀ id, id ∈ ids ↔ ∃ p, occurs p id
  /-- Nothing is listed twice. -/
  nodup : ids.Nodup
  /-- What occurs first is listed first. -/
  ordered : ids.Pairwise fun a b => ∃ p, occurs p a ∧ ∀ q, occurs q b → p < q

theorem Lists.congr {occurs occurs' : List Nat → Uuid → Prop} {ids : List Uuid} (h : Lists occurs ids)
    (hiff : ∀ p id, occurs p id ↔ occurs' p id) : Lists occurs' ids := by
  obtain rfl : occurs = occurs' := funext fun p => funext fun id => propext (hiff p id)
  exact h

/-- Only one list is like that. -/
theorem Lists.unique {occurs : List Nat → Uuid → Prop} {ids ids' : List Uuid} (h : Lists occurs ids)
    (h' : Lists occurs ids') : ids = ids' := by
  have hperm : ids.Perm ids' :=
    (List.perm_ext_iff_of_nodup h.nodup h'.nodup).2 fun id => (h.mem id).trans (h'.mem id).symm
  refine hperm.eq_of_pairwise (fun a b _ _ hab hba => ?_) h.ordered h'.ordered
  obtain ⟨p, hp, hpb⟩ := hab
  obtain ⟨q, hq, hqa⟩ := hba
  exact absurd ((hpb q hq).trans (hqa p hp)) (List.lt_irrefl p)

theorem nodup_add {ids : List Uuid} (h : ids.Nodup) (id : Uuid) : (add ids id).Nodup := by
  unfold add
  split
  · exact h
  · rename_i hid
    rw [List.contains_iff_mem] at hid
    exact h.append (List.nodup_singleton id) (List.disjoint_singleton.2 hid)

theorem nodup_foldl_add {ids : List Uuid} (h : ids.Nodup) (ks : List Uuid) : (ks.foldl add ids).Nodup := by
  induction ks generalizing ids with
  | nil => exact h
  | cons k ks ih => exact ih (nodup_add h k)

/-- Adding identifiers in the order of their places keeps those that occur first in front. -/
theorem pairwise_foldl_add {es : List (List Nat × Uuid)} (h : es.Pairwise fun a b => a.1 < b.1) :
    ((es.map (·.2)).foldl add []).Pairwise fun a b => ∃ p, (p, a) ∈ es ∧ ∀ q, (q, b) ∈ es → p < q := by
  induction es using List.reverseRecOn with
  | nil => exact .nil
  | append_singleton es e ih =>
    obtain ⟨k, id⟩ := e
    rw [List.pairwise_append] at h
    obtain ⟨hes, -, hlast⟩ := h
    have hbefore : ∀ p a, (p, a) ∈ es → p < k := fun p a hp => hlast _ hp _ (List.mem_singleton_self _)
    -- the new place is behind all places so far, so what was in order still is
    have hkept := (ih hes).imp fun {a b} (hab : ∃ p, (p, a) ∈ es ∧ ∀ q, (q, b) ∈ es → p < q) =>
      show ∃ p, (p, a) ∈ es ++ [(k, id)] ∧ ∀ q, (q, b) ∈ es ++ [(k, id)] → p < q by
        obtain ⟨p, hp, hq⟩ := hab
        refine ⟨p, List.mem_append_left _ hp, fun q hm => ?_⟩
        obtain hm | hm := List.mem_append.1 hm
        · exact hq q hm
        · obtain ⟨rfl, rfl⟩ := Prod.mk.inj (List.mem_singleton.1 hm)
          exact hbefore p a hp
    rw [List.map_append, List.foldl_append, List.map_singleton, List.foldl_cons, List.foldl_nil, add]
    split
    · exact hkept
    · rename_i hnew
      refine List.pairwise_append.2 ⟨hkept, List.pairwise_singleton _ _, fun a ha b hb => ?_⟩
      obtain rfl := List.mem_singleton.1 hb
      obtain ⟨⟨p, _⟩, hp, rfl⟩ := List.mem_map.1 ((mem_foldl_add.1 ha).resolve_left (List.not_mem_nil))
      refine ⟨p, List.mem_append_left _ hp, fun q hm => ?_⟩
      obtain hm | hm := List.mem_append.1 hm
      · refine absurd (List.contains_iff_mem.2 (mem_foldl_add.2 (.inr ?_))) hnew
        exact List.mem_map.2 ⟨_, hm, rfl⟩
      · obtain ⟨rfl, -⟩ := Prod.mk.inj (List.mem_singleton.1 hm)
        exact hbefore p _ hp

/-- What rules name is listed by places if it is added in document order. -/
theorem lists_foldl_add (name : Rule → Option Uuid) (rs : List Rule) :
    Lists (fun p id => ∃ r, Rule.At rs p r ∧ name r = some id)
      (((Rule.placed 0 rs).filterMap fun e => name e.2).foldl add []) := by
  obtain ⟨es, hes⟩ : ∃ es, (Rule.placed 0 rs).filterMap (fun e => (name e.2).map fun id => (e.1, id)) = es := ⟨_, rfl⟩
  have hmem (p : List Nat) (id : Uuid) : (p, id) ∈ es ↔ ∃ r, Rule.At rs p r ∧ name r = some id := by
    simp [← hes, List.mem_filterMap, Rule.mem_placed_zero]
  have hids : (Rule.placed 0 rs).filterMap (fun e => name e.2) = es.map (·.2) := by
    rw [← hes, List.map_filterMap]
    exact List.filterMap_congr fun e _ => by cases name e.2 <;> rfl
  have hsorted : es.Pairwise fun a b => a.1 < b.1 := by
    rw [← hes, List.pairwise_filterMap]
    refine Rule.pairwise_placed.imp fun {a b} hab x hx y hy => ?_
    obtain ⟨_, -, rfl⟩ := Option.map_eq_some_iff.1 hx
    obtain ⟨_, -, rfl⟩ := Option.map_eq_some_iff.1 hy
    exact hab
  have hlists : Lists (fun p id => (p, id) ∈ es) ((es.map (·.2)).foldl add []) :=
    ⟨fun id => by simp [mem_foldl_add], nodup_foldl_add List.nodup_nil _, pairwise_foldl_add hsorted⟩
  rw [hids]
  exact hlists.congr hmem

end References

namespace Criteria

theorem lists_attributeIds (c : Criteria) : References.Lists
    (fun p id => ∃ condition, Rule.At c.rules p (.condition condition) ∧ condition.attributeId = id)
    c.references.attributeIds := by
  rw [references_eq, Rule.allAttributeIds_eq]
  refine (References.lists_foldl_add Rule.attributeId? c.rules).congr fun p id => ?_
  simp only [Rule.attributeId?_eq_some]
  exact ⟨fun ⟨_, hat, condition, hr, hid⟩ => ⟨condition, hr ▸ hat, hid⟩, fun ⟨condition, hat, hid⟩ =>
    ⟨_, hat, condition, rfl, hid⟩⟩

theorem lists_relationshipIds (c : Criteria) : References.Lists
    (fun p id => ∃ criteria, Rule.At c.rules p (.related id criteria)) c.references.relationshipIds := by
  rw [references_eq, Rule.allRelationshipIds_eq]
  refine (References.lists_foldl_add Rule.relationshipId? c.rules).congr fun p id => ?_
  simp only [Rule.relationshipId?_eq_some]
  exact ⟨fun ⟨_, hat, criteria, hr⟩ => ⟨criteria, hr ▸ hat⟩, fun ⟨criteria, hat⟩ => ⟨_, hat, criteria, rfl⟩⟩

/-- **What a tree refers to is listed by first places**, and there is no other list like that: the attributes of all
conditions and the relationships of all related rules, at any depth, each once and in document order. -/
theorem eq_references_iff (c : Criteria) (refs : References) : refs = c.references ↔
    References.Lists (fun p id => ∃ condition, Rule.At c.rules p (.condition condition) ∧ condition.attributeId = id)
        refs.attributeIds ∧
      References.Lists (fun p id => ∃ criteria, Rule.At c.rules p (.related id criteria)) refs.relationshipIds := by
  constructor
  · rintro rfl
    exact ⟨c.lists_attributeIds, c.lists_relationshipIds⟩
  · rintro ⟨hattributes, hrelationships⟩
    obtain ⟨attributeIds, relationshipIds⟩ := refs
    exact congrArg₂ References.mk (hattributes.unique c.lists_attributeIds)
      (hrelationships.unique c.lists_relationshipIds)

end Criteria

end Cohort
