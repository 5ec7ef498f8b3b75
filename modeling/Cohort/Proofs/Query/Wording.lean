import Cohort.Proofs.Checking
import Cohort.Proofs.Query.Selection
import Cohort.Proofs.Text.Words

/-!
# The wording of rules

A rule tree says more than it means. The name, the type and the entity that the writer of a condition saw, the entity of
criteria and the spelling of an operator are its wording (`Condition.Reworded`, `Rule.Reworded`). Two trees that differ
in nothing else are resolved alike (`Condition.Reworded.resolve_alike`), so all runs over them are alike
(`Rule.Reworded.rules_alike`), and one makes a query exactly if the other makes the same one
(`membershipQuery_reworded`). What a refusal says may differ, since it shows the operator as it is written.

The words of an operator are those that the query has for it, up to the case of letters; only `contains` is a word of
its own (`Operator.parse?_eq_some`).
-/

namespace Cohort

/-! ## Operators -/

namespace Operator

/-- The simplest of the texts that spell an operator: as the query has it, but that a text contains another one is said
by a word of its own. -/
def written : Operator → String
  | contains => "contains"
  | op => op.sql

/-- An operator is found by its words. -/
theorem parse?_of_sameWords {s s' : String} (h : Text.SameWords s s') : parse? s = parse? s' := by
  rw [parse?, parse?, normalized, normalized, Text.sameWords_iff.1 h]

theorem parse?_written (op : Operator) : parse? op.written = some op := by cases op <;> decide +kernel

/-- **A text spells an operator exactly if it has its words**: those that the query has for it, or the word of its
own. -/
theorem parse?_eq_some {s : String} {op : Operator} : parse? s = some op ↔ Text.SameWords s op.written := by
  constructor
  · intro h
    have hspelling : ∀ p ∈ spellings, p.1 = normalized p.2.written := by decide +kernel
    obtain ⟨before, after, hsplit, -⟩ := List.lookup_eq_some_iff.1 h
    refine Text.sameWords_iff.2 (hspelling (normalized s, op) ?_)
    rw [hsplit]
    exact List.mem_append_right _ List.mem_cons_self
  · intro h
    rw [parse?_of_sameWords h, parse?_written]

/-- The operators of the query are spelled in rules as they are in the query, but for the one of texts that contain
another one. -/
theorem parse?_sql {op : Operator} (h : op ≠ .contains) : parse? op.sql = some op := by
  have hwritten : op.written = op.sql := by
    cases op with
    | contains => exact absurd rfl h
    | _ => rfl
  rw [← hwritten, parse?_written]

end Operator

/-- A condition compares the attribute by the operator that it spells. -/
theorem Condition.truth_eq {E : Sql.Engine} {d : Definitions} {row : Sql.Row} {c : Condition} {a : Attribute}
    {op : Operator} (ha : d.attribute? c.attributeId = some a) (hop : Text.SameWords c.operator op.written) :
    c.truth E d row = a.compares E op c.value row := by
  rw [truth, ha, Operator.parse?_eq_some.2 hop]

/-! ## Wording -/

/-- Conditions that differ only in the name, the type and the entity that their writers saw, and in the spelling of the
operator: its words are the same up to the case of letters. -/
structure Condition.Reworded (c c' : Condition) : Prop where
  /-- The attribute is the same. -/
  attributeId : c.attributeId = c'.attributeId
  /-- The operator has the same words. -/
  operator : Text.SameWords c.operator c'.operator
  /-- The value is the same. -/
  value : c.value = c'.value

/-- Rules that differ only in the wording of their conditions and in the entities of the criteria inside them. -/
inductive Rule.Reworded : List Rule → List Rule → Prop
  | nil : Reworded [] []
  | condition {c c' : Condition} {rs rs' : List Rule} : c.Reworded c' → Reworded rs rs' →
      Reworded (.condition c :: rs) (.condition c' :: rs')
  | nested {i i' : Option Uuid} {k : Connective} {ss ss' rs rs' : List Rule} : Reworded ss ss' → Reworded rs rs' →
      Reworded (.nested ⟨i, k, ss⟩ :: rs) (.nested ⟨i', k, ss'⟩ :: rs')
  | related {id : Uuid} {i i' : Option Uuid} {k : Connective} {ss ss' rs rs' : List Rule} : Reworded ss ss' →
      Reworded rs rs' → Reworded (.related id ⟨i, k, ss⟩ :: rs) (.related id ⟨i', k, ss'⟩ :: rs')

/-- Criteria that differ only in their wording. -/
structure Criteria.Reworded (c c' : Criteria) : Prop where
  /-- The connective is the same. -/
  connective : c.connective = c'.connective
  /-- The rules differ only in their wording. -/
  rules : Rule.Reworded c.rules c'.rules

/-! ## Outcomes -/

namespace Builder

/-- Computations that give the same from every builder, or are both refused, and leave the same builder. -/
def Alike {α : Type} (x y : Build α) : Prop :=
  ∀ b, (x.run b).1.toOption = (y.run b).1.toOption ∧ (x.run b).2 = (y.run b).2

section Alike

variable {α β : Type}

theorem Alike.refl (x : Build α) : Alike x x := fun _ => ⟨rfl, rfl⟩

theorem Alike.bind {x y : Build α} {f g : α → Build β} (h : Alike x y) (hfg : ∀ a, Alike (f a) (g a)) :
    Alike (x >>= f) (y >>= g) := by
  intro b
  obtain ⟨hresult, hbuilder⟩ := h b
  rw [run_bind, run_bind]
  rcases hx : x.run b with ⟨_ | a, b₁⟩ <;> rcases hy : y.run b with ⟨_ | a', b₂⟩ <;>
    simp only [hx, hy, Except.toOption, Option.some.injEq, reduceCtorEq] at hresult hbuilder
  · exact ⟨rfl, hbuilder⟩
  · subst hresult hbuilder
    exact hfg a b₁

/-- A check that passes and fails together with another one. -/
theorem Alike.check {r r' : Except RuleError α} (h : r.toOption = r'.toOption) :
    Alike (liftM r) (liftM r') := by
  intro b
  cases r with
  | error e =>
    cases r' with
    | error e' => exact ⟨rfl, rfl⟩
    | ok a' => cases h
  | ok a =>
    cases r' with
    | error e' => cases h
    | ok a' =>
      cases h
      exact ⟨rfl, rfl⟩

end Alike

end Builder

/-! ## Resolving -/

theorem toOption_bind {ε α β : Type} (x : Except ε α) (f : α → Except ε β) :
    (x >>= f).toOption = x.toOption.bind fun a => (f a).toOption := by
  cases x <;> rfl

theorem Attribute.operator_of_sameWords (a : Attribute) {s s' : String} (h : Text.SameWords s s') :
    (a.operator s).toOption = (a.operator s').toOption := by
  unfold Attribute.operator
  rw [Operator.parse?_of_sameWords h]
  generalize (Operator.parse? s').filter a.kind.supports = op
  cases op <;> simp only [Except.toOption]

/-- **Conditions that differ only in their wording are resolved alike.** -/
theorem Condition.Reworded.resolve_alike {c c' : Condition} (h : c.Reworded c') (d : Definitions) (scope : Uuid) :
    (c.resolve d scope).toOption = (c'.resolve d scope).toOption := by
  have hop (a : Attribute) : (a.operator c.operator).toOption = (a.operator c'.operator).toOption :=
    a.operator_of_sameWords h.operator
  unfold Condition.resolve
  simp only [toOption_bind, hop, h.attributeId, h.value]

/-! ## Building -/

open Builder in
/-- **Rules that differ only in their wording are built alike.** -/
theorem Rule.Reworded.rules_alike {d : Definitions} {rs rs' : List Rule} (h : Rule.Reworded rs rs') :
    ∀ (row : Alias) (scope : Uuid), Alike (rules d row scope rs) (rules d row scope rs') := by
  induction h with
  | nil => exact fun row scope => .refl _
  | condition hc _ ih =>
    intro row scope
    rw [rules, rules, rule, rule]
    refine .bind ?_ fun ps => (ih row scope).bind fun qs => .refl _
    exact (Alike.check (hc.resolve_alike d scope)).bind fun t => .refl _
  | nested _ _ ihs ih =>
    intro row scope
    rw [rules, rules, rule, rule]
    exact ((ihs row scope).bind fun ps => .refl _).bind fun ps => (ih row scope).bind fun qs => .refl _
  | related _ _ ihs ih =>
    intro row scope
    rw [rules, rules, rule, rule]
    apply Alike.bind _ fun ps => (ih row scope).bind fun qs => .refl _
    apply (Alike.refl _).bind fun join => (Alike.refl _).bind fun other => (Alike.refl _).bind fun entity => _
    exact fun join other entity => (ihs other join.relatedEntityId).bind fun parts => .refl _

theorem Criteria.Reworded.clause_alike {c c' : Criteria} (h : c.Reworded c') (d : Definitions) (row : Alias)
    (scope : Uuid) : Builder.Alike (Builder.clause d row scope c) (Builder.clause d row scope c') := by
  rw [Builder.clause, Builder.clause, h.connective]
  exact (h.rules.rules_alike row scope).bind fun parts => .refl _

/-! ## Queries -/

/-- **The wording of rules does not reach the query.** Of two criteria that differ in nothing else, one makes a query
exactly if the other makes a query with the same text and the same parameters. -/
theorem membershipQuery_reworded {c c' : Criteria} (h : c.Reworded c') (d : Definitions) (entity : Uuid) (q : Query) :
    membershipQuery d c entity = .ok q ↔ membershipQuery d c' entity = .ok q := by
  obtain ⟨hresult, hbuilder⟩ := h.clause_alike d (.numbered 1) entity ⟨[.uuid entity], 1⟩
  rw [membershipQuery_eq, membershipQuery_eq]
  rcases hx : (Builder.clause d (.numbered 1) entity c).run ⟨[.uuid entity], 1⟩ with ⟨_ | k, b⟩ <;>
    rcases hy : (Builder.clause d (.numbered 1) entity c').run ⟨[.uuid entity], 1⟩ with ⟨_ | k', b'⟩ <;>
    simp only [hx, hy, Except.toOption, Option.some.injEq, reduceCtorEq] at hresult hbuilder
  · simp [Except.map]
  · subst hresult hbuilder
    rfl

/-- Orders of some total, and customers with a name, in two wordings. -/
theorem membershipQuery_reworded_shop :
    let totals : Json := .array [.string "10"]
    let c : Criteria := ⟨none, .and, [.condition ⟨Shop.id 3, "name", none, "is not null", .null, none⟩,
      .related (Shop.id 7) ⟨none, .or, [.condition ⟨Shop.id 6, "total", none, "in", totals, none⟩]⟩]⟩
    let c' : Criteria := ⟨some (Shop.id 9), .and,
      [.condition ⟨Shop.id 3, "'; --", some (Shop.id 8), "\tIS  Not\u00a0NULL", .null, some "date"⟩,
        .related (Shop.id 7) ⟨some (Shop.id 9), .or, [.condition ⟨Shop.id 6, "", none, "In ", totals, none⟩]⟩]⟩
    c.Reworded c' ∧ ∃ q, membershipQuery Shop.definitions c (Shop.id 1) = .ok q ∧
      membershipQuery Shop.definitions c' (Shop.id 1) = .ok q := by
  intro totals c c'
  have hnull : Text.SameWords "is not null" "\tIS  Not\u00a0NULL" :=
    ⟨["is".toList, "not".toList, "null".toList], ["IS".toList, "Not".toList, "NULL".toList],
      Text.hasWords_iff.2 (by decide +kernel), Text.hasWords_iff.2 (by decide +kernel),
      .cons (by decide) (.cons (by decide) (.cons (by decide) .nil))⟩
  have hin : Text.SameWords "in" "In " :=
    ⟨["in".toList], ["In".toList], Text.hasWords_iff.2 (by decide +kernel), Text.hasWords_iff.2 (by decide +kernel),
      .cons (by decide) .nil⟩
  have hreworded : c.Reworded c' :=
    ⟨rfl, .condition ⟨rfl, hnull, rfl⟩ (.related (.condition ⟨rfl, hin, rfl⟩ .nil) .nil)⟩
  obtain ⟨q, h⟩ : ∃ q, membershipQuery Shop.definitions c (Shop.id 1) = .ok q := exists_of_isOk (by decide +kernel)
  exact ⟨hreworded, q, h, (membershipQuery_reworded hreworded Shop.definitions (Shop.id 1) q).1 h⟩

end Cohort
