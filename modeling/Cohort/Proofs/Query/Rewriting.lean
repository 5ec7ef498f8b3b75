import Mathlib.Logic.Relation
import Cohort.Proofs.Query.Reading

/-!
# Rules that leave no trace

Criteria that ask for nothing contribute nothing to the criteria around them, and criteria of which one rule remains
contribute this rule. `Rule.Rewrite` takes such criteria off, anywhere in a tree, and `Criteria.Rewrites` goes any
number of steps along it, back and forth.

* `Rule.Rewrite.rules_eq`: one step changes nothing that building does, whatever the builder.
* `clause_rewriting`: nor do any number of steps, and a clause is empty exactly if its criteria ask for nothing.
-/

namespace Cohort

/-! ## Rewriting -/

/-- The rules of a list that ask for something. -/
def Rule.effective (rs : List Rule) : List Rule := rs.filter fun r => !r.isVacuous

/-- **One step**: criteria that ask for nothing are left out, or criteria of which one rule remains are replaced by this
rule, somewhere in a list of rules or in the criteria inside them. -/
inductive Rule.Rewrite : List Rule → List Rule → Prop
  | vacuous {c : Criteria} {rs : List Rule} : Rule.allVacuous c.rules = true → Rewrite (.nested c :: rs) rs
  | single {c : Criteria} {r : Rule} {rs : List Rule} : Rule.effective c.rules = [r] →
      Rewrite (.nested c :: rs) (r :: rs)
  | behind {r : Rule} {rs rs' : List Rule} : Rewrite rs rs' → Rewrite (r :: rs) (r :: rs')
  | nested {i : Option Uuid} {k : Connective} {ss ss' rs : List Rule} : Rewrite ss ss' →
      Rewrite (.nested ⟨i, k, ss⟩ :: rs) (.nested ⟨i, k, ss'⟩ :: rs)
  | related {id : Uuid} {i : Option Uuid} {k : Connective} {ss ss' rs : List Rule} : Rewrite ss ss' →
      Rewrite (.related id ⟨i, k, ss⟩ :: rs) (.related id ⟨i, k, ss'⟩ :: rs)

/-- Criteria that differ by any number of steps, each of them taken or taken back. -/
structure Criteria.Rewrites (c c' : Criteria) : Prop where
  /-- The connective is the same. -/
  connective : c.connective = c'.connective
  /-- The rules differ by the steps. -/
  rules : Relation.EqvGen Rule.Rewrite c.rules c'.rules

namespace Builder

variable {d : Definitions} {row : Alias} {scope : Uuid}

/-! ## Rules that ask for nothing -/

theorem rules_cons (r : Rule) (rs : List Rule) :
    rules d row scope (r :: rs) = rule d row scope r >>= fun ps => (ps ++ ·) <$> rules d row scope rs := by
  rw [rules]
  simp only [map_eq_pure_bind]

theorem rule_nested (c : Criteria) :
    rule d row scope (.nested c) = splice c.connective <$> rules d row scope c.rules := by
  obtain ⟨_, k, rs⟩ := c
  rw [rule, map_eq_pure_bind]

mutual

/-- Rules that ask for nothing hand out nothing and are never refused. -/
theorem rules_vacuous : ∀ {rs : List Rule}, Rule.allVacuous rs = true → rules d row scope rs = pure []
  | [], _ => by rw [rules]
  | r :: rs, h => by
    rw [Rule.allVacuous, Bool.and_eq_true] at h
    rw [rules_cons, rule_vacuous h.1, rules_vacuous h.2]
    rfl

theorem rule_vacuous : ∀ {r : Rule}, r.isVacuous = true → rule d row scope r = pure []
  | .condition _, h => by cases h
  | .nested ⟨_, k, rs⟩, h => by
    rw [rule_nested, rules_vacuous h]
    rfl
  | .related _ _, h => by cases h

end

/-- Only the rules that ask for something are built. -/
theorem rules_effective : ∀ rs : List Rule, rules d row scope (Rule.effective rs) = rules d row scope rs
  | [] => rfl
  | r :: rs => by
    have ih := rules_effective rs
    unfold Rule.effective at ih ⊢
    cases hr : r.isVacuous with
    | true =>
      rw [List.filter_cons_of_neg (by simp [hr]), ih, rules_cons, rule_vacuous hr]
      simp
    | false => rw [List.filter_cons_of_pos (by simp [hr]), rules_cons, rules_cons, ih]

/-! ## Criteria of one rule -/

theorem splice_splice (k k' : Connective) : ∀ ps : List Predicate, splice k (splice k' ps) = splice k' ps
  | [] => rfl
  | [_] => rfl
  | _ :: _ :: _ => rfl

/-- A rule contributes one predicate at most, which stands without parentheses around it. -/
theorem splice_rule (k : Connective) : ∀ r : Rule, splice k <$> rule d row scope r = rule d row scope r
  | .condition c => by
    rw [rule]
    simp only [map_bind, map_pure, splice]
  | .nested c => by
    rw [rule_nested, Functor.map_map]
    simp only [splice_splice]
  | .related id ⟨_, k', rs⟩ => by
    rw [rule]
    simp only [map_bind, map_pure, splice]

/-- Criteria of which one rule remains are built as this rule. -/
theorem rule_single {c : Criteria} {r : Rule} (h : Rule.effective c.rules = [r]) :
    rule d row scope (.nested c) = rule d row scope r := by
  have hrules : rules d row scope c.rules = rule d row scope r := by
    rw [← rules_effective, h, rules_cons, rules]
    simp
  rw [rule_nested, hrules, splice_rule]

end Builder

/-! ## Steps -/

open Builder in
/-- **One step changes nothing that building does.** -/
theorem Rule.Rewrite.rules_eq {d : Definitions} {rs rs' : List Rule} (h : Rule.Rewrite rs rs') :
    ∀ (row : Alias) (scope : Uuid), rules d row scope rs = rules d row scope rs' := by
  induction h with
  | @vacuous c rs hc =>
    intro row scope
    obtain ⟨_, k, ss⟩ := c
    rw [rules_cons, rule_vacuous (r := .nested ⟨_, k, ss⟩) hc]
    simp
  | single hc =>
    intro row scope
    rw [rules_cons, rules_cons, rule_single hc]
  | behind _ ih =>
    intro row scope
    rw [rules_cons, rules_cons, ih]
  | nested _ ih =>
    intro row scope
    rw [rules_cons, rules_cons, rule_nested, rule_nested]
    simp only [ih]
  | related _ ih =>
    intro row scope
    rw [rules_cons, rules_cons, rule, rule]
    simp only [ih]

/-- Nor do any number of steps. -/
theorem rules_eq_of_steps {rs rs' : List Rule} (h : Relation.EqvGen Rule.Rewrite rs rs') (d : Definitions)
    (row : Alias) (scope : Uuid) : Builder.rules d row scope rs = Builder.rules d row scope rs' := by
  induction h with
  | rel _ _ step => exact step.rules_eq row scope
  | refl _ => rfl
  | symm _ _ _ ih => exact ih.symm
  | trans _ _ _ _ _ ih ih' => exact ih.trans ih'

theorem Criteria.Rewrites.clause_eq {c c' : Criteria} (h : c.Rewrites c') (d : Definitions) (row : Alias)
    (scope : Uuid) : Builder.clause d row scope c = Builder.clause d row scope c' := by
  rw [Builder.clause, Builder.clause, rules_eq_of_steps h.rules, h.connective]

/-! ## Empty texts -/

theorem Predicate.text_ne_empty (p : Predicate) : p.text ≠ "" := by
  cases p with
  | never => decide
  | nullCheck column op => simp [Predicate.text_nullCheck, Column.text]
  | comparison column op n => simp [Predicate.text_comparison, Column.text]
  | membership column ns => simp [Predicate.text_membership, Column.text]
  | joined k ps => simp [Predicate.text_joined]
  | related row n outer inner k ps => simp [Predicate.text_related]

/-- A clause has no text exactly if it has no part. -/
theorem Clause.text_eq_empty {c : Clause} : c.text = "" ↔ c.parts = [] := by
  obtain ⟨k, ps⟩ := c
  constructor
  · intro h
    cases ps with
    | nil => rfl
    | cons p ps =>
      have hfirst : p.text.toList ≠ [] := mt String.toList_eq_nil_iff.1 p.text_ne_empty
      have hlist : (joinTexts k (Predicate.texts (p :: ps))).toList = [] := by
        rw [show joinTexts k (Predicate.texts (p :: ps)) = "" from h]
        rfl
      rw [toList_joinTexts, List.map_cons] at hlist
      cases ps with
      | nil =>
        rw [List.map_nil, List.intercalate_singleton] at hlist
        exact absurd hlist hfirst
      | cons q ps =>
        rw [List.map_cons, List.intercalate_cons_cons] at hlist
        simp [hfirst] at hlist
  · rintro rfl
    rfl

/-- Criteria that ask for nothing make an empty clause, and the builder stays as it is. -/
theorem clause_vacuous {c : Criteria} (h : Rule.allVacuous c.rules = true) (d : Definitions) (row : Alias)
    (scope : Uuid) (b : Builder) : (Builder.clause d row scope c).run b = (.ok ⟨c.connective, []⟩, b) := by
  rw [Builder.clause, Builder.rules_vacuous h]
  rfl

/-! ## Clauses and queries -/

/-- **Criteria that ask for nothing and criteria of one rule leave no trace.** Criteria that differ by any number of
steps give the same clause, or the same error, and hand out the same parameters and aliases; the queries for them are
the same.

The text of a clause is empty exactly if the criteria ask for nothing. Then there is a clause and nothing is handed out,
and the query selects all rows of the entity: it is the one without a predicate. -/
theorem clause_rewriting (d : Definitions) :
    (∀ c c' : Criteria, c.Rewrites c' →
      (∀ row scope b, (Builder.clause d row scope c).run b = (Builder.clause d row scope c').run b) ∧
      ∀ entity, membershipQuery d c entity = membershipQuery d c' entity) ∧
    ∀ c : Criteria,
      (∀ row scope b k b', (Builder.clause d row scope c).run b = (.ok k, b') →
        (k.text = "" ↔ Rule.allVacuous c.rules = true)) ∧
      (Rule.allVacuous c.rules = true →
        (∀ row scope b, (Builder.clause d row scope c).run b = (.ok ⟨c.connective, []⟩, b)) ∧
        ∀ entity, membershipQuery d c entity =
          .ok ⟨"SELECT id FROM processed_entities pe1 WHERE pe1.entity_definition_id = $1", [.uuid entity]⟩) := by
  refine ⟨fun c c' h => ⟨fun row scope b => by rw [h.clause_eq], fun entity => ?_⟩, fun c => ⟨?_, fun hc => ⟨?_, ?_⟩⟩⟩
  · rw [membershipQuery_eq, membershipQuery_eq, h.clause_eq]
  · intro row scope b k b' h
    obtain ⟨_, hb⟩ := Builder.clause_run_ok h
    rw [Clause.text_eq_empty, hb.eq_nil_iff]
  · exact clause_vacuous hc d
  · intro entity
    have htext : membershipText (.numbered 1) 1 ⟨c.connective, []⟩ =
        "SELECT id FROM processed_entities pe1 WHERE pe1.entity_definition_id = $1" := by
      show membershipText (.numbered 1) 1 ⟨.and, []⟩ = _
      decide +kernel
    rw [membershipQuery_eq, clause_vacuous hc, ← htext]
    rfl

/-- The criteria of a shop, in which the criteria around the orders are taken off step by step, and criteria in which
there are only empty ones. -/
theorem clause_rewriting_shop :
    let flat : Criteria := ⟨none, .and, [.condition ⟨Shop.id 3, "name", none, "contains", .string "ann", none⟩,
      .related (Shop.id 7)
        ⟨none, .and, [.condition ⟨Shop.id 6, "total", none, "in", .array [.string "10"], none⟩]⟩]⟩
    let hollow : Criteria := ⟨none, .or, [.nested ⟨none, .and, [.nested Criteria.empty]⟩]⟩
    membershipQuery Shop.definitions (Shop.criteria "ann" ["10"]) (Shop.id 1) =
      membershipQuery Shop.definitions flat (Shop.id 1) ∧
    membershipQuery Shop.definitions hollow (Shop.id 1) =
      .ok ⟨"SELECT id FROM processed_entities pe1 WHERE pe1.entity_definition_id = $1", [.uuid (Shop.id 1)]⟩ := by
  intro flat hollow
  -- first the empty criteria beside the orders go, then the criteria in which the orders are left alone
  have hsteps : (Shop.criteria "ann" ["10"]).Rewrites flat :=
    ⟨rfl, (Relation.EqvGen.rel _ _ (.behind (.nested (.vacuous rfl)))).trans _ _ _ (.rel _ _ (.behind (.single rfl)))⟩
  obtain ⟨hrewriting, hempty⟩ := clause_rewriting Shop.definitions
  exact ⟨(hrewriting _ _ hsteps).2 _, ((hempty hollow).2 rfl).2 _⟩

end Cohort
