import Cohort.Query.Membership

/-!
# What building predicates does

* A test hands out its own parameters and nothing else, and its predicate refers to them by the numbers after those
  handed out before (`test_run`).
* `Builds` is the derivation of a successful run over rules, with one constructor for each kind of rule; it says
  everything that such a run does to the builder (`rules_run_ok`, `membershipQuery_ok`).
* A run that is refused keeps what it has handed out until then (`rules_extends`).
-/

namespace Cohort

/-! ## Tests -/

/-- The values that a comparison hands out. -/
def Comparison.parameters : Comparison → List Parameter
  | .nullCheck _ => []
  | .value _ p => [p]
  | .among ps => ps

/-- The predicate of a test on a row whose parameters are numbered after the first `n`. -/
def Test.predicate (row : Alias) (n : Nat) (t : Test) : Predicate :=
  let column : Column := ⟨row, t.subject.name, t.subject.kind.cast⟩
  match t.comparison with
  | .nullCheck op => .nullCheck column op
  | .value op _ => .comparison column op (n + 1)
  | .among [] => .never
  | .among (p :: ps) => .membership column (List.range' (n + 1) (p :: ps).length)

namespace Builder

/-- The builder after parameters. -/
abbrev push (b : Builder) (ps : List Parameter) : Builder := ⟨b.parameters ++ ps, b.aliases⟩

theorem push_nil (b : Builder) : b.push [] = b := by
  rw [push, List.append_nil]

theorem bind_run (p : Parameter) (b : Builder) :
    (Builder.bind p).run b = (b.parameters.length + 1, b.push [p]) := by
  show ((b.parameters ++ [p]).length, b.push [p]) = _
  rw [List.length_append]
  rfl

theorem allocate_run (b : Builder) :
    allocate.run b = (.numbered (b.aliases + 1), ⟨b.parameters, b.aliases + 1⟩) := rfl

theorem bindAll_run : ∀ (ps : List Parameter) (b : Builder),
    (bindAll ps).run b = (List.range' (b.parameters.length + 1) ps.length, b.push ps)
  | [], b => by
    rw [push_nil]
    rfl
  | p :: ps, b => by
    have h := bindAll_run ps (b.push [p])
    show (((Builder.bind p).run b).1 :: ((bindAll ps).run ((Builder.bind p).run b).2).1,
      ((bindAll ps).run ((Builder.bind p).run b).2).2) = _
    rw [bind_run, h]
    simp [List.range'_succ]

/-- What a test does. -/
theorem test_run (row : Alias) (t : Test) (b : Builder) :
    (test row t).run b = (t.predicate row b.parameters.length, b.push t.comparison.parameters) := by
  obtain ⟨a, c⟩ := t
  cases c with
  | nullCheck op =>
    rw [Comparison.parameters, push_nil]
    rfl
  | value op p =>
    show (Predicate.comparison ⟨row, a.name, a.kind.cast⟩ op ((Builder.bind p).run b).1, ((Builder.bind p).run b).2) = _
    rw [bind_run]
    rfl
  | among ps =>
    cases ps with
    | nil =>
      rw [Comparison.parameters, push_nil]
      rfl
    | cons p ps =>
      show (Predicate.membership ⟨row, a.name, a.kind.cast⟩ ((bindAll (p :: ps)).run b).1,
        ((bindAll (p :: ps)).run b).2) = _
      rw [bindAll_run]
      rfl

/-! ## Steps that may be refused -/

section Runs

variable {α β : Type}

theorem run_bind (x : Build α) (f : α → Build β) (b : Builder) :
    (x >>= f).run b = match x.run b with
      | (.ok a, b') => (f a).run b'
      | (.error e, b') => (.error e, b') := by
  show ExceptT.bindCont f (x.run b).1 (x.run b).2 = _
  rcases x.run b with ⟨_ | _, _⟩ <;> rfl

theorem run_bind_ok {x : Build α} {f : α → Build β} {b b' : Builder} {y : β} :
    (x >>= f).run b = (.ok y, b') ↔ ∃ a b₁, x.run b = (.ok a, b₁) ∧ (f a).run b₁ = (.ok y, b') := by
  rw [run_bind]
  rcases x.run b with ⟨_ | a, b₁⟩
  · constructor
    · intro h; cases h
    · rintro ⟨_, _, h, _⟩; cases h
  · constructor
    · intro h; exact ⟨a, b₁, rfl, h⟩
    · rintro ⟨_, _, h, h'⟩; cases h; exact h'

theorem exists_run_ok {x : Build α} {b : Builder} (h : (x.run b).1.isOk = true) : ∃ y b', x.run b = (.ok y, b') := by
  rcases hx : x.run b with ⟨_ | y, b'⟩
  · rw [hx] at h
    cases h
  · exact ⟨y, b', rfl⟩

/-- A check leaves the builder as it is. -/
theorem run_check_bind_ok {r : Except RuleError α} {f : α → Build β} {b b' : Builder} {y : β} :
    (liftM r >>= f).run b = (.ok y, b') ↔ ∃ a, r = .ok a ∧ (f a).run b = (.ok y, b') := by
  cases r with
  | error e =>
    constructor
    · intro h; cases h
    · rintro ⟨_, h, _⟩; cases h
  | ok a =>
    constructor
    · intro h; exact ⟨a, rfl, h⟩
    · rintro ⟨_, h, h'⟩; cases h; exact h'

/-- A check that passes leaves the builder as it is. -/
theorem run_pass_bind {α β : Type} (a : α) (f : α → Build β) (b : Builder) :
    (liftM (Except.ok a : Except RuleError α) >>= f).run b = (f a).run b := rfl

/-- A step that hands out something is never refused. -/
theorem run_step_bind (m : StateM Builder α) (f : α → Build β) (b : Builder) :
    (liftM m >>= f).run b = (f (m.run b).1).run (m.run b).2 := rfl

end Runs

/-! ## Successful runs -/

/-- **What a successful run over rules does**: the predicates that it gives and the builder after it. -/
inductive Builds (d : Definitions) : Alias → Uuid → List Rule → Builder → List Predicate → Builder → Prop
  | nil {row : Alias} {scope : Uuid} {b : Builder} : Builds d row scope [] b [] b
  | condition {row : Alias} {scope : Uuid} {c : Condition} {t : Test} {rs : List Rule} {b b' : Builder}
      {ps : List Predicate} : c.resolve d scope = .ok t →
      Builds d row scope rs (b.push t.comparison.parameters) ps b' →
      Builds d row scope (.condition c :: rs) b (t.predicate row b.parameters.length :: ps) b'
  | nested {row : Alias} {scope : Uuid} {c : Criteria} {rs : List Rule} {b b₁ b' : Builder} {qs ps : List Predicate} :
      Builds d row scope c.rules b qs b₁ → Builds d row scope rs b₁ ps b' →
      Builds d row scope (.nested c :: rs) b (splice c.connective qs ++ ps) b'
  | related {row : Alias} {scope id : Uuid} {join : Join} {c : Criteria} {rs : List Rule} {b b₁ b' : Builder}
      {qs ps : List Predicate} : d.join scope id = .ok join →
      Builds d (.numbered (b.aliases + 1)) join.relatedEntityId c.rules
        ⟨b.parameters ++ [.uuid join.relatedEntityId], b.aliases + 1⟩ qs b₁ →
      Builds d row scope rs b₁ ps b' →
      Builds d row scope (.related id c :: rs) b
        (.related (.numbered (b.aliases + 1)) (b.parameters.length + 1) ⟨row, join.localKey, none⟩
          ⟨.numbered (b.aliases + 1), join.relatedKey, none⟩ c.connective qs :: ps) b'

variable {d : Definitions}

theorem rules_cons_ok {row : Alias} {scope : Uuid} {r : Rule} {rs : List Rule} {b b' : Builder} {ps : List Predicate}
    (h : (rules d row scope (r :: rs)).run b = (.ok ps, b')) :
    ∃ qs b₁ ps', (rule d row scope r).run b = (.ok qs, b₁) ∧ (rules d row scope rs).run b₁ = (.ok ps', b') ∧
      ps = qs ++ ps' := by
  rw [rules, run_bind_ok] at h
  obtain ⟨qs, b₁, hr, h⟩ := h
  rw [run_bind_ok] at h
  obtain ⟨ps', b₂, hrs, h⟩ := h
  cases h
  exact ⟨qs, b₁, ps', hr, hrs, rfl⟩

theorem rule_condition_ok {row : Alias} {scope : Uuid} {c : Condition} {b b' : Builder} {ps : List Predicate}
    (h : (rule d row scope (.condition c)).run b = (.ok ps, b')) :
    ∃ t, c.resolve d scope = .ok t ∧ ps = [t.predicate row b.parameters.length] ∧
      b' = b.push t.comparison.parameters := by
  rw [rule, run_check_bind_ok] at h
  obtain ⟨t, ht, h⟩ := h
  rw [run_step_bind, test_run] at h
  cases h
  exact ⟨t, ht, rfl, rfl⟩

theorem rule_nested_ok {row : Alias} {scope : Uuid} {c : Criteria} {b b' : Builder} {ps : List Predicate}
    (h : (rule d row scope (.nested c)).run b = (.ok ps, b')) :
    ∃ qs, (rules d row scope c.rules).run b = (.ok qs, b') ∧ ps = splice c.connective qs := by
  obtain ⟨_, k, rs⟩ := c
  rw [rule, run_bind_ok] at h
  obtain ⟨qs, b₁, hq, h⟩ := h
  cases h
  exact ⟨qs, hq, rfl⟩

theorem rule_related_ok {row : Alias} {scope id : Uuid} {c : Criteria} {b b' : Builder} {ps : List Predicate}
    (h : (rule d row scope (.related id c)).run b = (.ok ps, b')) :
    ∃ join qs, d.join scope id = .ok join ∧
      (rules d (.numbered (b.aliases + 1)) join.relatedEntityId c.rules).run
        ⟨b.parameters ++ [.uuid join.relatedEntityId], b.aliases + 1⟩ = (.ok qs, b') ∧
      ps = [.related (.numbered (b.aliases + 1)) (b.parameters.length + 1) ⟨row, join.localKey, none⟩
        ⟨.numbered (b.aliases + 1), join.relatedKey, none⟩ c.connective qs] := by
  obtain ⟨_, k, rs⟩ := c
  rw [rule, run_check_bind_ok] at h
  obtain ⟨join, hj, h⟩ := h
  rw [run_step_bind, allocate_run, run_step_bind, bind_run, run_bind_ok] at h
  obtain ⟨qs, b₁, hq, h⟩ := h
  cases h
  exact ⟨join, qs, hj, hq, rfl⟩

/-- **A successful run over rules is a derivation.** -/
theorem rules_run_ok : ∀ {row : Alias} {scope : Uuid} (rs : List Rule) {b b' : Builder} {ps : List Predicate},
    (rules d row scope rs).run b = (.ok ps, b') → Builds d row scope rs b ps b'
  | _, _, [], b, b', ps, h => by
    rw [rules] at h
    cases h
    exact .nil
  | _, _, .condition c :: rs, b, b', ps, h => by
    obtain ⟨qs, b₁, ps', hr, hrs, rfl⟩ := rules_cons_ok h
    obtain ⟨t, ht, rfl, rfl⟩ := rule_condition_ok hr
    exact .condition ht (rules_run_ok rs hrs)
  | _, _, .nested ⟨i, k, rs'⟩ :: rs, b, b', ps, h => by
    obtain ⟨qs, b₁, ps', hr, hrs, rfl⟩ := rules_cons_ok h
    obtain ⟨qs', hq, rfl⟩ := rule_nested_ok hr
    exact .nested (rules_run_ok rs' hq) (rules_run_ok rs hrs)
  | _, _, .related id ⟨i, k, rs'⟩ :: rs, b, b', ps, h => by
    obtain ⟨qs, b₁, ps', hr, hrs, rfl⟩ := rules_cons_ok h
    obtain ⟨join, qs', hj, hq, rfl⟩ := rule_related_ok hr
    exact .related hj (rules_run_ok rs' hq) (rules_run_ok rs hrs)

/-- A successful clause is a derivation of its parts. -/
theorem clause_run_ok {row : Alias} {scope : Uuid} {c : Criteria} {b b' : Builder} {k : Clause}
    (h : (clause d row scope c).run b = (.ok k, b')) :
    k.connective = c.connective ∧ Builds d row scope c.rules b k.parts b' := by
  rw [clause, run_bind_ok] at h
  obtain ⟨ps, b₁, hp, h⟩ := h
  cases h
  exact ⟨rfl, rules_run_ok _ hp⟩

end Builder

/-- The query for an entity is made of the clause that a builder gives which has handed out the row and the entity. -/
theorem membershipQuery_eq (d : Definitions) (c : Criteria) (entity : Uuid) : membershipQuery d c entity =
    match (Builder.clause d (.numbered 1) entity c).run ⟨[.uuid entity], 1⟩ with
    | (r, b) => r.map fun k => ⟨membershipText (.numbered 1) 1 k, b.parameters⟩ := by
  have hrun : (membership d c entity).run .fresh = (Builder.clause d (.numbered 1) entity c >>= fun k =>
      pure (membershipText (.numbered 1) 1 k)).run ⟨[.uuid entity], 1⟩ := rfl
  rw [membershipQuery, hrun, Builder.run_bind]
  rcases (Builder.clause d (.numbered 1) entity c).run ⟨[.uuid entity], 1⟩ with ⟨_ | k, b⟩ <;> rfl

/-- A query comes from a derivation in which the first alias and the first parameter are those of the rows that it
selects. -/
theorem membershipQuery_ok {d : Definitions} {c : Criteria} {entity : Uuid} {q : Query}
    (h : membershipQuery d c entity = .ok q) :
    ∃ ps b, Builder.Builds d (.numbered 1) entity c.rules ⟨[.uuid entity], 1⟩ ps b ∧
      q = ⟨membershipText (.numbered 1) 1 ⟨c.connective, ps⟩, b.parameters⟩ := by
  rw [membershipQuery_eq] at h
  rcases hr : (Builder.clause d (.numbered 1) entity c).run ⟨[.uuid entity], 1⟩ with ⟨_ | ⟨k, ps⟩, b⟩
  · rw [hr] at h
    cases h
  · rw [hr] at h
    cases h
    obtain ⟨rfl, hb⟩ := Builder.clause_run_ok hr
    exact ⟨ps, b, hb, rfl⟩

/-! ## All runs -/

namespace Builder

/-- Everything handed out in the first builder is handed out in the second. -/
structure Extends (b b' : Builder) : Prop where
  /-- The parameters are the first of those there. -/
  parameters : b.parameters <+: b'.parameters
  /-- No alias is taken back. -/
  aliases : b.aliases ≤ b'.aliases

theorem Extends.refl (b : Builder) : b.Extends b := ⟨List.prefix_rfl, Nat.le_refl _⟩

theorem Extends.trans {b b₁ b' : Builder} (h : b.Extends b₁) (h' : b₁.Extends b') : b.Extends b' :=
  ⟨h.parameters.trans h'.parameters, Nat.le_trans h.aliases h'.aliases⟩

theorem extends_push (b : Builder) (ps : List Parameter) : b.Extends (b.push ps) :=
  ⟨List.prefix_append _ _, Nat.le_refl _⟩

theorem extends_allocate (b : Builder) : b.Extends ⟨b.parameters, b.aliases + 1⟩ := ⟨List.prefix_rfl, Nat.le_succ _⟩

/-- A step keeps what is handed out if each of its parts does. -/
theorem extends_bind {α β : Type} {x : Build α} {f : α → Build β} {b : Builder} (hx : b.Extends (x.run b).2)
    (hf : ∀ a (b₁ : Builder), b₁.Extends ((f a).run b₁).2) : b.Extends ((x >>= f).run b).2 := by
  rw [run_bind]
  revert hx
  rcases x.run b with ⟨_ | a, b₁⟩
  · exact id
  · intro hx
    exact hx.trans (hf a b₁)

theorem extends_check_bind {α β : Type} {r : Except RuleError α} {f : α → Build β} {b : Builder}
    (hf : ∀ a, b.Extends ((f a).run b).2) : b.Extends ((liftM r >>= f).run b).2 := by
  cases r with
  | error e => exact .refl b
  | ok a => exact hf a

variable (d : Definitions)

mutual

/-- **A run over rules, refused or not, keeps what has been handed out.** -/
theorem rules_extends (row : Alias) (scope : Uuid) : ∀ (rs : List Rule) (b : Builder),
    b.Extends ((rules d row scope rs).run b).2
  | [], b => by
    rw [rules]
    exact .refl b
  | r :: rs, b => by
    rw [rules]
    refine extends_bind (rule_extends row scope r b) fun ps b₁ => ?_
    exact extends_bind (rules_extends row scope rs b₁) fun qs b₂ => .refl b₂

theorem rule_extends (row : Alias) (scope : Uuid) : ∀ (r : Rule) (b : Builder),
    b.Extends ((rule d row scope r).run b).2
  | .condition c, b => by
    rw [rule]
    refine extends_check_bind fun t => ?_
    rw [run_step_bind, test_run]
    exact extends_push _ _
  | .nested ⟨_, k, rs⟩, b => by
    rw [rule]
    exact extends_bind (rules_extends row scope rs b) fun qs b₁ => .refl b₁
  | .related id ⟨_, k, rs⟩, b => by
    rw [rule]
    refine extends_check_bind fun join => ?_
    rw [run_step_bind, allocate_run, run_step_bind, bind_run]
    refine ((extends_allocate b).trans (extends_push _ [.uuid join.relatedEntityId])).trans ?_
    exact extends_bind (rules_extends _ _ rs _) fun qs b₁ => .refl b₁

end

theorem clause_extends (row : Alias) (scope : Uuid) (c : Criteria) (b : Builder) :
    b.Extends ((clause d row scope c).run b).2 := by
  rw [clause]
  exact extends_bind (rules_extends d row scope c.rules b) fun qs b₁ => .refl b₁

variable {d}

theorem Builds.extends {row : Alias} {scope : Uuid} {rs : List Rule} {b b' : Builder} {ps : List Predicate}
    (h : Builds d row scope rs b ps b') : b.Extends b' := by
  induction h with
  | nil => exact .refl _
  | condition _ _ ih => exact (extends_push _ _).trans ih
  | nested _ _ ih ih' => exact ih.trans ih'
  | related _ _ _ ih ih' =>
    exact (extends_push _ _).trans ((extends_allocate _).trans (ih.trans ih'))

end Builder
/-! ## A catalogue -/

namespace Shop

/-- An identifier of equal digits. -/
def id (digit : Nat) : Uuid := ⟨List.replicate 32 (Fin.ofNat 16 digit), List.length_replicate⟩

/-- Customers with a name and a key, and orders with the key of their customer and a total. -/
def definitions : Definitions where
  attributes := ⟨[(id 3, ⟨id 3, id 1, "name", .text⟩), (id 4, ⟨id 4, id 1, "key", .text⟩),
    (id 5, ⟨id 5, id 2, "customer", .text⟩), (id 6, ⟨id 6, id 2, "total", .integer⟩)]⟩
  relationships := ⟨[(id 7, ⟨id 7, "orders", id 1, id 4, id 2, id 5, .oneToMany⟩)]⟩

/-- Customers whose name contains a text and who have an order of some total. -/
def criteria (name : String) (totals : List String) : Criteria :=
  ⟨none, .and, [.condition ⟨id 3, "name", none, "contains", .string name, none⟩,
    .nested ⟨none, .or, [.nested Criteria.empty,
      .related (id 7) ⟨none, .and, [.condition ⟨id 6, "total", none, "in", .array (totals.map .string), none⟩]⟩]⟩]⟩

end Shop
end Cohort
