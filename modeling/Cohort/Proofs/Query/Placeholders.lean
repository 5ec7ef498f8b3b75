import Cohort.Proofs.Query.Reading

/-!
# The numbers of parameters

A builder may be called any number of times, in any order, and some of its clauses may be refused (`Call`). Whatever
happens, what has been handed out stays as it is (`Call.extends`, `runAll_extends`), and the text of a clause speaks
of the parameters that were handed out for it, each once and in their order (`Builder.Builds.numbers`).

* `run_placeholders`: parameters, numbers and texts over a whole run of a builder, and in the query for an entity.
-/

namespace Cohort

open Sql

/-! ## Numbers in words -/

/-- The number of the parameter that a word is. -/
def Sql.Token.parameter? : Token → Option Nat
  | .parameter n => some n
  | _ => none

/-- The numbers of the parameters in some words, in the order of the text. -/
def Sql.numbers (ts : List Token) : List Nat := ts.filterMap Token.parameter?

theorem numbers_append (ts us : List Token) : numbers (ts ++ us) = numbers ts ++ numbers us :=
  List.filterMap_append

theorem numbers_cons (t : Token) (ts : List Token) : numbers (t :: ts) = t.parameter?.toList ++ numbers ts := by
  rw [numbers, List.filterMap_cons]
  cases t.parameter? <;> rfl

theorem numbers_intercalate (k : Connective) : ∀ tss : List (List Token),
    numbers ([connector k].intercalate tss) = tss.flatMap numbers
  | [] => rfl
  | [ts] => by rw [List.intercalate_singleton, List.flatMap_singleton]
  | ts :: us :: tss => by
    have hk : numbers [connector k] = [] := by cases k <;> rfl
    rw [List.intercalate_cons_cons, numbers_append, numbers_append, numbers_intercalate k (us :: tss), hk,
      List.append_nil]
    rfl

theorem numbers_column (c : Column) : numbers c.tokens = [] := by
  unfold Column.tokens
  cases c.castType <;> rfl

theorem numbers_operator (op : Operator) : numbers op.tokens = [] := by
  cases op <;> rfl

theorem numbers_parameterTokens : ∀ ns : List Nat, numbers (parameterTokens ns) = ns
  | [] => rfl
  | n :: ns => by
    have hmore : ∀ ms : List Nat, numbers (moreParameterTokens ms) = ms := by
      intro ms
      induction ms with
      | nil => rfl
      | cons m ms ih => exact congrArg (m :: ·) ih
    rw [parameterTokens_cons, numbers_cons, hmore]
    rfl

theorem numbers_entityTokens (row : Alias) (n : Nat) : numbers (entityTokens row n) = [n] := rfl

/-! ## Numbers in predicates -/

mutual

/-- The numbers of the parameters of a predicate, in the order of its text. -/
def Predicate.numbers : Predicate → List Nat
  | .never => []
  | .nullCheck _ _ => []
  | .comparison _ _ n => [n]
  | .membership _ ns => ns
  | .joined _ ps => Predicate.allNumbers ps
  | .related _ n _ _ _ ps => n :: Predicate.allNumbers ps

/-- The numbers of the parameters of predicates, in the order of their texts. -/
def Predicate.allNumbers : List Predicate → List Nat
  | [] => []
  | p :: ps => p.numbers ++ Predicate.allNumbers ps

end

theorem Predicate.allNumbers_append : ∀ ps qs : List Predicate,
    Predicate.allNumbers (ps ++ qs) = Predicate.allNumbers ps ++ Predicate.allNumbers qs
  | [], _ => rfl
  | p :: ps, qs => by
    rw [List.cons_append, Predicate.allNumbers, Predicate.allNumbers, Predicate.allNumbers_append ps qs,
      List.append_assoc]

theorem numbers_groupTokens (k : Connective) (tss : List (List Token)) :
    (groupTokens k tss).flatMap numbers = tss.flatMap numbers := by
  cases tss with
  | nil => rfl
  | cons ts tss =>
    show numbers (.openParen :: ([connector k].intercalate (ts :: tss) ++ [.closeParen])) ++ [] = _
    rw [List.append_nil, numbers_cons, numbers_append, numbers_intercalate]
    exact List.append_nil _

theorem numbers_rowsTokens (row : Alias) (tss : List (List Token)) :
    numbers (rowsTokens row tss) = tss.flatMap numbers := by
  rw [rowsTokens, numbers_append, numbers_intercalate]
  rfl

mutual

/-- The words of a predicate speak of its parameters. -/
theorem Predicate.numbers_tokens : ∀ p : Predicate, Sql.numbers p.tokens = p.numbers
  | .never => rfl
  | .nullCheck c op => by
    rw [Predicate.tokens, numbers_append, numbers_column, numbers_operator, Predicate.numbers]
    rfl
  | .comparison c op n => by
    rw [Predicate.tokens, numbers_append, numbers_append, numbers_column, numbers_operator, Predicate.numbers]
    rfl
  | .membership c ns => by
    rw [Predicate.tokens, numbers_append, numbers_append, numbers_column, numbers_operator, numbers_cons,
      numbers_append, numbers_parameterTokens, Predicate.numbers]
    exact List.append_nil ns
  | .joined k ps => by
    rw [Predicate.tokens, numbers_cons, numbers_append, numbers_intercalate, Predicate.numbers_tokensOfAll ps,
      Predicate.numbers]
    exact List.append_nil _
  | .related row n outer inner k ps => by
    have hkeys : Sql.numbers (outer.tokens ++ .relation .equal :: inner.tokens) = [] := by
      rw [numbers_append, numbers_column, numbers_cons, numbers_column]
      rfl
    have hparts := Predicate.numbers_tokensOfAll ps
    rw [Predicate.tokens, numbers_cons, numbers_cons, numbers_append, numbers_cons, numbers_cons, numbers_rowsTokens,
      List.flatMap_append, numbers_groupTokens, hparts, List.flatMap_cons, numbers_entityTokens, List.flatMap_singleton,
      hkeys, Predicate.numbers]
    exact List.append_nil _

/-- The words of predicates speak of their parameters. -/
theorem Predicate.numbers_tokensOfAll : ∀ ps : List Predicate,
    (Predicate.tokensOfAll ps).flatMap Sql.numbers = Predicate.allNumbers ps
  | [] => rfl
  | p :: ps => by
    rw [Predicate.tokensOfAll, List.flatMap_cons, Predicate.numbers_tokens p, Predicate.numbers_tokensOfAll ps,
      Predicate.allNumbers]

end

/-! ## What building gives -/

theorem Test.numbers_predicate (row : Alias) (n : Nat) (t : Test) :
    (t.predicate row n).numbers = List.range' (n + 1) t.comparison.parameters.length := by
  obtain ⟨a, k⟩ := t
  cases k with
  | nullCheck op | value op p => rfl
  | among ps => cases ps <;> rfl

theorem allNumbers_splice {k : Connective} : ∀ ps : List Predicate,
    Predicate.allNumbers (Builder.splice k ps) = Predicate.allNumbers ps
  | [] => rfl
  | [_] => rfl
  | _ :: _ :: _ => List.append_nil _

/-- **The predicates that rules give speak of the parameters that are handed out for them**, in this order. -/
theorem Builder.Builds.numbers {d : Definitions} {row : Alias} {scope : Uuid} {rs : List Rule} {b b' : Builder}
    {ps : List Predicate} (h : Builder.Builds d row scope rs b ps b') :
    ∃ m, b'.parameters.length = b.parameters.length + m ∧
      Predicate.allNumbers ps = List.range' (b.parameters.length + 1) m := by
  induction h with
  | nil => exact ⟨0, rfl, rfl⟩
  | @condition _ _ _ t _ b _ _ _ _ ih =>
    obtain ⟨m, hlen, hm⟩ := ih
    rw [List.length_append] at hlen hm
    refine ⟨t.comparison.parameters.length + m, by omega, ?_⟩
    rw [Predicate.allNumbers, Test.numbers_predicate, hm,
      show b.parameters.length + t.comparison.parameters.length + 1 =
        b.parameters.length + 1 + t.comparison.parameters.length by omega, List.range'_append_1]
  | @nested _ _ _ _ b b₁ _ _ _ _ _ ihc ih =>
    obtain ⟨m₁, hlen₁, hm₁⟩ := ihc
    obtain ⟨m₂, hlen₂, hm₂⟩ := ih
    refine ⟨m₁ + m₂, by omega, ?_⟩
    rw [Predicate.allNumbers_append, allNumbers_splice, hm₁, hm₂, hlen₁,
      show b.parameters.length + m₁ + 1 = b.parameters.length + 1 + m₁ by omega, List.range'_append_1]
  | @related _ _ _ _ _ _ b b₁ _ _ _ _ _ _ ihc ih =>
    obtain ⟨m₁, hlen₁, hm₁⟩ := ihc
    obtain ⟨m₂, hlen₂, hm₂⟩ := ih
    rw [List.length_append, List.length_singleton] at hlen₁ hm₁
    refine ⟨1 + m₁ + m₂, by omega, ?_⟩
    rw [Predicate.allNumbers, Predicate.numbers, hm₁, hm₂, hlen₁, ← List.range'_succ,
      show b.parameters.length + 1 + m₁ + 1 = b.parameters.length + 1 + (m₁ + 1) by omega, List.range'_append_1,
      Nat.add_comm 1 m₁]

/-! ## Runs -/

/-- A call of a builder. -/
inductive Call where
  /-- For an alias. -/
  | allocate
  /-- For the number of a parameter. -/
  | bind (value : Parameter)
  /-- For the clause of criteria on a row of an entity. -/
  | clause (row : Alias) (scope : Uuid) (criteria : Criteria)

/-- What a call gives. -/
inductive Answer where
  /-- An alias. -/
  | row (row : Alias)
  /-- The number of a parameter. -/
  | number (number : Nat)
  /-- A clause, or why it is refused. -/
  | clause (clause : Except RuleError Clause)

/-- What a call gives, and the builder after it. -/
def Call.run (d : Definitions) (b : Builder) : Call → Answer × Builder
  | .allocate => (Builder.allocate.run b).map .row id
  | .bind p => ((Builder.bind p).run b).map .number id
  | .clause row scope c => ((Builder.clause d row scope c).run b).map .clause id

/-- The builder after some calls. -/
def runAll (d : Definitions) (b : Builder) (calls : List Call) : Builder :=
  calls.foldl (fun b call => (call.run d b).2) b

/-- A call keeps what has been handed out, also if it is refused. -/
theorem Call.extends (d : Definitions) (b : Builder) (call : Call) : b.Extends (call.run d b).2 := by
  cases call with
  | allocate => exact Builder.extends_allocate b
  | bind p => exact Builder.extends_push b [p]
  | clause row scope c => exact Builder.clause_extends d row scope c b

theorem runAll_extends (d : Definitions) (calls : List Call) : ∀ b : Builder, b.Extends (runAll d b calls) := by
  induction calls with
  | nil => exact Builder.Extends.refl
  | cons call calls ih =>
    intro b
    exact (call.extends d b).trans (ih _)

/-- What a clause is built from and what its text speaks of. -/
theorem clause_numbers {d : Definitions} {row : Alias} {scope : Uuid} {c : Criteria} {b b' : Builder} {k : Clause}
    (hrow : isName row.text = true) (h : (Builder.clause d row scope c).run b = (.ok k, b')) :
    ∃ ts m, tokens k.text = some ts ∧ b'.parameters.length = b.parameters.length + m ∧
      numbers ts = List.range' (b.parameters.length + 1) m := by
  obtain ⟨_, hb⟩ := Builder.clause_run_ok h
  obtain ⟨m, hlen, hm⟩ := hb.numbers
  obtain ⟨k, ps⟩ := k
  cases ps with
  | nil =>
    refine ⟨[], m, ?_, hlen, hm⟩
    show lex [] = some []
    rw [lex]
  | cons p ps =>
    refine ⟨_, m, Clause.tokens_text (List.cons_ne_nil p ps) (hb.allReadable hrow), hlen, ?_⟩
    rw [numbers_intercalate, Predicate.numbers_tokensOfAll]
    exact hm

/-- The text of a query speaks of its parameters, the first of which is the entity. -/
theorem membershipQuery_numbers {d : Definitions} {c : Criteria} {entity : Uuid} {q : Query}
    (h : membershipQuery d c entity = .ok q) :
    ∃ ts, tokens q.text = some ts ∧ numbers ts = List.range' 1 q.parameters.length ∧
      parameterAt q.parameters 1 = some (.uuid entity) := by
  obtain ⟨ps, b, hb, rfl⟩ := membershipQuery_ok h
  obtain ⟨m, hlen, hm⟩ := hb.numbers
  refine ⟨_, tokens_membershipText (isName_numbered 1) 1 (hb.allReadable (isName_numbered 1)), ?_, ?_⟩
  · rw [membershipTokens, numbers_cons, numbers_cons, numbers_rowsTokens, List.flatMap_cons, numbers_entityTokens,
      numbers_groupTokens, Predicate.numbers_tokensOfAll, hm, hlen]
    show 1 :: List.range' 2 m = List.range' 1 (1 + m)
    rw [Nat.add_comm, List.range'_succ]
  · exact parameterAt_of_prefix hb.extends.parameters (Nat.le_refl 1)

/-- **Parameters, numbers and texts over a whole run of a builder.** Take any call of a run:
* No call takes back or changes a parameter, also if it is refused.
* The number that it gives for a parameter still denotes this parameter at the end of the run.
* The text of a clause that it gives speaks of the parameters that it has handed out for the clause, each once and in
  their order, and these are still the same at the end of the run.

The query for an entity speaks of all its parameters in this way, the first of which is the entity. -/
theorem run_placeholders (d : Definitions) :
    (∀ (earlier : List Call) (call : Call) (later : List Call),
      let before := runAll d .fresh earlier
      let after := (call.run d before).2
      let final := runAll d after later
      (before.parameters <+: after.parameters ∧ after.parameters <+: final.parameters) ∧
      (∀ p, call = .bind p → (call.run d before).1 = .number (before.parameters.length + 1) ∧
        parameterAt final.parameters (before.parameters.length + 1) = some p) ∧
      ∀ row scope c k, call = .clause row scope c → isName row.text = true →
        (call.run d before).1 = .clause (.ok k) → ∃ ts m, tokens k.text = some ts ∧
          after.parameters.length = before.parameters.length + m ∧
          numbers ts = List.range' (before.parameters.length + 1) m ∧
          ∀ n ∈ numbers ts, parameterAt final.parameters n = parameterAt after.parameters n) ∧
    ∀ c entity q, membershipQuery d c entity = .ok q → ∃ ts, tokens q.text = some ts ∧
      numbers ts = List.range' 1 q.parameters.length ∧ parameterAt q.parameters 1 = some (.uuid entity) := by
  refine ⟨?_, fun c entity q => membershipQuery_numbers⟩
  intro earlier call later before after final
  have hbefore : before.Extends after := call.extends d before
  have hafter : after.Extends final := runAll_extends d later after
  refine ⟨⟨hbefore.parameters, hafter.parameters⟩, ?_, ?_⟩
  · rintro p rfl
    refine ⟨?_, parameterAt_next hafter.parameters⟩
    show Answer.number ((Builder.bind p).run before).1 = _
    rw [Builder.bind_run]
  · rintro row scope c k rfl hrow hk
    obtain ⟨ts, m, hts, hlen, hm⟩ := clause_numbers hrow
      (show (Builder.clause d row scope c).run before = (.ok k, after) from Prod.ext (Answer.clause.inj hk) rfl)
    refine ⟨ts, m, hts, hlen, hm, ?_⟩
    intro n hn
    rw [hm, List.mem_range'_1] at hn
    exact parameterAt_of_prefix hafter.parameters (by omega)

/-- A run that hands out a parameter before a clause and is refused a clause after it. -/
theorem run_placeholders_shop :
    let before := runAll Shop.definitions .fresh [.allocate, .bind (.boolean true)]
    let call := Call.clause (.numbered 1) (Shop.id 1) (Shop.criteria "ann" ["10", "20"])
    let final := runAll Shop.definitions (call.run Shop.definitions before).2
      [.clause (.numbered 1) (Shop.id 1) (Shop.criteria "bob" ["ten"]), .bind (.boolean false)]
    ∃ k ts, (call.run Shop.definitions before).1 = .clause (.ok k) ∧ tokens k.text = some ts ∧
      numbers ts = [2, 3, 4, 5] ∧ parameterAt final.parameters 5 = some (.integer 20) := by
  intro before call final
  obtain ⟨k, b, h⟩ : ∃ k b, (Builder.clause Shop.definitions (.numbered 1) (Shop.id 1)
      (Shop.criteria "ann" ["10", "20"])).run before = (.ok k, b) := Builder.exists_run_ok (by decide +kernel)
  have hk : (call.run Shop.definitions before).1 = .clause (.ok k) := congrArg Answer.clause (congrArg Prod.fst h)
  obtain ⟨_, _, hclause⟩ := (run_placeholders Shop.definitions).1 [.allocate, .bind (.boolean true)] call
    [.clause (.numbered 1) (Shop.id 1) (Shop.criteria "bob" ["ten"]), .bind (.boolean false)]
  obtain ⟨ts, m, hts, hlen, hm, hsame⟩ := hclause _ _ _ k rfl (isName_numbered 1) hk
  have hafter : (call.run Shop.definitions before).2.parameters.length = 5 := by decide +kernel
  obtain rfl : m = 4 := by
    rw [hafter] at hlen
    exact (Nat.add_left_cancel hlen).symm
  refine ⟨k, ts, hk, hts, hm, ?_⟩
  rw [hsame 5 (hm ▸ by decide)]
  decide +kernel

end Cohort
