import Cohort.Proofs.Query.Placeholders
import Cohort.Proofs.Query.Selection
import Cohort.Proofs.Rule.References
import Cohort.Proofs.Sql.Occurrence

/-!
# The aliases of a query

* `Builder.Builds.on`: the columns that building gives belong to the row in scope, and those of a related row to this
  row, but for the one that it is joined by.
* `Predicate.scopes_tokens`: the words of such predicates introduce the rows whose existence their condition states, and
  mention the row in scope and these rows only, the latter inside the parentheses where they are introduced.
* `Ledger` keeps account of the aliases that a builder hands out, also for a clause that is refused in the end; it does
  what the builder does (`Builder.Kept`), and its aliases are numbered one after the other.
* `run_aliases`: the aliases over a whole run of a builder, and in the query for an entity.
-/

namespace Cohort

open Sql

/-! ## The rows of a condition -/

mutual

/-- The names of the rows whose existence a condition states, in the order of its text. -/
def Sql.Condition.rows : Sql.Condition → List String
  | .never => []
  | .nullTest _ _ => []
  | .compare _ _ _ => []
  | .among _ _ => []
  | .existsRow row c => row :: c.rows
  | .joined _ cs => Sql.Condition.allRows cs

/-- The names of the rows whose existence some conditions state, in the order of their texts. -/
def Sql.Condition.allRows : List Sql.Condition → List String
  | [] => []
  | c :: cs => c.rows ++ Sql.Condition.allRows cs

end

theorem Sql.Condition.allRows_eq_flatten : ∀ cs : List Sql.Condition,
    Sql.Condition.allRows cs = (cs.map Sql.Condition.rows).flatten
  | [] => rfl
  | c :: cs => by
    rw [Sql.Condition.allRows, Sql.Condition.allRows_eq_flatten cs, List.map_cons, List.flatten_cons]

theorem Sql.Condition.rows_join (k : Connective) : ∀ cs : List Sql.Condition,
    (Sql.Condition.join k cs).rows = Sql.Condition.allRows cs
  | [] => rfl
  | [_] => (List.append_nil _).symm
  | _ :: _ :: _ => rfl

theorem Sql.Condition.allRows_group (k : Connective) : ∀ cs : List Sql.Condition,
    Sql.Condition.allRows (Sql.Condition.group k cs) = Sql.Condition.allRows cs
  | [] => rfl
  | c :: cs => (List.append_nil _).trans (Sql.Condition.rows_join k (c :: cs))

theorem rows_conditions_append (ps qs : List Predicate) : Sql.Condition.allRows (Predicate.conditions (ps ++ qs)) =
    Sql.Condition.allRows (Predicate.conditions ps) ++ Sql.Condition.allRows (Predicate.conditions qs) := by
  simp [Sql.Condition.allRows_eq_flatten, Predicate.conditions_append]

theorem rows_related (row : Alias) (entity : Nat) (outer inner : Column) (k : Connective) (ps : List Predicate) :
    (Predicate.related row entity outer inner k ps).condition.rows =
      row.text :: Sql.Condition.allRows (Predicate.conditions ps) := by
  rw [Predicate.condition, Sql.Condition.rows, Sql.Condition.rows_join]
  exact congrArg (row.text :: ·) (Sql.Condition.allRows_group k _)

theorem rows_membershipCondition (row : Alias) (entity : Nat) (c : Clause) :
    (membershipCondition row entity c).rows = Sql.Condition.allRows (Predicate.conditions c.parts) := by
  rw [membershipCondition, Sql.Condition.rows_join]
  exact Sql.Condition.allRows_group c.connective _

theorem rows_splice {k : Connective} : ∀ ps : List Predicate,
    Sql.Condition.allRows (Predicate.conditions (Builder.splice k ps)) =
      Sql.Condition.allRows (Predicate.conditions ps)
  | [] => rfl
  | [_] => rfl
  | _ :: _ :: _ => List.append_nil _

theorem rows_predicate (row : Alias) (n : Nat) (t : Test) : (t.predicate row n).condition.rows = [] := by
  obtain ⟨a, c⟩ := t
  cases c with
  | nullCheck op | value op p => rfl
  | among ps => cases ps <;> rfl

/-! ## Numbered names -/

/-- The first `k` aliases that are handed out after `n` others. -/
def namesAfter (n k : Nat) : List String := (List.range' (n + 1) k).map fun m => (Alias.numbered m).text

theorem namesAfter_cons (n k : Nat) :
    (Alias.numbered (n + 1)).text :: namesAfter (n + 1) k = namesAfter n (k + 1) := rfl

theorem namesAfter_append (n k m : Nat) : namesAfter n k ++ namesAfter (n + k) m = namesAfter n (k + m) := by
  rw [namesAfter, namesAfter, namesAfter, ← List.map_append, Nat.add_right_comm, List.range'_append_1]

theorem nodup_namesAfter (n k : Nat) : (namesAfter n k).Nodup :=
  List.Pairwise.map _ (fun _ _ hne htext => hne (text_numbered_injective htext)) (List.nodup_range' 1)

/-! ## Predicates on a row -/

mutual

/-- The columns of a predicate belong to the row in scope. -/
def Predicate.On (row : Alias) : Predicate → Prop
  | .never => True
  | .nullCheck column _ => column.row = row
  | .comparison column _ _ => column.row = row
  | .membership column _ => column.row = row
  | .joined _ parts => Predicate.AllOn row parts
  | .related other _ outer inner _ parts => outer.row = row ∧ inner.row = other ∧ Predicate.AllOn other parts

/-- The columns of predicates belong to the row in scope. -/
def Predicate.AllOn (row : Alias) : List Predicate → Prop
  | [] => True
  | p :: ps => p.On row ∧ Predicate.AllOn row ps

end

theorem Predicate.allOn_append {row : Alias} : ∀ {ps qs : List Predicate}, Predicate.AllOn row ps →
    Predicate.AllOn row qs → Predicate.AllOn row (ps ++ qs)
  | [], _, _, hqs => hqs
  | _ :: _, _, ⟨hp, hps⟩, hqs => ⟨hp, Predicate.allOn_append hps hqs⟩

theorem allOn_splice {row : Alias} {k : Connective} : ∀ {ps : List Predicate}, Predicate.AllOn row ps →
    Predicate.AllOn row (Builder.splice k ps)
  | [], h => h
  | [_], h => h
  | _ :: _ :: _, h => ⟨h, trivial⟩

theorem Test.on_predicate (row : Alias) (n : Nat) (t : Test) : (t.predicate row n).On row := by
  obtain ⟨a, c⟩ := t
  cases c with
  | nullCheck op | value op p => rfl
  | among ps =>
    cases ps with
    | nil => trivial
    | cons p ps => rfl

namespace Builder

variable {d : Definitions} {row : Alias} {scope : Uuid} {rs : List Rule} {b b' : Builder} {ps : List Predicate}

theorem Builds.on (h : Builds d row scope rs b ps b') : Predicate.AllOn row ps := by
  induction h with
  | nil => trivial
  | condition _ _ ih => exact ⟨Test.on_predicate _ _ _, ih⟩
  | nested _ _ ihc ih => exact Predicate.allOn_append (allOn_splice ihc) ih
  | related _ _ _ ihc ih => exact ⟨⟨rfl, rfl, ihc⟩, ih⟩

/-- **Each relationship gets an alias of its own**, in document order. -/
theorem Builds.rows (h : Builds d row scope rs b ps b') :
    b'.aliases = b.aliases + (Rule.allRelationshipIds rs).length ∧
      Sql.Condition.allRows (Predicate.conditions ps) =
        namesAfter b.aliases (Rule.allRelationshipIds rs).length := by
  -- Nested rules take their aliases before the rules behind them, a relationship its own before those inside.
  induction h with
  | nil => exact ⟨rfl, rfl⟩
  | condition _ _ ih =>
    obtain ⟨haliases, hrows⟩ := ih
    refine ⟨haliases, ?_⟩
    rw [Predicate.conditions, Sql.Condition.allRows, rows_predicate, List.nil_append, hrows]
    rfl
  | @nested _ _ c rs b b₁ b' qs _ _ _ ihc ih =>
    obtain ⟨_, k, rs'⟩ := c
    have hc : b₁.aliases = b.aliases + (Rule.allRelationshipIds rs').length := ihc.1
    have hcrows : Sql.Condition.allRows (Predicate.conditions qs) =
        namesAfter b.aliases (Rule.allRelationshipIds rs').length := ihc.2
    obtain ⟨hrest, hrows⟩ := ih
    rw [Rule.allRelationshipIds, Rule.relationshipIds, List.length_append]
    refine ⟨by omega, ?_⟩
    rw [rows_conditions_append, rows_splice, hcrows, hrows, hc, namesAfter_append]
  | @related _ _ id join c rs b b₁ b' qs _ _ _ _ ihc ih =>
    obtain ⟨_, k, rs'⟩ := c
    have hc : b₁.aliases = b.aliases + 1 + (Rule.allRelationshipIds rs').length := ihc.1
    have hcrows : Sql.Condition.allRows (Predicate.conditions qs) =
        namesAfter (b.aliases + 1) (Rule.allRelationshipIds rs').length := ihc.2
    obtain ⟨hrest, hrows⟩ := ih
    rw [Rule.allRelationshipIds, Rule.relationshipIds, List.length_append, List.length_cons]
    refine ⟨by omega, ?_⟩
    rw [Predicate.conditions, Sql.Condition.allRows, rows_related, hcrows, hrows, hc, List.cons_append,
      namesAfter_append, namesAfter_cons, Nat.add_right_comm]

end Builder

/-! ## Words -/

section Words

variable {names : List String}

theorem scopes_castTokens (t : Option CastType) : Scopes names (castTokens t) [] := by
  refine scopes_tokens fun u hu => ?_
  cases t with
  | none => cases hu
  | some t =>
    simp only [castTokens, List.mem_cons, List.not_mem_nil, or_false] at hu
    rcases hu with rfl | rfl
    · exact idle_mark rfl
    · exact idle_word (by cases t <;> decide)

theorem Column.scopes_tokens {c : Column} (h : c.row.text ∈ names) : Scopes names c.tokens [] := by
  have hmember : Scopes names [.word c.row.text, .dot, .word "attributes", .arrow, .quoted c.name] [] := by
    refine Sql.scopes_tokens ?_
    simp only [List.forall_mem_cons]
    exact ⟨idle_name h, idle_mark rfl, idle_word (by decide), idle_mark rfl, idle_mark rfl, by simp⟩
  exact hmember.paren.append (scopes_castTokens c.castType)

theorem Operator.scopes_tokens (op : Operator) : Scopes names op.tokens [] := by
  cases op <;> exact scopes_marks rfl

theorem scopes_parameter (n : Nat) : Scopes names [.parameter n] [] := scopes_marks rfl

theorem scopes_parameterTokens (ns : List Nat) : Scopes names (parameterTokens ns) [] := by
  refine Sql.scopes_tokens fun t ht => ?_
  rcases mem_intercalate ht with rfl | ⟨ts, hts, ht⟩
  · exact idle_mark rfl
  · obtain ⟨n, _, rfl⟩ := List.mem_map.1 hts
    obtain rfl := List.mem_singleton.1 ht
    exact idle_mark rfl

theorem scopes_entityTokens {row : Alias} (h : row.text ∈ names) (n : Nat) :
    Scopes names (entityTokens row n) [] := by
  refine Sql.scopes_tokens ?_
  simp only [entityTokens, List.forall_mem_cons]
  exact ⟨idle_name h, idle_mark rfl, idle_word (by decide), idle_mark rfl, idle_mark rfl, by simp⟩

theorem scopes_keys {outer inner : Column} (ho : outer.row.text ∈ names) (hi : inner.row.text ∈ names) :
    Scopes names (outer.tokens ++ .relation .equal :: inner.tokens) [] :=
  (Column.scopes_tokens ho).append
    ((scopes_marks rfl : Scopes names [.relation .equal] []).append (Column.scopes_tokens hi))

theorem scopes_rowsTokens {row : Alias} {parts : List (List Token)} {newss : List (List String)}
    (h : List.Forall₂ (Scopes (row.text :: names)) parts newss) :
    Scopes names (rowsTokens row parts) (row.text :: newss.flatten) := (Scopes.connect .and h).rows

/-- Parts in parentheses, if there are any, behind other parts. -/
theorem scopes_groupTokens (k : Connective) {parts tss : List (List Token)} {news newss : List (List String)}
    (hparts : List.Forall₂ (Scopes names) parts news) (h : List.Forall₂ (Scopes names) tss newss) :
    ∃ news', List.Forall₂ (Scopes names) (parts ++ groupTokens k tss) news' ∧
      news'.flatten = news.flatten ++ newss.flatten := by
  cases h with
  | nil => exact ⟨news, by simpa [groupTokens] using hparts, by simp⟩
  | cons hts htss =>
    refine ⟨news ++ [_], List.rel_append hparts (.cons (Scopes.connect k (.cons hts htss)).paren .nil), ?_⟩
    simp

mutual

/-- **The words of a predicate on a row introduce the rows of its condition.** -/
theorem Predicate.scopes_tokens {row : Alias} : ∀ {names : List String} {p : Predicate}, p.On row →
    row.text ∈ names → Scopes names p.tokens p.condition.rows
  | _, .never, _, _ => scopes_marks rfl
  | _, .nullCheck c op, h, hrow => (Column.scopes_tokens (h ▸ hrow)).append op.scopes_tokens
  | _, .comparison c op n, h, hrow =>
    (Column.scopes_tokens (h ▸ hrow)).append (op.scopes_tokens.append (scopes_parameter n))
  | _, .membership c ns, h, hrow =>
    (Column.scopes_tokens (h ▸ hrow)).append (Operator.among.scopes_tokens.append (scopes_parameterTokens ns).paren)
  | _, .joined k ps, h, hrow => by
    rw [Predicate.tokens, Predicate.condition, Sql.Condition.rows_join, Sql.Condition.allRows_eq_flatten]
    exact (Scopes.connect k (Predicate.scopes_tokensOfAll h hrow)).paren
  | names, .related other n outer inner k ps, h, hrow => by
    obtain ⟨houter, hinner, hps⟩ := h
    -- The keys mention the new row and the one around it, the rules inside the new one only.
    have hother : other.text ∈ other.text :: names := List.mem_cons_self
    have hrow' : row.text ∈ other.text :: names := List.mem_cons_of_mem _ hrow
    have hkeys : Scopes (other.text :: names) (outer.tokens ++ .relation .equal :: inner.tokens) [] :=
      scopes_keys (by rwa [houter]) (by rwa [hinner])
    obtain ⟨news, hnews, hflatten⟩ := scopes_groupTokens k
      (.cons (scopes_entityTokens hother n) (.cons hkeys .nil)) (Predicate.scopes_tokensOfAll hps hother)
    have hselect : Scopes names [.keyword .select, .number 1] [] := scopes_marks rfl
    have hexists : Scopes names [.keyword .existsRow] [] := scopes_marks rfl
    have := hexists.append (hselect.append (scopes_rowsTokens hnews)).paren
    rw [hflatten] at this
    rw [rows_related, Sql.Condition.allRows_eq_flatten]
    exact this

theorem Predicate.scopes_tokensOfAll {row : Alias} : ∀ {names : List String} {ps : List Predicate},
    Predicate.AllOn row ps → row.text ∈ names →
    List.Forall₂ (Scopes names) (Predicate.tokensOfAll ps) ((Predicate.conditions ps).map Sql.Condition.rows)
  | _, [], _, _ => .nil
  | _, _ :: _, ⟨hp, hps⟩, hrow => .cons (Predicate.scopes_tokens hp hrow) (Predicate.scopes_tokensOfAll hps hrow)

end

theorem scopes_membershipTokens (row : Alias) (entity : Nat) {c : Clause} (h : Predicate.AllOn row c.parts) :
    Scopes [] (membershipTokens row entity c)
      (row.text :: Sql.Condition.allRows (Predicate.conditions c.parts)) := by
  have hrow : row.text ∈ [row.text] := List.mem_cons_self
  obtain ⟨news, hnews, hflatten⟩ := scopes_groupTokens c.connective (.cons (scopes_entityTokens hrow entity) .nil)
    (Predicate.scopes_tokensOfAll h hrow)
  have hselect : Scopes [] [.keyword .select, .word "id"] [] := by
    refine Sql.scopes_tokens ?_
    simp only [List.forall_mem_cons]
    exact ⟨idle_mark rfl, idle_word (by decide), by simp⟩
  have := hselect.append (scopes_rowsTokens hnews)
  rw [hflatten] at this
  rw [Sql.Condition.allRows_eq_flatten]
  exact this

end Words

/-! ## Keeping account -/

/-- A builder, and the aliases that it has handed out, in their order. -/
structure Ledger where
  /-- The builder. -/
  builder : Builder
  /-- The aliases. -/
  given : List Alias

/-- A step of building under account. -/
abbrev Account (α : Type) := ExceptT RuleError (StateM Ledger) α

namespace Ledger

/-- A ledger without entries. -/
def fresh : Ledger := ⟨.fresh, []⟩

/-- A step that asks for no alias. -/
def quietly {α : Type} (m : StateM Builder α) : StateM Ledger α := do
  let (a, b) := m.run (← get).builder
  modify fun l => { l with builder := b }
  return a

/-- Gives the next alias and enters it. -/
def allocate : StateM Ledger Alias := do
  let row ← quietly Builder.allocate
  modify fun l => { l with given := l.given ++ [row] }
  return row

section

variable (d : Definitions)

mutual

/-- The predicates of rules on a row of an entity. -/
def rules (row : Alias) (scope : Uuid) : List Rule → Account (List Predicate)
  | [] => pure []
  | r :: rs => do
    let ps ← rule row scope r
    let qs ← rules row scope rs
    return ps ++ qs

/-- The predicates of a rule on a row of an entity. -/
def rule (row : Alias) (scope : Uuid) : Rule → Account (List Predicate)
  | .condition c => do
    let t ← liftM (c.resolve d scope)
    return [← liftM (quietly (Builder.test row t))]
  | .nested ⟨_, connective, rs⟩ => do return Builder.splice connective (← rules row scope rs)
  | .related id ⟨_, connective, rs⟩ => do
    let join ← liftM (d.join scope id)
    let other ← allocate
    let entity ← liftM (quietly (Builder.bind (.uuid join.relatedEntityId)))
    let parts ← rules other join.relatedEntityId rs
    return [.related other entity ⟨row, join.localKey, none⟩ ⟨other, join.relatedKey, none⟩ connective parts]

end

/-- The clause of criteria on a row of an entity. -/
def clause (row : Alias) (scope : Uuid) (c : Criteria) : Account Clause := do
  return ⟨c.connective, ← rules d row scope c.rules⟩

end

/-- A ledger whose entries are numbered one after the other, and as many as its builder says. -/
def of (b : Builder) : Ledger := ⟨b, (List.range' 1 b.aliases).map .numbered⟩

theorem of_allocated (b : Builder) :
    (⟨⟨b.parameters, b.aliases + 1⟩, (of b).given ++ [.numbered (b.aliases + 1)]⟩ : Ledger) =
      of ⟨b.parameters, b.aliases + 1⟩ := by
  rw [of, of, List.range'_1_concat, List.map_append, Nat.add_comm 1]
  rfl

theorem texts_of (b : Builder) : (of b).given.map Alias.text = namesAfter 0 b.aliases := by
  rw [of, List.map_map]
  rfl

theorem given_prefix {b b' : Builder} (h : b.Extends b') : (of b).given <+: (of b').given := by
  obtain ⟨m, hm⟩ := Nat.exists_eq_add_of_le h.aliases
  refine List.IsPrefix.map _ ⟨List.range' (1 + b.aliases) m, ?_⟩
  rw [List.range'_append_1, hm]

/-! ### Steps -/

/-- A step does on such a ledger what another one does on its builder. -/
def Follows {α : Type} (y : Account α) (x : Build α) : Prop := ∀ b, y.run (of b) = ((x.run b).1, of (x.run b).2)

section

variable {α β : Type}

theorem follows_pure (a : α) : Follows (pure a) (pure a) := fun _ => rfl

theorem Follows.bind {y : Account α} {x : Build α} {g : α → Account β} {f : α → Build β} (h : Follows y x)
    (h' : ∀ a, Follows (g a) (f a)) : Follows (y >>= g) (x >>= f) := by
  intro b
  rw [Builder.run_bind]
  show ExceptT.bindCont g (y.run (of b)).1 (y.run (of b)).2 = _
  rw [h b]
  rcases x.run b with ⟨_ | a, b'⟩
  · rfl
  · exact h' a b'

theorem follows_check (r : Except RuleError α) : Follows (liftM r) (liftM r) := by
  cases r <;> exact fun _ => rfl

theorem follows_allocate : Follows (liftM allocate) (liftM Builder.allocate) := by
  intro b
  show (Except.ok (Alias.numbered (b.aliases + 1)), _) = _
  exact congrArg (Prod.mk _) (of_allocated b)

/-- A step of the builder that leaves the number of aliases as it is. -/
theorem follows_quietly {m : StateM Builder α} (h : ∀ b, (m.run b).2.aliases = b.aliases) :
    Follows (liftM (quietly m)) (liftM m) := by
  intro b
  show (Except.ok (m.run b).1, (⟨(m.run b).2, (of b).given⟩ : Ledger)) = (Except.ok (m.run b).1, of (m.run b).2)
  rw [of, of, h b]

end

theorem follows_test (row : Alias) (t : Test) : Follows (liftM (quietly (Builder.test row t)))
    (liftM (Builder.test row t)) := follows_quietly fun b => by rw [Builder.test_run]

theorem follows_bindParameter (p : Parameter) : Follows (liftM (quietly (Builder.bind p)))
    (liftM (Builder.bind p)) := follows_quietly fun b => by rw [Builder.bind_run]

variable (d : Definitions)

mutual

/-- **Building under account does what building does**, refused or not. -/
theorem rules_follow (row : Alias) (scope : Uuid) : ∀ rs : List Rule,
    Follows (rules d row scope rs) (Builder.rules d row scope rs)
  | [] => by
    rw [rules, Builder.rules]
    exact follows_pure []
  | r :: rs => by
    rw [rules, Builder.rules]
    exact (rule_follows row scope r).bind fun ps => (rules_follow row scope rs).bind fun qs => follows_pure _

theorem rule_follows (row : Alias) (scope : Uuid) : ∀ r : Rule,
    Follows (rule d row scope r) (Builder.rule d row scope r)
  | .condition c => by
    rw [rule, Builder.rule]
    exact (follows_check _).bind fun t => (follows_test row t).bind fun p => follows_pure _
  | .nested ⟨_, k, rs⟩ => by
    rw [rule, Builder.rule]
    exact (rules_follow row scope rs).bind fun ps => follows_pure _
  | .related id ⟨_, k, rs⟩ => by
    rw [rule, Builder.rule]
    refine (follows_check _).bind fun join => follows_allocate.bind fun other => ?_
    refine (follows_bindParameter _).bind fun entity => ?_
    exact (rules_follow other join.relatedEntityId rs).bind fun parts => follows_pure _

end

theorem clause_follows (row : Alias) (scope : Uuid) (c : Criteria) :
    Follows (clause d row scope c) (Builder.clause d row scope c) := by
  rw [clause, Builder.clause]
  exact (rules_follow d row scope c.rules).bind fun ps => follows_pure _

end Ledger

/-! ## Runs -/

/-- What a call gives, and the ledger after it. -/
def Call.note (d : Definitions) (l : Ledger) : Call → Answer × Ledger
  | .allocate => (Ledger.allocate.run l).map .row id
  | .bind p => ((Ledger.quietly (Builder.bind p)).run l).map .number id
  | .clause row scope c => ((Ledger.clause d row scope c).run l).map .clause id

/-- The ledger after some calls. -/
def noteAll (d : Definitions) (l : Ledger) (calls : List Call) : Ledger :=
  calls.foldl (fun l call => (call.note d l).2) l

theorem Call.note_of (d : Definitions) (b : Builder) (call : Call) :
    call.note d (.of b) = ((call.run d b).1, .of (call.run d b).2) := by
  cases call with
  | allocate => exact congrArg (Prod.mk _) (Ledger.of_allocated b)
  | bind p => rfl
  | clause row scope c =>
    show ((Ledger.clause d row scope c).run (.of b)).map Answer.clause id = _
    rw [Ledger.clause_follows d row scope c b]
    rfl

theorem noteAll_of (d : Definitions) (calls : List Call) : ∀ b : Builder,
    noteAll d (.of b) calls = .of (runAll d b calls) := by
  induction calls with
  | nil => exact fun _ => rfl
  | cons call calls ih =>
    intro b
    show noteAll d (call.note d (.of b)).2 calls = _
    rw [Call.note_of]
    exact ih _

/-- The text of a clause introduces the aliases that are handed out for it. -/
theorem clause_introductions {d : Definitions} {row : Alias} {scope : Uuid} {c : Criteria} {b b' : Builder}
    {k : Clause} (hrow : isName row.text = true) (h : (Builder.clause d row scope c).run b = (.ok k, b')) :
    ∃ ts m, tokens k.text = some ts ∧ b'.aliases = b.aliases + m ∧ introductions ts = namesAfter b.aliases m := by
  obtain ⟨_, hb⟩ := Builder.clause_run_ok h
  obtain ⟨haliases, hrows⟩ := hb.rows
  obtain ⟨k, ps⟩ := k
  cases ps with
  | nil =>
    refine ⟨[], _, ?_, haliases, hrows⟩
    show lex [] = some []
    rw [lex]
  | cons p ps =>
    refine ⟨_, _, Clause.tokens_text (List.cons_ne_nil p ps) (hb.allReadable hrow), haliases, ?_⟩
    have hscopes := Scopes.connect k (Predicate.scopes_tokensOfAll hb.on (List.mem_singleton_self row.text))
    rw [← Sql.Condition.allRows_eq_flatten, hrows] at hscopes
    exact hscopes.introductions_eq

/-- The text of a query names its rows as they are numbered, and the columns in it belong to the row in scope. -/
theorem membershipQuery_rows {d : Definitions} {c : Criteria} {entity : Uuid} {q : Query}
    (h : membershipQuery d c entity = .ok q) : ∃ ts s es, tokens q.text = some ts ∧ Statement.read q.text = some s ∧
      Scopes [] ts (namesAfter 0 ((Rule.allRelationshipIds c.rules).length + 1)) ∧
      s.row :: s.condition.rows = namesAfter 0 ((Rule.allRelationshipIds c.rules).length + 1) ∧
      s.row = (Alias.numbered 1).text ∧ Rule.AllRead d q.parameters s.row entity c.rules es ∧
      s.condition = .join .and (.compare (.entity s.row) .equal (.parameter 1) ::
        Sql.Condition.group c.connective es) := by
  obtain ⟨ps, b, hb, rfl⟩ := membershipQuery_ok h
  have hname := isName_numbered 1
  have hreadable := hb.allReadable hname
  have hrows : (Alias.numbered 1).text :: Sql.Condition.allRows (Predicate.conditions ps) =
      namesAfter 0 ((Rule.allRelationshipIds c.rules).length + 1) := by
    rw [hb.rows.2]
    exact namesAfter_cons 0 _
  refine ⟨_, _, Predicate.conditions ps, tokens_membershipText hname 1 hreadable, statement_read hname 1 hreadable, ?_,
    ?_, rfl, hb.reads List.prefix_rfl, rfl⟩
  · rw [← hrows]
    exact scopes_membershipTokens (.numbered 1) 1 hb.on
  · rw [← hrows]
    exact congrArg _ (rows_membershipCondition (.numbered 1) 1 ⟨c.connective, ps⟩)

/-- **The aliases of a query, and over a whole run of a builder.** In the text of the query for an entity:
* The rows are introduced as `pe1`, `pe2` and so on, as many as there are relationships and one more.
* Any other mention of an alias is bound by the words before it: its introduction stands in the same parentheses or in
  some that are around them.
* Read as a condition, it has the columns of a rule on the alias of the closest relationship around the rule, or on the
  first alias if there is none, and it joins the row of a relationship to the row around it (`Rule.AllRead`).

Under account, any call of a run does what it does without, also if it is refused; no alias is ever handed out twice;
and the text of a clause introduces the aliases that are handed out for it, in their order.

The aliases are counted without end. A counter of 32 bits hands out the same ones as long as they are fewer than
`2 ^ 32`, which is so if the calls ask for fewer (`run_counted`, `membershipQuery_counted`). -/
theorem run_aliases (d : Definitions) :
    (∀ c entity q, membershipQuery d c entity = .ok q → ∃ ts s es, tokens q.text = some ts ∧
      Statement.read q.text = some s ∧
      introductions ts = (List.range' 1 ((Rule.allRelationshipIds c.rules).length + 1)).map
        (fun n => "pe" ++ Numeral.natText n) ∧
      (∀ before n after, ts = before ++ .word (Alias.numbered n).text :: after →
        Introducing before ∨ Bound before (Alias.numbered n).text) ∧
      s.row :: s.condition.rows = introductions ts ∧
      s.row = (Alias.numbered 1).text ∧ Rule.AllRead d q.parameters s.row entity c.rules es ∧
      s.condition = .join .and (.compare (.entity s.row) .equal (.parameter 1) ::
        Sql.Condition.group c.connective es)) ∧
    ∀ (calls : List Call) (call : Call),
      let before := noteAll d .fresh calls
      let after := (call.note d before).2
      (before.builder = runAll d .fresh calls ∧
        ((call.note d before).1, after.builder) = call.run d before.builder) ∧
      (before.given <+: after.given ∧ (after.given.map Alias.text).Nodup) ∧
      ∀ row scope c k, call = .clause row scope c → isName row.text = true →
        (call.note d before).1 = .clause (.ok k) → ∃ ts, tokens k.text = some ts ∧
          after.given.map Alias.text = before.given.map Alias.text ++ introductions ts := by
  constructor
  · intro c entity q h
    obtain ⟨ts, s, es, hts, hs, hscopes, hrows, hfirst, hread, hcondition⟩ := membershipQuery_rows h
    have hintroductions := hscopes.introductions_eq
    refine ⟨ts, s, es, hts, hs, hintroductions, ?_, hrows.trans hintroductions.symm, hfirst, hread, hcondition⟩
    intro before n after hsplit
    exact (hscopes.aliases before _ after hsplit n rfl).imp_right fun h => h.resolve_left List.not_mem_nil
  · intro calls call before after
    have hbefore : before = .of (runAll d .fresh calls) := noteAll_of d calls .fresh
    have hnote : call.note d before = ((call.run d (runAll d .fresh calls)).1,
        .of (call.run d (runAll d .fresh calls)).2) := by
      rw [hbefore]
      exact Call.note_of d _ call
    have hafter : after = .of (call.run d (runAll d .fresh calls)).2 := congrArg Prod.snd hnote
    refine ⟨⟨congrArg Ledger.builder hbefore, ?_⟩, ⟨?_, ?_⟩, ?_⟩
    · rw [hafter, hnote, hbefore]
      rfl
    · rw [hafter, hbefore]
      exact Ledger.given_prefix (call.extends d _)
    · rw [hafter, Ledger.texts_of]
      exact nodup_namesAfter 0 _
    · rintro row scope c k rfl hrow hk
      rw [hnote] at hk
      obtain ⟨ts, m, hts, haliases, hintroductions⟩ := clause_introductions hrow
        (show (Builder.clause d row scope c).run (runAll d .fresh calls) = (.ok k, _) from
          Prod.ext (Answer.clause.inj hk) rfl)
      refine ⟨ts, hts, ?_⟩
      rw [hafter, hbefore, Ledger.texts_of, Ledger.texts_of, hintroductions]
      have := namesAfter_append 0 (runAll d .fresh calls).aliases m
      rw [Nat.zero_add] at this
      rw [this]
      exact congrArg _ haliases

/-- The customers of a shop whose name contains a text and who have an order of a total, and the clause for them behind
one that is refused when it has an alias already. -/
theorem run_aliases_shop :
    (∃ q ts, membershipQuery Shop.definitions (Shop.criteria "ann" ["10"]) (Shop.id 1) = .ok q ∧
      tokens q.text = some ts ∧ introductions ts = ["pe1", "pe2"] ∧
      ∀ before after, ts = before ++ .word (Alias.numbered 2).text :: after →
        Introducing before ∨ Bound before (Alias.numbered 2).text) ∧
    let refused := Call.clause (.numbered 1) (Shop.id 1) (Shop.criteria "bob" ["ten"])
    let call := Call.clause (.numbered 1) (Shop.id 1) (Shop.criteria "ann" ["10"])
    ∃ k ts, (call.note Shop.definitions (noteAll Shop.definitions .fresh [.allocate, refused])).1 = .clause (.ok k) ∧
      tokens k.text = some ts ∧ introductions ts = ["pe3"] := by
  constructor
  · obtain ⟨q, h⟩ : ∃ q, membershipQuery Shop.definitions (Shop.criteria "ann" ["10"]) (Shop.id 1) = .ok q :=
      exists_of_isOk (by decide +kernel)
    obtain ⟨ts, _, _, hts, _, hintroductions, hbound, _⟩ := (run_aliases Shop.definitions).1 _ _ _ h
    exact ⟨q, ts, h, hts, hintroductions.trans (by decide +kernel), fun before after => hbound before 2 after⟩
  · intro refused call
    obtain ⟨⟨hbefore, hcall⟩, _, hclause⟩ := (run_aliases Shop.definitions).2 [.allocate, refused] call
    obtain ⟨k, b, h⟩ : ∃ k b, (Builder.clause Shop.definitions (.numbered 1) (Shop.id 1)
        (Shop.criteria "ann" ["10"])).run (runAll Shop.definitions .fresh [.allocate, refused]) = (.ok k, b) :=
      Builder.exists_run_ok (by decide +kernel)
    have hk : (call.note Shop.definitions (noteAll Shop.definitions .fresh [.allocate, refused])).1 =
        .clause (.ok k) := by
      rw [congrArg Prod.fst hcall, hbefore]
      exact congrArg Answer.clause (congrArg Prod.fst h)
    obtain ⟨ts, hts, hgiven⟩ := hclause _ _ _ k rfl (isName_numbered 1) hk
    have hgiven' : (call.note Shop.definitions (noteAll Shop.definitions .fresh [.allocate, refused])).2.given.map
        Alias.text = (noteAll Shop.definitions .fresh [.allocate, refused]).given.map Alias.text ++ ["pe3"] := by
      decide +kernel
    exact ⟨k, ts, hk, hts, List.append_cancel_left (hgiven.symm.trans hgiven')⟩

end Cohort
