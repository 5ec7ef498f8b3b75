import Cohort.Proofs.Query.Spelling
import Cohort.Proofs.Sql.Meaning

/-!
# Reading predicates back

The text of rules is read as the rules, without those that ask for nothing (`Rule.isVacuous`), and with criteria of one
remaining rule replaced by this rule. `Rule.Reads` states this along the rule tree: the conditions, their order and the
connective above them are the same.

* `Predicate.reads`: a readable predicate is read as `Predicate.condition`.
* `Builder.Builds.reads`: the predicates that rules give are read as the rules.
* `clause_read`: the text of a clause is read as its criteria, and no level of parentheses in it mixes connectives.
-/

namespace Cohort

open Sql

/-! ## Predicates -/

/-- A column as it is read. -/
def Column.operand (c : Column) : Operand := .attribute c.row.text c.name c.castType

/-- What a column consists of. -/
def Column.items (c : Column) : List Item := .member c.row.text c.name :: (castTokens c.castType).map .token

/-- The conditions on a row of the entity in a parameter, with the same text in one column as there is in another, that
satisfies further conditions. -/
def relatedConditions (row : Alias) (entity : Nat) (outer inner : Column) (connective : Connective)
    (conditions : List Sql.Condition) : List Sql.Condition :=
  [.compare (.entity row.text) .equal (.parameter entity), .compare outer.operand .equal inner.operand] ++
    Sql.Condition.group connective conditions

mutual

/-- The condition that a predicate is read as. -/
def Predicate.condition : Predicate → Sql.Condition
  | .never => .never
  | .nullCheck column operator => .nullTest column.operand (operator == .isNotNull)
  | .comparison column operator parameter =>
    .compare column.operand (operator.relation?.getD .equal) (.parameter parameter)
  | .membership column parameters => .among column.operand parameters
  | .joined connective parts => .join connective (Predicate.conditions parts)
  | .related row entity outer inner connective parts =>
    .existsRow row.text (.join .and (relatedConditions row entity outer inner connective (Predicate.conditions parts)))

/-- The conditions that predicates are read as. -/
def Predicate.conditions : List Predicate → List Sql.Condition
  | [] => []
  | p :: ps => p.condition :: Predicate.conditions ps

end

theorem Predicate.conditions_eq_map : ∀ ps : List Predicate, Predicate.conditions ps = ps.map Predicate.condition
  | [] => rfl
  | p :: ps => by
    rw [Predicate.conditions, Predicate.conditions_eq_map ps, List.map_cons]

theorem Predicate.conditions_append (ps qs : List Predicate) :
    Predicate.conditions (ps ++ qs) = Predicate.conditions ps ++ Predicate.conditions qs := by
  rw [Predicate.conditions_eq_map, Predicate.conditions_eq_map, Predicate.conditions_eq_map, List.map_append]

/-- What a predicate consists of. -/
def Predicate.items : Predicate → List Item
  | .never => [.token (.keyword .falsity)]
  | .nullCheck column operator => column.items ++ operator.tokens.map .token
  | .comparison column operator parameter => column.items ++ (operator.tokens ++ [Token.parameter parameter]).map .token
  | .membership column parameters => column.items ++ [.token (.keyword .oneOf), .parameters parameters]
  | .joined connective parts => [.group (.join connective (Predicate.conditions parts))]
  | .related row entity outer inner connective parts =>
    [.token (.keyword .existsRow),
      .rows row.text (.join .and (relatedConditions row entity outer inner connective (Predicate.conditions parts)))]

theorem Predicate.items_eq_cons (p : Predicate) : ∃ i is, p.items = i :: is ∧ i.startsCondition = true := by
  cases p <;> exact ⟨_, _, rfl, rfl⟩

/-! ### Columns -/

section Columns

variable (c : Column)

theorem isOrdinary_castTokens (t : Option CastType) : ∀ u ∈ castTokens t, u.isOrdinary = true := by
  cases t <;> simp [castTokens, Token.isOrdinary, Token.isInner, Token.connective?]

theorem Column.reduces : Reduces c.tokens c.items := by
  have hmember : Reduces (.openParen :: ([.word c.row.text, .dot, .word "attributes", .arrow, .quoted c.name] ++
      [.closeParen])) [.member c.row.text c.name] :=
    (reduces_tokens (by simp [Token.isInner])).paren rfl
  exact hmember.append (reduces_ordinary (isOrdinary_castTokens c.castType))

theorem Column.neutral : Neutral c.tokens := by
  have hmember : Neutral (.openParen :: ([.word c.row.text, .dot, .word "attributes", .arrow, .quoted c.name] ++
      [.closeParen])) :=
    ((neutral_tokens (by simp [Token.isOrdinary, Token.isInner, Token.connective?])).level .and).paren
  exact hmember.append (neutral_tokens (isOrdinary_castTokens c.castType))

theorem Column.plain : Plain c.items :=
  List.forall_mem_cons.2 ⟨rfl, plain_tokens (isOrdinary_castTokens c.castType)⟩

/-- A column is read up to its cast. -/
theorem Column.operand?_items (is : List Item) (h : is.head? ≠ some (.token .cast)) :
    operand? (c.items ++ is) = some (c.operand, is) := by
  unfold Column.items Column.operand
  cases c.castType with
  | none =>
    cases is with
    | nil => rfl
    | cons i is =>
      have hi : i ≠ .token .cast := by simpa using h
      simp [castTokens, operand?, hi]
  | some t => cases t <;> rfl

/-- A column with a test on it. -/
theorem Column.reads {ts : List Token} {is : List Item} {e : Sql.Condition} (hr : Reduces ts is) (hp : Plain is)
    (hn : Neutral ts) (hcast : is.head? ≠ some (.token .cast)) (ht : test? c.operand is = some e) :
    Reads (c.tokens ++ ts) (c.items ++ is) e := by
  refine ⟨c.reduces.append hr, plain_append c.plain hp, ?_, c.neutral.append hn⟩
  show (operand? (c.items ++ is)).bind _ = some e
  rw [c.operand?_items is hcast, Option.bind_some]
  exact ht

/-- A column with a test of ordinary words on it. -/
theorem Column.reads_tokens {ts : List Token} {e : Sql.Condition} (h : ∀ t ∈ ts, t.isOrdinary = true)
    (hcast : ts.head? ≠ some .cast) (ht : test? c.operand (ts.map .token) = some e) :
    Reads (c.tokens ++ ts) (c.items ++ ts.map .token) e := by
  refine c.reads (reduces_ordinary h) (plain_tokens h) (neutral_tokens h) ?_ ht
  cases ts with
  | nil => simp
  | cons t ts => simpa using hcast

end Columns

/-! ### Lists of parameters -/

/-- The words of a list of parameters, each after a comma. -/
def moreParameterTokens (ns : List Nat) : List Token := ns.flatMap fun n => [.comma, .parameter n]

theorem parameterTokens_cons (n : Nat) : ∀ ns : List Nat,
    parameterTokens (n :: ns) = .parameter n :: moreParameterTokens ns
  | [] => rfl
  | m :: ns => by
    have ih := parameterTokens_cons m ns
    simp only [parameterTokens, List.map_cons, List.intercalate_cons_cons] at ih ⊢
    rw [ih]
    rfl

theorem isOrdinary_parameterTokens (ns : List Nat) : ∀ t ∈ parameterTokens ns, t.isOrdinary = true := by
  intro t ht
  cases ns with
  | nil => cases ht
  | cons n ns =>
    rw [parameterTokens_cons, List.mem_cons] at ht
    rcases ht with rfl | ht
    · rfl
    · obtain ⟨m, _, ht⟩ := List.mem_flatMap.1 ht
      simp only [List.mem_cons, List.not_mem_nil, or_false] at ht
      rcases ht with rfl | rfl <;> rfl

theorem moreParameters_tokens : ∀ ns : List Nat, moreParameters ((moreParameterTokens ns).map .token) = some ns
  | [] => rfl
  | n :: ns => by
    show (moreParameters ((moreParameterTokens ns).map .token)).map (n :: ·) = _
    rw [moreParameters_tokens ns]
    rfl

theorem ofParens_parameterTokens {ns : List Nat} (h : ns ≠ []) :
    Item.ofParens ((parameterTokens ns).map .token) = some (.parameters ns) := by
  obtain ⟨n, ns, rfl⟩ := List.exists_cons_of_ne_nil h
  rw [parameterTokens_cons]
  show (moreParameters ((moreParameterTokens ns).map .token)).map (fun ns => Item.parameters (n :: ns)) = _
  rw [moreParameters_tokens]
  rfl

/-! ### Each kind of predicate -/

theorem reads_nullCheck {c : Column} {op : Operator} (h : op.isNullCheck = true) :
    Reads (c.tokens ++ op.tokens) (c.items ++ op.tokens.map .token) (.nullTest c.operand (op == .isNotNull)) := by
  cases op with
  | isNull | isNotNull => exact c.reads_tokens (by decide) (by decide) rfl
  | _ => cases h

theorem reads_comparison {c : Column} {op : Operator} (h : op.relation?.isSome = true) (n : Nat) :
    Reads (c.tokens ++ (op.tokens ++ [.parameter n])) (c.items ++ (op.tokens ++ [Token.parameter n]).map .token)
      (.compare c.operand (op.relation?.getD .equal) (.parameter n)) := by
  have hordinary (r : Relation) : ∀ t ∈ [Token.relation r, .parameter n], t.isOrdinary = true := by
    intro t ht
    simp only [List.mem_cons, List.not_mem_nil, or_false] at ht
    rcases ht with rfl | rfl <;> rfl
  have hread (r : Relation) : Reads (c.tokens ++ [.relation r, .parameter n])
      (c.items ++ [Token.relation r, .parameter n].map .token) (.compare c.operand r (.parameter n)) :=
    c.reads_tokens (hordinary r) (by simp) rfl
  cases op with
  | isNull | isNotNull | among => cases h
  | _ => exact hread _

theorem reads_among {c : Column} {ns : List Nat} (h : ns ≠ []) :
    Reads (c.tokens ++ (Operator.among.tokens ++ .openParen :: (parameterTokens ns ++ [.closeParen])))
      (c.items ++ [.token (.keyword .oneOf), .parameters ns]) (.among c.operand ns) := by
  have hordinary := isOrdinary_parameterTokens ns
  have hlist : Reduces (.openParen :: (parameterTokens ns ++ [.closeParen])) [.parameters ns] :=
    (reduces_ordinary hordinary).paren (ofParens_parameterTokens h)
  refine c.reads ((reduces_token rfl).append hlist) ?_ ?_ (by simp) rfl
  · intro i hi
    simp only [List.mem_cons, List.not_mem_nil, or_false] at hi
    rcases hi with rfl | rfl <;> rfl
  · exact (neutral_token rfl).append ((neutral_tokens hordinary).level .and).paren

theorem reads_entityTest (row : Alias) (n : Nat) :
    Reads (entityTokens row n) ((entityTokens row n).map .token)
      (.compare (.entity row.text) .equal (.parameter n)) := by
  have hordinary : ∀ t ∈ entityTokens row n, t.isOrdinary = true := by
    simp [entityTokens, Token.isOrdinary, Token.isInner, Token.connective?]
  exact ⟨reduces_ordinary hordinary, plain_tokens hordinary, rfl, neutral_tokens hordinary⟩

theorem reads_keys (outer inner : Column) :
    Reads (outer.tokens ++ .relation .equal :: inner.tokens) (outer.items ++ .token (.relation .equal) :: inner.items)
      (.compare outer.operand .equal inner.operand) := by
  refine outer.reads ((reduces_token rfl).append inner.reduces) ?_ ((neutral_token rfl).append inner.neutral) (by simp)
    ?_
  · intro i hi
    rcases List.mem_cons.1 hi with rfl | hi
    · rfl
    · exact inner.plain i hi
  · have hinner := inner.operand?_items [] (by simp)
    rw [List.append_nil] at hinner
    rw [test?, hinner]

/-! ### All predicates -/

theorem exists_intercalate_cons {α : Type} (a : α) (xs : List α) :
    ∀ xss : List (List α), ∃ ys, [a].intercalate (xs :: xss) = xs ++ ys
  | [] => ⟨[], by rw [List.intercalate_singleton, List.append_nil]⟩
  | ys :: xss => ⟨_, by rw [List.intercalate_cons_cons, List.append_assoc]⟩

/-- Predicates with a connective between them, in parentheses. -/
theorem reads_group (k : Connective) {ps : List Predicate} (hne : ps ≠ [])
    (h : ∀ p ∈ ps, Reads p.tokens p.items p.condition) :
    Reads (.openParen :: ([connector k].intercalate (Predicate.tokensOfAll ps) ++ [.closeParen]))
      [.group (.join k (Predicate.conditions ps))] (.join k (Predicate.conditions ps)) := by
  have hlevel := readsLevel k hne h
  rw [← Predicate.tokensOfAll_eq_map, ← Predicate.conditions_eq_map] at hlevel
  obtain ⟨i, is, his, hi⟩ : ∃ i is, [.token (connector k)].intercalate (ps.map Predicate.items) = i :: is ∧
      i.startsCondition = true := by
    obtain ⟨p, ps, rfl⟩ := List.exists_cons_of_ne_nil hne
    obtain ⟨i, is, hp, hi⟩ := p.items_eq_cons
    obtain ⟨js, hjs⟩ := exists_intercalate_cons (.token (connector k)) p.items (ps.map Predicate.items)
    exact ⟨i, is ++ js, by rw [List.map_cons, hjs, hp, List.cons_append], hi⟩
  rw [his] at hlevel
  exact hlevel.group hi

/-- The test for an entity and further pieces with `AND` between them. -/
theorem reads_rows (row : Alias) (entity : Nat) (pieces : List (List Token × List Item × Sql.Condition))
    (h : ∀ p ∈ pieces, Reads p.1 p.2.1 p.2.2) :
    ∃ is, ReadsLevel .and
      ([connector .and].intercalate (entityTokens row entity :: pieces.map Prod.fst)) is
      (.join .and (.compare (.entity row.text) .equal (.parameter entity) :: pieces.map fun p => p.2.2)) := by
  have hall : ∀ p ∈ (entityTokens row entity, (entityTokens row entity).map Item.token,
      Sql.Condition.compare (.entity row.text) .equal (.parameter entity)) :: pieces, Reads p.1 p.2.1 p.2.2 :=
    List.forall_mem_cons.2 ⟨reads_entityTest row entity, h⟩
  exact ⟨_, readsLevel .and (by simp) hall⟩

/-- The predicates of a clause in parentheses, if there are any, as they are read. -/
def groupReadings (k : Connective) (ps : List Predicate) : List (List Token × List Item × Sql.Condition) :=
  if ps.isEmpty then [] else [(.openParen :: ([connector k].intercalate (Predicate.tokensOfAll ps) ++ [.closeParen]),
    [.group (.join k (Predicate.conditions ps))], .join k (Predicate.conditions ps))]

theorem tokens_groupReadings (k : Connective) (ps : List Predicate) :
    (groupReadings k ps).map Prod.fst = groupTokens k (Predicate.tokensOfAll ps) := by
  cases ps <;> rfl

theorem conditions_groupReadings (k : Connective) (ps : List Predicate) :
    ((groupReadings k ps).map fun p => p.2.2) = Sql.Condition.group k (Predicate.conditions ps) := by
  cases ps <;> rfl

theorem reads_groupReadings {k : Connective} {ps : List Predicate}
    (h : ∀ p ∈ ps, Reads p.tokens p.items p.condition) : ∀ p ∈ groupReadings k ps, Reads p.1 p.2.1 p.2.2 := by
  intro p hp
  cases ps with
  | nil => cases hp
  | cons q ps =>
    obtain rfl := List.mem_singleton.1 hp
    exact reads_group k (List.cons_ne_nil q ps) h

/-- The existence of a related row is read if its parts are. -/
theorem reads_related (row : Alias) (entity : Nat) (outer inner : Column) (k : Connective) {ps : List Predicate}
    (hps : ∀ p ∈ ps, Reads p.tokens p.items p.condition) :
    Reads (Predicate.related row entity outer inner k ps).tokens (Predicate.related row entity outer inner k ps).items
      (Predicate.related row entity outer inner k ps).condition := by
  have hpieces : ∀ p ∈ (outer.tokens ++ .relation .equal :: inner.tokens,
      outer.items ++ .token (.relation .equal) :: inner.items,
      Sql.Condition.compare outer.operand .equal inner.operand) :: groupReadings k ps, Reads p.1 p.2.1 p.2.2 :=
    List.forall_mem_cons.2 ⟨reads_keys outer inner, reads_groupReadings hps⟩
  obtain ⟨is, hrows⟩ := reads_rows row entity _ hpieces
  rw [List.map_cons, List.map_cons, tokens_groupReadings, conditions_groupReadings] at hrows
  exact hrows.existsRow row.text

mutual

/-- **A readable predicate is read as its condition.** -/
theorem Predicate.reads : ∀ {p : Predicate}, p.Readable → Reads p.tokens p.items p.condition
  | .never, _ => ⟨reduces_token rfl, by simp [Plain, Predicate.items, Item.connective?], rfl, neutral_token rfl⟩
  | .nullCheck column op, ⟨_, hop⟩ => reads_nullCheck hop
  | .comparison column op n, ⟨_, hop⟩ => reads_comparison hop n
  | .membership column ns, ⟨_, hns⟩ => reads_among hns
  | .joined k ps, ⟨hlen, hps⟩ => by
    have hne : ps ≠ [] := by
      rintro rfl
      exact absurd hlen (by decide)
    exact reads_group k hne (Predicate.all_read hps)
  | .related row entity outer inner k ps, ⟨_, _, _, hps⟩ =>
    reads_related row entity outer inner k (Predicate.all_read hps)

/-- Readable predicates are read as their conditions. -/
theorem Predicate.all_read : ∀ {ps : List Predicate}, Predicate.AllReadable ps →
    ∀ p ∈ ps, Reads p.tokens p.items p.condition
  | p :: ps, ⟨hp, hps⟩, q, hq => by
    rcases List.mem_cons.1 hq with hq | hq
    · exact hq ▸ Predicate.reads hp
    · exact Predicate.all_read hps q hq

end

/-- Readable predicates with a connective between them are read as one condition. -/
theorem reads_clause (k : Connective) {ps : List Predicate} (hne : ps ≠ []) (h : Predicate.AllReadable ps) :
    ∃ is, ReadsLevel k ([connector k].intercalate (Predicate.tokensOfAll ps)) is
      (.join k (Predicate.conditions ps)) := by
  have hlevel := readsLevel k hne (Predicate.all_read h)
  rw [← Predicate.tokensOfAll_eq_map, ← Predicate.conditions_eq_map] at hlevel
  exact ⟨_, hlevel⟩

/-! ## Rules -/

mutual

/-- Whether a rule asks for nothing: criteria in which there is neither a condition nor a relationship. -/
def Rule.isVacuous : Rule → Bool
  | .condition _ => false
  | .nested ⟨_, _, rs⟩ => Rule.allVacuous rs
  | .related _ _ => false

/-- Whether all rules ask for nothing. -/
def Rule.allVacuous : List Rule → Bool
  | [] => true
  | r :: rs => r.isVacuous && Rule.allVacuous rs

end

/-- A condition is a test on a row, with its values under the numbers of parameters. -/
def Test.Reads (ps : List Parameter) (row : String) (t : Test) (e : Sql.Condition) : Prop :=
  let operand : Operand := .attribute row t.subject.name t.subject.kind.castType
  match t.comparison with
  | .nullCheck op => e = .nullTest operand (op == .isNotNull)
  | .value op v => ∃ r n, op.relation? = some r ∧ parameterAt ps n = some v ∧ e = .compare operand r (.parameter n)
  | .among [] => e = .never
  | .among (v :: vs) => ∃ ns, ns.map (parameterAt ps) = (v :: vs).map some ∧ e = .among operand ns

mutual

/-- A condition is a rule on a row of an entity, with its values among some parameters. -/
def Rule.Reads (d : Definitions) (ps : List Parameter) (row : String) (scope : Uuid) : Rule → Sql.Condition → Prop
  | .condition c, e => ∃ t, c.resolve d scope = .ok t ∧ t.Reads ps row e
  | .nested ⟨_, k, rs⟩, e => ∃ es, Rule.AllRead d ps row scope rs es ∧ e = .join k es
  | .related id ⟨_, k, rs⟩, e => ∃ join other n es, d.join scope id = .ok join ∧
      parameterAt ps n = some (.uuid join.relatedEntityId) ∧
      Rule.AllRead d ps other join.relatedEntityId rs es ∧
      e = .existsRow other (.join .and ([.compare (.entity other) .equal (.parameter n),
        .compare (.attribute row join.localKey none) .equal (.attribute other join.relatedKey none)] ++
        Sql.Condition.group k es))

/-- Conditions are the rules of a list that ask for something, in this order. -/
def Rule.AllRead (d : Definitions) (ps : List Parameter) (row : String) (scope : Uuid) :
    List Rule → List Sql.Condition → Prop
  | [], es => es = []
  | r :: rs, es =>
    if r.isVacuous then Rule.AllRead d ps row scope rs es
    else ∃ e es', es = e :: es' ∧ r.Reads d ps row scope e ∧ Rule.AllRead d ps row scope rs es'

end

/-- A condition is criteria on a row of an entity, with their values among some parameters. -/
def Criteria.Reads (d : Definitions) (ps : List Parameter) (row : String) (scope : Uuid) (c : Criteria)
    (e : Sql.Condition) : Prop :=
  ∃ es, Rule.AllRead d ps row scope c.rules es ∧ e = .join c.connective es

/-! ### What building gives -/

/-- The predicate of a test is read as the test. -/
theorem Test.reads_predicate {d : Definitions} {scope : Uuid} {c : Condition} {t : Test}
    (ht : c.resolve d scope = .ok t) (row : Alias) {ps qs : List Parameter}
    (h : ps ++ t.comparison.parameters <+: qs) :
    t.Reads qs row.text (t.predicate row ps.length).condition := by
  obtain ⟨_, _, _, op, _, _, hk⟩ := Condition.resolve_ok ht
  have hoperand : (⟨row, t.subject.name, t.subject.kind.cast⟩ : Column).operand =
      .attribute row.text t.subject.name t.subject.kind.castType := by
    rw [Column.operand, Column.castType_of_cast rfl]
  obtain ⟨a, k⟩ := t
  cases hk with
  | nullCheck _ => exact congrArg (Sql.Condition.nullTest · _) hoperand
  | contains _ => exact ⟨.like, ps.length + 1, rfl, parameterAt_next h, by rw [← hoperand]; rfl⟩
  | value hnull hamong _ _ =>
    have hrelation : op.relation? = some (op.relation?.getD .equal) := by
      cases op with
      | isNull | isNotNull => cases hnull
      | among => exact absurd rfl hamong
      | _ => rfl
    exact ⟨_, ps.length + 1, hrelation, parameterAt_next h, by rw [← hoperand]; rfl⟩
  | @among _ _ vs _ _ =>
    cases vs with
    | nil => rfl
    | cons v vs => exact ⟨_, map_parameterAt h, by rw [← hoperand]; rfl⟩

namespace Builder

variable {d : Definitions} {row : Alias} {scope : Uuid} {rs : List Rule} {b b' : Builder} {ps : List Predicate}

theorem splice_eq_nil {k : Connective} : ∀ {qs : List Predicate}, splice k qs = [] ↔ qs = []
  | [] => Iff.rfl
  | [q] => by simp [splice]
  | q :: q' :: qs => by simp [splice]

/-- What a list of predicates contributes to the list around it is read as one condition. -/
theorem conditions_splice {k : Connective} : ∀ {qs : List Predicate}, qs ≠ [] →
    Predicate.conditions (splice k qs) = [.join k (Predicate.conditions qs)]
  | [_], _ => rfl
  | _ :: _ :: _, _ => rfl

/-- Rules give no predicate exactly if they ask for nothing. -/
theorem Builds.eq_nil_iff (h : Builds d row scope rs b ps b') : ps = [] ↔ Rule.allVacuous rs = true := by
  induction h with
  | nil => simp [Rule.allVacuous]
  | condition _ _ _ => simp [Rule.allVacuous, Rule.isVacuous]
  | @nested _ _ c _ _ _ _ _ _ _ _ ihc ih =>
    obtain ⟨_, k, rs'⟩ := c
    rw [Rule.allVacuous, Rule.isVacuous, Bool.and_eq_true, List.append_eq_nil_iff, splice_eq_nil, ihc, ih]
  | related _ _ _ _ _ => simp [Rule.allVacuous, Rule.isVacuous]

/-- **The predicates that rules give are read as the rules.** -/
theorem Builds.reads (h : Builds d row scope rs b ps b') :
    ∀ {qs : List Parameter}, b'.parameters <+: qs →
      Rule.AllRead d qs row.text scope rs (Predicate.conditions ps) := by
  induction h with
  | nil =>
    intro qs _
    rfl
  | condition ht hrest ih =>
    intro qs hqs
    rw [Rule.AllRead, if_neg (by simp [Rule.isVacuous])]
    exact ⟨_, _, rfl, ⟨_, ht, Test.reads_predicate ht _ (hrest.extends.parameters.trans hqs)⟩, ih hqs⟩
  | @nested row scope c rs _ _ _ _ _ hc hrest ihc ih =>
    intro qs hqs
    obtain ⟨_, k, rs'⟩ := c
    rw [Rule.AllRead, Rule.isVacuous]
    -- Criteria that ask for nothing leave no predicate behind; others leave one, whatever the number of their rules.
    by_cases hv : Rule.allVacuous rs' = true
    · rw [if_pos hv, hc.eq_nil_iff.2 hv]
      exact ih hqs
    · rw [if_neg hv, Predicate.conditions_append, conditions_splice (mt hc.eq_nil_iff.1 hv)]
      exact ⟨_, _, rfl, ⟨_, ihc (hrest.extends.parameters.trans hqs), rfl⟩, ih hqs⟩
  | @related row scope id join c rs b _ _ _ _ hj hc hrest ihc ih =>
    intro qs hqs
    obtain ⟨_, k, rs'⟩ := c
    have hafter := hrest.extends.parameters.trans hqs
    rw [Rule.AllRead, if_neg (by simp [Rule.isVacuous])]
    refine ⟨_, _, rfl, ⟨join, _, b.parameters.length + 1, _, hj, ?_, ihc hafter, rfl⟩, ih hqs⟩
    exact parameterAt_next (hc.extends.parameters.trans hafter)

end Builder

/-! ## Clauses -/

/-- **The text of a clause is read as its criteria.** It is empty if these ask for nothing. Otherwise its parentheses
close, no level of them mixes `AND` and `OR`, and with `AND` binding tighter than `OR` it makes the condition that the
criteria are. -/
theorem clause_read {d : Definitions} {row : Alias} {scope : Uuid} {c : Criteria} {b b' : Builder} {k : Clause}
    (hrow : isName row.text = true) (h : (Builder.clause d row scope c).run b = (.ok k, b')) :
    if Rule.allVacuous c.rules then k.text = ""
    else ∃ ts e, tokens k.text = some ts ∧ unmixed [] none ts = true ∧ Sql.Condition.read k.text = some e ∧
      c.Reads d b'.parameters row.text scope e := by
  obtain ⟨hk, hb⟩ := Builder.clause_run_ok h
  obtain ⟨k, ps⟩ := k
  obtain rfl : k = c.connective := hk
  split
  · rename_i hv
    obtain rfl : ps = [] := hb.eq_nil_iff.2 hv
    rfl
  · rename_i hv
    have hne : ps ≠ [] := mt hb.eq_nil_iff.1 hv
    have hreadable := hb.allReadable hrow
    obtain ⟨is, hlevel⟩ := reads_clause c.connective hne hreadable
    have htokens := Clause.tokens_text (c := ⟨c.connective, ps⟩) hne hreadable
    refine ⟨_, .join c.connective (Predicate.conditions ps), htokens, hlevel.uniform.unmixed, ?_, ?_⟩
    · rw [Sql.Condition.read, Sql.items, htokens, Option.bind_some, hlevel.reduces.eq, Option.bind_some]
      exact hlevel.read
    · exact ⟨_, hb.reads List.prefix_rfl, rfl⟩

/-- The customers of a shop whose name contains a text and who have an order of a total. -/
theorem clause_read_shop : ∃ k b, (Builder.clause Shop.definitions (.numbered 1) (Shop.id 1)
      (Shop.criteria "ann" ["10"])).run ⟨[], 1⟩ = (.ok k, b) ∧
    ∃ ts e, tokens k.text = some ts ∧ unmixed [] none ts = true ∧ Sql.Condition.read k.text = some e ∧
      (Shop.criteria "ann" ["10"]).Reads Shop.definitions b.parameters (Alias.numbered 1).text (Shop.id 1) e := by
  obtain ⟨k, b, h⟩ : ∃ k b, (Builder.clause Shop.definitions (.numbered 1) (Shop.id 1)
      (Shop.criteria "ann" ["10"])).run ⟨[], 1⟩ = (.ok k, b) := Builder.exists_run_ok (by decide +kernel)
  have hread := clause_read (isName_numbered 1) h
  rw [if_neg (by decide)] at hread
  exact ⟨k, b, h, hread⟩

end Cohort
