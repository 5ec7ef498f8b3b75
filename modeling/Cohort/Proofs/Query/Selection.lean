import Cohort.Proofs.Query.Reading

/-!
# What criteria select

`Criteria.holds` says of a row, without any query, whether it satisfies criteria: conditions compare an attribute of
the row, read as its kind, with their values; rules that ask for nothing do not count; a relationship asks for a row of
the other entity with the same text in the key. The query for criteria selects exactly these rows of the entity
(`membershipQuery_selects`).

The proof follows the derivation of the predicates (`Builder.Builds.evalAll`). It rests on one fact about names: the
alias of an inner query is never the one that the query around it speaks of, because it has been handed out later.
-/

namespace Cohort

open Sql

variable (E : Engine)

/-! ## Rules on rows -/

/-- The text of an attribute of a row, read as the kind of the attribute. -/
def Attribute.stored (a : Attribute) (row : Row) : Option (Datum E) :=
  (row.attributes a.name).map (Datum.ofText E a.kind.castType)

/-- The value of a condition as an attribute of a kind is compared with it. -/
def AttributeKind.datum? (kind : AttributeKind) (value : Json) : Option (Datum E) :=
  (kind.coerce value).toOption.map (Datum.ofParameter E)

/-- The pattern of the texts that contain the value of a condition. -/
def AttributeKind.pattern? (kind : AttributeKind) (value : Json) : Option (Datum E) :=
  match kind.coerce value with
  | .ok (.text s) => some (.text ("%" ++ s ++ "%"))
  | _ => none

/-- The truth of a comparison of an attribute of a row with the value of a condition. -/
def Attribute.compares (a : Attribute) (op : Operator) (value : Json) (row : Row) : Truth :=
  match op with
  | .isNull => some (a.stored E row).isNone
  | .isNotNull => some (a.stored E row).isSome
  | .among => Truth.any ((value.array?.getD []).map fun v => compareValues .equal (a.stored E row) (a.kind.datum? E v))
  | .contains => compareValues .like (a.stored E row) (a.kind.pattern? E value)
  | op => compareValues (op.relation?.getD .equal) (a.stored E row) (a.kind.datum? E value)

/-- The truth of a condition on a row. What texts spell an operator is said by `Operator.parse?_eq_some`. -/
def Condition.truth (d : Definitions) (row : Row) (c : Condition) : Truth :=
  match d.attribute? c.attributeId, Operator.parse? c.operator with
  | some a, some op => a.compares E op c.value row
  | _, _ => none

/-- The attributes and the entity that a relationship leads to from rows of an entity. -/
def Definitions.keys? (d : Definitions) (scope id : Uuid) : Option (Traversal × Attribute × Attribute) := do
  let r ← d.relationship? id
  let t ← r.from? scope
  let here ← d.attribute? t.localAttributeId
  let there ← d.attribute? t.relatedAttributeId
  return (t, here, there)

/-- Whether two rows both have a text, and the same. -/
def sameText (s t : Option String) : Bool := s.isSome && s == t

/-- The truth of a list of rules, of which those that ask for nothing are left out. -/
def Connective.verdict (k : Connective) (ts : List Truth) : Truth := if ts.isEmpty then some true else combine k ts

variable (d : Definitions) (table : List Row)

mutual

/-- The truth of a rule on a row of an entity. -/
def Rule.truth (scope : Uuid) (row : Row) : Rule → Truth
  | .condition c => c.truth E d row
  | .nested ⟨_, k, rs⟩ => k.verdict (Rule.truths scope row rs)
  | .related id ⟨_, k, rs⟩ =>
    match d.keys? scope id with
    | none => some false
    | some (t, here, there) => some (table.any fun other =>
        other.entityId == t.relatedEntityId && sameText (row.attributes here.name) (other.attributes there.name) &&
          k.verdict (Rule.truths t.relatedEntityId other rs) == some true)

/-- The truths of the rules of a list that ask for something. -/
def Rule.truths (scope : Uuid) (row : Row) : List Rule → List Truth
  | [] => []
  | r :: rs => if r.isVacuous then Rule.truths scope row rs else r.truth scope row :: Rule.truths scope row rs

end

/-- Whether a row of an entity satisfies criteria. -/
def Criteria.holds (scope : Uuid) (row : Row) (c : Criteria) : Bool :=
  c.connective.verdict (Rule.truths E d table scope row c.rules) == some true

/-! ## Conditions -/

section Tests

variable {E d table} {scope : Uuid} {c : Condition} {t : Test} {row : Alias} {names : Scope} {r : Row}
  {ps qs : List Parameter}

theorem Column.eval_operand {column : Column} (kind : AttributeKind) (hcast : column.cast = kind.cast)
    (hrow : names.lookup column.row.text = some r) :
    column.operand.eval E qs names =
      some ((r.attributes column.name).map (Datum.ofText E kind.castType)) := by
  rw [Column.operand, Operand.eval, hrow, Column.castType_of_cast hcast]
  rfl

theorem eval_parameter {n : Nat} {p : Parameter} (h : parameterAt qs n = some p) :
    (Operand.parameter n).eval E qs names = some (some (.ofParameter E p)) := by
  rw [Operand.eval, h]
  rfl

/-- Texts are the only values that a pattern is made of. -/
theorem coerce_text {kind : AttributeKind} (hkind : kind.supports .contains = true) {value : Json} {p : Parameter}
    (hp : kind.coerce value = .ok p) : ∃ s, p = .text s := by
  cases kind with
  | integer | numeric | boolean | datetime => cases hkind
  | text =>
    cases value with
    | string s => exact ⟨s, (Except.ok.inj hp).symm⟩
    | number n => exact ⟨n.text, (Except.ok.inj hp).symm⟩
    | bool b => exact ⟨_, (Except.ok.inj hp).symm⟩
    | null | array _ | object _ => cases hp

theorem eval_parameters : ∀ {ns : List Nat} {vs : List Parameter}, ns.map (parameterAt qs) = vs.map some →
    ns.mapM (fun n => (Operand.parameter n).eval E qs names) = some (vs.map fun v => some (.ofParameter E v))
  | [], [], _ => rfl
  | n :: ns, v :: vs, h => by
    obtain ⟨hn, hns⟩ := List.cons.inj h
    rw [List.mapM_cons, eval_parameter hn, eval_parameters hns]
    rfl

theorem datum?_of_coerce {kind : AttributeKind} {value : Json} {p : Parameter} (h : kind.coerce value = .ok p) :
    kind.datum? E value = some (.ofParameter E p) := by
  rw [AttributeKind.datum?, h]
  rfl

theorem pattern?_of_coerce {kind : AttributeKind} {value : Json} {s : String} (h : kind.coerce value = .ok (.text s)) :
    kind.pattern? E value = some (.text ("%" ++ s ++ "%")) := by
  rw [AttributeKind.pattern?, h]

theorem map_datum? {kind : AttributeKind} {items : List Json} {vs : List Parameter}
    (h : List.Forall₂ (fun item p => kind.coerce item = .ok p) items vs) :
    items.map (kind.datum? E) = vs.map fun v => some (.ofParameter E v) := by
  induction h with
  | nil => rfl
  | cons hp _ ih => rw [List.map_cons, List.map_cons, datum?_of_coerce hp, ih]

/-- **The predicate of a condition has the truth of the condition.** -/
theorem Test.eval_predicate (ht : c.resolve d scope = .ok t) (hrow : names.lookup row.text = some r)
    (h : ps ++ t.comparison.parameters <+: qs) :
    (t.predicate row ps.length).condition.eval E table qs names = some (c.truth E d r) := by
  obtain ⟨ha, _, _, op, hop, hsupports, hk⟩ := Condition.resolve_ok ht
  rw [Condition.truth, ha, hop]
  obtain ⟨a, k⟩ := t
  -- In each case the column stands for the text that the row stores, and the numbers for the values of the condition.
  have hoperand : (⟨row, a.name, a.kind.cast⟩ : Column).operand.eval E qs names = some (a.stored E r) :=
    Column.eval_operand a.kind rfl hrow
  cases hk with
  | @nullCheck op _ hnull =>
    have hcompares : a.compares E op c.value r = some ((a.stored E r).isNone != (op == .isNotNull)) := by
      cases op with
      | isNull => exact congrArg some (Bool.bne_false _).symm
      | isNotNull =>
        show some (a.stored E r).isSome = some ((a.stored E r).isNone != true)
        cases a.stored E r <;> rfl
      | _ => cases hnull
    show (Sql.Condition.nullTest _ _).eval E table qs names = some (a.compares E op c.value r)
    rw [Sql.Condition.eval, hoperand, hcompares]
    rfl
  | @contains _ p hp =>
    obtain ⟨s, rfl⟩ := coerce_text hsupports hp
    show (Sql.Condition.compare _ _ (.parameter _)).eval E table qs names =
      some (compareValues .like (a.stored E r) (a.kind.pattern? E c.value))
    rw [Sql.Condition.eval, hoperand, eval_parameter (parameterAt_next h), pattern?_of_coerce hp]
    rfl
  | @value op _ p hnull hamong hcontains hp =>
    have hcompares : a.compares E op c.value r =
        compareValues (op.relation?.getD .equal) (a.stored E r) (a.kind.datum? E c.value) := by
      cases op with
      | isNull | isNotNull => cases hnull
      | among => exact absurd rfl hamong
      | contains => exact absurd rfl hcontains
      | _ => rfl
    show (Sql.Condition.compare _ _ (.parameter _)).eval E table qs names = some (a.compares E op c.value r)
    rw [Sql.Condition.eval, hoperand, eval_parameter (parameterAt_next h), hcompares, datum?_of_coerce hp]
    rfl
  | @among _ items vs hitems hvs =>
    have hcompares : a.compares E .among c.value r =
        Truth.any ((vs.map fun v => some (.ofParameter E v)).map (compareValues .equal (a.stored E r))) := by
      rw [Attribute.compares, hitems, Option.getD_some, ← map_datum? hvs, List.map_map]
      rfl
    show _ = some (a.compares E .among c.value r)
    rw [hcompares]
    cases vs with
    | nil =>
      show Sql.Condition.never.eval E table qs names = _
      rw [Sql.Condition.eval]
      rfl
    | cons v vs =>
      show (Sql.Condition.among _ _).eval E table qs names = _
      have hvalues : (List.range' (ps.length + 1) (v :: vs).length).map (parameterAt qs) = (v :: vs).map some :=
        map_parameterAt h
      rw [Sql.Condition.eval, hoperand, eval_parameters hvalues]
      rfl

end Tests

/-! ## Rules -/

variable {E d table}

/-- Aliases handed out at different times differ. -/
theorem text_numbered_injective {m n : Nat} (h : (Alias.numbered m).text = (Alias.numbered n).text) : m = n := by
  have hlist := congrArg String.toList h
  rw [Alias.text, Alias.text, String.toList_append, String.toList_append] at hlist
  exact Numeral.natText_injective (String.toList_inj.1 (List.append_cancel_left hlist))

theorem truths_eq_nil {scope : Uuid} {row : Row} : ∀ {rs : List Rule},
    Rule.truths E d table scope row rs = [] ↔ Rule.allVacuous rs = true
  | [] => by simp [Rule.truths, Rule.allVacuous]
  | r :: rs => by
    rw [Rule.truths, Rule.allVacuous, Bool.and_eq_true]
    split
    · rename_i hr
      rw [truths_eq_nil]
      simp [hr]
    · rename_i hr
      simp [hr]

theorem Connective.verdict_of_ne_nil (k : Connective) {ts : List Truth} (h : ts ≠ []) : k.verdict ts = combine k ts :=
  if_neg (by simpa using h)

/-- The conditions of a list in parentheses, if there are any, are true exactly if the list is. -/
theorem eval_group {qs : List Parameter} {names : Scope} {cs : List Sql.Condition} {ts : List Truth} (k : Connective)
    (h : Sql.Condition.evalAll E table qs names cs = some ts) :
    ∃ us, Sql.Condition.evalAll E table qs names (Sql.Condition.group k cs) = some us ∧
      ((∀ u ∈ us, u = some true) ↔ k.verdict ts = some true) := by
  cases cs with
  | nil =>
    cases h
    exact ⟨[], rfl, by simp [Connective.verdict]⟩
  | cons c cs =>
    have hne : ts ≠ [] := by
      rintro rfl
      rw [Sql.Condition.evalAll] at h
      obtain ⟨t, _, h⟩ := Option.bind_eq_some_iff.1 h
      obtain ⟨ts, _, h⟩ := Option.bind_eq_some_iff.1 h
      cases h
    refine ⟨[combine k ts], ?_, ?_⟩
    · show Sql.Condition.evalAll E table qs names [Sql.Condition.join k (c :: cs)] = _
      rw [Sql.Condition.evalAll, Sql.Condition.eval_join k (List.cons_ne_nil c cs) h]
      rfl
    · rw [List.forall_mem_singleton, k.verdict_of_ne_nil hne]

theorem compare_texts {s t : Option String} :
    compareValues (E := E) .equal (s.map .text) (t.map .text) = some true ↔ sameText s t = true := by
  cases s <;> cases t <;> simp [compareValues, Datum.compare, sameText]

theorem eval_entityTest {row : Alias} {qs : List Parameter} {names : Scope} {r : Row} {n : Nat} {entity : Uuid}
    (hrow : names.lookup row.text = some r) (hn : parameterAt qs n = some (.uuid entity)) :
    (Sql.Condition.compare (.entity row.text) .equal (.parameter n)).eval E table qs names =
      some (some (r.entityId == entity)) := by
  rw [Sql.Condition.eval, eval_parameter hn, Operand.eval, hrow]
  rfl

/-- The truth of the conditions on a related row. -/
theorem eval_relatedConditions {row other : Alias} {qs : List Parameter} {names : Scope} {r r' : Row} {n : Nat}
    {entity : Uuid} {cs : List Sql.Condition} {ts : List Truth} (k : Connective) (here there : String)
    (hrow : names.lookup row.text = some r) (hother : names.lookup other.text = some r')
    (hn : parameterAt qs n = some (.uuid entity)) (h : Sql.Condition.evalAll E table qs names cs = some ts) :
    ∃ t, (Sql.Condition.join .and (relatedConditions other n ⟨row, here, none⟩ ⟨other, there, none⟩ k cs)).eval
        E table qs names = some t ∧
      (t = some true ↔ r'.entityId = entity ∧ sameText (r.attributes here) (r'.attributes there) = true ∧
        k.verdict ts = some true) := by
  obtain ⟨us, hus, hverdict⟩ := eval_group k h
  have hentity : (Sql.Condition.compare (.entity other.text) .equal (.parameter n)).eval E table qs names =
      some (some (r'.entityId == entity)) := eval_entityTest hother hn
  have hkeys : (Sql.Condition.compare (⟨row, here, none⟩ : Column).operand .equal
      (⟨other, there, none⟩ : Column).operand).eval E table qs names =
      some (compareValues .equal ((r.attributes here).map (Datum.text (E := E)))
        ((r'.attributes there).map .text)) := by
    rw [Sql.Condition.eval, Column.eval_operand .text rfl hrow, Column.eval_operand .text rfl hother]
    rfl
  have hall : Sql.Condition.evalAll E table qs names
      (relatedConditions other n ⟨row, here, none⟩ ⟨other, there, none⟩ k cs) =
      some ([some (r'.entityId == entity), compareValues .equal ((r.attributes here).map (Datum.text (E := E)))
        ((r'.attributes there).map .text)] ++ us) := by
    refine Sql.Condition.evalAll_append ?_ hus
    rw [Sql.Condition.evalAll, hentity, Sql.Condition.evalAll, hkeys]
    rfl
  refine ⟨_, Sql.Condition.eval_join .and (by simp [relatedConditions]) hall, ?_⟩
  show Truth.all _ = some true ↔ _
  rw [Truth.all_eq_true, List.forall_mem_append, List.forall_mem_cons, List.forall_mem_singleton, compare_texts,
    hverdict, and_assoc, Option.some.injEq, beq_iff_eq]

theorem lookup_self (names : Scope) (n : Nat) (r : Row) :
    List.lookup (Alias.numbered n).text (((Alias.numbered n).text, r) :: names) = some r := by
  rw [List.lookup_cons, beq_self_eq_true]

theorem lookup_inner {names : Scope} {row : Alias} {n : Nat} {r other : Row} (hrow : names.lookup row.text = some r)
    (hne : row.text ≠ (Alias.numbered n).text) :
    List.lookup row.text (((Alias.numbered n).text, other) :: names) = some r := by
  rw [List.lookup_cons, beq_eq_false_iff_ne.2 hne]
  exact hrow

/-- The truth of the existence of a related row, if the new alias is another one than that of the row around. -/
theorem eval_related {row : Alias} {m n : Nat} {qs : List Parameter} {names : Scope} {r : Row} {entity : Uuid}
    {cs : List Sql.Condition} {ts : Row → List Truth} (k : Connective) (here there : String)
    (hrow : names.lookup row.text = some r) (hfresh : row.text ≠ (Alias.numbered m).text)
    (hn : parameterAt qs n = some (.uuid entity))
    (h : ∀ other, Sql.Condition.evalAll E table qs (((Alias.numbered m).text, other) :: names) cs = some (ts other)) :
    (Sql.Condition.existsRow (Alias.numbered m).text (.join .and
        (relatedConditions (.numbered m) n ⟨row, here, none⟩ ⟨.numbered m, there, none⟩ k cs))).eval E table qs names =
      some (some (table.any fun other => other.entityId == entity &&
        sameText (r.attributes here) (other.attributes there) && k.verdict (ts other) == some true)) := by
  have hrows (other : Row) := eval_relatedConditions k here there (lookup_inner hrow hfresh)
    (lookup_self names m other) hn (h other)
  choose f hf htrue using hrows
  rw [Sql.Condition.eval, Sql.mapM_eq_some fun other _ => hf other]
  show some (some ((table.map f).any (· == some true))) = _
  rw [List.any_map]
  refine congrArg (fun holds => some (some (table.any holds))) (funext fun other => Bool.eq_iff_iff.2 ?_)
  rw [Function.comp_apply, beq_iff_eq, htrue, Bool.and_eq_true, Bool.and_eq_true, beq_iff_eq, beq_iff_eq, and_assoc]

theorem keys?_of_join {scope id : Uuid} {join : Join} (h : d.join scope id = .ok join) :
    ∃ t here there, d.keys? scope id = some (t, here, there) ∧
      join = ⟨t.relatedEntityId, here.name, there.name⟩ := by
  obtain ⟨r, t, here, there, hr, ht, hhere, _, _, hthere, _, _, rfl⟩ := Definitions.join_ok h
  refine ⟨t, here, there, ?_, rfl⟩
  rw [Definitions.keys?, hr, Option.bind_eq_bind, Option.bind_some, ht, Option.bind_eq_bind, Option.bind_some, hhere,
    Option.bind_eq_bind, Option.bind_some, hthere]
  rfl

theorem conditions_ne_nil {ps : List Predicate} (h : ps ≠ []) : Predicate.conditions ps ≠ [] := by
  rw [Predicate.conditions_eq_map]
  simpa using h

/-- **The predicates that rules give have the truths of the rules.** -/
theorem Builder.Builds.evalAll {row : Alias} {scope : Uuid} {rs : List Rule} {b b' : Builder} {ps : List Predicate}
    (h : Builder.Builds d row scope rs b ps b') : ∀ {n : Nat}, row = .numbered n → n ≤ b.aliases →
      ∀ {qs : List Parameter} {names : Scope} {r : Row}, b'.parameters <+: qs → names.lookup row.text = some r →
      Sql.Condition.evalAll E table qs names (Predicate.conditions ps) = some (Rule.truths E d table scope r rs) := by
  induction h with
  | nil =>
    intros
    rfl
  | condition ht hrest ih =>
    intro n hn hle qs names r hqs hrow
    rw [Predicate.conditions, Sql.Condition.evalAll,
      Test.eval_predicate ht hrow (hrest.extends.parameters.trans hqs), ih hn hle hqs hrow, Rule.truths,
      if_neg (by simp [Rule.isVacuous]), Rule.truth]
    rfl
  | @nested row scope c rs _ _ _ _ _ hc hrest ihc ih =>
    intro n hn hle qs names r hqs hrow
    obtain ⟨_, k, rs'⟩ := c
    have hafter := ih hn (Nat.le_trans hle hc.extends.aliases) hqs hrow
    rw [Rule.truths, Rule.isVacuous]
    by_cases hv : Rule.allVacuous rs' = true
    · rw [if_pos hv, hc.eq_nil_iff.2 hv]
      exact hafter
    · have hinner := ihc hn hle (hrest.extends.parameters.trans hqs) hrow
      have hne := mt hc.eq_nil_iff.1 hv
      have hjoin := Sql.Condition.eval_join k (conditions_ne_nil hne) hinner
      rw [if_neg hv, Predicate.conditions_append, Builder.conditions_splice hne, List.singleton_append,
        Sql.Condition.evalAll, hjoin, hafter, Rule.truth, k.verdict_of_ne_nil (mt truths_eq_nil.1 hv)]
      rfl
  | @related row scope id join c rs b b₁ b' qs' ps' hj hc hrest ihc ih =>
    intro n hn hle qs names r hqs hrow
    obtain ⟨_, k, rs'⟩ := c
    obtain ⟨t, here, there, hkeys, rfl⟩ := keys?_of_join hj
    have hinner := hrest.extends.parameters.trans hqs
    have hfresh : row.text ≠ (Alias.numbered (b.aliases + 1)).text := by
      intro htext
      rw [hn] at htext
      have := text_numbered_injective htext
      omega
    have hafter := ih hn (Nat.le_trans (Nat.le_succ_of_le hle) hc.extends.aliases) hqs hrow
    have hexists := eval_related k here.name there.name hrow hfresh
      (parameterAt_next (hc.extends.parameters.trans hinner)) fun other =>
        ihc rfl (Nat.le_refl _) hinner (lookup_self names _ other)
    rw [Predicate.conditions, Predicate.condition, Sql.Condition.evalAll, hexists, hafter, Rule.truths,
      if_neg (by simp [Rule.isVacuous]), Rule.truth, hkeys]
    rfl

/-! ## Queries -/

/-- The condition of the query for the rows of the entity in a parameter that satisfy a clause. -/
def membershipCondition (row : Alias) (entity : Nat) (c : Clause) : Sql.Condition :=
  .join .and (.compare (.entity row.text) .equal (.parameter entity) ::
    Sql.Condition.group c.connective (Predicate.conditions c.parts))

/-- The text of a query is read as the query. -/
theorem statement_read {row : Alias} (hrow : isName row.text = true) (entity : Nat) {c : Clause}
    (h : Predicate.AllReadable c.parts) :
    Statement.read (membershipText row entity c) = some ⟨row.text, membershipCondition row entity c⟩ := by
  obtain ⟨is, hrows⟩ := reads_rows row entity _ (reads_groupReadings (k := c.connective) (Predicate.all_read h))
  rw [tokens_groupReadings, conditions_groupReadings] at hrows
  rw [Statement.read, Sql.items, tokens_membershipText hrow entity h, Option.bind_some]
  exact hrows.statement row.text

theorem selects_membershipCondition {c : Criteria} {entity : Uuid} {ps : List Predicate} {b : Builder}
    (h : Builder.Builds d (.numbered 1) entity c.rules ⟨[.uuid entity], 1⟩ ps b) (row : Row) :
    Statement.selects E table b.parameters
      ⟨(Alias.numbered 1).text, membershipCondition (.numbered 1) 1 ⟨c.connective, ps⟩⟩ row =
      some (row.entityId == entity && c.holds E d table entity row) := by
  have hrow := lookup_self [] 1 row
  have hentity : parameterAt b.parameters 1 = some (.uuid entity) :=
    parameterAt_of_prefix h.extends.parameters (Nat.le_refl 1)
  have hparts : Sql.Condition.evalAll E table b.parameters [((Alias.numbered 1).text, row)] (Predicate.conditions ps) =
      some (Rule.truths E d table entity row c.rules) := h.evalAll rfl (Nat.le_refl 1) List.prefix_rfl hrow
  obtain ⟨us, hus, hverdict⟩ := eval_group c.connective hparts
  have hall : Sql.Condition.evalAll E table b.parameters [((Alias.numbered 1).text, row)]
      ([.compare (.entity (Alias.numbered 1).text) .equal (.parameter 1)] ++
        Sql.Condition.group c.connective (Predicate.conditions ps)) =
      some ([some (row.entityId == entity)] ++ us) := by
    refine Sql.Condition.evalAll_append ?_ hus
    rw [Sql.Condition.evalAll, eval_entityTest hrow hentity]
    rfl
  refine (congrArg (Option.map (· == some true)) (Sql.Condition.eval_join .and (by simp) hall)).trans ?_
  refine congrArg some (Bool.eq_iff_iff.2 ?_)
  show (Truth.all _ == some true) = true ↔ _
  rw [beq_iff_eq, Truth.all_eq_true, List.forall_mem_append, List.forall_mem_singleton, hverdict, Bool.and_eq_true,
    Option.some.injEq, Criteria.holds, beq_iff_eq, beq_iff_eq]

/-- **The query for criteria selects the rows of the entity that satisfy them**, whatever the engine and the table, and
gives their identifiers. -/
theorem membershipQuery_selects {d : Definitions} {c : Criteria} {entity : Uuid} {q : Query}
    (h : membershipQuery d c entity = .ok q) : ∃ s, Statement.read q.text = some s ∧
      ∀ (E : Engine) (table : List Row),
        (∀ row, s.selects E table q.parameters row =
          some (row.entityId == entity && c.holds E d table entity row)) ∧
        s.ids E table q.parameters =
          some ((table.filter fun row => row.entityId == entity && c.holds E d table entity row).map Row.id) := by
  obtain ⟨ps, b, hb, rfl⟩ := membershipQuery_ok h
  have hname := isName_numbered 1
  refine ⟨_, statement_read hname 1 (hb.allReadable hname), fun E table => ?_⟩
  exact ⟨selects_membershipCondition hb, Statement.ids_eq (selects_membershipCondition hb)⟩

namespace Shop

/-- An engine for whole numbers and for patterns that start and end with `%` and have no other sign in them. -/
def engine : Engine where
  Value := Parameter
  cast _ s := ((AttributeKind.integerOfText? s).map .integer).getD (.text s)
  value p := p
  compare
    | .equal, a, b => some (a == b)
    | .notEqual, a, b => some (a != b)
    | _, _, _ => none
  compareTexts
    | .like, s, pattern => some (s.toList.tails.any ((pattern.toList.drop 1).dropLast.isPrefixOf ·))
    | _, _, _ => none

/-- A customer. -/
def customer : Row := ⟨id 8, id 1, fun name => [("name", "joanna"), ("key", "k1")].lookup name⟩

/-- The customer and an order of this customer. -/
def rows : List Row := [customer, ⟨id 9, id 2, fun name => [("customer", "k1"), ("total", "10")].lookup name⟩]

end Shop

/-- A customer with a name that contains a text and with an order of a total is selected. -/
theorem membershipQuery_selects_shop : ∃ q s,
    membershipQuery Shop.definitions (Shop.criteria "ann" ["10"]) (Shop.id 1) = .ok q ∧
      Statement.read q.text = some s ∧ s.ids Shop.engine Shop.rows q.parameters = some [Shop.customer.id] := by
  obtain ⟨q, h⟩ : ∃ q, membershipQuery Shop.definitions (Shop.criteria "ann" ["10"]) (Shop.id 1) = .ok q :=
    exists_of_isOk (by decide +kernel)
  obtain ⟨s, hs, hselects⟩ := membershipQuery_selects h
  refine ⟨q, s, h, hs, ?_⟩
  rw [(hselects Shop.engine Shop.rows).2]
  decide +kernel

end Cohort
