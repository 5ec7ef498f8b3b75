import Cohort.Proofs.Query.Spelling

/-!
# Rules on their own

A rule can be written without a builder: as a text with gaps for the row in scope and for the numbers that are handed
out, counted from the rule itself, and the parameters that go with it (`Rule.draft`). Rules one after the other are
their drafts one after the other, each with its numbers behind those of the rules before it (`Draft.append`).

* `rules_described`: whatever a builder has handed out, it makes of rules what their draft says, with the numbers behind
  its own; it is refused exactly if the draft is.
* `clause_renumbering`: the same of a clause and of each rule in it.
-/

namespace Cohort

/-! ## Texts with gaps -/

/-- A part of a text with gaps. -/
inductive Piece where
  /-- Some text. -/
  | literal (text : String)
  /-- The row in scope. -/
  | scope
  /-- The parameter that is the `number`-th of the rule. -/
  | parameter (number : Nat)
  /-- The alias that is the `number`-th of the rule. -/
  | row (number : Nat)

/-- A text with gaps. -/
abbrev Template := List Piece

namespace Piece

/-- The text of a piece for a row in scope, behind `p` parameters and `a` aliases. -/
def fill (scope : String) (p a : Nat) : Piece → String
  | literal s => s
  | .scope => scope
  | parameter n => placeholder (p + n)
  | row n => (Alias.numbered (a + n)).text

/-- A piece of a rule behind one that has `p` parameters and `a` aliases. -/
def shift (p a : Nat) : Piece → Piece
  | parameter n => parameter (p + n)
  | row n => row (a + n)
  | x => x

/-- A piece of a rule on the row that is the `number`-th alias of the rule around it. -/
def enter (number : Nat) : Piece → Piece
  | scope => row number
  | x => x

section

variable (s : String) (p a : Nat)

@[simp] theorem fill_literal (t : String) : (literal t).fill s p a = t := rfl

@[simp] theorem fill_scope : scope.fill s p a = s := rfl

@[simp] theorem fill_parameter (n : Nat) : (parameter n).fill s p a = placeholder (p + n) := rfl

@[simp] theorem fill_row (n : Nat) : (row n).fill s p a = (Alias.numbered (a + n)).text := rfl

theorem fill_shift (p' a' : Nat) (x : Piece) :
    (x.shift p' a').fill s p a = x.fill s (p + p') (a + a') := by
  cases x with
  | literal | scope => rfl
  | parameter n => rw [shift, fill_parameter, fill_parameter, Nat.add_assoc]
  | row n => rw [shift, fill_row, fill_row, Nat.add_assoc]

theorem fill_enter (number : Nat) (x : Piece) :
    (x.enter number).fill s p a = x.fill (Alias.numbered (a + number)).text p a := by
  cases x <;> rfl

end

end Piece

namespace Template

/-- The text for a row in scope, behind `p` parameters and `a` aliases. -/
def fill (scope : String) (p a : Nat) : Template → String
  | [] => ""
  | x :: t => x.fill scope p a ++ fill scope p a t

/-- The text of a rule behind one that has `p` parameters and `a` aliases. -/
def shift (p a : Nat) (t : Template) : Template := t.map (Piece.shift p a)

/-- The text of a rule on the row that is the `number`-th alias of the rule around it. -/
def enter (number : Nat) (t : Template) : Template := t.map (Piece.enter number)

variable (s : String) (p a : Nat)

@[simp] theorem fill_nil : fill s p a [] = "" := rfl

@[simp] theorem fill_cons (x : Piece) (t : Template) : fill s p a (x :: t) = x.fill s p a ++ fill s p a t := rfl

@[simp] theorem fill_append : ∀ t u : Template, fill s p a (t ++ u) = fill s p a t ++ fill s p a u
  | [], u => by simp
  | x :: t, u => by
    rw [List.cons_append, fill_cons, fill_cons, fill_append t u, String.append_assoc]

theorem fill_shift (p' a' : Nat) : ∀ t : Template, fill s p a (t.shift p' a') = fill s (p + p') (a + a') t
  | [] => rfl
  | x :: t => by
    rw [fill_cons, ← fill_shift p' a' t, ← Piece.fill_shift]
    rfl

theorem fill_enter (number : Nat) : ∀ t : Template,
    fill s p a (t.enter number) = fill (Alias.numbered (a + number)).text p a t
  | [] => rfl
  | x :: t => by
    rw [fill_cons, ← fill_enter number t, ← Piece.fill_enter s]
    rfl

/-- Texts with gaps, with some text between them. -/
theorem fill_intercalate (between : String) : ∀ ts : List Template,
    fill s p a ([Piece.literal between].intercalate ts) = between.intercalate (ts.map (fill s p a))
  | [] => rfl
  | [t] => by rw [List.intercalate_singleton, List.map_cons, List.map_nil, String.intercalate_singleton]
  | t :: u :: ts => by
    rw [List.intercalate_cons_cons, List.map_cons, List.map_cons, String.intercalate_cons_cons, fill_append,
      fill_append, fill_intercalate between (u :: ts)]
    simp

end Template

/-! ## Drafts -/

/-- What a rule or several rules contribute on their own: texts, or an error; the parameters; the number of aliases. -/
structure Draft where
  /-- The texts, or why there are none. -/
  texts : Except RuleError (List Template)
  /-- The parameters. -/
  parameters : List Parameter
  /-- The number of aliases. -/
  aliases : Nat

/-- Texts with a connective between them. -/
def joinTemplates (k : Connective) (ts : List Template) : Template :=
  [.literal (" " ++ k.text ++ " ")].intercalate ts

/-- What the texts of criteria contribute to the texts around them. -/
def spliceTemplates (k : Connective) : List Template → List Template
  | [] => []
  | [t] => [t]
  | ts => [.literal "(" :: (joinTemplates k ts ++ [.literal ")"])]

/-- The text of a column of a row. -/
def columnTemplate (row : Piece) (name : String) (cast : Option String) : Template :=
  [.literal "(", row, .literal (".attributes->>'" ++ name ++ "')" ++ cast.getD "")]

/-- The text of a test on the row in scope. -/
def Test.template (t : Test) : Template :=
  let column := columnTemplate .scope t.subject.name t.subject.kind.cast
  match t.comparison with
  | .nullCheck op => column ++ [.literal (" " ++ op.sql)]
  | .value op _ => column ++ [.literal (" " ++ op.sql ++ " "), .parameter 1]
  | .among [] => [.literal "FALSE"]
  | .among ps => column ++ .literal " IN (" ::
      ([.literal ", "].intercalate ((List.range' 1 ps.length).map fun n => [.parameter n]) ++ [.literal ")"])

/-- The text for a row, the first alias, that is joined to the row in scope and satisfies the texts. -/
def Join.template (join : Join) (k : Connective) (ts : List Template) : Template :=
  [.literal "EXISTS (SELECT 1 FROM processed_entities ", .row 1, .literal " WHERE ", .row 1,
    .literal ".entity_definition_id = ", .parameter 1, .literal " AND "] ++
  columnTemplate .scope join.localKey none ++ .literal " = " :: columnTemplate (.row 1) join.relatedKey none ++
  (if ts.isEmpty then [] else .literal " AND (" :: (joinTemplates k ts ++ [.literal ")"])) ++ [.literal ")"]

namespace Draft

/-- The draft of no rule. -/
def empty : Draft := ⟨.ok [], [], 0⟩

/-- The draft of a rule that is refused before it contributes anything. -/
def refused (e : RuleError) : Draft := ⟨.error e, [], 0⟩

/-- **Drafts one after the other**: the numbers of the second one are behind those of the first one. If the first one is
refused, there is no second one. -/
def append (x y : Draft) : Draft :=
  match x.texts with
  | .error _ => x
  | .ok ts => ⟨y.texts.map fun us => ts ++ us.map (Template.shift x.parameters.length x.aliases),
      x.parameters ++ y.parameters, x.aliases + y.aliases⟩

/-- The draft of a row joined to the row in scope, of which the draft of its rules is given. -/
def related (join : Join) (k : Connective) (x : Draft) : Draft :=
  ⟨x.texts.map fun ts => [join.template k (ts.map fun t => (t.shift 1 1).enter 1)],
    .uuid join.relatedEntityId :: x.parameters, 1 + x.aliases⟩

end Draft

variable (d : Definitions)

mutual

/-- The draft of a rule on rows of an entity. -/
def Rule.draft (scope : Uuid) : Rule → Draft
  | .condition c =>
    match c.resolve d scope with
    | .error e => .refused e
    | .ok t => ⟨.ok [t.template], t.comparison.parameters, 0⟩
  | .nested ⟨_, k, rs⟩ =>
    let x := Rule.drafts scope rs
    { x with texts := x.texts.map (spliceTemplates k) }
  | .related id ⟨_, k, rs⟩ =>
    match d.join scope id with
    | .error e => .refused e
    | .ok join => .related join k (Rule.drafts join.relatedEntityId rs)

/-- The draft of rules on rows of an entity. -/
def Rule.drafts (scope : Uuid) : List Rule → Draft
  | [] => .empty
  | r :: rs => (r.draft scope).append (Rule.drafts scope rs)

end

/-! ## Texts of predicates -/

section Texts

variable {d} {row : Alias} {p a : Nat}

theorem fill_column {x : Piece} {other : Alias} (hx : x.fill row.text p a = other.text) (name : String)
    (cast : Option String) : (columnTemplate x name cast).fill row.text p a = (⟨other, name, cast⟩ : Column).text := by
  simp [columnTemplate, Column.text, hx, String.append_assoc]

theorem fill_parameters (row : Alias) (p a n : Nat) :
    Template.fill row.text p a ([.literal ", "].intercalate ((List.range' 1 n).map fun m => [.parameter m])) =
      ", ".intercalate ((List.range' (p + 1) n).map placeholder) := by
  rw [Template.fill_intercalate, List.map_map, ← List.map_add_range', List.map_map]
  congr 2
  funext m
  simp

/-- The text of a test is that of its predicate. -/
theorem Test.fill_template (t : Test) : t.template.fill row.text p a = (t.predicate row p).text := by
  obtain ⟨x, k⟩ := t
  have hcolumn : (columnTemplate .scope x.name x.kind.cast).fill row.text p a =
      (⟨row, x.name, x.kind.cast⟩ : Column).text := fill_column rfl _ _
  cases k with
  | nullCheck op =>
    simp [Test.template, Test.predicate, Predicate.text_nullCheck, hcolumn, String.append_assoc]
  | value op v =>
    simp [Test.template, Test.predicate, Predicate.text_comparison, hcolumn, String.append_assoc]
  | among vs =>
    cases vs with
    | nil => rfl
    | cons v vs =>
      have hnumbers := fill_parameters row p a (v :: vs).length
      simp only [Test.template, Test.predicate, Predicate.text_membership, Template.fill_append, Template.fill_cons,
        Template.fill_nil, hcolumn, hnumbers, Operator.sql]
      simp [String.append_assoc]

theorem fill_joinTemplates (k : Connective) {ts : List Template} {ps : List Predicate}
    (h : Predicate.texts ps = ts.map (Template.fill row.text p a)) :
    (joinTemplates k ts).fill row.text p a = joinTexts k (Predicate.texts ps) := by
  rw [joinTemplates, Template.fill_intercalate, h, joinTexts]

/-- What criteria contribute has the texts of their predicates. -/
theorem texts_splice (k : Connective) {ts : List Template} {ps : List Predicate}
    (h : Predicate.texts ps = ts.map (Template.fill row.text p a)) :
    Predicate.texts (Builder.splice k ps) = (spliceTemplates k ts).map (Template.fill row.text p a) := by
  have hlen : ps.length = ts.length := by
    rw [Predicate.texts_eq_map] at h
    simpa using congrArg List.length h
  match ps, ts, hlen with
  | [], [], _ => rfl
  | [_], [_], _ => exact h
  | q :: q' :: qs, t :: t' :: ts, _ =>
    show [(Predicate.joined k (q :: q' :: qs)).text] = [_]
    rw [Predicate.text_joined, ← fill_joinTemplates k h]
    simp [String.append_assoc]

/-- The text for a related row is that of its predicate. -/
theorem Join.fill_template (join : Join) (k : Connective) {ts : List Template} {ps : List Predicate}
    (h : Predicate.texts ps = ts.map (Template.fill row.text p a)) :
    (join.template k ts).fill row.text p a =
      (Predicate.related (.numbered (a + 1)) (p + 1) ⟨row, join.localKey, none⟩
        ⟨.numbered (a + 1), join.relatedKey, none⟩ k ps).text := by
  have hjoin := fill_joinTemplates k h
  have hempty : ts.isEmpty = ps.isEmpty := by
    rw [Predicate.texts_eq_map] at h
    cases ps <;> cases ts <;> first | rfl | cases h
  have hlocal : (columnTemplate .scope join.localKey none).fill row.text p a =
      (⟨row, join.localKey, none⟩ : Column).text := fill_column rfl _ _
  have hrelated : (columnTemplate (.row 1) join.relatedKey none).fill row.text p a =
      (⟨.numbered (a + 1), join.relatedKey, none⟩ : Column).text := fill_column rfl _ _
  rw [Join.template, Predicate.text_related, hempty]
  cases ps.isEmpty with
  | true => simp [entityTest, rowTable, hlocal, hrelated, String.append_assoc]
  | false => simp [entityTest, rowTable, hlocal, hrelated, hjoin, String.append_assoc]

end Texts

/-! ## Runs -/

namespace Builder

/-- The builder after more parameters and aliases. -/
def behind (b : Builder) (ps : List Parameter) (n : Nat) : Builder := ⟨b.parameters ++ ps, b.aliases + n⟩

/-- **A draft describes a run** from a builder: the run gives the texts of the draft with the numbers behind those of
the builder, or the error of the draft, and it hands out what the draft says. -/
structure Described (x : Draft) (row : Alias) (m : Build (List Predicate)) (b : Builder) : Prop where
  /-- The texts, or the error. -/
  texts : (m.run b).1.map Predicate.texts =
    x.texts.map (List.map (Template.fill row.text b.parameters.length b.aliases))
  /-- What is handed out. -/
  builder : (m.run b).2 = b.behind x.parameters x.aliases

section

variable {x y : Draft} {row : Alias} {m m' : Build (List Predicate)} {b : Builder}

theorem Described.of_ok {ts : List Template} (ps : List Predicate) (hx : x.texts = .ok ts)
    (hm : m.run b = (.ok ps, b.behind x.parameters x.aliases))
    (h : Predicate.texts ps = ts.map (Template.fill row.text b.parameters.length b.aliases)) :
    Described x row m b where
  texts := by
    rw [hm, hx]
    exact congrArg Except.ok h
  builder := by rw [hm]

theorem Described.of_error {e : RuleError} (hx : x.texts = .error e)
    (hm : m.run b = (.error e, b.behind x.parameters x.aliases)) : Described x row m b where
  texts := by
    rw [hm, hx]
    rfl
  builder := by rw [hm]

theorem Described.run_ok {ts : List Template} (h : Described x row m b) (hx : x.texts = .ok ts) :
    ∃ ps, m.run b = (.ok ps, b.behind x.parameters x.aliases) ∧
      Predicate.texts ps = ts.map (Template.fill row.text b.parameters.length b.aliases) := by
  obtain ⟨htexts, hbuilder⟩ := h
  rw [hx] at htexts
  obtain ⟨ps, hps, hfill⟩ := check_map_ok.1 htexts
  exact ⟨ps, Prod.ext hps hbuilder, hfill.symm⟩

theorem Described.run_error {e : RuleError} (h : Described x row m b) (hx : x.texts = .error e) :
    m.run b = (.error e, b.behind x.parameters x.aliases) := by
  obtain ⟨htexts, hbuilder⟩ := h
  rw [hx] at htexts
  exact Prod.ext (check_map_error.1 htexts) hbuilder

/-- Rules one after the other are described by their drafts one after the other. -/
theorem Described.append (h : Described x row m b) (h' : ∀ b₁, Described y row m' b₁) :
    Described (x.append y) row (do let ps ← m; let qs ← m'; return ps ++ qs) b := by
  cases hx : x.texts with
  | error e =>
    have happend : x.append y = x := by rw [Draft.append, hx]
    rw [happend]
    refine .of_error hx ?_
    rw [run_bind, h.run_error hx]
  | ok ts =>
    obtain ⟨ps, hm, hps⟩ := h.run_ok hx
    have hy := h' (b.behind x.parameters x.aliases)
    have hbehind : (b.behind x.parameters x.aliases).behind y.parameters y.aliases =
        b.behind (x.append y).parameters (x.append y).aliases := by
      simp only [Draft.append, hx, behind, List.append_assoc, Nat.add_assoc]
    cases hyt : y.texts with
    | error e =>
      refine .of_error (e := e) (by simp only [Draft.append, hx, hyt]; rfl) ?_
      rw [run_bind, hm, ← hbehind]
      show (m' >>= fun qs => pure (ps ++ qs)).run _ = _
      rw [run_bind, hy.run_error hyt]
    | ok us =>
      obtain ⟨qs, hm', hqs⟩ := hy.run_ok hyt
      have htexts : (x.append y).texts = .ok (ts ++ us.map (Template.shift x.parameters.length x.aliases)) := by
        simp only [Draft.append, hx, hyt]
        rfl
      refine .of_ok (ps ++ qs) htexts ?_ ?_
      · rw [run_bind, hm, ← hbehind]
        show (m' >>= fun qs => pure (ps ++ qs)).run _ = _
        rw [run_bind, hm']
        rfl
      · have hshift (u : Template) : (u.shift x.parameters.length x.aliases).fill row.text b.parameters.length
            b.aliases = u.fill row.text (b.behind x.parameters x.aliases).parameters.length
              (b.behind x.parameters x.aliases).aliases := by
          rw [Template.fill_shift, behind, List.length_append]
        rw [Predicate.texts_eq_map, List.map_append, ← Predicate.texts_eq_map, ← Predicate.texts_eq_map, hps, hqs,
          List.map_append, List.map_map]
        simp only [Function.comp_def, hshift]

/-- Criteria inside criteria are described by the draft of their rules, spliced. -/
theorem Described.splice (k : Connective) (h : Described x row m b) :
    Described { x with texts := x.texts.map (spliceTemplates k) } row (do return Builder.splice k (← m)) b := by
  cases hx : x.texts with
  | error e =>
    refine .of_error rfl ?_
    rw [run_bind, h.run_error hx]
  | ok ts =>
    obtain ⟨ps, hm, hps⟩ := h.run_ok hx
    refine .of_ok (Builder.splice k ps) rfl ?_ (texts_splice k hps)
    rw [run_bind, hm]
    rfl

end

theorem behind_nothing (b : Builder) : b.behind [] 0 = b := by
  rw [behind, List.append_nil]
  rfl

theorem described_empty (row : Alias) (b : Builder) : Described .empty row (pure []) b := by
  have hm : (pure [] : Build (List Predicate)).run b = (.ok [], b.behind [] 0) := by
    rw [behind_nothing]
    rfl
  exact .of_ok [] rfl hm rfl

theorem described_refused {row : Alias} {m : Build (List Predicate)} {b : Builder} {e : RuleError}
    (h : m.run b = (.error e, b)) : Described (.refused e) row m b := by
  have hm : m.run b = (.error e, b.behind [] 0) := by rw [behind_nothing, h]
  exact .of_error rfl hm

variable {d}

theorem condition_described (row : Alias) (scope : Uuid) (c : Condition) (b : Builder) :
    Described ((Rule.condition c).draft d scope) row (rule d row scope (.condition c)) b := by
  rw [rule, Rule.draft]
  cases c.resolve d scope with
  | error e => exact described_refused rfl
  | ok t =>
    have hm : (test row t).run b = (t.predicate row b.parameters.length, b.behind t.comparison.parameters 0) :=
      test_run row t b
    refine .of_ok [t.predicate row b.parameters.length] rfl (run_check_bind_ok.2 ⟨t, rfl, ?_⟩) ?_
    · rw [run_step_bind, hm]
      rfl
    · exact congrArg (fun s => [s]) t.fill_template.symm

/-- A related row is described by the draft of its rules, which are on a row of their own. -/
theorem related_described {row : Alias} {scope id : Uuid} {join : Join} {k : Connective} {i : Option Uuid}
    {rs : List Rule} {b : Builder} (hj : d.join scope id = .ok join)
    (h : Described (Rule.drafts d join.relatedEntityId rs) (.numbered (b.aliases + 1))
      (rules d (.numbered (b.aliases + 1)) join.relatedEntityId rs) (b.behind [.uuid join.relatedEntityId] 1)) :
    Described (.related join k (Rule.drafts d join.relatedEntityId rs)) row
      (rule d row scope (.related id ⟨i, k, rs⟩)) b := by
  have hrun : (rule d row scope (.related id ⟨i, k, rs⟩)).run b =
      (rules d (.numbered (b.aliases + 1)) join.relatedEntityId rs >>= fun parts => pure
        [.related (.numbered (b.aliases + 1)) (b.parameters.length + 1) ⟨row, join.localKey, none⟩
          ⟨.numbered (b.aliases + 1), join.relatedKey, none⟩ k parts]).run
        (b.behind [.uuid join.relatedEntityId] 1) := by
    rw [rule, hj, run_pass_bind, run_step_bind, allocate_run, run_step_bind, bind_run]
    rfl
  have hbehind (x : Draft) : (b.behind [.uuid join.relatedEntityId] 1).behind x.parameters x.aliases =
      b.behind (Draft.related join k x).parameters (Draft.related join k x).aliases := by
    simp [Draft.related, behind, Nat.add_assoc]
  cases hx : (Rule.drafts d join.relatedEntityId rs).texts with
  | error e =>
    refine .of_error (e := e) (by rw [Draft.related, hx]; rfl) ?_
    rw [hrun, run_bind, h.run_error hx, ← hbehind]
  | ok ts =>
    obtain ⟨ps, hm, hps⟩ := h.run_ok hx
    have htexts : (Draft.related join k (Rule.drafts d join.relatedEntityId rs)).texts =
        .ok [join.template k (ts.map fun t => (t.shift 1 1).enter 1)] := by
      rw [Draft.related, hx]
      rfl
    refine .of_ok [_] htexts (by rw [hrun, run_bind, hm, ← hbehind]; rfl) ?_
    -- the numbers inside are behind the row and the entity, and the row in scope there is the new one
    have hinside : Predicate.texts ps =
        (ts.map fun t => (t.shift 1 1).enter 1).map (Template.fill row.text b.parameters.length b.aliases) := by
      rw [hps, List.map_map]
      simp only [Function.comp_def, Template.fill_enter, Template.fill_shift, behind, List.length_append,
        List.length_singleton]
    exact congrArg (fun s => [s]) (join.fill_template k hinside).symm

mutual

/-- **Rules are described by their draft**, whatever has been handed out before. -/
theorem rules_described (row : Alias) (scope : Uuid) : ∀ (rs : List Rule) (b : Builder),
    Described (Rule.drafts d scope rs) row (rules d row scope rs) b
  | [], b => by
    rw [rules, Rule.drafts]
    exact described_empty row b
  | r :: rs, b => by
    rw [rules, Rule.drafts]
    exact (rule_described row scope r b).append fun b₁ => rules_described row scope rs b₁

theorem rule_described (row : Alias) (scope : Uuid) : ∀ (r : Rule) (b : Builder),
    Described (r.draft d scope) row (rule d row scope r) b
  | .condition c, b => condition_described row scope c b
  | .nested ⟨_, k, rs⟩, b => by
    rw [rule, Rule.draft]
    exact (rules_described row scope rs b).splice k
  | .related id ⟨i, k, rs⟩, b => by
    cases hj : d.join scope id with
    | error e =>
      rw [rule, Rule.draft, hj]
      exact described_refused rfl
    | ok join =>
      rw [Rule.draft, hj]
      exact related_described hj (rules_described _ _ rs _)

end

end Builder

/-! ## Clauses -/

/-- The text of criteria on rows of an entity, or why there is none. -/
def Criteria.template (scope : Uuid) (c : Criteria) : Except RuleError Template :=
  (Rule.drafts d scope c.rules).texts.map (joinTemplates c.connective)

/-- Rules one after the other have the drafts of each of them one after the other. -/
theorem Rule.drafts_eq_foldr (scope : Uuid) : ∀ rs : List Rule,
    Rule.drafts d scope rs = (rs.map (Rule.draft d scope)).foldr Draft.append .empty
  | [] => by rw [Rule.drafts, List.map_nil, List.foldr_nil]
  | r :: rs => by rw [Rule.drafts, Rule.drafts_eq_foldr scope rs, List.map_cons, List.foldr_cons]

theorem clause_described (row : Alias) (scope : Uuid) (c : Criteria) (b : Builder) :
    ((Builder.clause d row scope c).run b).1.map Clause.text =
      (c.template d scope).map (Template.fill row.text b.parameters.length b.aliases) ∧
    ((Builder.clause d row scope c).run b).2 =
      b.behind (Rule.drafts d scope c.rules).parameters (Rule.drafts d scope c.rules).aliases := by
  have h := Builder.rules_described (d := d) row scope c.rules b
  rw [Builder.clause, Builder.run_bind, Criteria.template]
  cases hx : (Rule.drafts d scope c.rules).texts with
  | error e =>
    rw [h.run_error hx]
    exact ⟨rfl, rfl⟩
  | ok ts =>
    obtain ⟨ps, hm, hps⟩ := h.run_ok hx
    rw [hm]
    exact ⟨congrArg Except.ok (fill_joinTemplates c.connective hps).symm, rfl⟩

/-- **The numbers of a clause are those of its rules on their own, behind what has been handed out.** There is one text
with gaps, or one error, and some parameters, which the definitions, the entity and the criteria determine; from any
builder and for any row the clause has this text, with the numbers of the builder added to those of all its parameters
and aliases, or it is refused for this error, and the builder hands out these parameters and as many aliases.

The draft of criteria is made of the drafts of its rules, each with its numbers behind those of the rules before it, and
the draft of a rule says in the same way what building this rule alone gives, in particular from a fresh builder.

The numbers are those of a counter of 32 bits as long as the builder has handed out fewer than `2 ^ 32` aliases with
those of the criteria (`clause_counted`). -/
theorem clause_renumbering (scope : Uuid) (c : Criteria) :
    (∀ row b,
      ((Builder.clause d row scope c).run b).1.map Clause.text =
        (c.template d scope).map (Template.fill row.text b.parameters.length b.aliases) ∧
      ((Builder.clause d row scope c).run b).2 =
        ⟨b.parameters ++ (Rule.drafts d scope c.rules).parameters,
          b.aliases + (Rule.drafts d scope c.rules).aliases⟩) ∧
    Rule.drafts d scope c.rules = (c.rules.map (Rule.draft d scope)).foldr Draft.append .empty ∧
    ∀ r ∈ c.rules, ∀ row b,
      ((Builder.rule d row scope r).run b).1.map Predicate.texts =
        (r.draft d scope).texts.map (List.map (Template.fill row.text b.parameters.length b.aliases)) ∧
      ((Builder.rule d row scope r).run b).2 =
        ⟨b.parameters ++ (r.draft d scope).parameters, b.aliases + (r.draft d scope).aliases⟩ := by
  refine ⟨fun row b => clause_described d row scope c b, Rule.drafts_eq_foldr d scope c.rules, ?_⟩
  intro r _ row b
  obtain ⟨htexts, hbuilder⟩ := Builder.rule_described (d := d) row scope r b
  exact ⟨htexts, hbuilder⟩

/-- The criteria of a shop behind a parameter and four aliases, and the rule on orders in them on its own. -/
theorem clause_renumbering_shop :
    let c := Shop.criteria "ann" ["10"]
    (((Builder.clause Shop.definitions (.numbered 1) (Shop.id 1) c).run ⟨[.boolean true], 4⟩).1.map
        Clause.text).toOption =
      some ("(pe1.attributes->>'name') LIKE $2 AND EXISTS (SELECT 1 FROM processed_entities pe5 WHERE " ++
        "pe5.entity_definition_id = $3 AND (pe1.attributes->>'key') = (pe5.attributes->>'customer') AND " ++
        "((pe5.attributes->>'total')::bigint IN ($4)))") ∧
    ∃ r ∈ c.rules, ((Builder.rule Shop.definitions (.numbered 1) (Shop.id 1) r).run .fresh).2.parameters =
      [.uuid (Shop.id 2), .integer 10] := by
  intro c
  obtain ⟨hclause, _, hrule⟩ := clause_renumbering Shop.definitions (Shop.id 1) c
  refine ⟨?_, _, List.mem_cons_of_mem _ List.mem_cons_self, ?_⟩
  · rw [(hclause (.numbered 1) ⟨[.boolean true], 4⟩).1]
    decide +kernel
  · rw [(hrule _ (List.mem_cons_of_mem _ List.mem_cons_self) (.numbered 1) .fresh).2]
    decide +kernel

end Cohort
