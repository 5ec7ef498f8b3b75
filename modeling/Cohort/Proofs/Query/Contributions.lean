import Cohort.Proofs.Query.Selection
import Cohort.Proofs.Query.WellFormed

/-!
# What each rule hands out

`Rule.Node.parameters` says of one node which parameters it hands out, with nothing but the definitions at hand: none,
those that its values denote, or the entity of a relationship. A builder hands out those of all nodes in document order;
if it is refused at a node, those of the nodes before it and nothing of the node itself (`clause_contributions`).
-/

namespace Cohort

open Rule (Node)

/-! ## One node -/

/-- The parameters of a condition on an attribute of a kind. A null check has none; a list has those that its items
denote, in their order; a condition on texts that contain a text has the text between percent signs; any other condition
has the one that its value denotes. -/
def AttributeKind.parameters (kind : AttributeKind) : Operator → Json → List Parameter
  | .isNull, _ | .isNotNull, _ => []
  | .among, .array items => items.filterMap fun item => (kind.coerce item).toOption
  | .contains, value =>
    match kind.coerce value with
    | .ok (.text s) => [.text ("%" ++ s ++ "%")]
    | _ => []
  | _, value => (kind.coerce value).toOption.toList

namespace Rule.Node

/-- **The parameters of a node**: those of the condition, or the entity that the relationship leads to. -/
def parameters (d : Definitions) : Node → List Parameter
  | .condition _ c =>
    match d.attribute? c.attributeId, Operator.parse? c.operator with
    | some a, some op => a.kind.parameters op c.value
    | _, _ => []
  | .relationship scope id =>
    match (d.relationship? id).bind fun r => r.from? scope with
    | some t => [.uuid t.relatedEntityId]
    | none => []

end Rule.Node

theorem filterMap_coerce {kind : AttributeKind} {items : List Json} {ps : List Parameter}
    (h : List.Forall₂ (fun item p => kind.coerce item = .ok p) items ps) :
    items.filterMap (fun item => (kind.coerce item).toOption) = ps := by
  induction h with
  | nil => rfl
  | cons hp _ ih =>
    rw [List.filterMap_cons_some (b := _) (by rw [hp]; rfl), ih]

/-- What an attribute is compared with holds the parameters of the condition. -/
theorem AttributeKind.Compares.parameters_eq {kind : AttributeKind} {op : Operator} {value : Json} {k : Comparison}
    (hsupports : kind.supports op = true) (h : kind.Compares op value k) :
    k.parameters = kind.parameters op value := by
  cases h with
  | nullCheck hnull =>
    cases op with
    | isNull | isNotNull => rfl
    | _ => cases hnull
  | @among _ items ps hitems hps =>
    have hvalue : value = .array items := by
      cases value <;> cases hitems
      rfl
    rw [hvalue]
    exact (filterMap_coerce hps).symm
  | contains hp =>
    obtain ⟨s, rfl⟩ := coerce_text hsupports hp
    rw [AttributeKind.parameters, hp]
    rfl
  | @value _ _ p hnull hamong hcontains hp =>
    have hone : kind.parameters op value = (kind.coerce value).toOption.toList := by
      cases op with
      | isNull | isNotNull => cases hnull
      | among => exact absurd rfl hamong
      | contains => exact absurd rfl hcontains
      | _ => rfl
    rw [hone, hp]
    rfl

variable {d : Definitions}

/-- A condition that passes its checks hands out its parameters. -/
theorem Condition.parameters_of_resolve {scope : Uuid} {c : Condition} {t : Test} (h : c.resolve d scope = .ok t) :
    t.comparison.parameters = (Node.condition scope c).parameters d := by
  obtain ⟨ha, _, _, op, hop, hsupports, hk⟩ := Condition.resolve_ok h
  rw [Node.parameters, ha, hop]
  exact hk.parameters_eq hsupports

/-- A relationship that passes its checks hands out the entity that it leads to. -/
theorem Definitions.parameters_of_join {scope id : Uuid} {join : Join} (h : d.join scope id = .ok join) :
    [.uuid join.relatedEntityId] = (Node.relationship scope id).parameters d := by
  obtain ⟨r, t, _, _, hr, ht, _, _, _, _, _, _, rfl⟩ := Definitions.join_ok h
  rw [Node.parameters, hr, Option.bind_some, ht]

/-! ## Runs -/

namespace Builder

variable {α β : Type} {xs ys : List Node} {x : Build α} {b b' : Builder}

/-- **What a run over nodes hands out**: the parameters of all of them, or those of the nodes before the first that is
not in order. -/
def HandsOut (d : Definitions) (nodes : List Node) (b : Builder) : Except RuleError α × Builder → Prop
  | (.ok _, b') => (∀ n ∈ nodes, n.WellFormed d) ∧ b'.parameters = b.parameters ++ nodes.flatMap (Node.parameters d)
  | (.error e, b') => ∃ before n after, nodes = before ++ n :: after ∧ (∀ m ∈ before, m.WellFormed d) ∧ n.Fault d e ∧
      b'.parameters = b.parameters ++ before.flatMap (Node.parameters d)

/-- A step over no node hands out nothing. -/
theorem handsOut_nil {a : α} (h : b'.parameters = b.parameters) : HandsOut d [] b (.ok a, b') :=
  ⟨List.forall_mem_nil _, by rw [h, List.flatMap_nil, List.append_nil]⟩

/-- A run that starts when some nodes have handed out their parameters. -/
theorem HandsOut.after {r : Except RuleError α × Builder} {b₁ : Builder} (hxs : ∀ n ∈ xs, n.WellFormed d)
    (hb : b₁.parameters = b.parameters ++ xs.flatMap (Node.parameters d)) (h : HandsOut d ys b₁ r) :
    HandsOut d (xs ++ ys) b r := by
  rcases r with ⟨_ | a, b'⟩
  · obtain ⟨before, n, after, rfl, hbefore, hfault, hb'⟩ := h
    refine ⟨xs ++ before, n, after, by simp, List.forall_mem_append.2 ⟨hxs, hbefore⟩, hfault, ?_⟩
    rw [hb', hb, List.flatMap_append, List.append_assoc]
  · obtain ⟨hys, hb'⟩ := h
    refine ⟨List.forall_mem_append.2 ⟨hxs, hys⟩, ?_⟩
    rw [hb', hb, List.flatMap_append, List.append_assoc]

/-- Behind a failure nothing is handed out. -/
theorem HandsOut.stop {e : RuleError} (h : HandsOut (α := α) d xs b (.error e, b')) :
    HandsOut (α := β) d (xs ++ ys) b (.error e, b') := by
  obtain ⟨before, n, after, rfl, hbefore, hfault, hb'⟩ := h
  exact ⟨before, n, after ++ ys, by simp, hbefore, hfault, hb'⟩

theorem handsOut_bind {f : α → Build β} (hx : HandsOut d xs b (x.run b))
    (hf : ∀ a b₁, HandsOut d ys b₁ ((f a).run b₁)) : HandsOut d (xs ++ ys) b ((x >>= f).run b) := by
  rw [run_bind]
  revert hx
  rcases x.run b with ⟨_ | a, b₁⟩
  · exact HandsOut.stop
  · rintro ⟨hxs, hb⟩
    exact (hf a b₁).after hxs hb

/-- What is made of the result hands out nothing. -/
theorem handsOut_map (f : α → β) (hx : HandsOut d xs b (x.run b)) :
    HandsOut d xs b ((x >>= fun a => pure (f a)).run b) := by
  have h : HandsOut d (xs ++ []) b ((x >>= fun a => pure (f a)).run b) :=
    handsOut_bind hx fun a b₁ => handsOut_nil rfl
  rwa [List.append_nil] at h

/-- A node that is checked before anything is handed out for it. -/
theorem handsOut_check_bind {r : Except RuleError α} {f : α → Build β} {n : Node}
    (herror : ∀ e, r = .error e → n.Fault d e) (hf : ∀ a, r = .ok a → HandsOut d (n :: ys) b ((f a).run b)) :
    HandsOut d (n :: ys) b ((liftM r >>= f).run b) := by
  cases r with
  | error e => exact ⟨[], n, ys, rfl, List.forall_mem_nil _, herror e rfl, (List.append_nil _).symm⟩
  | ok a => exact hf a rfl

mutual

/-- **Building rules hands out the parameters of their nodes in document order**, whatever has been handed out
before. -/
theorem rules_handOut (row : Alias) (scope : Uuid) : ∀ (rs : List Rule) (b : Builder),
    HandsOut d (Rule.allNodes d scope rs) b ((rules d row scope rs).run b)
  | [], b => by
    rw [rules, Rule.allNodes]
    exact handsOut_nil rfl
  | r :: rs, b => by
    rw [rules, Rule.allNodes]
    exact handsOut_bind (rule_handsOut row scope r b) fun ps b₁ => handsOut_map _ (rules_handOut row scope rs b₁)

theorem rule_handsOut (row : Alias) (scope : Uuid) : ∀ (r : Rule) (b : Builder),
    HandsOut d (r.nodes d scope) b ((rule d row scope r).run b)
  | .condition c, b => by
    rw [rule, Rule.nodes]
    refine handsOut_check_bind (fun e => Node.resolve_eq_error.1) fun t ht => ?_
    rw [run_step_bind, test_run]
    refine ⟨List.forall_mem_singleton.2 (Node.exists_resolve.1 ⟨t, ht⟩), ?_⟩
    rw [List.flatMap_singleton, ← Condition.parameters_of_resolve ht]
  | .nested ⟨_, k, rs⟩, b => by
    rw [rule, Rule.nodes]
    exact handsOut_map _ (rules_handOut row scope rs b)
  | .related id ⟨_, k, rs⟩, b => by
    rw [rule, Rule.nodes]
    refine handsOut_check_bind (fun e => Node.join_eq_error.1) fun join hj => ?_
    rw [run_step_bind, allocate_run, run_step_bind, bind_run]
    -- the entity is handed out before the rules behind the relationship are looked at
    have hentity := Definitions.parameters_of_join hj
    have hfine : ∀ n ∈ [Node.relationship scope id], n.WellFormed d :=
      List.forall_mem_singleton.2 (Node.exists_join.1 ⟨join, hj⟩)
    obtain ⟨r, t, _, _, hr, ht, _, _, _, _, _, _, rfl⟩ := Definitions.join_ok hj
    rw [hr, Option.bind_some, ht]
    refine (handsOut_map _ (rules_handOut _ _ rs _)).after hfine ?_
    rw [List.flatMap_singleton, ← hentity]

end

theorem clause_handsOut (row : Alias) (scope : Uuid) (c : Criteria) (b : Builder) :
    HandsOut d (c.nodes d scope) b ((clause d row scope c).run b) := by
  rw [clause]
  exact handsOut_map _ (rules_handOut row scope c.rules b)

end Builder

/-! ## Clauses and queries -/

/-- **A clause hands out the parameters of its nodes in document order, also if it is refused.** If it is made, they are
those of all nodes. If it is refused, it has a first node that is not in order, whose fault the error is, and they are
those of the nodes before this one, the relationships around it included.

The query for an entity has the entity and the parameters of all nodes. -/
theorem clause_contributions (d : Definitions) (scope : Uuid) (c : Criteria) :
    (∀ row b k b', (Builder.clause d row scope c).run b = (.ok k, b') →
      b'.parameters = b.parameters ++ (c.nodes d scope).flatMap (Node.parameters d)) ∧
    (∀ row b e b', (Builder.clause d row scope c).run b = (.error e, b') →
      ∃ before n after, c.nodes d scope = before ++ n :: after ∧ (∀ m ∈ before, m.WellFormed d) ∧ n.Fault d e ∧
        b'.parameters = b.parameters ++ before.flatMap (Node.parameters d)) ∧
    ∀ q, membershipQuery d c scope = .ok q →
      q.parameters = .uuid scope :: (c.nodes d scope).flatMap (Node.parameters d) := by
  have hclause (row : Alias) (b : Builder) := Builder.clause_handsOut (d := d) row scope c b
  refine ⟨?_, ?_, ?_⟩
  · intro row b k b' h
    have := hclause row b
    rw [h] at this
    exact this.2
  · intro row b e b' h
    have := hclause row b
    rwa [h] at this
  · intro q h
    rw [membershipQuery_eq] at h
    have := hclause (.numbered 1) ⟨[.uuid scope], 1⟩
    revert h this
    rcases (Builder.clause d (.numbered 1) scope c).run ⟨[.uuid scope], 1⟩ with ⟨_ | k, b⟩
    · intro h _
      cases h
    · intro h this
      cases h
      exact this.2

/-- A list of which the second item is no number: the pattern and the entity of the orders are handed out before it, and
of the list not even its first item. With numbers only, all of them are. -/
theorem clause_contributions_shop :
    (∃ e b' before n after, (Builder.clause Shop.definitions (.numbered 1) (Shop.id 1)
        (Shop.criteria "ann" ["10", "ten"])).run ⟨[.boolean true], 1⟩ = (.error e, b') ∧
      (Shop.criteria "ann" ["10", "ten"]).nodes Shop.definitions (Shop.id 1) = before ++ n :: after ∧
      n.Fault Shop.definitions e ∧ [.boolean true] ++ before.flatMap (Node.parameters Shop.definitions) =
        [.boolean true, .text "%ann%", .uuid (Shop.id 2)]) ∧
    ∃ q, membershipQuery Shop.definitions (Shop.criteria "ann" ["10", "20"]) (Shop.id 1) = .ok q ∧
      q.parameters = [.uuid (Shop.id 1), .text "%ann%", .uuid (Shop.id 2), .integer 10, .integer 20] := by
  constructor
  · have hparameters : ((Builder.clause Shop.definitions (.numbered 1) (Shop.id 1)
        (Shop.criteria "ann" ["10", "ten"])).run ⟨[.boolean true], 1⟩).2.parameters =
        [.boolean true, .text "%ann%", .uuid (Shop.id 2)] := by decide +kernel
    obtain ⟨e, b', h⟩ : ∃ e b', (Builder.clause Shop.definitions (.numbered 1) (Shop.id 1)
        (Shop.criteria "ann" ["10", "ten"])).run ⟨[.boolean true], 1⟩ = (.error e, b') := ⟨_, _, rfl⟩
    obtain ⟨before, n, after, hnodes, _, hfault, hb'⟩ := (clause_contributions Shop.definitions _ _).2.1 _ _ e b' h
    rw [h] at hparameters
    exact ⟨e, b', before, n, after, h, hnodes, hfault, hb'.symm.trans hparameters⟩
  · obtain ⟨q, h⟩ : ∃ q, membershipQuery Shop.definitions (Shop.criteria "ann" ["10", "20"]) (Shop.id 1) = .ok q :=
      exists_of_isOk (by decide +kernel)
    exact ⟨q, h, ((clause_contributions Shop.definitions _ _).2.2 q h).trans (by decide +kernel)⟩

end Cohort
