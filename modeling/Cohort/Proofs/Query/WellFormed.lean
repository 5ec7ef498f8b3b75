import Cohort.Proofs.Query.Derivation
import Cohort.Proofs.Query.Resolution

/-!
# Which rules make a query

The nodes of a rule tree are its conditions and its relationships, each with the entity that the rows around it are of
(`Rule.allNodes`). A node is in order or has one fault: `WellFormed` and `Fault` say so about the definitions at hand
alone, and list what is looked at in its order.

Building predicates settles the nodes in document order (`Builder.rules_settle`), and so does the query for an entity
(`membershipQuery_settles`): it exists if all nodes are in order, and else names the fault of the first that is not.
-/

namespace Cohort

/-! ## Attributes -/

/-- 1 to 128 bytes, all of them letters and digits of ASCII, `_`, `-`, `.` and blanks. -/
structure SafeName (name : String) : Prop where
  /-- Not empty. -/
  nonempty : name.toList ≠ []
  /-- Not too long. -/
  short : Text.byteLength name.toList ≤ 128
  /-- No other characters. -/
  plain : ∀ c ∈ name.toList, c.isAlphanum = true ∨ c = '_' ∨ c = '-' ∨ c = '.' ∨ c = ' '

theorem isSafeName_iff {name : String} : isSafeName name = true ↔ SafeName name := by
  simp only [isSafeName, maxNameLength, Bool.and_eq_true, Bool.not_eq_true', List.isEmpty_eq_false_iff,
    List.all_eq_true, isNameChar, Bool.or_eq_true, beq_iff_eq, or_assoc]
  constructor
  · rintro ⟨⟨hne, hlen⟩, hall⟩
    exact ⟨hne, of_decide_eq_true hlen, hall⟩
  · rintro ⟨hne, hlen, hall⟩
    exact ⟨⟨hne, decide_eq_true hlen⟩, hall⟩

/-- The attribute under an identifier belongs to the entity in scope and has a safe name. -/
structure Definitions.Usable (d : Definitions) (id scope : Uuid) (a : Attribute) : Prop where
  /-- It is held. -/
  held : d.attribute? id = some a
  /-- It belongs to the entity. -/
  scope : a.entityId = scope
  /-- Its name is safe. -/
  safe : SafeName a.name

/-- What is wrong with the attribute under an identifier. -/
inductive Definitions.AttributeFault (d : Definitions) (id scope : Uuid) : RuleError → Prop
  | notHeld : d.attribute? id = none → AttributeFault d id scope (.attributeNotFound id)
  | foreign {a : Attribute} : d.attribute? id = some a → a.entityId ≠ scope →
      AttributeFault d id scope (.foreignAttribute a.name scope a.entityId)
  | unsafeName {a : Attribute} : d.attribute? id = some a → a.entityId = scope → ¬SafeName a.name →
      AttributeFault d id scope (.unsafeName a.name)

namespace Definitions

variable {d : Definitions} {id scope : Uuid}

theorem usable_eq_ok {a : Attribute} : d.usable id scope = .ok a ↔ d.Usable id scope a := by
  constructor
  · intro h
    obtain ⟨hheld, hscope, hsafe⟩ := usable_ok h
    exact ⟨hheld, hscope, isSafeName_iff.1 hsafe⟩
  · rintro ⟨hheld, hscope, hsafe⟩
    rw [usable, check_bind_ok, Definitions.scoped, hheld]
    exact ⟨a, if_pos hscope, if_pos (isSafeName_iff.2 hsafe)⟩

theorem usable_eq_error {e : RuleError} : d.usable id scope = .error e ↔ d.AttributeFault id scope e := by
  rw [usable, check_bind_error, Definitions.scoped]
  constructor
  · cases hheld : d.attribute? id with
    | none =>
      rintro (h | ⟨a, h, _⟩) <;> cases h
      exact .notHeld hheld
    | some a =>
      by_cases hscope : a.entityId = scope
      · simp only [if_pos hscope]
        rintro (h | ⟨a', h, h'⟩) <;> cases h
        split at h' <;> cases h'
        exact .unsafeName hheld hscope fun hsafe => ‹¬_› (isSafeName_iff.2 hsafe)
      · simp only [if_neg hscope]
        rintro (h | ⟨a', h, _⟩) <;> cases h
        exact .foreign hheld hscope
  · rintro (hheld | ⟨hheld, hscope⟩ | ⟨hheld, hscope, hsafe⟩)
    · rw [hheld]
      exact .inl rfl
    · rw [hheld]
      exact .inl (if_neg hscope)
    · rw [hheld]
      exact .inr ⟨_, if_pos hscope, if_neg fun h => hsafe (isSafeName_iff.1 h)⟩

end Definitions

/-! ## Values -/

namespace AttributeKind

/-- A value denotes a parameter for attributes of a kind. -/
def Takes (kind : AttributeKind) (value : Json) : Prop := ∃ p, kind.coerce value = .ok p

/-- A value fits an operator: any value fits one that takes none, a list of values fits `in`, and one value fits any
other operator. -/
inductive Fits (kind : AttributeKind) : Operator → Json → Prop
  | nullCheck {op : Operator} {value : Json} : op.isNullCheck = true → Fits kind op value
  | among {items : List Json} : (∀ item ∈ items, kind.Takes item) → Fits kind .among (.array items)
  | single {op : Operator} {value : Json} : op ≠ .among → kind.Takes value → Fits kind op value

/-- What is wrong with the value for an operator. In a list it is the first item that counts. -/
inductive Misfit (kind : AttributeKind) : Operator → Json → ValueFault → Prop
  | notList {value : Json} : (∀ items, value ≠ .array items) → Misfit kind .among value (.notList value)
  | item {items : List Json} {e : CoercionError} :
      FirstFault kind.Takes (fun item e => kind.coerce item = .error e) items e →
      Misfit kind .among (.array items) (.coercion e)
  | single {op : Operator} {value : Json} {e : CoercionError} : op.isNullCheck = false → op ≠ .among →
      kind.coerce value = .error e → Misfit kind op value (.coercion e)

end AttributeKind

namespace Attribute

variable {a : Attribute}

theorem operator_eq_ok {written : String} {op : Operator} :
    a.operator written = .ok op ↔ Operator.parse? written = some op ∧ op ∈ a.kind.operators := by
  constructor
  · intro h
    obtain ⟨hparse, hsup⟩ := operator_ok h
    exact ⟨hparse, List.contains_iff_mem.1 hsup⟩
  · rintro ⟨hparse, hmem⟩
    have hsup : (Operator.parse? written).filter a.kind.supports = some op :=
      Option.filter_eq_some_iff.2 ⟨hparse, List.contains_iff_mem.2 hmem⟩
    rw [operator, hsup]

theorem operator_eq_error {written : String} {e : RuleError} :
    a.operator written = .error e ↔ (∀ op, Operator.parse? written = some op → op ∉ a.kind.operators) ∧
      e = .unsupportedOperator written a.name a.kind := by
  constructor
  · intro h
    refine ⟨fun op hparse hmem => ?_, ?_⟩
    · rw [operator_eq_ok.2 ⟨hparse, hmem⟩] at h
      cases h
    · rw [operator] at h
      split at h <;> cases h
      rfl
  · rintro ⟨hnone, rfl⟩
    rw [operator]
    split
    · rename_i op hop
      obtain ⟨hparse, hsup⟩ := Option.filter_eq_some_iff.1 hop
      exact absurd (List.contains_iff_mem.1 hsup) (hnone op hparse)
    · rfl

theorem parameter_eq_ok {value : Json} {p : Parameter} :
    a.parameter value = .ok p ↔ a.kind.coerce value = .ok p := check_mapError_ok

theorem parameter_eq_error {value : Json} {e : RuleError} : a.parameter value = .error e ↔
    ∃ e', a.kind.coerce value = .error e' ∧ .invalidValue a.name (.coercion e') = e := check_mapError_error

/-- A list of values is settled value by value. -/
theorem parameters_settle (items : List Json) : Settles a.kind.Takes
    (fun item e => ∃ e', a.kind.coerce item = .error e' ∧ .invalidValue a.name (.coercion e') = e) items
    (items.mapM a.parameter) := by
  refine Settles.mapM fun item _ => .single ?_ fun e => parameter_eq_error
  simp only [parameter_eq_ok, AttributeKind.Takes]

theorem firstFault_invalidValue {items : List Json} {e : RuleError} :
    FirstFault a.kind.Takes (fun item e => ∃ e', a.kind.coerce item = .error e' ∧
      .invalidValue a.name (.coercion e') = e) items e ↔
    ∃ e', FirstFault a.kind.Takes (fun item e => a.kind.coerce item = .error e) items e' ∧
      .invalidValue a.name (.coercion e') = e := by
  constructor
  · rintro ⟨before, item, after, hitems, hfine, e', he', rfl⟩
    exact ⟨e', ⟨before, item, after, hitems, hfine, he'⟩, rfl⟩
  · rintro ⟨e', ⟨before, item, after, hitems, hfine, he'⟩, rfl⟩
    exact ⟨before, item, after, hitems, hfine, e', he', rfl⟩

theorem comparison_nullCheck {op : Operator} (h : op.isNullCheck = true) (value : Json) :
    a.comparison op value = .ok (.nullCheck op) := if_pos h

theorem comparison_array (items : List Json) :
    a.comparison .among (.array items) = (items.mapM a.parameter).map .among := rfl

theorem comparison_notList {value : Json} (h : ∀ items, value ≠ .array items) :
    a.comparison .among value = .error (.invalidValue a.name (.notList value)) := by
  cases value with
  | array items => exact absurd rfl (h items)
  | _ => rfl

theorem comparison_single {op : Operator} (hnull : op.isNullCheck = false) (hamong : op ≠ .among) :
    ∃ g, ∀ value, a.comparison op value = (a.parameter value).map g := by
  cases op with
  | isNull => cases hnull
  | isNotNull => cases hnull
  | among => exact absurd rfl hamong
  | _ => exact ⟨_, fun _ => rfl⟩

/-- A value is compared with if it fits. -/
theorem exists_comparison {op : Operator} {value : Json} :
    (∃ k, a.comparison op value = .ok k) ↔ a.kind.Fits op value := by
  constructor
  · rintro ⟨k, h⟩
    cases comparison_ok h with
    | nullCheck hnull => exact .nullCheck hnull
    | @among _ items ps hitems hps =>
      obtain rfl : value = .array items := by
        cases value <;> cases hitems
        rfl
      exact .among (((parameters_settle items).map _).ok.1 ⟨_, h⟩)
    | contains hp => exact .single (by decide) ⟨_, hp⟩
    | value _ hamong _ hp => exact .single hamong ⟨_, hp⟩
  · intro h
    cases h with
    | nullCheck hnull => exact ⟨_, comparison_nullCheck hnull value⟩
    | among hitems =>
      rw [comparison_array]
      exact ((parameters_settle _).map _).ok.2 hitems
    | single hamong hvalue =>
      obtain ⟨p, hp⟩ := hvalue
      cases hnull : op.isNullCheck with
      | true => exact ⟨_, comparison_nullCheck hnull value⟩
      | false =>
        obtain ⟨g, hg⟩ := comparison_single (a := a) hnull hamong
        exact ⟨g p, (hg value).trans (check_map_ok.2 ⟨p, parameter_eq_ok.2 hp, rfl⟩)⟩

theorem comparison_eq_error {op : Operator} {value : Json} {e : RuleError} :
    a.comparison op value = .error e ↔ ∃ f, a.kind.Misfit op value f ∧ .invalidValue a.name f = e := by
  constructor
  · intro h
    cases hnull : op.isNullCheck with
    | true =>
      rw [comparison_nullCheck hnull] at h
      cases h
    | false =>
      by_cases hamong : op = .among
      · subst hamong
        by_cases hlist : ∃ items, value = .array items
        · obtain ⟨items, rfl⟩ := hlist
          rw [comparison_array, check_map_error, (parameters_settle items).error, firstFault_invalidValue] at h
          obtain ⟨e', he', rfl⟩ := h
          exact ⟨_, .item he', rfl⟩
        · have hlist := not_exists.1 hlist
          rw [comparison_notList hlist] at h
          cases h
          exact ⟨_, .notList hlist, rfl⟩
      · obtain ⟨g, hg⟩ := comparison_single (a := a) hnull hamong
        rw [hg, check_map_error, parameter_eq_error] at h
        obtain ⟨e', he', rfl⟩ := h
        exact ⟨_, .single hnull hamong he', rfl⟩
  · rintro ⟨f, hf, rfl⟩
    cases hf with
    | notList hlist => exact comparison_notList hlist
    | @item items e hitem =>
      rw [comparison_array, check_map_error, (parameters_settle items).error, firstFault_invalidValue]
      exact ⟨_, hitem, rfl⟩
    | single hnull hamong hvalue =>
      obtain ⟨g, hg⟩ := comparison_single (a := a) hnull hamong
      rw [hg, check_map_error, parameter_eq_error]
      exact ⟨_, hvalue, rfl⟩

end Attribute

/-! ## Nodes -/

/-- A rule that is looked at on its own, with the entity that the rows around it are of. -/
inductive Rule.Node where
  /-- A condition. -/
  | condition (scope : Uuid) (condition : Condition)
  /-- A relationship to other rows. -/
  | relationship (scope id : Uuid)

mutual

/-- The nodes of a rule on rows of an entity, in document order: a relationship, then those of the criteria behind it on
rows of the entity that it leads to. Criteria behind a relationship that leads nowhere from here are on no rows at
all, so they have no nodes. -/
def Rule.nodes (d : Definitions) (scope : Uuid) : Rule → List Rule.Node
  | .condition c => [.condition scope c]
  | .nested ⟨_, _, rs⟩ => Rule.allNodes d scope rs
  | .related id ⟨_, _, rs⟩ =>
    .relationship scope id :: match (d.relationship? id).bind fun r => r.from? scope with
      | some t => Rule.allNodes d t.relatedEntityId rs
      | none => []

/-- The nodes of rules on rows of an entity, in document order. -/
def Rule.allNodes (d : Definitions) (scope : Uuid) : List Rule → List Rule.Node
  | [] => []
  | r :: rs => r.nodes d scope ++ Rule.allNodes d scope rs

end

namespace Rule.Node

/-- **A node is in order**, with nothing but the definitions at hand. -/
inductive WellFormed (d : Definitions) : Node → Prop
  | condition {scope : Uuid} {c : Condition} {a : Attribute} {op : Operator} : d.Usable c.attributeId scope a →
      Operator.parse? c.operator = some op → op ∈ a.kind.operators → a.kind.Fits op c.value →
      WellFormed d (.condition scope c)
  | relationship {scope id : Uuid} {r : Relationship} {t : Traversal} {here there : Attribute} :
      d.relationship? id = some r → r.from? scope = some t → d.Usable t.localAttributeId scope here →
      d.Usable t.relatedAttributeId t.relatedEntityId there → WellFormed d (.relationship scope id)

/-- **The first thing that is wrong with a node.** -/
inductive Fault (d : Definitions) : Node → RuleError → Prop
  | subject {scope : Uuid} {c : Condition} {e : RuleError} : d.AttributeFault c.attributeId scope e →
      Fault d (.condition scope c) e
  | operator {scope : Uuid} {c : Condition} {a : Attribute} : d.Usable c.attributeId scope a →
      (∀ op, Operator.parse? c.operator = some op → op ∉ a.kind.operators) →
      Fault d (.condition scope c) (.unsupportedOperator c.operator a.name a.kind)
  | value {scope : Uuid} {c : Condition} {a : Attribute} {op : Operator} {f : ValueFault} :
      d.Usable c.attributeId scope a → Operator.parse? c.operator = some op → op ∈ a.kind.operators →
      a.kind.Misfit op c.value f → Fault d (.condition scope c) (.invalidValue a.name f)
  | notHeld {scope id : Uuid} : d.relationship? id = none → Fault d (.relationship scope id) (.relationshipNotFound id)
  | foreign {scope id : Uuid} {r : Relationship} : d.relationship? id = some r → r.from? scope = none →
      Fault d (.relationship scope id) (.foreignRelationship r.name scope)
  | localKey {scope id : Uuid} {r : Relationship} {t : Traversal} {e : RuleError} : d.relationship? id = some r →
      r.from? scope = some t → d.AttributeFault t.localAttributeId scope e → Fault d (.relationship scope id) e
  | relatedKey {scope id : Uuid} {r : Relationship} {t : Traversal} {here : Attribute} {e : RuleError} :
      d.relationship? id = some r → r.from? scope = some t → d.Usable t.localAttributeId scope here →
      d.AttributeFault t.relatedAttributeId t.relatedEntityId e → Fault d (.relationship scope id) e

variable {d : Definitions}

theorem exists_resolve {scope : Uuid} {c : Condition} :
    (∃ t, c.resolve d scope = .ok t) ↔ (Node.condition scope c).WellFormed d := by
  constructor
  · rintro ⟨t, h⟩
    rw [Condition.resolve] at h
    obtain ⟨a, ha, h⟩ := check_bind_ok.1 h
    obtain ⟨op, hop, h⟩ := check_bind_ok.1 h
    obtain ⟨k, hk, h⟩ := check_bind_ok.1 h
    obtain ⟨hparse, hmem⟩ := Attribute.operator_eq_ok.1 hop
    exact .condition (Definitions.usable_eq_ok.1 ha) hparse hmem (Attribute.exists_comparison.1 ⟨k, hk⟩)
  · rintro (@⟨_, _, a, op, ha, hparse, hmem, hfits⟩ | _)
    obtain ⟨k, hk⟩ := Attribute.exists_comparison.2 hfits
    refine ⟨⟨a, k⟩, ?_⟩
    rw [Condition.resolve]
    refine check_bind_ok.2 ⟨a, Definitions.usable_eq_ok.2 ha, check_bind_ok.2 ⟨op, ?_, check_bind_ok.2 ⟨k, hk, rfl⟩⟩⟩
    exact Attribute.operator_eq_ok.2 ⟨hparse, hmem⟩

theorem resolve_eq_error {scope : Uuid} {c : Condition} {e : RuleError} :
    c.resolve d scope = .error e ↔ (Node.condition scope c).Fault d e := by
  rw [Condition.resolve, check_bind_error]
  constructor
  · rintro (h | ⟨a, ha, h⟩)
    · exact .subject (Definitions.usable_eq_error.1 h)
    · have ha := Definitions.usable_eq_ok.1 ha
      rcases check_bind_error.1 h with h | ⟨op, hop, h⟩
      · obtain ⟨hnone, rfl⟩ := Attribute.operator_eq_error.1 h
        exact .operator ha hnone
      · obtain ⟨hparse, hmem⟩ := Attribute.operator_eq_ok.1 hop
        rcases check_bind_error.1 h with h | ⟨k, _, h⟩
        · obtain ⟨f, hf, rfl⟩ := Attribute.comparison_eq_error.1 h
          exact .value ha hparse hmem hf
        · cases h
  · intro h
    cases h with
    | subject h => exact .inl (Definitions.usable_eq_error.2 h)
    | operator ha hnone =>
      exact .inr ⟨_, Definitions.usable_eq_ok.2 ha,
        check_bind_error.2 (.inl (Attribute.operator_eq_error.2 ⟨hnone, rfl⟩))⟩
    | @value _ _ a op f ha hparse hmem hf =>
      refine .inr ⟨a, Definitions.usable_eq_ok.2 ha, check_bind_error.2 (.inr ⟨op, ?_, check_bind_error.2 (.inl ?_)⟩)⟩
      · exact Attribute.operator_eq_ok.2 ⟨hparse, hmem⟩
      · exact Attribute.comparison_eq_error.2 ⟨_, hf, rfl⟩

theorem exists_join {scope id : Uuid} :
    (∃ join, d.join scope id = .ok join) ↔ (Node.relationship scope id).WellFormed d := by
  constructor
  · rintro ⟨join, h⟩
    obtain ⟨r, t, here, there, hr, ht, hd, hs, hn, hd', hs', hn', rfl⟩ := Definitions.join_ok h
    exact .relationship hr ht ⟨hd, hs, isSafeName_iff.1 hn⟩ ⟨hd', hs', isSafeName_iff.1 hn'⟩
  · rintro (_ | ⟨hr, ht, hhere, hthere⟩)
    rw [Definitions.join, hr]
    simp only [ht]
    exact ⟨_, check_bind_ok.2 ⟨_, Definitions.usable_eq_ok.2 hhere,
      check_bind_ok.2 ⟨_, Definitions.usable_eq_ok.2 hthere, rfl⟩⟩⟩

theorem join_eq_error {scope id : Uuid} {e : RuleError} :
    d.join scope id = .error e ↔ (Node.relationship scope id).Fault d e := by
  rw [Definitions.join]
  constructor
  · intro h
    cases hr : d.relationship? id with
    | none =>
      rw [hr] at h
      cases h
      exact .notHeld hr
    | some r =>
      rw [hr] at h
      dsimp only at h
      cases ht : r.from? scope with
      | none =>
        rw [ht] at h
        cases h
        exact .foreign hr ht
      | some t =>
        rw [ht] at h
        rcases check_bind_error.1 h with h | ⟨here, hhere, h⟩
        · exact .localKey hr ht (Definitions.usable_eq_error.1 h)
        · rcases check_bind_error.1 h with h | ⟨there, _, h⟩
          · exact .relatedKey hr ht (Definitions.usable_eq_ok.1 hhere) (Definitions.usable_eq_error.1 h)
          · cases h
  · intro h
    cases h with
    | notHeld hr => rw [hr]
    | foreign hr ht => simp only [hr, ht]
    | localKey hr ht h =>
      simp only [hr, ht]
      exact check_bind_error.2 (.inl (Definitions.usable_eq_error.2 h))
    | relatedKey hr ht hhere h =>
      simp only [hr, ht]
      refine check_bind_error.2 (.inr ⟨_, Definitions.usable_eq_ok.2 hhere, check_bind_error.2 (.inl ?_)⟩)
      exact Definitions.usable_eq_error.2 h

theorem settles_condition {scope : Uuid} {c : Condition} :
    Settles (WellFormed d) (Fault d) [.condition scope c] (c.resolve d scope) :=
  .single exists_resolve fun _ => resolve_eq_error

theorem settles_relationship {scope id : Uuid} :
    Settles (WellFormed d) (Fault d) [.relationship scope id] (d.join scope id) :=
  .single exists_join fun _ => join_eq_error

/-- **A node that is not in order has one fault, and a node that is in order has none.** -/
theorem existsUnique_fault (n : Node) : (∃! e, n.Fault d e) ↔ ¬n.WellFormed d := by
  cases n with
  | condition scope c => exact settles_condition.existsUnique_fault
  | relationship scope id => exact settles_relationship.existsUnique_fault

end Rule.Node

/-! ## Building -/

namespace Builder

open Rule

variable {d : Definitions} {α β : Type} {xs ys : List Node} {x : Build α} {b : Builder}

theorem settles_bind {f : α → Build β} (hx : Settles (Node.WellFormed d) (Node.Fault d) xs (x.run b).1)
    (hf : ∀ a b₁, x.run b = (.ok a, b₁) → Settles (Node.WellFormed d) (Node.Fault d) ys ((f a).run b₁).1) :
    Settles (Node.WellFormed d) (Node.Fault d) (xs ++ ys) ((x >>= f).run b).1 := by
  have h := hx.bind (f := fun a => ((f a).run (x.run b).2).1) fun a ha => hf a _ (Prod.ext ha rfl)
  rw [run_bind]
  revert h
  rcases x.run b with ⟨_ | a, b₁⟩ <;> exact id

/-- What is made of the result is no further check. -/
theorem settles_map (f : α → β) (hx : Settles (Node.WellFormed d) (Node.Fault d) xs (x.run b).1) :
    Settles (Node.WellFormed d) (Node.Fault d) xs ((x >>= fun a => pure (f a)).run b).1 := by
  have h : Settles (Node.WellFormed d) (Node.Fault d) (xs ++ []) ((x >>= fun a => pure (f a)).run b).1 :=
    settles_bind hx fun a _ _ => .nil (f a)
  rwa [List.append_nil] at h

theorem settles_check_bind {r : Except RuleError α} {f : α → Build β}
    (hr : Settles (Node.WellFormed d) (Node.Fault d) xs r)
    (hf : ∀ a, r = .ok a → Settles (Node.WellFormed d) (Node.Fault d) ys ((f a).run b).1) :
    Settles (Node.WellFormed d) (Node.Fault d) (xs ++ ys) ((liftM r >>= f).run b).1 := by
  have h := hr.bind (f := fun a => ((f a).run b).1) hf
  cases r <;> exact h

mutual

/-- **Building rules settles their nodes in document order**, whatever has been handed out before. -/
theorem rules_settle (row : Alias) (scope : Uuid) : ∀ (rs : List Rule) (b : Builder),
    Settles (Node.WellFormed d) (Node.Fault d) (Rule.allNodes d scope rs) ((rules d row scope rs).run b).1
  | [], b => by
    rw [rules, Rule.allNodes]
    exact .nil []
  | r :: rs, b => by
    rw [rules, Rule.allNodes]
    exact settles_bind (rule_settles row scope r b) fun ps b₁ _ => settles_map _ (rules_settle row scope rs b₁)

theorem rule_settles (row : Alias) (scope : Uuid) : ∀ (r : Rule) (b : Builder),
    Settles (Node.WellFormed d) (Node.Fault d) (r.nodes d scope) ((rule d row scope r).run b).1
  | .condition c, b => by
    rw [rule, Rule.nodes, ← List.append_nil [_]]
    exact settles_check_bind Node.settles_condition fun t _ => .nil _
  | .nested ⟨_, k, rs⟩, b => by
    rw [rule, Rule.nodes]
    exact settles_map _ (rules_settle row scope rs b)
  | .related id ⟨_, k, rs⟩, b => by
    rw [rule, Rule.nodes]
    refine settles_check_bind Node.settles_relationship fun join hj => ?_
    -- the rules behind the relationship are built on rows of the entity that it leads to
    obtain ⟨r, t, _, _, hr, ht, _, _, _, _, _, _, rfl⟩ := Definitions.join_ok hj
    rw [hr, Option.bind_some, ht]
    exact settles_map _ (rules_settle _ _ rs _)

end

end Builder

/-! ## Queries -/

/-- The nodes of criteria on rows of an entity, in document order. -/
def Criteria.nodes (d : Definitions) (entity : Uuid) (c : Criteria) : List Rule.Node := Rule.allNodes d entity c.rules

/-- **The query for an entity settles the nodes of its criteria.** -/
theorem membershipQuery_settles (d : Definitions) (c : Criteria) (entity : Uuid) :
    Settles (Rule.Node.WellFormed d) (Rule.Node.Fault d) (c.nodes d entity) (membershipQuery d c entity) := by
  have hclause (b : Builder) : Settles (Rule.Node.WellFormed d) (Rule.Node.Fault d) (c.nodes d entity)
      ((Builder.clause d (.numbered 1) entity c).run b).1 := by
    rw [Builder.clause]
    exact Builder.settles_map _ (Builder.rules_settle _ entity c.rules b)
  rw [membershipQuery_eq]
  exact (hclause _).map _

/-- **A query is made exactly of rules that are in order**: it exists if and only if every condition and every
relationship is, each on rows of the entity in scope there. If it does not exist, the error is the first fault of the
first of them in document order that is not. -/
theorem membershipQuery_checks (d : Definitions) (c : Criteria) (entity : Uuid) :
    ((∃ q, membershipQuery d c entity = .ok q) ↔ ∀ n ∈ c.nodes d entity, n.WellFormed d) ∧
    ∀ e, membershipQuery d c entity = .error e ↔
      ∃ before n after, c.nodes d entity = before ++ n :: after ∧ (∀ m ∈ before, m.WellFormed d) ∧ n.Fault d e :=
  ⟨(membershipQuery_settles d c entity).ok, (membershipQuery_settles d c entity).error⟩

/-- Of a relationship that does not start here and an unknown attribute after it, the relationship is the fault. -/
example : membershipQuery Shop.definitions ⟨none, .and, [.nested ⟨none, .or, [.related (Shop.id 7) Criteria.empty]⟩,
    .condition ⟨Shop.id 9, "", none, "=", .null, none⟩]⟩ (Shop.id 3) =
    .error (.foreignRelationship "orders" (Shop.id 3)) := rfl

end Cohort
