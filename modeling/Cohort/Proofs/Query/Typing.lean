import Cohort.Proofs.Query.Reading
import Cohort.Proofs.Sql.Occurrence

/-!
# The types in a query

The text of a query casts the columns of an attribute to the type of its kind. `Parameter.HasType` says which values
are of such a type. In a text that goes with some parameters,
* a parameter is `Placed` if it stands for an entity behind `entity_definition_id =`, or for a value of the type of the
  column that it is compared with, alone or in a list;
* an operator is `Applied` if it compares an entity with a parameter, or stands behind a column and applies to the kind
  of the column.

Building makes predicates in which this holds (`Builder.Builds.typed`), and their words keep it
(`Predicate.fits_tokens`).

* `membershipQuery_typed`: the text of a query has it everywhere.
-/

namespace Cohort

open Sql

/-! ## Types of values -/

/-- A value is of the type that a column is cast to, or a text if there is no cast. -/
def Parameter.HasType : Parameter → Option CastType → Prop
  | .integer _, some .bigint => True
  | .numeric _, some .numeric => True
  | .boolean _, some .boolean => True
  | .instant _, some .timestamptz => True
  | .text _, none => True
  | _, _ => False

/-- A parameter is of the type that a column is cast to. -/
def HasTypeAt (ps : List Parameter) (n : Nat) (type : Option CastType) : Prop :=
  ∃ p, parameterAt ps n = some p ∧ p.HasType type

/-- A parameter is an entity. -/
def IsEntityAt (ps : List Parameter) (n : Nat) : Prop := ∃ u, parameterAt ps n = some (.uuid u)

theorem AttributeKind.numeric?_ok {s : String} {p : Parameter} (h : AttributeKind.numeric? s = .ok p) :
    ∃ d, p = .numeric d := by
  rw [AttributeKind.numeric?] at h
  split at h <;> cases h
  exact ⟨_, rfl⟩

/-- **What a value is coerced to is of the type that the column is cast to.** -/
theorem AttributeKind.coerce_hasType {kind : AttributeKind} {value : Json} {p : Parameter}
    (h : kind.coerce value = .ok p) : p.HasType kind.castType := by
  unfold AttributeKind.coerce at h
  split at h
  case h_4 | h_5 =>
    obtain ⟨d, rfl⟩ := AttributeKind.numeric?_ok h
    trivial
  all_goals first
    | (split at h <;> cases h; trivial)
    | (cases h; trivial)
    | cases h

theorem AttributeKind.coerce_all_hasType {kind : AttributeKind} {items : List Json} {ps : List Parameter}
    (h : List.Forall₂ (fun item p => kind.coerce item = .ok p) items ps) : ∀ p ∈ ps, p.HasType kind.castType := by
  induction h with
  | nil => exact fun _ hp => absurd hp List.not_mem_nil
  | cons hp _ ih => exact List.forall_mem_cons.2 ⟨AttributeKind.coerce_hasType hp, ih⟩

theorem containsPattern_hasType (p : Parameter) : (containsPattern p).HasType none := by
  cases p <;> trivial

/-- The operators for patterns. -/
def Operator.IsPattern (op : Operator) : Prop := op = .contains ∨ op = .matchesPattern

theorem AttributeKind.castType_of_pattern {kind : AttributeKind} {op : Operator} (h : kind.supports op = true)
    (hop : op.IsPattern) : kind.castType = none := by
  rcases hop with rfl | rfl <;> cases kind <;> first | rfl | exact absurd h (by decide)

theorem HasTypeAt.text {ps : List Parameter} {n : Nat} (h : HasTypeAt ps n none) :
    ∃ s, parameterAt ps n = some (.text s) := by
  obtain ⟨p, hp, htype⟩ := h
  cases p <;> first | exact ⟨_, hp⟩ | cases htype

/-- An operator applies to the kind whose cast a column has. -/
def Column.Supports (c : Column) (op : Operator) : Prop :=
  ∃ kind : AttributeKind, c.cast = kind.cast ∧ kind.supports op = true

/-! ## Predicates -/

mutual

/-- The columns, operators and parameters of a predicate go together. -/
def Predicate.Typed (ps : List Parameter) : Predicate → Prop
  | .never => True
  | .nullCheck column op => op.isNullCheck = true ∧ column.Supports op
  | .comparison column op n =>
      op.relation?.isSome = true ∧ column.Supports op ∧ HasTypeAt ps n column.castType
  | .membership column ns => column.Supports .among ∧ ∀ n ∈ ns, HasTypeAt ps n column.castType
  | .joined _ parts => Predicate.AllTyped ps parts
  | .related _ n outer inner _ parts =>
      IsEntityAt ps n ∧ (outer.cast = none ∧ inner.cast = none) ∧ Predicate.AllTyped ps parts

/-- The columns, operators and parameters of predicates go together. -/
def Predicate.AllTyped (ps : List Parameter) : List Predicate → Prop
  | [] => True
  | p :: qs => p.Typed ps ∧ Predicate.AllTyped ps qs

end

theorem Predicate.allTyped_append {ps : List Parameter} : ∀ {qs rs : List Predicate}, Predicate.AllTyped ps qs →
    Predicate.AllTyped ps rs → Predicate.AllTyped ps (qs ++ rs)
  | [], _, _, hrs => hrs
  | _ :: _, _, ⟨hq, hqs⟩, hrs => ⟨hq, Predicate.allTyped_append hqs hrs⟩

theorem allTyped_splice {ps : List Parameter} {k : Connective} : ∀ {qs : List Predicate}, Predicate.AllTyped ps qs →
    Predicate.AllTyped ps (Builder.splice k qs)
  | [], h => h
  | [_], h => h
  | _ :: _ :: _, h => ⟨h, trivial⟩

theorem Test.typed_predicate {d : Definitions} {scope : Uuid} {c : Condition} {t : Test}
    (ht : c.resolve d scope = .ok t) (row : Alias) {ps qs : List Parameter}
    (h : ps ++ t.comparison.parameters <+: qs) : (t.predicate row ps.length).Typed qs := by
  obtain ⟨_, _, _, op, _, hsupports, hk⟩ := Condition.resolve_ok ht
  have htype : (⟨row, t.subject.name, t.subject.kind.cast⟩ : Column).castType = t.subject.kind.castType :=
    Column.castType_of_cast rfl
  obtain ⟨a, k⟩ := t
  cases hk with
  | nullCheck hop => exact ⟨hop, a.kind, rfl, hsupports⟩
  | contains hp =>
    refine ⟨rfl, ⟨a.kind, rfl, hsupports⟩, _, parameterAt_next h, ?_⟩
    rw [htype, AttributeKind.castType_of_pattern hsupports (.inl rfl)]
    exact containsPattern_hasType _
  | value hnull hamong _ hp =>
    refine ⟨?_, ⟨a.kind, rfl, hsupports⟩, _, parameterAt_next h, htype ▸ AttributeKind.coerce_hasType hp⟩
    cases op with
    | isNull | isNotNull => cases hnull
    | among => exact absurd rfl hamong
    | _ => rfl
  | @among _ items vs _ hvs =>
    cases vs with
    | nil => trivial
    | cons v vs =>
      refine ⟨⟨a.kind, rfl, hsupports⟩, fun n hn => ?_⟩
      -- The numbers of the list denote the values that it was given, one by one.
      have hat : parameterAt qs n ∈ (v :: vs).map some := map_parameterAt h ▸ List.mem_map_of_mem hn
      obtain ⟨p, hp, hat⟩ := List.mem_map.1 hat
      exact ⟨p, hat.symm, htype ▸ AttributeKind.coerce_all_hasType hvs p hp⟩

namespace Builder

variable {d : Definitions} {row : Alias} {scope : Uuid} {rs : List Rule} {b b' : Builder} {ps : List Predicate}

/-- **The predicates that rules give go together with the parameters that are handed out for them.** -/
theorem Builds.typed (h : Builds d row scope rs b ps b') :
    ∀ {qs : List Parameter}, b'.parameters <+: qs → Predicate.AllTyped qs ps := by
  -- Parameters are only added, so a number denotes in the end what it denoted when it was handed out.
  induction h with
  | nil => exact fun _ => trivial
  | condition ht hrest ih =>
    intro qs hqs
    exact ⟨Test.typed_predicate ht _ (hrest.extends.parameters.trans hqs), ih hqs⟩
  | nested _ hrest ihc ih =>
    intro qs hqs
    exact Predicate.allTyped_append (allTyped_splice (ihc (hrest.extends.parameters.trans hqs))) (ih hqs)
  | related _ hc hrest ihc ih =>
    intro qs hqs
    have hafter := hrest.extends.parameters.trans hqs
    exact ⟨⟨⟨_, parameterAt_next (hc.extends.parameters.trans hafter)⟩, ⟨rfl, rfl⟩, ihc hafter⟩, ih hqs⟩

end Builder

/-! ## Words -/

/-- The words before a parameter of a list. -/
def listedTokens (ns : List Nat) : List Token := ns.flatMap fun n => [.parameter n, .comma]

/-- A parameter stands where a value of its type belongs. -/
inductive Placed (ps : List Parameter) (before : List Token) (n : Nat) : Prop
  /-- It is the entity of a row. -/
  | entity (row : String) : [.word row, .dot, .word "entity_definition_id", .relation .equal] <:+ before →
      IsEntityAt ps n → Placed ps before n
  /-- A column is compared with it. -/
  | compared (c : Column) (r : Relation) : c.tokens ++ [.relation r] <:+ before → HasTypeAt ps n c.castType →
      Placed ps before n
  /-- It is in a list behind a column. -/
  | listed (c : Column) (ms : List Nat) : c.tokens ++ ([.keyword .oneOf, .openParen] ++ listedTokens ms) <:+ before →
      HasTypeAt ps n c.castType → Placed ps before n

/-- An operator stands where it applies. -/
inductive Applied (ps : List Parameter) (before : List Token) (t : Token) (after : List Token) : Prop
  /-- It compares the entity of a row with a parameter. -/
  | entity (row : String) (n : Nat) : [.word row, .dot, .word "entity_definition_id"] <:+ before →
      [.relation .equal, .parameter n] <+: t :: after → IsEntityAt ps n → Applied ps before t after
  /-- It compares the keys of two rows, which are texts. -/
  | keys (outer inner : Column) : outer.tokens <:+ before → .relation .equal :: inner.tokens <+: t :: after →
      (outer.cast = none ∧ outer.Supports .equal) → (inner.cast = none ∧ inner.Supports .equal) →
      Applied ps before t after
  /-- It compares a column with a parameter. -/
  | comparison (c : Column) (op : Operator) (n : Nat) : c.tokens <:+ before → c.Supports op →
      op.tokens ++ [.parameter n] <+: t :: after → HasTypeAt ps n c.castType → Applied ps before t after
  /-- It tests a column for a value, or for those of a list. -/
  | test (c : Column) (op : Operator) : c.tokens <:+ before → c.Supports op → op.relation? = none →
      op.tokens <+: t :: after → Applied ps before t after

/-- A word goes together with those around it. -/
def Fits (ps : List Parameter) (before : List Token) (t : Token) (after : List Token) : Prop :=
  match t with
  | .parameter n => Placed ps before n
  | .relation _ | .keyword .oneOf | .keyword .is => Applied ps before t after
  | _ => True

section Words

variable {ps : List Parameter}

theorem Placed.behind {before : List Token} {n : Nat} (h : Placed ps before n) (us : List Token) :
    Placed ps (us ++ before) n := by
  have hend {vs : List Token} (hvs : vs <:+ before) : vs <:+ us ++ before := hvs.trans (List.suffix_append _ _)
  cases h with
  | entity row hb hn => exact .entity row (hend hb) hn
  | compared c r hb hn => exact .compared c r (hend hb) hn
  | listed c ms hb hn => exact .listed c ms (hend hb) hn

theorem Applied.within {before : List Token} {t : Token} {after : List Token} (h : Applied ps before t after)
    (us vs : List Token) : Applied ps (us ++ before) t (after ++ vs) := by
  have hend {ws : List Token} (hws : ws <:+ before) : ws <:+ us ++ before := hws.trans (List.suffix_append _ _)
  have hstart {ws : List Token} (hws : ws <+: t :: after) : ws <+: t :: (after ++ vs) :=
    hws.trans (List.prefix_append (t :: after) vs)
  cases h with
  | entity row n hb ha hn => exact .entity row n (hend hb) (hstart ha) hn
  | keys outer inner hb ha ho hi => exact .keys outer inner (hend hb) (hstart ha) ho hi
  | comparison c op n hb hs ha hn => exact .comparison c op n (hend hb) hs (hstart ha) hn
  | test c op hb hs hr ha => exact .test c op (hend hb) hs hr (hstart ha)

theorem stable_fits : Stable (Fits ps) := by
  intro before t after us vs h
  unfold Fits at h ⊢
  split
  · exact Placed.behind h us
  · exact Applied.within h us vs
  · exact Applied.within h us vs
  · exact Applied.within h us vs
  · trivial

/-- A word that goes together with any. -/
def Sql.Token.isFree : Token → Bool
  | .parameter _ | .relation _ | .keyword .oneOf | .keyword .is => false
  | _ => true

theorem fits_of_isFree {t : Token} (h : t.isFree = true) (before after : List Token) : Fits ps before t after := by
  unfold Fits
  split <;> first | cases h | trivial

theorem fits_free {us : List Token} (h : ∀ t ∈ us, t.isFree = true) : Everywhere (Fits ps) us :=
  everywhere_of_forall fun t ht => fits_of_isFree (h t ht)

theorem fits_connector (k : Connective) : Everywhere (Fits ps) [connector k] :=
  fits_free (by cases k <;> simp [connector, Token.isFree])

theorem fits_paren {us : List Token} (h : Everywhere (Fits ps) us) :
    Everywhere (Fits ps) (.openParen :: (us ++ [.closeParen])) :=
  .paren stable_fits (fits_free (by simp [Token.isFree])) (fits_free (by simp [Token.isFree])) h

theorem Column.fits_tokens (c : Column) : Everywhere (Fits ps) c.tokens := by
  refine fits_free ?_
  unfold Column.tokens
  cases c.castType <;> simp [castTokens, Token.isFree]

theorem Column.fits_behind {c : Column} {us : List Token}
    (h : Everywhere (fun before => Fits ps (c.tokens ++ before)) us) : Everywhere (Fits ps) (c.tokens ++ us) :=
  c.fits_tokens.behind stable_fits h

theorem fits_entityTokens {row : Alias} {n : Nat} (h : IsEntityAt ps n) :
    Everywhere (Fits ps) (entityTokens row n) := by
  have hfield : Everywhere (Fits ps) [.word row.text, .dot, .word "entity_definition_id"] :=
    fits_free (by simp [Token.isFree])
  refine hfield.behind stable_fits (everywhere_cons ?_ (everywhere_cons ?_ everywhere_nil))
  · exact .entity row.text n List.suffix_rfl List.prefix_rfl h
  · exact .entity row.text List.suffix_rfl h

theorem fits_keys {outer inner : Column} (ho : outer.cast = none) (hi : inner.cast = none) :
    Everywhere (Fits ps) (outer.tokens ++ .relation .equal :: inner.tokens) := by
  have hequal {c : Column} (hc : c.cast = none) : c.Supports .equal := ⟨.text, hc, by decide⟩
  refine outer.fits_behind (everywhere_cons ?_ ?_)
  · exact .keys outer inner (by simp) List.prefix_rfl ⟨ho, hequal ho⟩ ⟨hi, hequal hi⟩
  · have hinner : Everywhere (Fits ps) inner.tokens := inner.fits_tokens
    refine (hinner.shift stable_fits (outer.tokens ++ [.relation .equal])).imp fun before t after hfits => ?_
    rwa [List.append_assoc] at hfits

theorem fits_nullCheck {c : Column} {op : Operator} (hnull : op.isNullCheck = true) (hs : c.Supports op) :
    Everywhere (Fits ps) (c.tokens ++ op.tokens) := by
  have hfree {us : List Token} (h : ∀ t ∈ us, t.isFree = true) :
      Everywhere (fun before => Fits ps (c.tokens ++ .keyword .is :: before)) us :=
    everywhere_of_forall fun t ht before => fits_of_isFree (h t ht) _
  refine c.fits_behind ?_
  cases op with
  | isNull | isNotNull =>
    refine everywhere_cons ?_ (hfree (by simp [Token.isFree]))
    exact .test c _ (by simp) hs rfl List.prefix_rfl
  | _ => cases hnull

theorem fits_comparison {c : Column} {op : Operator} {n : Nat} (hr : op.relation?.isSome = true) (hs : c.Supports op)
    (hn : HasTypeAt ps n c.castType) : Everywhere (Fits ps) (c.tokens ++ (op.tokens ++ [.parameter n])) := by
  obtain ⟨r, hr⟩ := Option.isSome_iff_exists.1 hr
  have htokens : op.tokens = [.relation r] := by
    cases op <;> cases hr <;> rfl
  refine c.fits_behind ?_
  rw [htokens]
  refine everywhere_cons ?_ (everywhere_cons ?_ everywhere_nil)
  · exact .comparison c op n (by simp) hs (by rw [htokens]; exact List.prefix_rfl) hn
  · exact .compared c r List.suffix_rfl hn

theorem everywhere_parameterTokens : ∀ ns : List Nat, Everywhere
    (fun before t _ => t = .comma ∨ ∃ n ∈ ns, t = .parameter n ∧ ∃ ms, before = listedTokens ms) (parameterTokens ns)
  | [] => everywhere_nil
  | [n] => everywhere_cons (.inr ⟨n, List.mem_cons_self, rfl, [], rfl⟩) everywhere_nil
  | n :: m :: ns => by
    have ih := everywhere_parameterTokens (m :: ns)
    have htokens : parameterTokens (n :: m :: ns) = .parameter n :: .comma :: parameterTokens (m :: ns) := by
      rw [parameterTokens_cons, parameterTokens_cons]
      rfl
    rw [htokens]
    refine everywhere_cons (.inr ⟨n, List.mem_cons_self, rfl, [], rfl⟩) (everywhere_cons (.inl rfl) ?_)
    refine ih.imp fun before t _ h => h.imp_right ?_
    rintro ⟨l, hl, ht, ms, rfl⟩
    exact ⟨l, List.mem_cons_of_mem _ hl, ht, n :: ms, rfl⟩

theorem fits_membership {c : Column} {ns : List Nat} (hs : c.Supports .among)
    (hns : ∀ n ∈ ns, HasTypeAt ps n c.castType) : Everywhere (Fits ps)
      (c.tokens ++ (Operator.among.tokens ++ .openParen :: (parameterTokens ns ++ [.closeParen]))) := by
  -- The parenthesis in front of the list is seen together with the column, that behind it is free.
  have hopened : Everywhere (Fits ps) (c.tokens ++ ([.keyword .oneOf, .openParen] ++ parameterTokens ns)) := by
    refine c.fits_behind (everywhere_cons ?_ (everywhere_cons (fits_of_isFree rfl _ _) ?_))
    · exact .test c .among (by simp) hs rfl (List.prefix_append [Token.keyword .oneOf] _)
    · refine (everywhere_parameterTokens ns).imp fun before t after h => ?_
      obtain rfl | ⟨n, hn, rfl, ms, rfl⟩ := h
      · exact fits_of_isFree rfl _ _
      · exact .listed c ms List.suffix_rfl (hns n hn)
  have := hopened.append stable_fits (fits_free (by simp [Token.isFree]) : Everywhere (Fits ps) [.closeParen])
  rwa [List.append_assoc, List.append_assoc] at this

theorem fits_rowsTokens (row : Alias) {parts : List (List Token)} (h : ∀ us ∈ parts, Everywhere (Fits ps) us) :
    Everywhere (Fits ps) (rowsTokens row parts) := by
  have hfrom : Everywhere (Fits ps) [.keyword .fromRows, .word rowTable, .word row.text, .keyword .whereHolds] :=
    fits_free (by simp [Token.isFree])
  exact hfrom.append stable_fits (Everywhere.connect stable_fits (fits_connector .and) h)

theorem fits_groupTokens (k : Connective) {tss : List (List Token)} (h : ∀ us ∈ tss, Everywhere (Fits ps) us) :
    ∀ us ∈ groupTokens k tss, Everywhere (Fits ps) us := by
  cases tss with
  | nil => exact nofun
  | cons ts tss =>
    intro us hus
    obtain rfl := List.mem_singleton.1 hus
    exact fits_paren (Everywhere.connect stable_fits (fits_connector k) h)

mutual

/-- **The words of a predicate go together.** -/
theorem Predicate.fits_tokens : ∀ {p : Predicate}, p.Typed ps → Everywhere (Fits ps) p.tokens
  | .never, _ => fits_free (by simp [Predicate.tokens, Token.isFree])
  | .nullCheck _ _, ⟨hnull, hs⟩ => fits_nullCheck hnull hs
  | .comparison _ _ _, ⟨hr, hs, hn⟩ => fits_comparison hr hs hn
  | .membership _ _, ⟨hs, hns⟩ => fits_membership hs hns
  | .joined k qs, h =>
    fits_paren (Everywhere.connect stable_fits (fits_connector k) (Predicate.fits_tokensOfAll h))
  | .related row n outer inner k qs, ⟨hn, ⟨ho, hi⟩, hqs⟩ => by
    have hparts : ∀ us ∈ [entityTokens row n, outer.tokens ++ .relation .equal :: inner.tokens] ++
        groupTokens k (Predicate.tokensOfAll qs), Everywhere (Fits ps) us :=
      List.forall_mem_cons.2 ⟨fits_entityTokens hn, List.forall_mem_cons.2 ⟨fits_keys ho hi,
        fits_groupTokens k (Predicate.fits_tokensOfAll hqs)⟩⟩
    have hselect : Everywhere (Fits ps) [.keyword .select, .number 1] := fits_free (by simp [Token.isFree])
    have hexists : Everywhere (Fits ps) [.keyword .existsRow] := fits_free (by simp [Token.isFree])
    exact hexists.append stable_fits (fits_paren (hselect.append stable_fits (fits_rowsTokens row hparts)))

theorem Predicate.fits_tokensOfAll : ∀ {qs : List Predicate}, Predicate.AllTyped ps qs →
    ∀ us ∈ Predicate.tokensOfAll qs, Everywhere (Fits ps) us
  | [], _ => nofun
  | _ :: _, ⟨hq, hqs⟩ => List.forall_mem_cons.2 ⟨Predicate.fits_tokens hq, Predicate.fits_tokensOfAll hqs⟩

end

theorem fits_membershipTokens (row : Alias) {entity : Nat} {c : Clause} (hn : IsEntityAt ps entity)
    (h : Predicate.AllTyped ps c.parts) : Everywhere (Fits ps) (membershipTokens row entity c) := by
  have hparts : ∀ us ∈ entityTokens row entity :: groupTokens c.connective (Predicate.tokensOfAll c.parts),
      Everywhere (Fits ps) us :=
    List.forall_mem_cons.2 ⟨fits_entityTokens hn, fits_groupTokens c.connective (Predicate.fits_tokensOfAll h)⟩
  have hselect : Everywhere (Fits ps) [.keyword .select, .word "id"] := fits_free (by simp [Token.isFree])
  exact hselect.append stable_fits (fits_rowsTokens row hparts)

end Words

/-! ## Queries -/

/-- An operator whose words start with a relation states this relation. -/
theorem Operator.relation?_of_tokens {op : Operator} {r : Relation} {us vs : List Token}
    (h : op.tokens ++ us <+: .relation r :: vs) : op.relation? = some r ∧ us <+: vs := by
  cases op with
  | among | isNull | isNotNull => simp [Operator.tokens] at h
  | _ =>
    obtain ⟨hr, hus⟩ := List.cons_prefix_cons.1 h
    exact ⟨congrArg some (Token.relation.inj hr), hus⟩

theorem Operator.isPattern_of_relation? {op : Operator} {r : Relation} (h : op.relation? = some r)
    (hr : r = .like ∨ r = .ilike) : op.IsPattern := by
  rcases hr with rfl | rfl <;> cases op <;> first | exact .inl rfl | exact .inr rfl | cases h

/-- A pattern is a text, and what is compared with it has no cast. -/
theorem Applied.pattern {ps : List Parameter} {before : List Token} {r : Relation} {after : List Token}
    (h : Applied ps before (.relation r) after) (hr : r = .like ∨ r = .ilike) :
    ∃ (c : Column) (n : Nat) (s : String) (rest : List Token), c.tokens <:+ before ∧ c.castType = none ∧
      after = .parameter n :: rest ∧ parameterAt ps n = some (.text s) := by
  have hequal {us : List Token} (ha : .relation .equal :: us <+: .relation r :: after) : False := by
    obtain ⟨hr', _⟩ := List.cons_prefix_cons.1 ha
    cases hr'
    rcases hr with hr | hr <;> cases hr
  cases h with
  | entity row n _ ha _ => exact (hequal ha).elim
  | keys outer inner _ ha _ _ => exact (hequal ha).elim
  | comparison c op n hb hs ha hn =>
    obtain ⟨hop, rest, rfl⟩ := Operator.relation?_of_tokens ha
    obtain ⟨kind, hcast, hsupports⟩ := hs
    have hnone : c.castType = none := by
      rw [Column.castType_of_cast hcast]
      exact AttributeKind.castType_of_pattern hsupports (Operator.isPattern_of_relation? hop hr)
    obtain ⟨s, htext⟩ := HasTypeAt.text (hnone ▸ hn)
    exact ⟨c, n, s, rest, hb, hnone, rfl, htext⟩
  | test c op _ _ hnone ha =>
    rw [← List.append_nil op.tokens] at ha
    obtain ⟨hop, _⟩ := Operator.relation?_of_tokens ha
    rw [hnone] at hop
    cases hop

/-- **The text of a query is well typed with its parameters.**
* Every parameter in it is `Placed`.
* Every comparison, every `IN` and every `IS` in it is `Applied`.
* `LIKE` and `ILIKE` stand behind a column without cast and in front of a parameter that is a text. -/
theorem membershipQuery_typed {d : Definitions} {c : Criteria} {entity : Uuid} {q : Query}
    (h : membershipQuery d c entity = .ok q) : ∃ ts, tokens q.text = some ts ∧
      (∀ before n after, ts = before ++ .parameter n :: after → Placed q.parameters before n) ∧
      (∀ before t after, ts = before ++ t :: after → (∃ r, t = .relation r) ∨ t = .keyword .oneOf ∨ t = .keyword .is →
        Applied q.parameters before t after) ∧
      ∀ before r after, ts = before ++ .relation r :: after → r = .like ∨ r = .ilike →
        ∃ (column : Column) (n : Nat) (s : String) (rest : List Token), column.tokens <:+ before ∧
          column.castType = none ∧ after = .parameter n :: rest ∧ parameterAt q.parameters n = some (.text s) := by
  obtain ⟨ps, b, hb, rfl⟩ := membershipQuery_ok h
  have hentity : IsEntityAt b.parameters 1 :=
    ⟨entity, parameterAt_of_prefix hb.extends.parameters (Nat.le_refl 1)⟩
  have hfits := fits_membershipTokens (.numbered 1) (c := ⟨c.connective, ps⟩) hentity (hb.typed List.prefix_rfl)
  refine ⟨_, tokens_membershipText (isName_numbered 1) 1 (hb.allReadable (isName_numbered 1)), ?_, ?_, ?_⟩
  · intro before n after hsplit
    exact hfits before _ after hsplit
  · rintro before t after hsplit (⟨r, rfl⟩ | rfl | rfl) <;> exact hfits before _ after hsplit
  · intro before r after hsplit
    exact (hfits before _ after hsplit : Applied _ _ _ _).pattern

/-- The query for the customers of a shop whose name contains a text and who have an order of some totals. -/
theorem membershipQuery_typed_shop : ∃ q ts,
    membershipQuery Shop.definitions (Shop.criteria "ann" ["10", "20"]) (Shop.id 1) = .ok q ∧
      tokens q.text = some ts ∧ ∀ before n after, ts = before ++ .parameter n :: after →
        Placed q.parameters before n := by
  obtain ⟨q, h⟩ : ∃ q, membershipQuery Shop.definitions (Shop.criteria "ann" ["10", "20"]) (Shop.id 1) = .ok q :=
    exists_of_isOk (by decide +kernel)
  obtain ⟨ts, hts, hplaced, _⟩ := membershipQuery_typed h
  exact ⟨q, ts, h, hts, hplaced⟩

end Cohort
