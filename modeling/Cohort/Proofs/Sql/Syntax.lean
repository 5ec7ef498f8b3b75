import Cohort.Proofs.Sql.Token
import Cohort.Query.Predicate

/-!
# The structure of a query text

`Condition.read` and `Statement.read` read a query text by the rules of the language: the content of parentheses is
read on its own, as soon as they are closed (`reduce`); at each level `AND` binds tighter than `OR` (`level`). What a
level consists of keeps its order, and several conditions under one connective stay one node (`Condition.joined`).

* `level_intercalate`: conditions with one connective between them are read as one node under this connective.
* `Reduces us js`: the words `us` become the items `js`, whatever is around them.
* `Level us`: the words `us` neither close a parenthesis of their surroundings, nor leave one open, nor add a
  connective, and no level of parentheses inside mixes `AND` and `OR` (`unmixed`).
-/

namespace Cohort.Sql

/-! ## Conditions -/

/-- A type that a text is read as. -/
inductive CastType where
  | bigint
  | numeric
  | boolean
  | timestamptz
  deriving DecidableEq

/-- The name of a type. -/
def CastType.name : CastType → String
  | bigint => "bigint"
  | numeric => "numeric"
  | boolean => "boolean"
  | timestamptz => "timestamptz"

/-- The type with a name. -/
def CastType.ofName? (s : String) : Option CastType :=
  [("bigint", bigint), ("numeric", numeric), ("boolean", boolean), ("timestamptz", timestamptz)].lookup s

/-- A value that a condition speaks of. -/
inductive Operand where
  /-- The text of an attribute of a row, read as a type if one is given. -/
  | attribute (row name : String) (type : Option CastType)
  /-- The entity of a row. -/
  | entity (row : String)
  /-- A parameter. -/
  | parameter (number : Nat)
  deriving DecidableEq

/-- A condition on rows. -/
inductive Condition where
  /-- A condition that never holds. -/
  | never
  /-- Whether an operand has no value, or has one if `negated`. -/
  | nullTest (operand : Operand) (negated : Bool)
  /-- A comparison. -/
  | compare (left : Operand) (relation : Relation) (right : Operand)
  /-- The operand is one of the parameters. -/
  | among (operand : Operand) (parameters : List Nat)
  /-- There is a row, called by a name, that satisfies a condition. -/
  | existsRow (row : String) (condition : Condition)
  /-- Several conditions under a connective. -/
  | joined (connective : Connective) (parts : List Condition)

/-- Conditions under a connective; a single one stands for itself. -/
def Condition.join (connective : Connective) : List Condition → Condition
  | [c] => c
  | cs => .joined connective cs

/-- A connective with its conditions as one condition of a list, which is missing if there are none. -/
def Condition.group (connective : Connective) : List Condition → List Condition
  | [] => []
  | cs => [.join connective cs]

/-! ## Reading a level -/

/-- What a level of parentheses consists of. -/
inductive Item where
  /-- A word. -/
  | token (token : Token)
  /-- An attribute of a row, in parentheses. -/
  | member (row name : String)
  /-- A list of parameters, in parentheses. -/
  | parameters (numbers : List Nat)
  /-- The rows that satisfy a condition, in parentheses. -/
  | rows (row : String) (condition : Condition)
  /-- A condition, in parentheses. -/
  | group (condition : Condition)

/-- The connective that an item is. -/
def Item.connective? : Item → Option Connective
  | .token (.keyword .and) => some .and
  | .token (.keyword .or) => some .or
  | _ => none

/-- The items between those that are a connective. -/
def split (k : Connective) (is : List Item) : List (List Item) := is.splitOnP fun i => i.connective? == some k

/-- An operand at the start of some items, and what follows it. -/
def operand? : List Item → Option (Operand × List Item)
  | .member row name :: .token .cast :: .token (.word t) :: is =>
    (CastType.ofName? t).map fun t => (.attribute row name (some t), is)
  | .member row name :: is => some (.attribute row name none, is)
  | .token (.word row) :: .token .dot :: .token (.word field) :: is =>
    if field = "entity_definition_id" then some (.entity row, is) else none
  | .token (.parameter n) :: is => some (.parameter n, is)
  | _ => none

/-- A condition on an operand. -/
def test? (o : Operand) : List Item → Option Condition
  | [.token (.keyword .is), .token (.keyword .null)] => some (.nullTest o false)
  | [.token (.keyword .is), .token (.keyword .not), .token (.keyword .null)] => some (.nullTest o true)
  | [.token (.keyword .oneOf), .parameters ns] => some (.among o ns)
  | .token (.relation r) :: is =>
    match operand? is with
    | some (o', []) => some (.compare o r o')
    | _ => none
  | _ => none

/-- A condition without connectives. -/
def factor : List Item → Option Condition
  | [.token (.keyword .falsity)] => some .never
  | [.token (.keyword .existsRow), .rows row c] => some (.existsRow row c)
  | [.group c] => some c
  | is => (operand? is).bind fun (o, rest) => test? o rest

/-- The condition that a level of parentheses makes: `OR` is looked for first, so `AND` binds tighter. -/
def level (is : List Item) : Option Condition :=
  ((split .or is).mapM fun s => ((split .and s).mapM factor).map (Condition.join .and)).map (Condition.join .or)

/-! ## Parentheses -/

/-- The parameters of a list, each after a comma. -/
def moreParameters : List Item → Option (List Nat)
  | [] => some []
  | .token .comma :: .token (.parameter n) :: is => (moreParameters is).map (n :: ·)
  | _ => none

/-- What the content of parentheses makes. -/
def Item.ofParens : List Item → Option Item
  | [.token (.word row), .token .dot, .token (.word field), .token .arrow, .token (.quoted name)] =>
    if field = "attributes" then some (.member row name) else none
  | .token (.parameter n) :: is => (moreParameters is).map fun ns => .parameters (n :: ns)
  | .token (.keyword .select) :: .token (.number 1) :: .token (.keyword .fromRows) :: .token (.word table) ::
      .token (.word row) :: .token (.keyword .whereHolds) :: is =>
    if table = rowTable then (level is).map (.rows row) else none
  | is => (level is).map .group

/-- The items of the outermost level. `outer` are the items before each parenthesis that is open, from the innermost
one, and `is` those of the level that is being read. -/
def reduce : List (List Item) → List Item → List Token → Option (List Item)
  | outer, is, [] => if outer.isEmpty then some is else none
  | outer, is, .openParen :: ts => reduce (is :: outer) [] ts
  | outer, is, .closeParen :: ts =>
    match outer with
    | [] => none
    | before :: outer => (Item.ofParens is).bind fun i => reduce outer (before ++ [i]) ts
  | outer, is, t :: ts => reduce outer (is ++ [.token t]) ts

/-- The items of a text. -/
def items (text : String) : Option (List Item) := (tokens text).bind (reduce [] [])

/-- The condition that a text makes. -/
def Condition.read (text : String) : Option Condition := (items text).bind level

/-- A query for the rows that satisfy a condition, in which they go by a name. -/
structure Statement where
  /-- The name. -/
  row : String
  /-- The condition. -/
  condition : Condition

/-- The query that the items of the outermost level make. -/
def Statement.ofItems : List Item → Option Statement
  | .token (.keyword .select) :: .token (.word field) :: .token (.keyword .fromRows) :: .token (.word table) ::
      .token (.word row) :: .token (.keyword .whereHolds) :: is =>
    if field = "id" ∧ table = rowTable then (level is).map (Statement.mk row) else none
  | _ => none

/-- The query that a text makes. -/
def Statement.read (text : String) : Option Statement := (items text).bind Statement.ofItems

/-- The connective that a word is. -/
def Token.connective? : Token → Option Connective
  | .keyword .and => some .and
  | .keyword .or => some .or
  | _ => none

/-- Whether all parentheses close and no level of them mixes `AND` and `OR`. `outer` are the connectives seen at the
levels around, from the innermost one, and `k` the one seen at the level that is being read. -/
def unmixed : List (Option Connective) → Option Connective → List Token → Bool
  | outer, _, [] => outer.isEmpty
  | outer, k, .openParen :: ts => unmixed (k :: outer) none ts
  | outer, _, .closeParen :: ts =>
    match outer with
    | [] => false
    | k :: outer => unmixed outer k ts
  | outer, k, t :: ts =>
    match t.connective? with
    | none => unmixed outer k ts
    | some c => (k == none || k == some c) && unmixed outer (some c) ts

/-! ## Levels under one connective -/

/-- The keyword of a connective. -/
def connector : Connective → Token
  | .and => .keyword .and
  | .or => .keyword .or

theorem connective?_connector (k : Connective) : (Item.token (connector k)).connective? = some k := by
  cases k <;> rfl

/-- Items without a connective. -/
def Plain (is : List Item) : Prop := ∀ i ∈ is, i.connective? = none

theorem split_plain {is : List Item} (h : Plain is) (k : Connective) : split k is = [is] := by
  unfold split
  rw [List.splitOnP_eq_singleton]
  intro i hi
  rw [h i hi]
  rfl

theorem split_cons {is : List Item} (h : Plain is) (k : Connective) (js : List Item) :
    split k (is ++ .token (connector k) :: js) = is :: split k js := by
  unfold split
  rw [List.splitOnP_append_cons_of_forall_mem _ _ (by simp [connective?_connector])]
  intro i hi
  rw [h i hi]
  rfl

theorem split_intercalate (k : Connective) : ∀ (segments : List (List Item)), segments ≠ [] →
    (∀ is ∈ segments, Plain is) → split k ([.token (connector k)].intercalate segments) = segments
  | [is], _, h => by
    rw [List.intercalate_singleton]
    exact split_plain (h is List.mem_cons_self) k
  | is :: js :: segments, _, h => by
    have ih := split_intercalate k (js :: segments) (by simp) fun i hi => h i (List.mem_cons_of_mem _ hi)
    rw [List.intercalate_cons_cons, List.append_assoc, List.singleton_append,
      split_cons (h is List.mem_cons_self), ih]

theorem mem_intercalate {α : Type} {x a : α} : ∀ {xss : List (List α)}, x ∈ [a].intercalate xss →
    x = a ∨ ∃ xs ∈ xss, x ∈ xs
  | [], h => by cases h
  | [xs], h => by
    rw [List.intercalate_singleton] at h
    exact .inr ⟨xs, List.mem_cons_self, h⟩
  | xs :: ys :: xss, h => by
    rw [List.intercalate_cons_cons, List.mem_append, List.mem_append, List.mem_singleton] at h
    rcases h with (h | h) | h
    · exact .inr ⟨xs, List.mem_cons_self, h⟩
    · exact .inl h
    · exact (mem_intercalate h).imp id fun ⟨zs, hzs, h⟩ => ⟨zs, List.mem_cons_of_mem _ hzs, h⟩

/-- A level under one connective is not cut at the other one. -/
theorem split_intercalate_other {k k' : Connective} (hk : k ≠ k') {segments : List (List Item)}
    (h : ∀ is ∈ segments, Plain is) : split k' ([.token (connector k)].intercalate segments) =
      [[.token (connector k)].intercalate segments] := by
  unfold split
  rw [List.splitOnP_eq_singleton]
  intro i hi
  rcases mem_intercalate hi with hi | ⟨is, his, hi⟩
  · rw [hi, connective?_connector]
    simpa using hk
  · rw [h is his i hi]
    rfl

theorem mapM_eq_some {α β : Type} {f : α → Option β} {g : α → β} : ∀ {xs : List α}, (∀ x ∈ xs, f x = some (g x)) →
    xs.mapM f = some (xs.map g)
  | [], _ => rfl
  | x :: xs, h => by
    rw [List.mapM_cons, h x List.mem_cons_self, mapM_eq_some fun y hy => h y (List.mem_cons_of_mem _ hy)]
    rfl

/-- **Conditions with one connective between them are read as one node under this connective.** -/
theorem level_intercalate {α : Type} (k : Connective) {xs : List α} {f : α → List Item} {g : α → Condition}
    (hplain : ∀ x ∈ xs, Plain (f x)) (hfactor : ∀ x ∈ xs, factor (f x) = some (g x)) (hne : xs ≠ []) :
    level ([.token (connector k)].intercalate (xs.map f)) = some (.join k (xs.map g)) := by
  have hsegments : ∀ is ∈ xs.map f, Plain is := by
    intro is his
    obtain ⟨x, hx, rfl⟩ := List.mem_map.1 his
    exact hplain x hx
  have hne' : xs.map f ≠ [] := by simpa using hne
  unfold level
  -- Under `AND` the cut at `OR` leaves one segment; under `OR` no segment is cut any further.
  cases k with
  | and =>
    have hparts : (xs.map f).mapM factor = some (xs.map g) := by
      rw [List.mapM_map]
      exact mapM_eq_some hfactor
    rw [split_intercalate_other (by decide) hsegments, List.mapM_cons, split_intercalate .and _ hne' hsegments, hparts]
    rfl
  | or =>
    have hone : ∀ x ∈ xs, ((split .and (f x)).mapM factor).map (Condition.join .and) = some (g x) := by
      intro x hx
      rw [split_plain (hplain x hx)]
      simp [hfactor x hx, Condition.join]
    rw [split_intercalate .or _ hne' hsegments, List.mapM_map]
    exact congrArg (Option.map (Condition.join .or)) (mapM_eq_some hone)

/-! ## Words that become items -/

/-- Some words become some items, whatever is around them. -/
def Reduces (us : List Token) (js : List Item) : Prop :=
  ∀ outer is ts, reduce outer is (us ++ ts) = reduce outer (is ++ js) ts

theorem Reduces.append {us vs : List Token} {js ks : List Item} (h : Reduces us js) (h' : Reduces vs ks) :
    Reduces (us ++ vs) (js ++ ks) := by
  intro outer is ts
  rw [List.append_assoc, h, h', List.append_assoc]

theorem reduces_nil : Reduces [] [] := by
  intro outer is ts
  rw [List.nil_append, List.append_nil]

/-- A word other than a parenthesis. -/
def Token.isInner : Token → Bool
  | .openParen | .closeParen => false
  | _ => true

theorem reduces_token {t : Token} (ht : t.isInner = true) : Reduces [t] [.token t] := by
  intro outer is ts
  cases t <;> first | rfl | cases ht

theorem reduces_tokens : ∀ {ts : List Token}, (∀ t ∈ ts, t.isInner = true) → Reduces ts (ts.map .token)
  | [], _ => reduces_nil
  | t :: _, h => (reduces_token (h t List.mem_cons_self)).append
    (reduces_tokens fun u hu => h u (List.mem_cons_of_mem _ hu))

theorem Reduces.paren {us : List Token} {js : List Item} {i : Item} (h : Reduces us js)
    (hi : Item.ofParens js = some i) : Reduces (.openParen :: (us ++ [.closeParen])) [i] := by
  intro outer is ts
  rw [List.cons_append, reduce, List.append_assoc, h, List.nil_append, List.singleton_append, reduce, hi,
    Option.bind_some]

theorem reduces_intercalate {α : Type} (k : Connective) {f : α → List Token} {g : α → List Item} : ∀ (xs : List α),
    (∀ x ∈ xs, Reduces (f x) (g x)) →
    Reduces ([connector k].intercalate (xs.map f)) ([.token (connector k)].intercalate (xs.map g))
  | [], _ => reduces_nil
  | [x], h => by
    simpa using h x List.mem_cons_self
  | x :: y :: xs, h => by
    have hk : Reduces [connector k] [.token (connector k)] := reduces_token (by cases k <;> rfl)
    have ih := reduces_intercalate k (y :: xs) fun z hz =>
      h z (List.mem_cons_of_mem _ hz)
    simp only [List.map_cons, List.intercalate_cons_cons] at ih ⊢
    exact ((h x List.mem_cons_self).append hk).append ih

theorem Reduces.eq {us : List Token} {js : List Item} (h : Reduces us js) : reduce [] [] us = some js := by
  have := h [] [] []
  rwa [List.append_nil, List.nil_append, reduce] at this

/-! ## Words that keep to their level -/

/-- Some words leave the connective of their level and the parentheses around it as they are. -/
def Neutral (us : List Token) : Prop := ∀ outer k ts, unmixed outer k (us ++ ts) = unmixed outer k ts

theorem Neutral.append {us vs : List Token} (h : Neutral us) (h' : Neutral vs) : Neutral (us ++ vs) := by
  intro outer k ts
  rw [List.append_assoc, h, h']

theorem neutral_nil : Neutral [] := fun _ _ _ => rfl

/-- A word that is neither a parenthesis nor a connective. -/
def Token.isOrdinary (t : Token) : Bool := t.isInner && t.connective?.isNone

theorem neutral_token {t : Token} (ht : t.isOrdinary = true) : Neutral [t] := by
  intro outer k ts
  cases t with
  | keyword w => cases w <;> first | rfl | cases ht
  | openParen | closeParen => cases ht
  | _ => rfl

theorem neutral_tokens : ∀ {ts : List Token}, (∀ t ∈ ts, t.isOrdinary = true) → Neutral ts
  | [], _ => neutral_nil
  | t :: _, h => (neutral_token (h t List.mem_cons_self)).append
    (neutral_tokens fun u hu => h u (List.mem_cons_of_mem _ hu))

/-- Some words that stand at a level with one connective. -/
def Level (k : Connective) (us : List Token) : Prop :=
  ∀ outer, ∀ j ∈ [none, some k], ∀ ts, ∃ j' ∈ [none, some k], unmixed outer j (us ++ ts) = unmixed outer j' ts

theorem Neutral.level {us : List Token} (h : Neutral us) (k : Connective) : Level k us := fun outer j hj ts =>
  ⟨j, hj, h outer j ts⟩

theorem Level.append {k : Connective} {us vs : List Token} (h : Level k us) (h' : Level k vs) :
    Level k (us ++ vs) := by
  intro outer j hj ts
  obtain ⟨j₁, hj₁, h⟩ := h outer j hj (vs ++ ts)
  obtain ⟨j₂, hj₂, h'⟩ := h' outer j₁ hj₁ ts
  exact ⟨j₂, hj₂, by rw [List.append_assoc, h, h']⟩

theorem level_connector (k : Connective) : Level k [connector k] := by
  intro outer j hj ts
  refine ⟨some k, by simp, ?_⟩
  simp only [List.mem_cons, List.not_mem_nil, or_false] at hj
  rcases hj with rfl | rfl <;> cases k <;> simp [connector, unmixed, Token.connective?]

theorem level_connectors {k : Connective} : ∀ {uss : List (List Token)}, (∀ us ∈ uss, Level k us) →
    Level k ([connector k].intercalate uss)
  | [], _ => neutral_nil.level k
  | [us], h => by
    rw [List.intercalate_singleton]
    exact h us List.mem_cons_self
  | us :: vs :: uss, h => by
    rw [List.intercalate_cons_cons]
    exact ((h us List.mem_cons_self).append (level_connector k)).append
      (level_connectors fun ws hws => h ws (List.mem_cons_of_mem _ hws))

/-- A level in parentheses keeps to itself. -/
theorem Level.paren {k : Connective} {us : List Token} (h : Level k us) :
    Neutral (.openParen :: (us ++ [.closeParen])) := by
  intro outer j ts
  rw [List.cons_append, unmixed, List.append_assoc, List.singleton_append]
  obtain ⟨j', _, h⟩ := h (j :: outer) none (by simp) (.closeParen :: ts)
  rw [h, unmixed]

theorem Level.unmixed {k : Connective} {us : List Token} (h : Level k us) : unmixed [] none us = true := by
  obtain ⟨j', _, h⟩ := h [] none (by simp) []
  rw [List.append_nil] at h
  rw [h]
  rfl

/-! ## Pieces of a level -/

theorem isInner_of_isOrdinary {t : Token} (h : t.isOrdinary = true) : t.isInner = true := by
  rw [Token.isOrdinary, Bool.and_eq_true] at h
  exact h.1

theorem plain_tokens {ts : List Token} (h : ∀ t ∈ ts, t.isOrdinary = true) : Plain (ts.map .token) := by
  intro i hi
  obtain ⟨t, ht, rfl⟩ := List.mem_map.1 hi
  have hk := h t ht
  cases t with
  | keyword w => cases w <;> first | rfl | cases hk
  | _ => rfl

theorem plain_append {is js : List Item} (h : Plain is) (h' : Plain js) : Plain (is ++ js) := by
  intro i hi
  rcases List.mem_append.1 hi with hi | hi
  · exact h i hi
  · exact h' i hi

theorem reduces_ordinary {ts : List Token} (h : ∀ t ∈ ts, t.isOrdinary = true) : Reduces ts (ts.map .token) :=
  reduces_tokens fun t ht => isInner_of_isOrdinary (h t ht)

/-- Some words are read as a condition without connectives at its level. -/
structure Reads (us : List Token) (is : List Item) (c : Condition) : Prop where
  /-- They become the items. -/
  reduces : Reduces us is
  /-- None of these is a connective. -/
  plain : Plain is
  /-- Together they are the condition. -/
  factor : factor is = some c
  /-- Nothing around is changed. -/
  neutral : Neutral us

/-- Some words are read as a condition with one connective at its level. -/
structure ReadsLevel (k : Connective) (us : List Token) (is : List Item) (c : Condition) : Prop where
  /-- They become the items. -/
  reduces : Reduces us is
  /-- Together they are the condition. -/
  read : level is = some c
  /-- There is only this connective. -/
  uniform : Level k us

/-- Pieces with one connective between them. -/
theorem readsLevel {α : Type} (k : Connective) {xs : List α} {f : α → List Token} {g : α → List Item}
    {e : α → Condition} (hne : xs ≠ []) (h : ∀ x ∈ xs, Reads (f x) (g x) (e x)) :
    ReadsLevel k ([connector k].intercalate (xs.map f)) ([.token (connector k)].intercalate (xs.map g))
      (.join k (xs.map e)) := by
  refine ⟨reduces_intercalate k xs fun x hx => (h x hx).reduces, ?_, ?_⟩
  · exact level_intercalate k (fun x hx => (h x hx).plain) (fun x hx => (h x hx).factor) hne
  · refine level_connectors fun us hus => ?_
    obtain ⟨x, hx, rfl⟩ := List.mem_map.1 hus
    exact (h x hx).neutral.level k

/-- An item that only a condition starts with. -/
def Item.startsCondition : Item → Bool
  | .token (.keyword .falsity) | .token (.keyword .existsRow) | .member .. | .group _ => true
  | _ => false

theorem ofParens_condition {i : Item} (hi : i.startsCondition = true) (is : List Item) :
    Item.ofParens (i :: is) = (level (i :: is)).map .group := by
  cases i with
  | token t =>
    cases t with
    | keyword w => cases w <;> first | rfl | cases hi
    | _ => cases hi
  | member | group => rfl
  | parameters | rows => cases hi

/-- A condition in parentheses. -/
theorem ReadsLevel.group {k : Connective} {us : List Token} {i : Item} {is : List Item} {c : Condition}
    (h : ReadsLevel k us (i :: is) c) (hi : i.startsCondition = true) :
    Reads (.openParen :: (us ++ [.closeParen])) [.group c] c := by
  refine ⟨h.reduces.paren ?_, ?_, rfl, h.uniform.paren⟩
  · rw [ofParens_condition hi, h.read]
    rfl
  · intro j hj
    obtain rfl := List.mem_singleton.1 hj
    rfl

/-- The existence of a row that satisfies a condition. -/
theorem ReadsLevel.existsRow {k : Connective} {us : List Token} {is : List Item} {c : Condition}
    (h : ReadsLevel k us is c) (row : String) :
    Reads (.keyword .existsRow :: .openParen :: (([.keyword .select, .number 1, .keyword .fromRows, .word rowTable,
      .word row, .keyword .whereHolds] ++ us) ++ [.closeParen]))
      [.token (.keyword .existsRow), .rows row c] (.existsRow row c) := by
  let ts : List Token := [.keyword .select, .number 1, .keyword .fromRows, .word rowTable, .word row,
    .keyword .whereHolds]
  have hts : ∀ t ∈ ts, t.isOrdinary = true := by simp [ts, Token.isOrdinary, Token.isInner, Token.connective?]
  have hinner : ∀ t ∈ ts, t.isInner = true := by simp [ts, Token.isInner]
  refine ⟨?_, ?_, rfl, ?_⟩
  · refine (reduces_token rfl).append (((reduces_tokens hinner).append h.reduces).paren ?_)
    show (if rowTable = rowTable then (level is).map (Item.rows row) else none) = _
    rw [if_pos rfl, h.read]
    rfl
  · intro j hj
    simp only [List.mem_cons, List.not_mem_nil, or_false] at hj
    rcases hj with rfl | rfl <;> rfl
  · exact (neutral_token rfl).append (((neutral_tokens hts).level k).append h.uniform).paren

/-- A query for the rows that satisfy a condition. -/
theorem ReadsLevel.statement {k : Connective} {us : List Token} {is : List Item} {c : Condition}
    (h : ReadsLevel k us is c) (row : String) :
    (reduce [] [] ([.keyword .select, .word "id", .keyword .fromRows, .word rowTable, .word row,
      .keyword .whereHolds] ++ us)).bind Statement.ofItems = some ⟨row, c⟩ := by
  have hinner : ∀ t ∈ ([.keyword .select, .word "id", .keyword .fromRows, .word rowTable, .word row,
      .keyword .whereHolds] : List Token), t.isInner = true := by simp [Token.isInner]
  rw [((reduces_tokens hinner).append h.reduces).eq, Option.bind_some]
  show (if "id" = "id" ∧ rowTable = rowTable then (level is).map (Statement.mk row) else none) = _
  rw [if_pos ⟨rfl, rfl⟩, h.read]
  rfl

end Cohort.Sql
