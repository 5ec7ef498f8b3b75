import Cohort.Attribute.Parameter
import Cohort.Proofs.Sql.Syntax

/-!
# What a query text means

`Statement.selects` says which rows of a table a query selects, and `Statement.ids` gives their identifiers. Conditions
are true, false or unknown (`Truth`), and a row is selected if its condition is true. A name denotes the row of the
innermost query around it that introduces it, and `$n` denotes the parameter under the number `n` (`parameterAt`). A
condition with a name or a number that denotes nothing has no meaning.

How a text is read as a type, and how values other than texts and identifiers compare, is left to the engine
(`Engine`).
-/

namespace Cohort

/-! ## Numbers of parameters -/

/-- The parameter under a number, from one. -/
def parameterAt (ps : List Parameter) : Nat → Option Parameter
  | 0 => none
  | n + 1 => ps[n]?

/-- A parameter keeps its number when more are handed out. -/
theorem parameterAt_of_prefix {ps qs : List Parameter} (h : ps <+: qs) {n : Nat} (hn : n ≤ ps.length) :
    parameterAt qs n = parameterAt ps n := by
  obtain ⟨rs, rfl⟩ := h
  cases n with
  | zero => rfl
  | succ n => exact List.getElem?_append_left hn

/-- Parameters handed out after others are under the next numbers. -/
theorem map_parameterAt {ps vs qs : List Parameter} (h : ps ++ vs <+: qs) :
    (List.range' (ps.length + 1) vs.length).map (parameterAt qs) = vs.map some := by
  obtain ⟨rs, rfl⟩ := h
  refine List.ext_getElem (by simp) fun i hi _ => ?_
  have hlt : i < vs.length := by simpa using hi
  rw [List.getElem_map, List.getElem_map, List.getElem_range', show ps.length + 1 + 1 * i = ps.length + i + 1 by omega,
    parameterAt, List.append_assoc, List.getElem?_append_right (by omega), Nat.add_sub_cancel_left,
    List.getElem?_append_left hlt, List.getElem?_eq_getElem hlt]

theorem parameterAt_next {ps qs : List Parameter} {v : Parameter} (h : ps ++ [v] <+: qs) :
    parameterAt qs (ps.length + 1) = some v := by
  have := map_parameterAt h
  simpa using this

namespace Sql

/-! ## Truth -/

/-- True, false or unknown. -/
abbrev Truth := Option Bool

namespace Truth

/-- Both are true. -/
def and : Truth → Truth → Truth
  | some false, _ | _, some false => some false
  | some true, some true => some true
  | _, _ => none

/-- One of them is true. -/
def or : Truth → Truth → Truth
  | some true, _ | _, some true => some true
  | some false, some false => some false
  | _, _ => none

/-- All are true. -/
def all (ts : List Truth) : Truth := ts.foldr and (some true)

/-- One of them is true. -/
def any (ts : List Truth) : Truth := ts.foldr or (some false)

theorem and_eq_true {t u : Truth} : t.and u = some true ↔ t = some true ∧ u = some true := by
  rcases t with _ | _ | _ <;> rcases u with _ | _ | _ <;> decide

theorem all_eq_true : ∀ {ts : List Truth}, all ts = some true ↔ ∀ t ∈ ts, t = some true
  | [] => by simp [all]
  | t :: ts => by
    show t.and (all ts) = some true ↔ _
    rw [and_eq_true, all_eq_true, List.forall_mem_cons]

end Truth

/-- The truth of several conditions under a connective. -/
def combine : Connective → List Truth → Truth
  | .and => Truth.all
  | .or => Truth.any

theorem combine_singleton (k : Connective) (t : Truth) : combine k [t] = t := by
  cases k <;> rcases t with _ | _ | _ <;> rfl

/-! ## Values -/

/-- How values are read and compared. -/
structure Engine where
  /-- The values of the types that a text can be read as. -/
  Value : Type
  /-- The value that a text is read as. -/
  cast : CastType → String → Value
  /-- The value of a parameter. -/
  value : Parameter → Value
  /-- How values compare. -/
  compare : Relation → Value → Value → Truth
  /-- How texts compare other than by being the same. -/
  compareTexts : Relation → String → String → Truth

/-- A value of a column or a parameter. -/
inductive Datum (E : Engine) where
  | text (content : String)
  | uuid (id : Uuid)
  | value (value : E.Value)

/-- A row of the table. -/
structure Row where
  /-- Its identifier. -/
  id : Uuid
  /-- Its entity. -/
  entityId : Uuid
  /-- The texts of its attributes. -/
  attributes : String → Option String

variable (E : Engine)

/-- The value of a parameter. -/
def Datum.ofParameter : Parameter → Datum E
  | .text s => .text s
  | .uuid u => .uuid u
  | p => .value (E.value p)

/-- The text of an attribute, read as a type if one is given. -/
def Datum.ofText (type : Option CastType) (s : String) : Datum E :=
  match type with
  | none => .text s
  | some t => .value (E.cast t s)

variable {E}

/-- How two values compare; texts are not compared with values of other types. -/
def Datum.compare (r : Relation) : Datum E → Datum E → Truth
  | .text s, .text t =>
    match r with
    | .equal => some (s == t)
    | .notEqual => some (s != t)
    | r => E.compareTexts r s t
  | .uuid u, .uuid v =>
    match r with
    | .equal => some (u == v)
    | .notEqual => some (u != v)
    | _ => none
  | .value a, .value b => E.compare r a b
  | _, _ => none

/-- How two values compare if they are there; otherwise it is unknown. -/
def compareValues (r : Relation) : Option (Datum E) → Option (Datum E) → Truth
  | some a, some b => a.compare r b
  | _, _ => none

/-! ## Conditions -/

/-- The rows that names denote, the innermost first. -/
abbrev Scope := List (String × Row)

variable (E) (table : List Row) (ps : List Parameter)

/-- The value of an operand, which may be missing. -/
def Operand.eval (names : Scope) : Operand → Option (Option (Datum E))
  | .attribute row name type => (names.lookup row).map fun r => (r.attributes name).map (Datum.ofText E type)
  | .entity row => (names.lookup row).map fun r => some (.uuid r.entityId)
  | .parameter n => (parameterAt ps n).map fun p => some (.ofParameter E p)

mutual

/-- The truth of a condition. -/
def Condition.eval (names : Scope) : Condition → Option Truth
  | .never => some (some false)
  | .nullTest operand negated => (operand.eval E ps names).map fun v => some (v.isNone != negated)
  | .compare left r right => do
    let a ← left.eval E ps names
    let b ← right.eval E ps names
    return compareValues r a b
  | .among operand numbers => do
    let a ← operand.eval E ps names
    let bs ← numbers.mapM fun n => (Operand.parameter n).eval E ps names
    return Truth.any (bs.map (compareValues .equal a))
  | .existsRow row condition => do
    let ts ← table.mapM fun r => condition.eval ((row, r) :: names)
    return some (ts.any (· == some true))
  | .joined connective parts => (Condition.evalAll names parts).map (combine connective)

/-- The truths of conditions. -/
def Condition.evalAll (names : Scope) : List Condition → Option (List Truth)
  | [] => some []
  | c :: cs => do
    let t ← c.eval names
    let ts ← Condition.evalAll names cs
    return t :: ts

end

/-- Whether a query selects a row. -/
def Statement.selects (s : Statement) (row : Row) : Option Bool :=
  (s.condition.eval E table ps [(s.row, row)]).map (· == some true)

/-- The identifiers of the rows that a query selects, in the order of the table. -/
def Statement.ids (s : Statement) : Option (List Uuid) :=
  (table.mapM fun row => (s.selects E table ps row).map fun b => if b then [row.id] else []).map List.flatten

variable {E table ps}

/-- A query that selects the rows with a property gives their identifiers. -/
theorem Statement.ids_eq {s : Statement} {p : Row → Bool} (h : ∀ row, s.selects E table ps row = some (p row)) :
    s.ids E table ps = some ((table.filter p).map Row.id) := by
  have hflat (rows : List Row) : (rows.map fun row => if p row then [row.id] else []).flatten =
      (rows.filter p).map Row.id := by
    induction rows with
    | nil => rfl
    | cons row rows ih =>
      rw [List.map_cons, List.flatten_cons, ih, List.filter_cons]
      cases p row <;> rfl
  rw [Statement.ids, mapM_eq_some fun row _ => congrArg (Option.map _) (h row)]
  exact congrArg some (hflat table)

theorem Condition.evalAll_append {names : Scope} : ∀ {cs ds : List Condition} {ts us : List Truth},
    Condition.evalAll E table ps names cs = some ts → Condition.evalAll E table ps names ds = some us →
    Condition.evalAll E table ps names (cs ++ ds) = some (ts ++ us)
  | [], _, _, _, h, h' => by
    cases h
    exact h'
  | c :: cs, ds, ts, us, h, h' => by
    rw [Condition.evalAll] at h
    obtain ⟨t, ht, h⟩ := Option.bind_eq_some_iff.1 h
    obtain ⟨ts', hts, h⟩ := Option.bind_eq_some_iff.1 h
    cases h
    rw [List.cons_append, Condition.evalAll, ht, Condition.evalAll_append hts h']
    rfl

/-- A single condition under a connective has its own truth. -/
theorem Condition.eval_join {names : Scope} (k : Connective) {cs : List Condition} {ts : List Truth} (hne : cs ≠ [])
    (h : Condition.evalAll E table ps names cs = some ts) :
    (Condition.join k cs).eval E table ps names = some (combine k ts) := by
  match cs, hne with
  | [c], _ =>
    rw [Condition.evalAll] at h
    obtain ⟨t, ht, h⟩ := Option.bind_eq_some_iff.1 h
    cases h
    rw [combine_singleton]
    exact ht
  | c :: d :: cs, _ =>
    show (Condition.joined k (c :: d :: cs)).eval E table ps names = _
    rw [Condition.eval, h]
    rfl

end Sql
end Cohort
