import Cohort.Query.Predicate
import Cohort.Query.Resolution

/-!
# Building predicates

A builder numbers parameters and aliases in the order in which the rules ask for them (`Builder`). It goes through
rules in document order; a rule that is refused ends the work, and the builder keeps what it has handed out until
then. A rule hands out nothing before all its own checks have passed.

Criteria inside criteria contribute their parts: nothing if there are none, one part as it is, several in parentheses.
-/

namespace Cohort

/-- The parameters and aliases handed out so far. -/
structure Builder where
  /-- The parameters, in the order of their numbers. -/
  parameters : List Parameter
  /-- The number of aliases, which has no end. A counter of 32 bits gives the same names while fewer than `2 ^ 32` have
  been handed out (`counted_eq_iff`). -/
  aliases : Nat

/-- A step of building, which may be refused and keeps the builder either way. -/
abbrev Build (α : Type) := ExceptT RuleError (StateM Builder) α

namespace Builder

/-- A builder that has handed out nothing. -/
def fresh : Builder := ⟨[], 0⟩

/-- Takes a parameter and gives its number. -/
def bind (p : Parameter) : StateM Builder Nat := do
  modify fun b => { b with parameters := b.parameters ++ [p] }
  return (← get).parameters.length

/-- Gives the next alias. -/
def allocate : StateM Builder Alias := do
  modify fun b => { b with aliases := b.aliases + 1 }
  return .numbered (← get).aliases

/-- Takes parameters and gives their numbers. -/
def bindAll : List Parameter → StateM Builder (List Nat)
  | [] => pure []
  | p :: ps => do
    let n ← bind p
    let ns ← bindAll ps
    return n :: ns

/-- The predicate of a condition. -/
def test (row : Alias) (t : Test) : StateM Builder Predicate :=
  let column : Column := ⟨row, t.subject.name, t.subject.kind.cast⟩
  match t.comparison with
  | .nullCheck op => pure (.nullCheck column op)
  | .value op p => do return .comparison column op (← bind p)
  | .among [] => pure .never
  | .among ps => do return .membership column (← bindAll ps)

/-- What criteria contribute to the criteria around them. -/
def splice (connective : Connective) : List Predicate → List Predicate
  | [] => []
  | [p] => [p]
  | ps => [.joined connective ps]

variable (d : Definitions)

mutual

/-- The predicates of rules on a row of an entity. -/
def rules (row : Alias) (scope : Uuid) : List Rule → Build (List Predicate)
  | [] => pure []
  | r :: rs => do
    let ps ← rule row scope r
    let qs ← rules row scope rs
    return ps ++ qs

/-- The predicates of a rule on a row of an entity. -/
def rule (row : Alias) (scope : Uuid) : Rule → Build (List Predicate)
  | .condition c => do
    let t ← liftM (c.resolve d scope)
    return [← test row t]
  | .nested ⟨_, connective, rs⟩ => do return splice connective (← rules row scope rs)
  | .related id ⟨_, connective, rs⟩ => do
    let join ← liftM (d.join scope id)
    let other ← allocate
    let entity ← bind (.uuid join.relatedEntityId)
    let parts ← rules other join.relatedEntityId rs
    return [.related other entity ⟨row, join.localKey, none⟩ ⟨other, join.relatedKey, none⟩ connective parts]

end

/-- The clause of criteria on a row of an entity. -/
def clause (row : Alias) (scope : Uuid) (c : Criteria) : Build Clause := do
  return ⟨c.connective, ← rules d row scope c.rules⟩

end Builder
end Cohort
