import Cohort.Catalog.Definitions
import Cohort.Metadata.Client
import Cohort.Rule.References

/-!
# Fetching the definitions that rules need

`Prefetch.all` asks a client for what a rule tree refers to and is not at hand yet. Relationships go first, each after
the two attributes that it joins by, because only a relationship tells which entity the conditions behind it are on.
Then come the attributes of the conditions that can be reached, in document order (`Definitions.wanted`). The first
question without answer ends the work; what has been fetched until then stays.
-/

namespace Cohort

mutual

/-- The entities and attributes of the conditions of criteria on rows of an entity. -/
def Definitions.wanted (d : Definitions) (scope : Uuid) : Criteria → List (Uuid × Uuid)
  | ⟨_, _, rules⟩ => d.wantedRules scope rules

/-- The entities and attributes of the conditions of a rule. Behind a relationship that does not start from the entity
in scope nothing is wanted. -/
def Definitions.wantedRule (d : Definitions) (scope : Uuid) : Rule → List (Uuid × Uuid)
  | .condition c => [(c.entityId.getD scope, c.attributeId)]
  | .nested c => d.wanted scope c
  | .related id c =>
    match (d.relationship? id).bind fun r => r.from? scope with
    | some t => d.wanted t.relatedEntityId c
    | none => []

/-- The entities and attributes of the conditions of rules. -/
def Definitions.wantedRules (d : Definitions) (scope : Uuid) : List Rule → List (Uuid × Uuid)
  | [] => []
  | r :: rs => d.wantedRule scope r ++ d.wantedRules scope rs

end

/-- Work on the definitions at hand and with a client. -/
abbrev Prefetch (σ α : Type) := ExceptT MetadataError (StateM (Definitions × σ)) α

namespace Prefetch

variable {σ : Type}

/-- A question to the client. -/
def ask {α : Type} (q : Lookup σ α) : Prefetch σ α := fun s =>
  let (answer, metadata) := q.run s.2
  (answer, (s.1, metadata))

/-- The definitions at hand. -/
def definitions : Prefetch σ Definitions := do return (← get).1

/-- Puts the definitions at hand. -/
def put (f : Definitions → Definitions) : Prefetch σ Unit := modify fun s => (f s.1, s.2)

variable (client : MetadataClient σ)

/-- Fetches an attribute of an entity, unless one is held under its identifier. -/
def heldAttribute (entity id : Uuid) : Prefetch σ Unit := do
  if (← definitions).attributes.contains id then return
  let a ← ask (client.attributeOf entity id)
  put (·.withAttribute id a)

/-- Fetches a relationship and the attributes that it joins by, unless one is held under its identifier. -/
def heldRelationship (id : Uuid) : Prefetch σ Unit := do
  if (← definitions).relationships.contains id then return
  let r ← ask (client.relationship id)
  heldAttribute client r.sourceEntityId r.sourceAttributeId
  heldAttribute client r.targetEntityId r.targetAttributeId
  put (·.withRelationship id r)

/-- Fetches several relationships. -/
def relationships : List Uuid → Prefetch σ Unit
  | [] => pure ()
  | id :: ids => do
    heldRelationship client id
    relationships ids

/-- Fetches several attributes, each with its entity. -/
def attributes : List (Uuid × Uuid) → Prefetch σ Unit
  | [] => pure ()
  | (entity, id) :: rest => do
    heldAttribute client entity id
    attributes rest

/-- Fetches what criteria on rows of an entity need. -/
def all (c : Criteria) (entity : Uuid) : Prefetch σ Unit := do
  relationships client c.references.relationshipIds
  attributes client ((← definitions).wanted entity c)

end Prefetch
end Cohort
