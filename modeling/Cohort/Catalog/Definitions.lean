import Cohort.Catalog.Table
import Cohort.Definition.Basic

/-!
# Definitions at hand

The attributes and relationships that a query can be made from, each under an identifier.
-/

namespace Cohort

/-- Attributes and relationships at hand. -/
structure Definitions where
  /-- The attributes. -/
  attributes : Table Attribute
  /-- The relationships. -/
  relationships : Table Relationship

namespace Definitions

/-- No definitions. -/
def empty : Definitions := ⟨.empty, .empty⟩

/-- The attribute under an identifier. -/
def attribute? (d : Definitions) (id : Uuid) : Option Attribute := d.attributes.get? id

/-- The relationship under an identifier. -/
def relationship? (d : Definitions) (id : Uuid) : Option Relationship := d.relationships.get? id

/-- The definitions with an attribute put under an identifier. -/
def withAttribute (d : Definitions) (id : Uuid) (a : Attribute) : Definitions :=
  { d with attributes := d.attributes.insert id a }

/-- The definitions with a relationship put under an identifier. -/
def withRelationship (d : Definitions) (id : Uuid) (r : Relationship) : Definitions :=
  { d with relationships := d.relationships.insert id r }

end Definitions
end Cohort
