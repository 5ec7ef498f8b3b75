import Cohort.Query.Builder

/-!
# Membership queries

The rows of an entity that satisfy criteria, as a query with its parameters (`membershipQuery`). The entity is the
first parameter, and criteria that say nothing select all rows of the entity.
-/

namespace Cohort

/-- The text of a query and its parameters, in the order of their numbers. -/
structure Query where
  /-- The text. -/
  text : String
  /-- The parameters. -/
  parameters : List Parameter

/-- The text of the query for the rows of the entity in a parameter that satisfy a clause. -/
def membershipText (row : Alias) (entity : Nat) (clause : Clause) : String :=
  "SELECT id FROM " ++ rowTable ++ " " ++ row.text ++ " WHERE " ++ entityTest row entity ++
    if clause.parts.isEmpty then "" else " AND (" ++ clause.text ++ ")"

/-- The text of the query for the rows of an entity that satisfy criteria. -/
def membership (d : Definitions) (c : Criteria) (entity : Uuid) : Build String := do
  let row ← Builder.allocate
  let number ← Builder.bind (.uuid entity)
  let clause ← Builder.clause d row entity c
  return membershipText row number clause

/-- The query for the rows of an entity that satisfy criteria. -/
def membershipQuery (d : Definitions) (c : Criteria) (entity : Uuid) : Except RuleError Query :=
  let (r, b) := (membership d c entity).run .fresh
  r.map fun text => ⟨text, b.parameters⟩

/-- A query as a document. -/
def Query.document (q : Query) : Json :=
  .object [("sql", .string q.text), ("params", .array (q.parameters.map Parameter.json))]

end Cohort
