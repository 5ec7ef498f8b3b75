import Cohort.Attribute.Kind
import Cohort.Rule.Tree

/-!
# Predicates on stored rows

Rows of all entities lie in one table, each with its entity and a bag of attributes as text. A predicate speaks about
the row that an alias stands for, and about parameters by their number. It keeps the grouping of its parts
(`Predicate.joined`), which its text shows by parentheses (`Predicate.text`), so that no part of it is read with the
wrong connective.
-/

namespace Cohort

/-- The table of rows. -/
def rowTable : String := "processed_entities"

/-- A name for a row of the table. -/
inductive Alias where
  /-- The alias that a query hands out as its `number`-th. -/
  | numbered (number : Nat)
  /-- An alias given from outside. -/
  | named (text : String)
  deriving DecidableEq

/-- The spelling of an alias. -/
def Alias.text : Alias → String
  | .numbered n => "pe" ++ Numeral.natText n
  | .named s => s

/-- The number of a parameter, from one, as a query refers to it. -/
def placeholder (number : Nat) : String := "$" ++ Numeral.natText number

/-- The text of an attribute of a row, with a cast if it is to be read as something else. -/
structure Column where
  /-- The row. -/
  row : Alias
  /-- The name of the attribute. -/
  name : String
  /-- The cast. -/
  cast : Option String
  deriving DecidableEq

/-- The spelling of a column. -/
def Column.text (c : Column) : String :=
  "(" ++ c.row.text ++ ".attributes->>'" ++ c.name ++ "')" ++ c.cast.getD ""

/-- A predicate on a row. -/
inductive Predicate where
  /-- No row at all. -/
  | never
  /-- A comparison without value. -/
  | nullCheck (column : Column) (operator : Operator)
  /-- A comparison with a parameter. -/
  | comparison (column : Column) (operator : Operator) (parameter : Nat)
  /-- The column has the value of one of the parameters. -/
  | membership (column : Column) (parameters : List Nat)
  /-- Several predicates in parentheses. -/
  | joined (connective : Connective) (parts : List Predicate)
  /-- There is a row, called by its alias, of the entity in a parameter, with the same text in `inner` as the row in
  scope has in `outer`, which satisfies the parts. -/
  | related (row : Alias) (entity : Nat) (outer inner : Column) (connective : Connective) (parts : List Predicate)

/-- Texts with a connective between them. -/
def joinTexts (connective : Connective) (texts : List String) : String :=
  (" " ++ connective.text ++ " ").intercalate texts

/-- The condition that a row is of the entity in a parameter. -/
def entityTest (row : Alias) (entity : Nat) : String :=
  row.text ++ ".entity_definition_id = " ++ placeholder entity

mutual

/-- The spelling of a predicate. -/
def Predicate.text : Predicate → String
  | .never => "FALSE"
  | .nullCheck column operator => column.text ++ " " ++ operator.sql
  | .comparison column operator parameter => column.text ++ " " ++ operator.sql ++ " " ++ placeholder parameter
  | .membership column parameters =>
    column.text ++ " " ++ Operator.among.sql ++ " (" ++ ", ".intercalate (parameters.map placeholder) ++ ")"
  | .joined connective parts => "(" ++ joinTexts connective (Predicate.texts parts) ++ ")"
  | .related row entity outer inner connective parts =>
    "EXISTS (SELECT 1 FROM " ++ rowTable ++ " " ++ row.text ++ " WHERE " ++ entityTest row entity ++ " AND " ++
      outer.text ++ " = " ++ inner.text ++
      (if parts.isEmpty then "" else " AND (" ++ joinTexts connective (Predicate.texts parts) ++ ")") ++ ")"

/-- The spellings of several predicates. -/
def Predicate.texts : List Predicate → List String
  | [] => []
  | p :: ps => p.text :: Predicate.texts ps

end

/-- Predicates that are combined by a connective, without parentheses around them; none of them say nothing. -/
structure Clause where
  /-- How they are combined. -/
  connective : Connective
  /-- The predicates. -/
  parts : List Predicate

/-- The spelling of a clause, empty if it says nothing. -/
def Clause.text (c : Clause) : String := joinTexts c.connective (Predicate.texts c.parts)

end Cohort
