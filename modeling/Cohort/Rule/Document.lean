import Cohort.Json.Decoder
import Cohort.Rule.Error
import Cohort.Rule.Tree

/-!
# Rule trees as documents

`Criteria.ofDocument` reads criteria from null, from an object or from an array of their parts; the `type` of an object
may be left out here, but must be `"group"` if it is there. `Rule.ofDocument` reads one rule, an object that has to
name its type. Of several faults the one in the first faulty rule counts, a rule coming before the rules inside it.

`Criteria.document` and `Rule.document` write the form with all defaults filled in. A written tree reads back as
itself.
-/

namespace Cohort

open Json

/-! ## Connectives and conditions -/

/-- The connective that a text names in any case and with blanks around; no text and a blank one stand for `and`. -/
def Connective.read (raw : Option String) : Except RuleError Connective :=
  match raw with
  | none => .ok .and
  | some s =>
    let word := Text.trim s
    if word.isEmpty then .ok .and
    else if Text.upper word = "AND" then .ok .and
    else if Text.upper word = "OR" then .ok .or
    else .error (.invalidConnective word)

/-- The parts of a condition. -/
def Condition.shape : Shape :=
  ⟨"ConditionRule", ["attributeId", "attributeName", "entityId", "operator", "value", "valueType"]⟩

/-- Reads a condition. -/
def Condition.ofDocument : Decoder Condition :=
  shape.decode <| Condition.mk
    <$> .required shape "attributeId" Decoder.uuid
    <*> .defaulted shape "attributeName" "" Decoder.string
    <*> .defaulted shape "entityId" none Decoder.blankableUuid
    <*> .required shape "operator" Decoder.string
    <*> .defaulted shape "value" .null Decoder.document
    <*> .defaulted shape "valueType" none (Decoder.nullable Decoder.string)

/-- A member that is there only if it has a value. -/
def presentMember (name : String) : Option Json → List (String × Json)
  | none => []
  | some v => [(name, v)]

/-- The members of a written condition, with those of `tag` where `type` has its place. -/
def Condition.members (c : Condition) (tag : List (String × Json)) : List (String × Json) :=
  [("attributeId", .string c.attributeId.text), ("attributeName", .string c.attributeName)] ++
    presentMember "entityId" (c.entityId.map fun u => .string u.text) ++
    [("operator", .string c.operator)] ++ tag ++ [("value", c.value)] ++
    presentMember "valueType" (c.valueType.map .string)

/-- A condition as it is written outside a tree. -/
def Condition.document (c : Condition) : Json := .object (c.members [])

/-! ## Reading trees -/

/-- The entity and the connective of criteria, and where their rules stand. -/
structure Criteria.Head where
  /-- The entity. -/
  entityId : Option Uuid
  /-- The connective as written. -/
  connective : Option String
  /-- The documents of the rules. -/
  rules : List Json

/-- The parts of criteria. -/
def Criteria.shape : Shape := ⟨"GroupWire", ["entityId", "logicalOperator", "rules"]⟩

/-- Reads the parts of criteria, without looking into the rules. -/
def Criteria.Head.ofDocument : Decoder Criteria.Head :=
  Criteria.shape.decode <| Criteria.Head.mk
    <$> .defaulted Criteria.shape "entityId" none Decoder.blankableUuid
    <*> .defaulted Criteria.shape "logicalOperator" none (Decoder.nullable Decoder.string)
    <*> .defaulted Criteria.shape "rules" [] (Decoder.list Decoder.document)

/-- The parts of a rule on related rows. -/
def Rule.relatedShape : Shape := ⟨"RelationshipWire", ["relationshipId", "relatedEntityRules"]⟩

/-- The relationship of a rule on related rows. -/
def Rule.relationshipOf : Decoder Uuid :=
  relatedShape.decode <| (fun (id : Uuid) (_ : Json) => id)
    <$> .required relatedShape "relationshipId" Decoder.uuid
    <*> .defaulted relatedShape "relatedEntityRules" .null Decoder.document

/-- The type that a document names, if it is an object and names one. -/
def typeOf? (doc : Json) : Option String := (doc.member? "type").bind Json.string?

/-- A mismatch in a part of a rule. -/
def wellFormed {α : Type} (r : Except Mismatch α) : Except RuleError α := r.mapError .malformed

/-- Criteria from their head and the result of reading their rules. The head's own faults come first. -/
def Criteria.assemble (doc : Json) (rules : Except RuleError (List Rule)) : Except RuleError Criteria := do
  let head ← wellFormed (Criteria.Head.ofDocument doc)
  let connective ← Connective.read head.connective
  let rules ← rules
  return ⟨head.entityId, connective, rules⟩

mutual

/-- Reads criteria. -/
def Criteria.ofDocument : Json → Except RuleError Criteria
  | .null => .ok .empty
  | .object ms =>
    match typeOf? (.object ms) with
    | none => Criteria.assemble (.object ms) (rulesMember ms)
    | some "group" => Criteria.assemble (.object ms) (rulesMember ms)
    | some other => .error (.unknownType other)
  | .array xs => Criteria.assemble (.array xs) (rulesElement 2 xs)
  | .bool b => Criteria.assemble (.bool b) (.ok [])
  | .number n => Criteria.assemble (.number n) (.ok [])
  | .string s => Criteria.assemble (.string s) (.ok [])

/-- Reads one rule. -/
def Rule.ofDocument : Json → Except RuleError Rule
  | .object ms =>
    match typeOf? (.object ms) with
    | none => .error .missingType
    | some "condition" => (wellFormed (Condition.ofDocument (.object ms))).map .condition
    | some "group" => (Criteria.assemble (.object ms) (rulesMember ms)).map .nested
    | some "relationship_group" => do
      let id ← wellFormed (Rule.relationshipOf (.object ms))
      let criteria ← relatedMember ms
      return .related id criteria
    | some other => .error (.unknownType other)
  | _ => .error .missingType

/-- Reads the rules of a list; no rules from any other document. -/
def rulesOf : Json → Except RuleError (List Rule)
  | .array xs => rulesList xs
  | _ => .ok []

/-- Reads rules one after the other. -/
def rulesList : List Json → Except RuleError (List Rule)
  | [] => .ok []
  | x :: xs => do
    let r ← Rule.ofDocument x
    let rs ← rulesList xs
    return r :: rs

/-- Reads the rules among the members of criteria. -/
def rulesMember : List (String × Json) → Except RuleError (List Rule)
  | [] => .ok []
  | (name, doc) :: ms => if name = "rules" then rulesOf doc else rulesMember ms

/-- Reads the rules at an index among the parts of criteria. -/
def rulesElement : Nat → List Json → Except RuleError (List Rule)
  | _, [] => .ok []
  | 0, x :: _ => rulesOf x
  | n + 1, _ :: xs => rulesElement n xs

/-- Reads the criteria on related rows among the members of a rule. -/
def relatedMember : List (String × Json) → Except RuleError Criteria
  | [] => .ok .empty
  | (name, doc) :: ms => if name = "relatedEntityRules" then Criteria.ofDocument doc else relatedMember ms

end

/-! ## Writing trees -/

mutual

/-- The members of written criteria, `type` apart. -/
def Criteria.members : Criteria → List (String × Json)
  | ⟨entityId, connective, rules⟩ =>
    presentMember "entityId" (entityId.map fun u => .string u.text) ++
      [("logicalOperator", .string connective.text), ("rules", .array (rulesDocuments rules))]

/-- A rule as it is written. -/
def Rule.document : Rule → Json
  | .condition c => .object (c.members [("type", .string "condition")])
  | .nested c => .object (c.members ++ [("type", .string "group")])
  | .related id c =>
    .object [("relatedEntityRules", .object c.members), ("relationshipId", .string id.text),
      ("type", .string "relationship_group")]

/-- Rules as they are written. -/
def rulesDocuments : List Rule → List Json
  | [] => []
  | r :: rs => r.document :: rulesDocuments rs

end

/-- Criteria as they are written. -/
def Criteria.document (c : Criteria) : Json := .object (c.members ++ [("type", .string "group")])

end Cohort
