import Cohort.Json.Number

/-!
# Documents

A document is null, a truth value, a number, a string, an array or an object. The members of an object that was read
stand in the order of their names, each name once; `Json.ofMembers` builds such an object, and of two members with one
name keeps the later.
-/

namespace Cohort

/-- A document. -/
inductive Json where
  /-- The null document. -/
  | null
  /-- A truth value. -/
  | bool (value : Bool)
  /-- A number. -/
  | number (value : Json.Number)
  /-- A string. -/
  | string (value : String)
  /-- An array. -/
  | array (elements : List Json)
  /-- An object, as its members in the order in which they are written. -/
  | object (members : List (String × Json))

namespace Json

instance : Inhabited Json := ⟨.null⟩

/-- A whole number. -/
def ofInt (i : Int) : Json := .number (.whole i)

/-- An optional document, null if absent. -/
def ofOption {α : Type} (f : α → Json) : Option α → Json
  | none => .null
  | some a => f a

/-- Names in the order of their characters, which is the order of their bytes in UTF-8. -/
def nameBefore : List Char → List Char → Bool
  | _, [] => false
  | [], _ :: _ => true
  | a :: as, b :: bs => a.toNat < b.toNat || (a == b && nameBefore as bs)

/-- Puts a member into its place; a member of the same name is replaced. -/
def insertMember (name : String) (value : Json) : List (String × Json) → List (String × Json)
  | [] => [(name, value)]
  | (n, v) :: rest =>
    if name = n then (name, value) :: rest
    else if nameBefore name.toList n.toList then (name, value) :: (n, v) :: rest
    else (n, v) :: insertMember name value rest

/-- The object with these members, in the order of names; of equal names the last counts. -/
def ofMembers (ms : List (String × Json)) : Json :=
  .object (ms.foldl (fun acc m => insertMember m.1 m.2 acc) [])

/-- The members of an object; any other document has none. -/
def members : Json → List (String × Json)
  | .object ms => ms
  | _ => []

/-- The member of an object with the given name. -/
def member? (doc : Json) (name : String) : Option Json := doc.members.lookup name

/-- The text of a string document. -/
def string? : Json → Option String
  | .string s => some s
  | _ => none

/-- The elements of an array. -/
def array? : Json → Option (List Json)
  | .array xs => some xs
  | _ => none

/-- The null document and no other. -/
def isNull : Json → Bool
  | .null => true
  | _ => false

end Json
end Cohort
