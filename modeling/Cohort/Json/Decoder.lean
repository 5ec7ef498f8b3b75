import Cohort.Json.Mismatch
import Cohort.Text.Blank

/-!
# Reading values from documents

A `Decoder` reads one value from a document. A record is read from an object, where a field is found by its name, or
from an array, where it is found by its place in the record's `Shape`. The fields of a record are read independently
of each other (`Fields`), and of several mismatches the one at the least place counts: a faulty member stands at its
place in the object, a missing one behind all members in the order of the shape. `Shape.decode` puts it together.
-/

namespace Cohort.Json

/-- A reader of one value. -/
abbrev Decoder (α : Type) := Json → Except Mismatch α

namespace Decoder

/-! ## Single values -/

/-- Any document. -/
def document : Decoder Json := .ok

/-- A string. -/
def string : Decoder String
  | .string s => .ok s
  | doc => .error (.kind doc "a string")

/-- A whole number of 64 bits with a sign. -/
def integer : Decoder Int
  | .number (.whole i) =>
    if -(Numeral.twoTo 63 : Int) ≤ i ∧ i < Numeral.twoTo 63 then .ok i else .error (.value (.number (.whole i)) "i64")
  | doc => .error (.kind doc "i64")

/-- An array, each of its elements under the same reader; the first mismatch counts. -/
def list {α : Type} (element : Decoder α) : Decoder (List α)
  | .array xs => xs.mapM element
  | doc => .error (.kind doc "a sequence")

/-- Null for no value. -/
def nullable {α : Type} (value : Decoder α) : Decoder (Option α)
  | .null => .ok none
  | doc => (value doc).map some

/-- An identifier. -/
def uuid : Decoder Uuid
  | .string s => (Uuid.read s).mapError .identifier
  | doc => .error (.kind doc "a formatted UUID string")

/-- An identifier with blanks around it, null or a blank text for none. -/
def blankableUuid : Decoder (Option Uuid)
  | .null => .ok none
  | .string s =>
    if Text.isBlankText s then .ok none
    else ((Uuid.read (Text.trim s)).map some).mapError .optionalIdentifier
  | doc => .error (.kind doc "a string")

/-- An instant in the loose layout. -/
def instant : Decoder Instant
  | .string s => (Instant.readLoose s).mapError .instant
  | doc => .error (.kind doc "an RFC 3339 formatted date and time string")

/-- One of several named values: its name, or an object with the name as its only member and null below it. -/
def variant {α : Type} (table : List (String × α)) : Decoder α
  | .string s => pick s
  | .object [(name, below)] => do
    let a ← pick name
    match below with
    | .null => .ok a
    | doc => .error (.kind doc "unit")
  | .object ms => .error (.value (.object ms) "map with a single key")
  | doc => .error (.kind doc "string or map")
where
  /-- The value of a name. -/
  pick (name : String) : Except Mismatch α :=
    match table.lookup name with
    | some a => .ok a
    | none => .error (.variant name (table.map (·.1)))

end Decoder

/-! ## Records -/

/-- The name of a record and of its fields, in the order in which an array lists them. -/
structure Shape where
  /-- The name of the record. -/
  name : String
  /-- The names of its fields. -/
  fields : List String

/-- What a document offers for the fields of a record. -/
inductive Source where
  /-- The members of an object. -/
  | named (members : List (String × Json))
  /-- The elements of an array. -/
  | positional (elements : List Json)

/-- What a source holds for one field. -/
inductive Slot where
  /-- A document at a place. -/
  | filled (place : Nat) (doc : Json)
  /-- Nothing, noticed at a place, with the mismatch that this is if the field must be there. -/
  | empty (place : Nat) (gap : Mismatch)

/-- What a source holds for a field. -/
def Source.slot (shape : Shape) (field : String) : Source → Slot
  | .named ms =>
    match ms.findIdx? (·.1 == field), ms.lookup field with
    | some i, some doc => .filled i doc
    | _, _ => .empty (ms.length + shape.fields.idxOf field) (.missing field)
  | .positional xs =>
    let i := shape.fields.idxOf field
    match xs[i]? with
    | some doc => .filled i doc
    | none => .empty i (.tooShort i shape.name shape.fields.length)

/-- A reader of some fields of a record. A mismatch comes with its place. -/
def Fields (α : Type) := Source → Except (Nat × Mismatch) α

namespace Fields

/-- A value that no field contributes to. -/
def pure {α : Type} (a : α) : Fields α := fun _ => .ok a

/-- Both readers on the same source; of two mismatches the one at the lower place counts. -/
def seq {α β : Type} (f : Fields (α → β)) (x : Fields α) : Fields β := fun s =>
  match f s, x s with
  | .ok g, .ok a => .ok (g a)
  | .error e, .ok _ => .error e
  | .ok _, .error e => .error e
  | .error e, .error e' => if e'.1 < e.1 then .error e' else .error e

instance : Applicative Fields where
  pure := Fields.pure
  seq f x := Fields.seq f (x ())

/-- A document that a reader refuses is a mismatch at its place. -/
def located {α : Type} (place : Nat) (r : Except Mismatch α) : Except (Nat × Mismatch) α :=
  r.mapError fun e => (place, e)

/-- A field that must be there. -/
def required {α : Type} (shape : Shape) (field : String) (value : Decoder α) : Fields α := fun s =>
  match s.slot shape field with
  | .filled place doc => located place (value doc)
  | .empty place gap => .error (place, gap)

/-- A field that has a value of its own if it is not there. -/
def defaulted {α : Type} (shape : Shape) (field : String) (a : α) (value : Decoder α) : Fields α := fun s =>
  match s.slot shape field with
  | .filled place doc => located place (value doc)
  | .empty _ _ => .ok a

/-- A field that may be null and may miss in an object, but not in an array. -/
def optional {α : Type} (shape : Shape) (field : String) (value : Decoder α) : Fields (Option α) := fun s =>
  match s.slot shape field, s with
  | .filled place doc, _ => located place (value.nullable doc)
  | .empty _ _, .named _ => .ok none
  | .empty place gap, .positional _ => .error (place, gap)

end Fields

/-- A record from an object, or from an array with no more elements than it has fields. -/
def Shape.decode {α : Type} (shape : Shape) (fields : Fields α) : Decoder α
  | .object ms => (fields (.named ms)).mapError (·.2)
  | .array xs => do
    let a ← (fields (.positional xs)).mapError (·.2)
    if shape.fields.length < xs.length then .error (.tooLong xs.length) else .ok a
  | doc => .error (.kind doc ("struct " ++ shape.name))

end Cohort.Json
