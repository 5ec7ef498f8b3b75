import Cohort.Json.Decoder
import Cohort.Proofs.Checking

/-!
# Reading records

A record is read from an object or from an array that is not too long (`Shape.Offers`), and each of its fields from the
document that is found there for it, by its name or by its place (`Source.field?`). Reading succeeds exactly when each
field can be read (`decode_eq_ok` together with `seq_eq_ok`, `required_eq_ok` and `defaulted_eq_ok`).
-/

namespace Cohort.Json

variable {α β : Type}

/-- The document that a source holds for a field. -/
def Source.field? (shape : Shape) (field : String) : Source → Option Json
  | .named ms => ms.lookup field
  | .positional xs => xs[shape.fields.idxOf field]?

/-- What the fields of a record are read from. -/
inductive Shape.Offers (shape : Shape) : Json → Source → Prop where
  /-- The members of an object, whatever others there are. -/
  | object {ms : List (String × Json)} : Offers shape (.object ms) (.named ms)
  /-- The elements of an array that has no more of them than there are fields. -/
  | array {xs : List Json} (hlength : xs.length ≤ shape.fields.length) : Offers shape (.array xs) (.positional xs)

theorem mem_of_lookup {ms : List (String × Json)} {name : String} {v : Json} (h : ms.lookup name = some v) :
    (name, v) ∈ ms := by
  obtain ⟨before, after, rfl, _⟩ := List.lookup_eq_some_iff.1 h
  simp

theorem findIdx?_of_lookup {ms : List (String × Json)} {field : String} {doc : Json} (h : ms.lookup field = some doc) :
    ∃ i, ms.findIdx? (·.1 == field) = some i := by
  rw [← Option.isSome_iff_exists, List.findIdx?_isSome, List.any_eq_true]
  exact ⟨_, mem_of_lookup h, beq_self_eq_true _⟩

namespace Source

variable {shape : Shape} {field : String} {s : Source} {doc : Json}

theorem slot_of_some (h : s.field? shape field = some doc) : ∃ place, s.slot shape field = .filled place doc := by
  cases s with
  | named ms =>
    obtain ⟨i, hi⟩ := findIdx?_of_lookup h
    exact ⟨i, by rw [slot, hi, show ms.lookup field = some doc from h]⟩
  | positional xs => exact ⟨_, by rw [slot, show xs[shape.fields.idxOf field]? = some doc from h]⟩

theorem slot_of_none (h : s.field? shape field = none) : ∃ place gap, s.slot shape field = .empty place gap := by
  cases s with
  | named ms =>
    refine ⟨ms.length + shape.fields.idxOf field, .missing field, ?_⟩
    rw [slot, show ms.lookup field = none from h]
    cases ms.findIdx? (·.1 == field) <;> rfl
  | positional xs => exact ⟨_, _, by rw [slot, show xs[shape.fields.idxOf field]? = none from h]⟩

end Source

namespace Fields

variable {shape : Shape} {field : String} {s : Source}

theorem seq_eq_ok {f : Fields (α → β)} {x : Fields α} {b : β} :
    (f <*> x) s = .ok b ↔ ∃ g a, f s = .ok g ∧ x s = .ok a ∧ g a = b := by
  show Fields.seq f x s = .ok b ↔ _
  rw [Fields.seq]
  cases f s <;> cases x s <;> simp
  split <;> simp

theorem map_eq_ok {f : α → β} {x : Fields α} {b : β} : (f <$> x) s = .ok b ↔ ∃ a, x s = .ok a ∧ f a = b := by
  show (Fields.pure f <*> x) s = .ok b ↔ _
  rw [seq_eq_ok]
  simp [Fields.pure]

theorem required_eq_ok {value : Decoder α} {a : α} :
    required shape field value s = .ok a ↔ ∃ doc, s.field? shape field = some doc ∧ value doc = .ok a := by
  cases h : s.field? shape field with
  | some doc =>
    obtain ⟨place, hslot⟩ := Source.slot_of_some h
    rw [required, hslot]
    simp [located, check_mapError_ok]
  | none =>
    obtain ⟨place, gap, hslot⟩ := Source.slot_of_none h
    rw [required, hslot]
    simp

theorem defaulted_eq_ok {a₀ : α} {value : Decoder α} {a : α} :
    defaulted shape field a₀ value s = .ok a ↔ (s.field? shape field).elim (.ok a₀) value = .ok a := by
  cases h : s.field? shape field with
  | some doc =>
    obtain ⟨place, hslot⟩ := Source.slot_of_some h
    rw [defaulted, hslot]
    exact check_mapError_ok
  | none =>
    obtain ⟨place, gap, hslot⟩ := Source.slot_of_none h
    rw [defaulted, hslot]
    simp

end Fields

/-- **A record is read from what a document offers for its fields.** -/
theorem Shape.decode_eq_ok {shape : Shape} {fields : Fields α} {doc : Json} {a : α} :
    shape.decode fields doc = .ok a ↔ ∃ s, shape.Offers doc s ∧ fields s = .ok a := by
  constructor
  · intro h
    cases doc with
    | object ms => exact ⟨.named ms, .object, check_mapError_ok.1 h⟩
    | array xs =>
      obtain ⟨b, hb, h⟩ := check_bind_ok.1 h
      split at h
      · cases h
      · cases h
        exact ⟨.positional xs, .array (Nat.le_of_not_lt ‹_›), check_mapError_ok.1 hb⟩
    | null => cases h
    | bool => cases h
    | number => cases h
    | string => cases h
  · rintro ⟨s, hs, h⟩
    cases hs with
    | object => exact check_mapError_ok.2 h
    | array hlength =>
      refine check_bind_ok.2 ⟨a, check_mapError_ok.2 h, ?_⟩
      rw [if_neg (Nat.not_lt_of_le hlength)]

end Cohort.Json
