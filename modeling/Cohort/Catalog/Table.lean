import Cohort.Uuid

/-!
# Tables keyed by identifiers

A table holds at most one value for each identifier (`Table`), in the order in which the identifiers came. Putting a
value under an identifier that is there replaces the old one in its place (`Table.get?_insert`).
-/

namespace Cohort

/-- Values kept under identifiers. -/
structure Table (α : Type) where
  /-- The entries; of two with one identifier the first counts. -/
  entries : List (Uuid × α)

namespace Table

variable {α : Type}

/-- The table without entries. -/
def empty : Table α := ⟨[]⟩

/-- The value under an identifier. -/
def get? (t : Table α) (id : Uuid) : Option α := t.entries.lookup id

/-- Whether there is a value under an identifier. -/
def contains (t : Table α) (id : Uuid) : Bool := (t.get? id).isSome

/-- Entries with a value put under an identifier. -/
def insertEntry (id : Uuid) (a : α) : List (Uuid × α) → List (Uuid × α)
  | [] => [(id, a)]
  | (k, b) :: rest => if id = k then (id, a) :: rest else (k, b) :: insertEntry id a rest

/-- The table with a value put under an identifier. -/
def insert (t : Table α) (id : Uuid) (a : α) : Table α := ⟨insertEntry id a t.entries⟩

/-- The number of identifiers. -/
def size (t : Table α) : Nat := t.entries.length

/-! ## Reading after writing -/

theorem lookup_insertEntry (id k : Uuid) (a : α) (es : List (Uuid × α)) :
    (insertEntry id a es).lookup k = if k = id then some a else es.lookup k := by
  induction es with
  | nil =>
    by_cases h : k = id
    · simp [insertEntry, h]
    · simp [insertEntry, List.lookup_cons, beq_eq_false_iff_ne.2 h, h]
  | cons e es ih =>
    obtain ⟨j, b⟩ := e
    by_cases hj : id = j
    · subst hj
      by_cases h : k = id
      · simp [insertEntry, h]
      · simp [insertEntry, List.lookup_cons, beq_eq_false_iff_ne.2 h, h]
    · by_cases hkj : k = j
      · subst hkj
        simp [insertEntry, hj, Ne.symm hj]
      · simp [insertEntry, List.lookup_cons, hj, beq_eq_false_iff_ne.2 hkj, ih]

/-- A table answers with the last value put under an identifier. -/
theorem get?_insert (t : Table α) (id k : Uuid) (a : α) :
    (t.insert id a).get? k = if k = id then some a else t.get? k := lookup_insertEntry id k a t.entries

theorem length_insertEntry {id : Uuid} (a : α) : ∀ {es : List (Uuid × α)}, es.lookup id = none →
    (insertEntry id a es).length = es.length + 1
  | [], _ => rfl
  | (k, b) :: es, h => by
    rw [List.lookup_cons] at h
    split at h
    · cases h
    · rename_i hk
      rw [insertEntry, if_neg (by simpa using hk), List.length_cons, length_insertEntry a h, List.length_cons]

/-- A new identifier counts once. -/
theorem size_insert {t : Table α} {id : Uuid} (h : t.get? id = none) (a : α) : (t.insert id a).size = t.size + 1 :=
  length_insertEntry a h

end Table
end Cohort
