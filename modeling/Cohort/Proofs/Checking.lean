import Mathlib.Data.List.Forall2

/-!
# Checks one after the other

A computation that checks elements in order settles them (`Settles`) if it succeeds exactly when all of them are in
order, and otherwise fails by the fault of the first that is not (`FirstFault`). Whatever is put together from such
computations settles the elements of all of them, the earlier ones first (`Settles.bind`, `Settles.flatMap`).
-/

namespace Cohort

/-- `e` is the fault of the first element that is not in order. -/
def FirstFault {α ε : Type} (Fine : α → Prop) (Fault : α → ε → Prop) (xs : List α) (e : ε) : Prop :=
  ∃ before x after, xs = before ++ x :: after ∧ (∀ y ∈ before, Fine y) ∧ Fault x e

/-- The computation succeeds if all elements are in order, and fails by the fault of the first that is not. -/
structure Settles {α β ε : Type} (Fine : α → Prop) (Fault : α → ε → Prop) (xs : List α) (r : Except ε β) : Prop where
  /-- When it succeeds. -/
  ok : (∃ y, r = .ok y) ↔ ∀ x ∈ xs, Fine x
  /-- How it fails. -/
  error : ∀ e, r = .error e ↔ FirstFault Fine Fault xs e

/-! ## Outcomes of computations -/

section Outcomes

variable {ε ε' α β : Type}

theorem check_bind_ok {x : Except ε α} {f : α → Except ε β} {y : β} :
    x >>= f = .ok y ↔ ∃ a, x = .ok a ∧ f a = .ok y := by
  cases x with
  | error e =>
    constructor
    · intro h; cases h
    · rintro ⟨_, h, _⟩; cases h
  | ok a =>
    constructor
    · intro h; exact ⟨a, rfl, h⟩
    · rintro ⟨_, h, h'⟩; cases h; exact h'

theorem check_bind_error {x : Except ε α} {f : α → Except ε β} {e : ε} :
    x >>= f = .error e ↔ x = .error e ∨ ∃ a, x = .ok a ∧ f a = .error e := by
  cases x with
  | error e' =>
    constructor
    · intro h; cases h; exact .inl rfl
    · rintro (h | ⟨_, h, _⟩) <;> cases h; rfl
  | ok a =>
    constructor
    · intro h; exact .inr ⟨a, rfl, h⟩
    · rintro (h | ⟨_, h, h'⟩) <;> cases h; exact h'

theorem check_map_ok {x : Except ε α} {f : α → β} {y : β} : x.map f = .ok y ↔ ∃ a, x = .ok a ∧ y = f a := by
  cases x with
  | error e => simp [Except.map]
  | ok a => simp [Except.map, eq_comm]

theorem check_map_error {x : Except ε α} {f : α → β} {e : ε} : x.map f = .error e ↔ x = .error e := by
  cases x <;> simp [Except.map]

theorem check_mapError_ok {x : Except ε α} {f : ε → ε'} {a : α} : x.mapError f = .ok a ↔ x = .ok a := by
  cases x <;> simp [Except.mapError]

theorem check_mapError_error {x : Except ε α} {f : ε → ε'} {e : ε'} :
    x.mapError f = .error e ↔ ∃ e', x = .error e' ∧ f e' = e := by
  cases x <;> simp [Except.mapError]

/-- Checks of all elements have passed one by one. -/
theorem check_all_ok {f : α → Except ε β} : ∀ {xs : List α} {ys : List β}, xs.mapM f = .ok ys →
    List.Forall₂ (fun x y => f x = .ok y) xs ys
  | [], _, h => by
    rw [List.mapM_nil] at h
    cases h
    exact .nil
  | x :: xs, ys, h => by
    rw [List.mapM_cons] at h
    obtain ⟨y, hy, h⟩ := check_bind_ok.1 h
    obtain ⟨ys', hys, h⟩ := check_bind_ok.1 h
    cases h
    exact .cons hy (check_all_ok hys)

/-- A computation has one error or none. -/
theorem existsUnique_error {x : Except ε α} : (∃! e, x = .error e) ↔ ¬∃ a, x = .ok a := by
  cases x with
  | error e => simp
  | ok a => simp [ExistsUnique]

theorem exists_of_isOk {x : Except ε α} (h : x.isOk = true) : ∃ a, x = .ok a := by
  cases x with
  | error e => cases h
  | ok a => exact ⟨a, rfl⟩

end Outcomes

/-! ## Settling -/

section Settling

variable {α β γ ε : Type} {Fine : α → Prop} {Fault : α → ε → Prop}

theorem firstFault_nil {e : ε} : ¬FirstFault Fine Fault [] e := by
  rintro ⟨before, x, after, h, _⟩
  cases before <;> cases h

theorem firstFault_cons {x : α} {xs : List α} {e : ε} :
    FirstFault Fine Fault (x :: xs) e ↔ Fault x e ∨ Fine x ∧ FirstFault Fine Fault xs e := by
  constructor
  · rintro ⟨before, y, after, h, hfine, hfault⟩
    cases before with
    | nil =>
      cases h
      exact .inl hfault
    | cons z before =>
      cases h
      exact .inr ⟨hfine _ List.mem_cons_self, before, y, after, rfl, fun y hy => hfine y (List.mem_cons_of_mem _ hy),
        hfault⟩
  · rintro (hfault | ⟨hx, before, y, after, rfl, hfine, hfault⟩)
    · exact ⟨[], x, xs, rfl, List.forall_mem_nil _, hfault⟩
    · exact ⟨x :: before, y, after, rfl, List.forall_mem_cons.2 ⟨hx, hfine⟩, hfault⟩

theorem firstFault_append {xs ys : List α} {e : ε} : FirstFault Fine Fault (xs ++ ys) e ↔
    FirstFault Fine Fault xs e ∨ (∀ x ∈ xs, Fine x) ∧ FirstFault Fine Fault ys e := by
  induction xs with
  | nil => simp [firstFault_nil]
  | cons x xs ih =>
    rw [List.cons_append, firstFault_cons, firstFault_cons, ih, List.forall_mem_cons]
    tauto

namespace Settles

theorem nil (y : β) : Settles Fine Fault [] (.ok y) where
  ok := by
    constructor
    · intro _
      exact List.forall_mem_nil _
    · intro _
      exact ⟨y, rfl⟩
  error e := by
    constructor
    · intro h; cases h
    · intro h; exact absurd h firstFault_nil

theorem single {x : α} {r : Except ε β} (hok : (∃ y, r = .ok y) ↔ Fine x) (herror : ∀ e, r = .error e ↔ Fault x e) :
    Settles Fine Fault [x] r where
  ok := hok.trans (by simp)
  error e := by
    rw [firstFault_cons, herror]
    simp [firstFault_nil]

/-- An element that is checked has one fault, or it is in order and has none. -/
theorem existsUnique_fault {x : α} {r : Except ε β} (h : Settles Fine Fault [x] r) : (∃! e, Fault x e) ↔ ¬Fine x := by
  have hfine : Fine x ↔ ∃ y, r = .ok y := by
    rw [h.ok, List.forall_mem_singleton]
  have hfault (e : ε) : Fault x e ↔ r = .error e := by
    rw [h.error, firstFault_cons]
    simp [firstFault_nil]
  simp only [hfine, hfault]
  exact existsUnique_error

/-- Elements are in order before those that come later are looked at. -/
theorem bind {xs ys : List α} {r : Except ε β} {f : β → Except ε γ} (h : Settles Fine Fault xs r)
    (hf : ∀ y, r = .ok y → Settles Fine Fault ys (f y)) : Settles Fine Fault (xs ++ ys) (r >>= f) := by
  constructor
  · constructor
    · rintro ⟨z, hz⟩
      obtain ⟨y, hy, hz⟩ := check_bind_ok.1 hz
      exact List.forall_mem_append.2 ⟨h.ok.1 ⟨y, hy⟩, (hf y hy).ok.1 ⟨z, hz⟩⟩
    · intro hfine
      obtain ⟨hxs, hys⟩ := List.forall_mem_append.1 hfine
      obtain ⟨y, hy⟩ := h.ok.2 hxs
      obtain ⟨z, hz⟩ := (hf y hy).ok.2 hys
      exact ⟨z, check_bind_ok.2 ⟨y, hy, hz⟩⟩
  · intro e
    rw [check_bind_error, firstFault_append, h.error e]
    refine or_congr_right ⟨?_, ?_⟩
    · rintro ⟨y, hy, he⟩
      exact ⟨h.ok.1 ⟨y, hy⟩, ((hf y hy).error e).1 he⟩
    · rintro ⟨hxs, he⟩
      obtain ⟨y, hy⟩ := h.ok.2 hxs
      exact ⟨y, hy, ((hf y hy).error e).2 he⟩

/-- Behind a failure nothing is looked at. -/
theorem stop {xs ys : List α} {e : ε} (h : Settles (β := β) Fine Fault xs (.error e)) :
    Settles (β := β) Fine Fault (xs ++ ys) (.error e) :=
  h.bind (f := fun _ => .error e) nofun

theorem map {xs : List α} {r : Except ε β} (f : β → γ) (h : Settles Fine Fault xs r) :
    Settles Fine Fault xs (r.map f) where
  ok := by
    rw [← h.ok]
    constructor
    · rintro ⟨_, hz⟩
      obtain ⟨y, hy, _⟩ := check_map_ok.1 hz
      exact ⟨y, hy⟩
    · rintro ⟨y, hy⟩
      exact ⟨f y, check_map_ok.2 ⟨y, hy, rfl⟩⟩
  error e := check_map_error.trans (h.error e)

/-- Computations one after the other, each for some of the elements. -/
theorem flatMap {f : γ → Except ε β} {g : γ → List α} : ∀ {xs : List γ},
    (∀ x ∈ xs, Settles Fine Fault (g x) (f x)) → Settles Fine Fault (xs.flatMap g) (xs.mapM f)
  | [], _ => by
    rw [List.mapM_nil]
    exact nil []
  | x :: xs, h => by
    obtain ⟨hx, hxs⟩ := List.forall_mem_cons.1 h
    rw [List.mapM_cons, List.flatMap_cons]
    exact hx.bind fun y _ => (flatMap hxs).map (y :: ·)

/-- Elements that are checked by computations of their own. -/
theorem mapM {f : α → Except ε β} {xs : List α} (h : ∀ x ∈ xs, Settles Fine Fault [x] (f x)) :
    Settles Fine Fault xs (xs.mapM f) := by
  have hflat := flatMap h
  rwa [List.flatMap_singleton'] at hflat

end Settles
end Settling

end Cohort
