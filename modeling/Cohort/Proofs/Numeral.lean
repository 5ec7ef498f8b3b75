import Cohort.Numeral
import Mathlib.Data.Nat.Digits.Defs

/-!
# Reading written numerals

The decimal digits of a natural number are decimal digits (`isDecimal_of_mem_digits`), there is at least one
(`digits_ne_nil`), and they read back as the number (`natural?_digits`). Hence different numbers have different digits
(`digits_injective`).

A text denotes a whole number if it consists of digits with an optional sign before them (`Denotes`); the readers take
those texts that denote a number of their range (`natural?_eq_some`, `signed?_eq_some`, `valueBelow_eq_ok`). Zeros in
front change nothing, so padded digits read back as well (`natural?_padded`).
-/

namespace Cohort.Numeral

theorem decimalValue?_digitChar {n : Nat} (h : n < 10) : decimalValue? (digitChar n) = some n := by
  have key : ∀ i : Fin 10, decimalValue? (digitChar i.val) = some i.val := by decide
  exact key ⟨n, h⟩

theorem isDecimal_of_mem_digits {c : Char} (n : Nat) (h : c ∈ digits n) : isDecimal c = true := by
  induction n using Nat.strongRecOn with
  | _ n ih =>
    rw [digits] at h
    split at h
    · rw [List.mem_singleton] at h
      rw [h, isDecimal, decimalValue?_digitChar ‹_›]
      rfl
    · rcases List.mem_append.1 h with h | h
      · exact ih (n / 10) (by omega) h
      · rw [List.mem_singleton] at h
        rw [h, isDecimal, decimalValue?_digitChar (Nat.mod_lt n (by omega))]
        rfl

theorem digits_ne_nil (n : Nat) : digits n ≠ [] := by
  rw [digits]
  split <;> simp

/-- A run of digits is read from the left. -/
theorem valueFrom_append : ∀ (cs : List Char) (n : Nat) (ds : List Char),
    valueFrom n (cs ++ ds) = (valueFrom n cs).bind fun m => valueFrom m ds
  | [], _, _ => rfl
  | c :: cs, n, ds => by
    rw [List.cons_append, valueFrom, valueFrom]
    cases decimalValue? c with
    | none => rfl
    | some d => exact valueFrom_append cs (10 * n + d) ds

theorem valueFrom_digits (n : Nat) : valueFrom 0 (digits n) = some n := by
  induction n using Nat.strongRecOn with
  | _ n ih =>
    rw [digits]
    split
    · rw [valueFrom, decimalValue?_digitChar ‹_›]
      simp [valueFrom]
    · rw [valueFrom_append, ih (n / 10) (by omega), Option.bind_some, valueFrom,
        decimalValue?_digitChar (Nat.mod_lt n (by omega))]
      simp only [Option.bind_some, valueFrom, Option.some.injEq]
      omega

/-- **A written number reads back.** -/
theorem natural?_digits (n : Nat) : natural? (digits n) = some n := by
  rw [natural?, if_neg (by simpa using digits_ne_nil n), valueFrom_digits]

theorem digits_injective {m n : Nat} (h : digits m = digits n) : m = n := by
  have := natural?_digits m
  rw [h, natural?_digits] at this
  exact (Option.some.inj this).symm

theorem natText_injective {m n : Nat} (h : natText m = natText n) : m = n :=
  digits_injective (String.ofList_injective h)

/-! ## What numerals denote -/

/-- At least one decimal digit of ASCII, and nothing else. -/
structure AllDigits (cs : List Char) : Prop where
  /-- There is one. -/
  ne_nil : cs ≠ []
  /-- They are digits. -/
  digit : ∀ c ∈ cs, '0' ≤ c ∧ c ≤ '9'

/-- The number that digits stand for in base ten. -/
def number (cs : List Char) : Nat := Nat.ofDigits 10 (cs.reverse.map fun c => c.toNat - '0'.toNat)

/-- A text denotes a whole number: digits, with an optional sign before them. -/
inductive Denotes : List Char → Int → Prop
  | plain {cs : List Char} : AllDigits cs → Denotes cs (number cs)
  | plus {cs : List Char} : AllDigits cs → Denotes ('+' :: cs) (number cs)
  | minus {cs : List Char} : AllDigits cs → Denotes ('-' :: cs) (-(number cs : Int))

theorem number_cons (c : Char) (cs : List Char) :
    number (c :: cs) = (c.toNat - '0'.toNat) * 10 ^ cs.length + number cs := by
  rw [number, List.reverse_cons, List.map_append, Nat.ofDigits_append, List.length_map, List.length_reverse,
    List.map_singleton, Nat.ofDigits_singleton, number]
  ring

theorem valueFrom_eq_some : ∀ (cs : List Char) {acc n : Nat},
    valueFrom acc cs = some n ↔ (∀ c ∈ cs, '0' ≤ c ∧ c ≤ '9') ∧ n = acc * 10 ^ cs.length + number cs
  | [], acc, n => by
    simp [valueFrom, number, eq_comm]
  | c :: cs, acc, n => by
    rw [valueFrom, decimalValue?, List.forall_mem_cons, number_cons, List.length_cons]
    split
    · rename_i hc
      have hvalue : (10 * acc + (c.toNat - 48)) * 10 ^ cs.length + number cs =
          acc * 10 ^ (cs.length + 1) + ((c.toNat - '0'.toNat) * 10 ^ cs.length + number cs) := by
        rw [show '0'.toNat = 48 from rfl]
        ring
      rw [Option.bind_some, valueFrom_eq_some cs, hvalue, and_iff_right hc]
    · rename_i hc
      exact ⟨nofun, fun h => absurd h.1.1 hc⟩

/-- Digits are read as the number that they stand for. -/
theorem natural?_eq_some {cs : List Char} {n : Nat} : natural? cs = some n ↔ AllDigits cs ∧ n = number cs := by
  by_cases hnil : cs = []
  · rw [natural?, if_pos (List.isEmpty_iff.2 hnil)]
    exact ⟨nofun, fun h => absurd hnil h.1.ne_nil⟩
  · rw [natural?, if_neg (mt List.isEmpty_iff.1 hnil), valueFrom_eq_some, Nat.zero_mul, Nat.zero_add]
    exact ⟨fun ⟨hdigit, hn⟩ => ⟨⟨hnil, hdigit⟩, hn⟩, fun ⟨h, hn⟩ => ⟨h.digit, hn⟩⟩

/-- No sign is a digit. -/
theorem AllDigits.head_ne {c : Char} {cs : List Char} (h : AllDigits (c :: cs)) : c ≠ '+' ∧ c ≠ '-' := by
  have hc := h.digit c List.mem_cons_self
  constructor
  · rintro rfl
    exact absurd hc.1 (by decide)
  · rintro rfl
    exact absurd hc.1 (by decide)

/-- **The reader of integers takes the texts that denote one of its range.** -/
theorem signed?_eq_some {bound : Nat} (hbound : 0 < bound) {cs : List Char} {i : Int} :
    signed? bound cs = some i ↔ Denotes cs i ∧ -(bound : Int) ≤ i ∧ i < bound := by
  constructor
  · intro h
    unfold signed? at h
    split at h
    all_goals
      obtain ⟨n, hn, hi⟩ := Option.bind_eq_some_iff.1 h
      obtain ⟨hdigits, rfl⟩ := natural?_eq_some.1 hn
      split at hi <;> cases hi
    · exact ⟨.minus hdigits, by omega, by omega⟩
    · exact ⟨.plus hdigits, by omega, by omega⟩
    · exact ⟨.plain hdigits, by omega, by omega⟩
  · rintro ⟨h, hlow, hhigh⟩
    have hread {ds : List Char} (hds : AllDigits ds) : natural? ds = some (number ds) := natural?_eq_some.2 ⟨hds, rfl⟩
    cases h with
    | plain hdigits =>
      unfold signed?
      split
      · exact absurd rfl hdigits.head_ne.2
      · exact absurd rfl hdigits.head_ne.1
      · rw [hread hdigits, Option.bind_some, if_pos (by omega)]
    | plus hdigits => rw [signed?, hread hdigits, Option.bind_some, if_pos (by omega)]
    | minus hdigits => rw [signed?, hread hdigits, Option.bind_some, if_pos (by omega)]

/-! ## Runs of digits -/

theorem number_append (cs ds : List Char) : number (cs ++ ds) = number cs * 10 ^ ds.length + number ds := by
  unfold number
  rw [List.reverse_append, List.map_append, Nat.ofDigits_append]
  simp only [List.length_map, List.length_reverse]
  ring

/-- A run of digits stays below the power of ten that has one digit more. -/
theorem number_lt : ∀ {cs : List Char}, (∀ c ∈ cs, '0' ≤ c ∧ c ≤ '9') → number cs < 10 ^ cs.length
  | [], _ => by simp [number]
  | c :: cs, h => by
    have ih := number_lt fun d hd => h d (List.mem_cons_of_mem _ hd)
    have hc : c.toNat ≤ 57 := UInt32.le_iff_toNat_le.1 (h c List.mem_cons_self).2
    have hdigit : c.toNat - '0'.toNat ≤ 9 := by
      rw [show '0'.toNat = 48 from rfl]
      omega
    rw [number_cons, List.length_cons, Nat.pow_succ]
    calc (c.toNat - '0'.toNat) * 10 ^ cs.length + number cs
        < 9 * 10 ^ cs.length + 10 ^ cs.length := by
          have := Nat.mul_le_mul_right (10 ^ cs.length) hdigit
          omega
      _ = 10 ^ cs.length * 10 := by ring

theorem isDecimal_iff {c : Char} : isDecimal c = true ↔ '0' ≤ c ∧ c ≤ '9' := by
  unfold isDecimal decimalValue?
  split <;> simp_all

theorem allDigits_iff {ds : List Char} : AllDigits ds ↔ ds.isEmpty = false ∧ ds.all isDecimal = true := by
  rw [List.isEmpty_eq_false_iff, List.all_eq_true]
  constructor
  · intro h
    exact ⟨h.ne_nil, fun c hc => isDecimal_iff.2 (h.digit c hc)⟩
  · rintro ⟨hne, hall⟩
    exact ⟨hne, fun c hc => isDecimal_iff.1 (hall c hc)⟩

instance (ds : List Char) : Decidable (AllDigits ds) := decidable_of_iff _ allDigits_iff.symm

theorem allDigits_digits (n : Nat) : AllDigits (digits n) where
  ne_nil := digits_ne_nil n
  digit _ hc := isDecimal_iff.1 (isDecimal_of_mem_digits n hc)

theorem number_digits (n : Nat) : number (digits n) = n :=
  ((natural?_eq_some.1 (natural?_digits n)).2).symm

theorem number_zeros (k : Nat) : number (List.replicate k '0') = 0 := by
  induction k with
  | zero => rfl
  | succ k ih => rw [List.replicate_succ, number_cons, ih]; simp

theorem allDigits_padded (width n : Nat) : AllDigits (padded width n) := by
  unfold padded
  refine ⟨by simp [digits_ne_nil], fun c hc => ?_⟩
  rcases List.mem_append.1 hc with h | h
  · rw [List.eq_of_mem_replicate h]
    decide
  · exact (allDigits_digits n).digit c h

theorem number_padded (width n : Nat) : number (padded width n) = n := by
  unfold padded
  rw [number_append, number_zeros, number_digits, Nat.zero_mul, Nat.zero_add]

/-- Padded digits read back. -/
theorem natural?_padded (width n : Nat) : natural? (padded width n) = some n :=
  natural?_eq_some.2 ⟨allDigits_padded width n, (number_padded width n).symm⟩

theorem le_length_padded (width n : Nat) : width ≤ (padded width n).length := by
  simp [padded]
  omega

/-- A number has the fewest digits that can hold it. -/
theorem length_digits_le {width n : Nat} (hwidth : 0 < width) (h : n < 10 ^ width) : (digits n).length ≤ width := by
  induction width generalizing n with
  | zero => omega
  | succ width ih =>
    rw [digits]
    split
    · simp
    · rename_i hn
      rcases Nat.eq_zero_or_pos width with rfl | hpos
      · rw [Nat.zero_add, Nat.pow_one] at h
        exact absurd h hn
      · have hlt : n / 10 < 10 ^ width := by
          rw [Nat.pow_succ] at h
          omega
        have := ih hpos hlt
        simp
        omega

theorem length_padded {width n : Nat} (hwidth : 0 < width) (h : n < 10 ^ width) : (padded width n).length = width := by
  have := length_digits_le hwidth h
  simp [padded]
  omega

/-! ## Digits below a bound -/

/-- Digits are read as long as they stay below the bound. -/
theorem valueBelow_eq_ok {bound : Nat} : ∀ (cs : List Char) {acc n : Nat}, valueBelow bound acc cs = .ok n →
    (∀ c ∈ cs, '0' ≤ c ∧ c ≤ '9') → n = acc * 10 ^ cs.length + number cs
  | [], acc, n, h, _ => by
    cases h
    simp [number]
  | c :: cs, acc, n, h, hdigits => by
    have hc : decimalValue? c = some (c.toNat - 48) := if_pos (hdigits c List.mem_cons_self)
    rw [valueBelow, hc] at h
    dsimp only at h
    split at h
    · rw [valueBelow_eq_ok cs h fun d hd => hdigits d (List.mem_cons_of_mem _ hd), number_cons, List.length_cons,
        show '0'.toNat = 48 from rfl]
      ring
    · cases h

/-- What is read of digits, with or without a plus sign, is the number that they stand for. -/
theorem AllDigits.eq_of_unsigned? {bound n : Nat} {ds : List Char} (hds : AllDigits ds)
    (h : unsigned? bound ds = some n ∨ unsigned? bound ('+' :: ds) = some n) : n = number ds := by
  have hvalue (h : (valueBelow bound 0 ds).toOption = some n) : n = number ds := by
    cases hv : valueBelow bound 0 ds with
    | error e => simp [hv, Except.toOption] at h
    | ok m =>
      rw [hv] at h
      cases h
      simpa using valueBelow_eq_ok ds hv hds.digit
  unfold unsigned? unsigned at h
  rcases h with h | h <;> split at h
  · exact absurd rfl hds.ne_nil
  · exact absurd rfl hds.head_ne.1
  · exact absurd rfl hds.head_ne.1
  · exact hvalue h
  · rename_i hcs
    cases hcs
  · rename_i hcs
    cases hcs
    exact absurd rfl hds.ne_nil
  · rename_i hcs
    cases hcs
    exact hvalue h
  · rename_i hplus hcs
    exact absurd rfl (hcs ds)

end Cohort.Numeral
