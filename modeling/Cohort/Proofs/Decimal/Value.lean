import Cohort.Decimal.Reader
import Mathlib.Algebra.Order.Field.Basic
import Mathlib.Algebra.Order.Field.Rat
import Mathlib.Data.Rat.Cast.Order
import Mathlib.Tactic.FieldSimp
import Mathlib.Tactic.Linarith
import Mathlib.Tactic.NormNum
import Mathlib.Tactic.Positivity
import Mathlib.Tactic.Ring

/-!
# Values of decimals

The value of a decimal is rational (`value`). A rational number that some decimal has as its value is `Representable`. A
decimal renders a number (`Renders`) if it has this value, or if no decimal has it and the digits of the decimal are
those of the number, rounded at its last place, a half going away from zero, when there is no room for one more place
(`Rounds`). So what renders a representable number has its value (`Renders.value_eq`). Neither is the value of a decimal
rounded after its point has moved to the right: there are as many places as before, or it is whole
(`Renders.value_mul_pow`).

Signs do not matter for any of it: a decimal is rendered as its digits and places are (`Magnitude.Renders`).
-/

namespace Cohort.Decimal

/-- The value of a decimal without its sign. -/
def magnitude (d : Decimal) : ℚ := d.digits / 10 ^ d.scale

/-- The value of a decimal. -/
def value (d : Decimal) : ℚ := if d.negative then -d.magnitude else d.magnitude

/-- Some decimal has this value. -/
def Representable (q : ℚ) : Prop := ∃ d : Decimal, d.value = q

/-- The nearest natural number, a half going up. -/
structure Nearest (n : ℕ) (x : ℚ) : Prop where
  /-- It is at most a half too large. -/
  low : (n : ℚ) - 1 / 2 ≤ x
  /-- It is less than a half too small. -/
  high : x < n + 1 / 2

/-- There is no room for one more place behind these digits. -/
def Full (digits scale : ℕ) : Prop := scale = maxScale ∨ bound ≤ 10 * digits + 10

/-- **A number rounded to the places of a decimal**, a half going away from zero, when it has no room for more. -/
structure Rounds (d : Decimal) (q : ℚ) : Prop where
  /-- The sign is the one of the number, unless it is rounded to zero. -/
  sign : d.digits = 0 ∨ (d.negative = true ↔ q < 0)
  /-- The digits are the nearest ones. -/
  digits : Nearest d.digits (|q| * 10 ^ d.scale)
  /-- No more places have room. -/
  full : Full d.digits d.scale

/-- **A decimal for a number**: it has this value, or no decimal has it and it is the number, rounded. -/
def Renders (d : Decimal) (q : ℚ) : Prop := d.value = q ∨ ¬Representable q ∧ d.Rounds q

theorem Renders.value_eq {d : Decimal} {q : ℚ} (h : d.Renders q) (hq : Representable q) : d.value = q :=
  h.resolve_right fun h => h.1 hq

/-! ## Digits and places -/

theorem magnitude_nonneg (d : Decimal) : 0 ≤ d.magnitude := by
  unfold magnitude
  positivity

theorem representable_neg {q : ℚ} : Representable (-q) ↔ Representable q := by
  have hflip {q : ℚ} (h : Representable q) : Representable (-q) := by
    obtain ⟨⟨negative, n, k, hk, hn⟩, rfl⟩ := h
    refine ⟨⟨!negative, n, k, hk, hn⟩, ?_⟩
    cases negative <;> simp [value, magnitude]
  exact ⟨fun h => by simpa using hflip h, hflip⟩

/-- A representable number without its sign. -/
theorem Representable.exists_digits {x : ℚ} (h : Representable x) (hx : 0 ≤ x) :
    ∃ n k, n < bound ∧ k ≤ maxScale ∧ x = n / 10 ^ k := by
  obtain ⟨d, rfl⟩ := h
  refine ⟨d.digits, d.scale, d.digits_lt, d.scale_le, ?_⟩
  have hnonneg := d.magnitude_nonneg
  unfold value at hx ⊢
  split at hx
  · rename_i hnegative
    rw [if_pos hnegative, show d.magnitude = 0 by linarith, neg_zero]
    change (0 : ℚ) = d.magnitude
    linarith
  · rename_i hnegative
    rw [if_neg hnegative, magnitude]

/-- Digits and places for a number that is not negative: they have this value, or no decimal has it and they are
rounded. -/
def Magnitude.Renders (n k : ℕ) (x : ℚ) : Prop :=
  x = n / 10 ^ k ∨ ¬Representable x ∧ Nearest n (x * 10 ^ k) ∧ Full n k

/-- A decimal renders a number if its digits and places do so without the sign. -/
theorem renders_of_magnitude {d : Decimal} {negative : Bool} {x : ℚ} (hx : 0 ≤ x)
    (hsign : d.digits = 0 ∨ d.negative = negative) (h : Magnitude.Renders d.digits d.scale x) :
    d.Renders (if negative then -x else x) := by
  have habs : |if negative then -x else x| = x := by
    split
    · rw [abs_neg, abs_of_nonneg hx]
    · rw [abs_of_nonneg hx]
  rcases h with h | ⟨hrep, hnearest, hfull⟩
  · left
    rcases hsign with hzero | hsign
    · have hx : x = 0 := by simp [h, hzero]
      simp [value, magnitude, hzero, hx]
    · unfold value magnitude
      rw [hsign, ← h]
  · right
    refine ⟨?_, ?_, by rwa [habs], hfull⟩
    · split
      · rwa [representable_neg]
      · exact hrep
    · rcases hsign with hzero | hsign
      · exact .inl hzero
      · by_cases hzero : d.digits = 0
        · exact .inl hzero
        · right
          -- digits that are not zero are not rounded from zero
          have hpos : 0 < x * 10 ^ d.scale := by
            have hone : (1 : ℚ) ≤ d.digits := by exact_mod_cast Nat.one_le_iff_ne_zero.2 hzero
            linarith [hnearest.low]
          have hpos : 0 < x := pos_of_mul_pos_left hpos (by positivity)
          rw [hsign]
          cases negative <;> simp [hpos, hpos.le]

/-- A number as a multiple of a place. If some decimal has this value, it is a whole one, provided that there is no room
for one more place behind its digits. -/
theorem Representable.fract_eq_zero {m k : ℕ} {x r : ℚ} (h : Representable x) (hx : x * 10 ^ k = m + r) (hr : 0 ≤ r)
    (hlt : r < 1) (hroom : k = maxScale ∨ bound ≤ 10 * (m + r)) : r = 0 := by
  have hpow : (0 : ℚ) < 10 ^ k := by positivity
  have hnonneg : 0 ≤ x := nonneg_of_mul_nonneg_left (by rw [hx]; positivity) hpow
  obtain ⟨n, j, hn, hj, rfl⟩ := h.exists_digits hnonneg
  rcases Nat.lt_or_ge k j with hkj | hjk
  · -- one more place would be needed, which there is no room for
    rcases hroom with hk | hroom
    · omega
    · exfalso
      have hshift : (n : ℚ) / 10 ^ j * 10 ^ (k + 1) ≤ n := by
        rw [div_mul_eq_mul_div, div_le_iff₀ (by positivity)]
        gcongr
        · norm_num
        · exact hkj
      have hvalue : (n : ℚ) / 10 ^ j * 10 ^ (k + 1) = 10 * (m + r) := by
        rw [pow_succ, ← mul_assoc, hx]
        ring
      have hlt : (n : ℚ) < bound := by exact_mod_cast hn
      linarith
  · -- a whole number of these places is the sum of a whole number and a fraction
    have hwhole : ((n * 10 ^ (k - j) : ℕ) : ℚ) = m + r := by
      rw [← hx, show k = j + (k - j) by omega, pow_add]
      push_cast
      rw [show j + (k - j) - j = k - j by omega]
      field_simp
    have hle : m ≤ n * 10 ^ (k - j) := by
      have : (m : ℚ) ≤ ((n * 10 ^ (k - j) : ℕ) : ℚ) := by linarith
      exact_mod_cast this
    have hge : n * 10 ^ (k - j) < m + 1 := by
      have : ((n * 10 ^ (k - j) : ℕ) : ℚ) < ((m + 1 : ℕ) : ℚ) := by
        push_cast at hwhole ⊢
        linarith
      exact_mod_cast this
    have hm : n * 10 ^ (k - j) = m := by omega
    rw [hm] at hwhole
    linarith

/-- The nearest natural number to a natural number. -/
theorem Nearest.eq {n m : ℕ} (h : Nearest n (m : ℚ)) : n = m := by
  have hlow : n ≤ m := by
    have : (n : ℚ) < ((m + 1 : ℕ) : ℚ) := by
      push_cast
      linarith [h.low]
    exact Nat.lt_succ_iff.1 (by exact_mod_cast this)
  have hhigh : m ≤ n := by
    have : (m : ℚ) < ((n + 1 : ℕ) : ℚ) := by
      push_cast
      linarith [h.high]
    exact Nat.lt_succ_iff.1 (by exact_mod_cast this)
  omega

theorem representable_abs {q : ℚ} : Representable |q| ↔ Representable q := by
  rcases abs_choice q with h | h <;> rw [h]
  exact representable_neg

theorem abs_value (d : Decimal) : |d.value| = d.magnitude := by
  unfold value
  split
  · rw [abs_neg, abs_of_nonneg d.magnitude_nonneg]
  · rw [abs_of_nonneg d.magnitude_nonneg]

/-- **The point of a decimal moves to the right without rounding.** -/
theorem Renders.value_mul_pow {d r : Decimal} {k : ℕ} (h : r.Renders (d.value * 10 ^ k)) :
    r.value = d.value * 10 ^ k := by
  refine h.resolve_right fun ⟨hrep, hrounds⟩ => hrep (representable_abs.1 ?_)
  have habs : |d.value * 10 ^ k| = d.digits * 10 ^ k / 10 ^ d.scale := by
    rw [abs_mul, abs_value, abs_of_nonneg (by positivity), magnitude, div_mul_eq_mul_div]
  rcases Nat.le_total k d.scale with hk | hk
  · -- the places that are left are places of a decimal
    refine ⟨⟨false, d.digits, d.scale - k, by have := d.scale_le; omega, d.digits_lt⟩, ?_⟩
    rw [habs]
    change (d.digits : ℚ) / 10 ^ (d.scale - k) = _
    rw [div_eq_div_iff (by positivity) (by positivity), mul_assoc, ← pow_add, Nat.add_sub_cancel' hk]
  · -- no place is left, so the nearest digits are those there are
    have hwhole : |d.value * 10 ^ k| * 10 ^ r.scale = ((d.digits * 10 ^ (k - d.scale) * 10 ^ r.scale : ℕ) : ℚ) := by
      rw [habs]
      obtain ⟨j, rfl⟩ := Nat.exists_eq_add_of_le hk
      rw [Nat.add_sub_cancel_left, pow_add]
      push_cast
      field_simp
    have hdigits := hrounds.digits
    rw [hwhole] at hdigits
    refine ⟨{ r with negative := false }, ?_⟩
    change (r.digits : ℚ) / 10 ^ r.scale = _
    rw [div_eq_iff (by positivity), hwhole, hdigits.eq]

end Cohort.Decimal
