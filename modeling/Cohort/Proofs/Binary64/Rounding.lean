import Cohort.Binary64.Basic
import Mathlib.Algebra.Order.Field.Power
import Mathlib.Algebra.Order.Field.Rat
import Mathlib.Data.Rat.Cast.Order
import Mathlib.Tactic.FieldSimp
import Mathlib.Tactic.Linarith
import Mathlib.Tactic.Positivity

/-!
# Values of binary64

The value of a number of the format is rational (`value`). Numbers are compared by their values (`le_iff`, `lt_iff`), and
a number is whole exactly if its value is (`toInt?_eq_some`). Rounding never takes a quotient below a power of two that
it is not below itself (`two_zpow_le_of_nearest`), since every power of two in the range is a number of the format.
-/

namespace Cohort.Binary64

/-! ## Values -/

/-- The value of a number without its sign. -/
def magnitude (x : Binary64) : ℚ := x.significand * 2 ^ x.exponent

/-- The value of a number. -/
def value (x : Binary64) : ℚ := if x.negative then -x.magnitude else x.magnitude

theorem powerOfTwo_pos (q : Int) : 0 < (powerOfTwo q).1 ∧ 0 < (powerOfTwo q).2 :=
  ⟨Nat.two_pow_pos _, Nat.two_pow_pos _⟩

theorem powerOfTwo_eq (q : Int) : ((powerOfTwo q).1 : ℚ) / (powerOfTwo q).2 = 2 ^ q := by
  have hcast (k : Nat) : ((Numeral.twoTo k : Nat) : ℚ) = 2 ^ (k : Int) := by
    rw [zpow_natCast]
    exact Nat.cast_pow 2 k
  rw [powerOfTwo, hcast, hcast, ← zpow_sub₀ two_ne_zero]
  congr 1
  omega

theorem ratio_pos (x : Binary64) : 0 < x.ratio.2 := (powerOfTwo_pos x.exponent).2

theorem magnitude_eq (x : Binary64) : x.magnitude = x.ratio.1 / x.ratio.2 := by
  rw [magnitude, ← powerOfTwo_eq, ratio, Nat.cast_mul, mul_div_assoc]

theorem value_eq (x : Binary64) : x.value = x.fraction.1 / x.fraction.2 := by
  rw [value, fraction, magnitude_eq]
  split
  · rw [Int.cast_neg, Int.cast_natCast, neg_div]
  · rw [Int.cast_natCast]

theorem abs_value (x : Binary64) : |x.value| = x.magnitude := by
  have hnonneg : 0 ≤ x.magnitude := by
    rw [magnitude_eq]
    positivity
  rw [value]
  split
  · rw [abs_neg, abs_of_nonneg hnonneg]
  · rw [abs_of_nonneg hnonneg]

/-- Numbers are compared by their values. -/
theorem le_iff {x y : Binary64} : x ≤ y ↔ x.value ≤ y.value := by
  rw [value_eq, value_eq, div_le_div_iff₀ (Nat.cast_pos.2 x.ratio_pos) (Nat.cast_pos.2 y.ratio_pos)]
  exact_mod_cast Iff.rfl

theorem lt_iff {x y : Binary64} : x < y ↔ x.value < y.value := by
  rw [value_eq, value_eq, div_lt_div_iff₀ (Nat.cast_pos.2 x.ratio_pos) (Nat.cast_pos.2 y.ratio_pos)]
  exact_mod_cast Iff.rfl

/-- **A number is whole exactly if its value is**, and then it is its value. -/
theorem toInt?_eq_some {x : Binary64} {i : Int} : x.toInt? = some i ↔ (i : ℚ) = x.value := by
  have hpos : (0 : ℚ) < x.ratio.2 := Nat.cast_pos.2 x.ratio_pos
  rw [toInt?]
  dsimp only
  split
  · rename_i hmod
    obtain ⟨k, hk⟩ := Nat.dvd_of_mod_eq_zero hmod
    have hmagnitude : x.magnitude = k := by
      rw [magnitude_eq, hk, Nat.cast_mul, mul_div_cancel_left₀ _ hpos.ne']
    rw [value, hmagnitude, hk, Nat.mul_div_cancel_left k x.ratio_pos, Option.some_inj]
    split
    · exact ⟨fun h => by rw [← h, Int.cast_neg, Int.cast_natCast], fun h => by exact_mod_cast h.symm⟩
    · exact ⟨fun h => by rw [← h, Int.cast_natCast], fun h => by exact_mod_cast h.symm⟩
  · rename_i hmod
    refine ⟨nofun, fun hi => absurd ?_ hmod⟩
    have habs : (i.natAbs : ℚ) = x.ratio.1 / x.ratio.2 := by
      rw [Nat.cast_natAbs, Int.cast_abs, hi, abs_value, magnitude_eq]
    have hwhole : i.natAbs * x.ratio.2 = x.ratio.1 := by exact_mod_cast (eq_div_iff hpos.ne').1 habs
    rw [← hwhole, Nat.mul_mod_left]

/-! ## Rounding -/

theorem div_le_roundHalfEven (n d : Nat) : n / d ≤ roundHalfEven n d := by
  rw [roundHalfEven]
  split <;> omega

/-- A quotient is not below the power of two that its numerator and its denominator show. -/
theorem two_zpow_le_div {num den : Nat} (hnum : num ≠ 0) (hden : den ≠ 0) :
    (2 : ℚ) ^ ((num.log2 : Int) - den.log2 - 1) ≤ num / den := by
  have hlow : (2 : ℚ) ^ (num.log2 : Int) ≤ num := by
    rw [zpow_natCast]
    exact_mod_cast Nat.log2_self_le hnum
  have hhigh : (den : ℚ) ≤ 2 ^ ((den.log2 : Int) + 1) := by
    rw [← Nat.cast_succ, zpow_natCast]
    exact_mod_cast (Nat.lt_log2_self (n := den)).le
  rw [le_div_iff₀ (Nat.cast_pos.2 (Nat.pos_of_ne_zero hden))]
  calc (2 : ℚ) ^ ((num.log2 : Int) - den.log2 - 1) * den
      ≤ 2 ^ ((num.log2 : Int) - den.log2 - 1) * 2 ^ ((den.log2 : Int) + 1) := by gcongr
    _ = 2 ^ (num.log2 : Int) := by
      rw [← zpow_add₀ two_ne_zero]
      congr 1
      omega
    _ ≤ num := hlow

/-- Unless the exponent is the least one, it leaves 53 bits before the point. -/
theorem exponentFor_eq_or_le {num den : Nat} (hnum : num ≠ 0) (hden : den ≠ 0) :
    exponentFor num den = -1074 ∨ (2 : ℚ) ^ (exponentFor num den + 52) ≤ num / den := by
  rw [exponentFor]
  dsimp only
  generalize hq : (num.log2 : Int) - den.log2 - 53 = q
  have hfits : (2 : ℚ) ^ ((if den * (powerOfTwo (q + 53)).1 ≤ num * (powerOfTwo (q + 53)).2 then q + 1 else q) + 52) ≤
      num / den := by
    split
    · rename_i hle
      rw [show q + 1 + 52 = q + 53 by omega, ← powerOfTwo_eq,
        div_le_div_iff₀ (Nat.cast_pos.2 (powerOfTwo_pos _).2) (Nat.cast_pos.2 (Nat.pos_of_ne_zero hden)), mul_comm]
      exact_mod_cast hle
    · rw [show q + 52 = (num.log2 : Int) - den.log2 - 1 by omega]
      exact two_zpow_le_div hnum hden
  obtain h | h := max_choice (-1074) (if den * (powerOfTwo (q + 53)).1 ≤ num * (powerOfTwo (q + 53)).2 then q + 1 else q)
  · exact .inl h
  · rw [h]
    exact .inr hfits

/-- A quotient as a multiple of `2 ^ q`, rounded to a whole one. -/
def multipleOf (q : Int) (num den : Nat) : Nat := roundHalfEven (num * (powerOfTwo q).2) (den * (powerOfTwo q).1)

/-- A quotient is rounded to a multiple of the power of two that its exponent says. -/
theorem magnitude_of_nearest {negative : Bool} {num den : Nat} {x : Binary64} (hnum : num ≠ 0)
    (h : nearest negative num den = some x) : x.negative = negative ∧
      x.magnitude = multipleOf (exponentFor num den) num den * 2 ^ exponentFor num den := by
  rw [nearest, if_neg hnum] at h
  dsimp only at h
  have hform {m : Nat} {q : Int} (h : ofForm? negative m q = some x) :
      x.negative = negative ∧ x.magnitude = m * 2 ^ q := by
    unfold ofForm? at h
    split at h
    · cases h
      exact ⟨rfl, rfl⟩
    · cases h
  split at h
  · rename_i hcarry
    obtain ⟨hsign, hmagnitude⟩ := hform h
    refine ⟨hsign, ?_⟩
    rw [hmagnitude, multipleOf, hcarry, zpow_add_one₀ two_ne_zero, show Numeral.twoTo 53 = Numeral.twoTo 52 * 2 from rfl, Nat.cast_mul,
      Nat.cast_ofNat, mul_assoc, mul_comm (2 : ℚ)]
  · exact hform h

/-- Rounding to a multiple of a power of two does not go below a greater one. -/
theorem two_pow_le_multipleOf {num den e : Nat} {q : Int} (hden : den ≠ 0) (hle : (2 : ℚ) ^ (q + e) ≤ num / den) :
    2 ^ e ≤ multipleOf q num den := by
  obtain ⟨hup, hdown⟩ := powerOfTwo_pos q
  have hden : 0 < den := Nat.pos_of_ne_zero hden
  rw [zpow_add₀ two_ne_zero, zpow_natCast, ← powerOfTwo_eq, div_mul_eq_mul_div,
    div_le_div_iff₀ (Nat.cast_pos.2 hdown) (Nat.cast_pos.2 hden)] at hle
  refine le_trans ((Nat.le_div_iff_mul_le (Nat.mul_pos hden hup)).2 ?_) (div_le_roundHalfEven _ _)
  rw [mul_comm den, ← mul_assoc, mul_comm (2 ^ e)]
  exact_mod_cast hle

/-- **Rounding does not go below a power of two.** -/
theorem two_zpow_le_of_nearest {negative : Bool} {num den : Nat} {x : Binary64} {k : Int} (hk : -1074 ≤ k)
    (hden : den ≠ 0) (hle : (2 : ℚ) ^ k ≤ num / den) (h : nearest negative num den = some x) : 2 ^ k ≤ x.magnitude := by
  have hnum : num ≠ 0 := by
    rintro rfl
    rw [Nat.cast_zero, zero_div] at hle
    exact absurd hle (not_le.2 (zpow_pos two_pos k))
  rw [(magnitude_of_nearest hnum h).2]
  -- a power of two that is not below this one, and is a multiple of the one rounded to
  obtain ⟨e, hke, hle⟩ : ∃ e : Nat, k ≤ exponentFor num den + e ∧ (2 : ℚ) ^ (exponentFor num den + e) ≤ num / den := by
    obtain hq | hq := le_or_gt (exponentFor num den) k
    · refine ⟨(k - exponentFor num den).toNat, by omega, ?_⟩
      rwa [show exponentFor num den + (k - exponentFor num den).toNat = k by omega]
    · exact ⟨52, by omega, (exponentFor_eq_or_le hnum hden).resolve_left (by omega)⟩
  have hround : (2 : ℚ) ^ e ≤ multipleOf (exponentFor num den) num den := by
    exact_mod_cast two_pow_le_multipleOf hden hle
  calc (2 : ℚ) ^ k ≤ 2 ^ (exponentFor num den + e) := zpow_le_zpow_right₀ one_le_two hke
    _ = 2 ^ e * 2 ^ exponentFor num den := by rw [zpow_add₀ two_ne_zero, zpow_natCast, mul_comm]
    _ ≤ multipleOf (exponentFor num den) num den * 2 ^ exponentFor num den := by gcongr

/-- A whole number is not rounded below a power of two either. -/
theorem two_pow_le_of_ofInt? {w : Int} {x : Binary64} {k : Nat} (hw : 2 ^ k ≤ w) (h : ofInt? w = some x) :
    2 ^ k ≤ x.value := by
  have hpos : 0 < w := lt_of_lt_of_le (by positivity) hw
  have hnat : ((w.natAbs : Nat) : ℚ) = w := by rw [Nat.cast_natAbs, abs_of_pos hpos]
  have hpower : (2 : ℚ) ^ (k : Int) ≤ w.natAbs / (1 : Nat) := by
    rw [Nat.cast_one, div_one, hnat, zpow_natCast]
    exact_mod_cast hw
  have hsign : x.negative = false := by
    rw [(magnitude_of_nearest (Int.natAbs_ne_zero.2 hpos.ne') h).1, decide_eq_false_iff_not, not_lt]
    exact hpos.le
  have hmagnitude := two_zpow_le_of_nearest (by omega) one_ne_zero hpower h
  rwa [zpow_natCast, show x.magnitude = x.value by rw [value, hsign]; rfl] at hmagnitude

end Cohort.Binary64
