import Cohort.Numeral

/-!
# Finite numbers of binary64

A finite number of the 64-bit binary format is a sign, a whole significand below `2 ^ 53` and an exponent of two
(`Binary64`). Each magnitude has one such form (`Canonical`), so equality of values is equality of forms, the two
zeros apart. `nearest` rounds a quotient of natural numbers to the format, a tie to the even significand, and `ofInt?` a
whole number; `times` and `dividedBy` are the operations of the format on magnitudes. Numbers are compared by value.
-/

namespace Cohort

/-- The form of a magnitude: the significand fills its 53 bits unless the exponent is the least one. -/
def Binary64.Canonical (significand : Nat) (exponent : Int) : Prop :=
  significand < Numeral.twoTo 53 ∧ -1074 ≤ exponent ∧ exponent ≤ 971 ∧
    (Numeral.twoTo 52 ≤ significand ∨ exponent = -1074)

instance (m : Nat) (q : Int) : Decidable (Binary64.Canonical m q) := by
  unfold Binary64.Canonical; infer_instance

/-- A finite number of binary64: `significand * 2 ^ exponent`, negated if `negative`. -/
structure Binary64 where
  /-- The sign; zero has both. -/
  negative : Bool
  /-- The digits of the magnitude. -/
  significand : Nat
  /-- The power of two that scales them. -/
  exponent : Int
  /-- The one form of this magnitude. -/
  canonical : Binary64.Canonical significand exponent
  deriving DecidableEq

namespace Binary64

/-- The number with the given form, if it is canonical. -/
def ofForm? (negative : Bool) (m : Nat) (q : Int) : Option Binary64 :=
  if h : Canonical m q then some ⟨negative, m, q, h⟩ else none

/-- Zero with a sign. -/
def zero (negative : Bool) : Binary64 := ⟨negative, 0, -1074, by decide⟩

/-- The same magnitude with another sign. -/
def withSign (x : Binary64) (negative : Bool) : Binary64 := { x with negative }

/-- Two to the power of an exponent, as a numerator over a denominator. -/
def powerOfTwo (q : Int) : Nat × Nat := (Numeral.twoTo q.toNat, Numeral.twoTo (-q).toNat)

/-- The whole number nearest to `n / d`, a tie going to the even one. -/
def roundHalfEven (n d : Nat) : Nat :=
  let f := n / d
  let r := n % d
  if d < 2 * r ∨ (2 * r = d ∧ f % 2 = 1) then f + 1 else f

/-- The exponent with which `num / den` has 53 bits before the point, and the least exponent at least. -/
def exponentFor (num den : Nat) : Int :=
  let q : Int := (num.log2 : Int) - den.log2 - 53
  let (up, down) := powerOfTwo (q + 53)
  max (-1074) (if den * up ≤ num * down then q + 1 else q)

/-- The number of the format nearest to `num / den`, a tie going to the even significand; `none` above the range. -/
def nearest (negative : Bool) (num den : Nat) : Option Binary64 :=
  if num = 0 then some (zero negative)
  else
    let q := exponentFor num den
    let (up, down) := powerOfTwo q
    let m := roundHalfEven (num * down) (den * up)
    if m = Numeral.twoTo 53 then ofForm? negative (Numeral.twoTo 52) (q + 1) else ofForm? negative m q

/-- The number of the format nearest to a whole number, a tie going to the even significand; `none` out of the range. -/
def ofInt? (i : Int) : Option Binary64 := nearest (decide (i < 0)) i.natAbs 1

/-- The magnitude as a numerator over a denominator. -/
def ratio (x : Binary64) : Nat × Nat :=
  let (up, down) := powerOfTwo x.exponent
  (x.significand * up, down)

/-- The value as a signed numerator over a denominator. -/
def fraction (x : Binary64) : Int × Nat := (if x.negative then -(x.ratio.1 : Int) else x.ratio.1, x.ratio.2)

/-- Values are compared, so the two zeros are neither above nor below each other. -/
instance : LE Binary64 := ⟨fun x y => x.fraction.1 * y.fraction.2 ≤ y.fraction.1 * x.fraction.2⟩

instance : LT Binary64 := ⟨fun x y => x.fraction.1 * y.fraction.2 < y.fraction.1 * x.fraction.2⟩

instance (x y : Binary64) : Decidable (x ≤ y) :=
  inferInstanceAs (Decidable (x.fraction.1 * y.fraction.2 ≤ y.fraction.1 * x.fraction.2))

instance (x y : Binary64) : Decidable (x < y) :=
  inferInstanceAs (Decidable (x.fraction.1 * y.fraction.2 < y.fraction.1 * x.fraction.2))

/-- The product of two magnitudes, rounded; `none` above the range. -/
def times (x y : Binary64) : Option Binary64 :=
  nearest false (x.ratio.1 * y.ratio.1) (x.ratio.2 * y.ratio.2)

/-- The quotient of two magnitudes, rounded; `none` if the divisor is zero. -/
def dividedBy (x y : Binary64) : Option Binary64 :=
  if y.significand = 0 then none
  else nearest false (x.ratio.1 * y.ratio.2) (x.ratio.2 * y.ratio.1)

/-- The whole number that a number equals, if there is one. -/
def toInt? (x : Binary64) : Option Int :=
  let (n, d) := x.ratio
  if n % d = 0 then some (if x.negative then -((n / d : Nat) : Int) else ((n / d : Nat) : Int)) else none

end Binary64
end Cohort
