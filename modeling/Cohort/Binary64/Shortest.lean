import Cohort.Binary64.Basic

/-!
# The shortest decimal that reads back

Every positive number of binary64 is the rounded value of an interval of reals, which holds its ends iff the
significand is even. `shortest` finds the decimal with the fewest digits in that interval, and of those the nearest to
the number. It tries one digit, two digits and so on; on the grid of a given length only the two neighbours of the
number can lie in the interval.
-/

namespace Cohort.Binary64

/-- A positive decimal `0.d₁d₂…dₙ * 10 ^ point`. -/
structure Scientific where
  /-- The digits as one natural number. -/
  digits : Nat
  /-- Where the point stands: before the first digit when zero. -/
  point : Int
  deriving DecidableEq

/-- Ten to the power of an exponent, as a numerator over a denominator. -/
def powerOfTen (k : Int) : Nat × Nat := (Numeral.tenTo k.toNat, Numeral.tenTo (-k).toNat)

/-- The interval of reals that round to a positive number, in quarters of its last place: low end, number, high end.
Below a power of two the lower neighbour is at half the distance. -/
def interval (x : Binary64) : Nat × Nat × Nat :=
  let m := x.significand
  let low := if m = Numeral.twoTo 52 ∧ x.exponent ≠ -1074 then 4 * m - 1 else 4 * m - 2
  (low, 4 * m, 4 * m + 2)

/-- The number of digits before the point of a positive number, negative if zeros follow the point. -/
def pointOf (x : Binary64) : Int :=
  let (n, d) := x.ratio
  ((Numeral.digits (n * Numeral.tenTo 330 / d)).length : Int) - 330

/-- The multiple of `10 ^ k` nearest to the number among its two neighbours on that grid that round to it. -/
def onGrid (x : Binary64) (k : Int) : Option Nat :=
  let (low, mid, high) := x.interval
  let (u2, d2) := powerOfTwo (x.exponent - 2)
  let (u10, d10) := powerOfTen k
  let place := u10 * d2
  let scale := u2 * d10
  let inside := fun c => if x.significand % 2 = 0 then low * scale ≤ c * place && c * place ≤ high * scale
    else low * scale < c * place && c * place < high * scale
  let below := mid * scale / place
  let above := below + 1
  match inside below, inside above with
  | false, false => none
  | true, false => some below
  | false, true => some above
  | true, true =>
    let down := mid * scale - below * place
    let up := above * place - mid * scale
    some (if up < down ∨ (up = down ∧ below % 2 = 1) then above else below)

/-- The first grid that holds a decimal for the number, trying `n` digits and more. -/
def search (x : Binary64) (n : Nat) : Nat → Nat × Int
  | 0 => (0, 0)
  | fuel + 1 =>
    let k := x.pointOf - n
    match x.onGrid k with
    | some c => (c, k)
    | none => search x (n + 1) fuel

/-- The number without its trailing zeros, and how many there were. -/
def stripZeros (n : Nat) : Nat × Nat :=
  if _h : n ≠ 0 ∧ n % 10 = 0 then
    let (m, k) := stripZeros (n / 10)
    (m, k + 1)
  else (n, 0)
termination_by n
decreasing_by omega

/-- The shortest decimal that rounds to a positive number. Seventeen digits always suffice. -/
def shortest (x : Binary64) : Scientific :=
  let (c, k) := x.search 1 17
  let (d, z) := stripZeros c
  ⟨d, ((Numeral.digits d).length : Int) + z + k⟩

end Cohort.Binary64
