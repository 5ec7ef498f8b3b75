import Cohort.Numeral

/-!
# Decimals

A decimal is a sign, digits that stay below `2 ^ 96` as a number, and a number of places after the point, at most 28
(`Decimal`). Places are kept: `1.50` and `1.5` have the same value and different forms. So is the sign of a zero, which
is what a small negative number leaves when it is rounded away; `Decimal.ofParts?` builds zeros without it.
-/

namespace Cohort

/-- The most places after the point. -/
def Decimal.maxScale : Nat := 28

/-- The bound of the digits. -/
def Decimal.bound : Nat := Numeral.twoTo 96

/-- A decimal: `digits / 10 ^ scale`, negated if `negative`. -/
structure Decimal where
  /-- The sign; zero has both. -/
  negative : Bool
  /-- The digits as one natural number. -/
  digits : Nat
  /-- The number of places after the point. -/
  scale : Nat
  /-- There are not too many places. -/
  scale_le : scale ≤ Decimal.maxScale
  /-- The digits are in range. -/
  digits_lt : digits < Decimal.bound
  deriving DecidableEq

namespace Decimal

/-- The decimal with the given sign, digits and places, if it is in range. -/
def signed? (negative : Bool) (digits scale : Nat) : Option Decimal :=
  if h : scale ≤ maxScale ∧ digits < bound then some ⟨negative, digits, scale, h.1, h.2⟩ else none

/-- The decimal with the given sign, digits and places, if it is in range; a zero has no sign. -/
def ofParts? (negative : Bool) (digits scale : Nat) : Option Decimal :=
  signed? (negative && digits != 0) digits scale

/-- Zero without sign and places. -/
def zero : Decimal := ⟨false, 0, 0, by decide, by decide⟩

/-- The characters of a decimal: a sign if it is negative, and exactly as many digits after the point as it has
places. -/
def chars (d : Decimal) : List Char :=
  let ds := Numeral.padded (d.scale + 1) d.digits
  let whole := ds.length - d.scale
  (if d.negative then ['-'] else []) ++ ds.take whole ++
    if d.scale = 0 then [] else '.' :: ds.drop whole

/-- A decimal as it is written. -/
def text (d : Decimal) : String := String.ofList d.chars

end Decimal
end Cohort
