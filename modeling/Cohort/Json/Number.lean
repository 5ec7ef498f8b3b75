import Cohort.Binary64.Shortest

/-!
# Numbers of a document

A number is either a whole number of 64 bits or a number of binary64; `1` and `1.0` are different numbers. Written
whole numbers have digits only, the others always a point or an exponent (`Number.text`), so a number keeps its kind
when it is written and read again.

`Number.ofToken?` reads a number as digits before the point, digits after it and an exponent. A token without point
and exponent is whole if it fits. In the others, digits are taken while the significand fits in 64 bits, and the value
is the rounded significand times or over a rounded power of ten.
-/

namespace Cohort.Json

/-- A number of a document. -/
inductive Number where
  /-- A whole number, from `-2 ^ 63` to `2 ^ 64 - 1` when read from a text. -/
  | whole (value : Int)
  /-- A number with a point or an exponent, or out of the range of whole ones. -/
  | float (value : Binary64)
  deriving DecidableEq

namespace Number

/-! ## Writing -/

/-- Points from here to there are written in place, others with an exponent. -/
structure Layout where
  /-- The least place of the point that is written without exponent. -/
  leastPoint : Int
  /-- The greatest place of the point that is written without exponent. -/
  greatestPoint : Int

/-- Numbers from `0.00001` up to `10 ^ 16` are written in place. -/
def layout : Layout := ⟨-4, 16⟩

/-- A positive decimal under a layout. -/
def scientificChars (l : Layout) (s : Binary64.Scientific) : List Char :=
  let ds := Numeral.digits s.digits
  let n : Int := ds.length
  if l.leastPoint ≤ s.point ∧ s.point ≤ l.greatestPoint then
    if s.point ≤ 0 then ['0', '.'] ++ List.replicate (-s.point).toNat '0' ++ ds
    else if s.point < n then ds.take s.point.toNat ++ '.' :: ds.drop s.point.toNat
    else ds ++ List.replicate (s.point - n).toNat '0' ++ ['.', '0']
  else
    let e := s.point - 1
    let mantissa := match ds with
      | [] => []
      | [d] => [d]
      | d :: r => d :: '.' :: r
    mantissa ++ 'e' :: (if e < 0 then '-' else '+') :: Numeral.digits e.natAbs

/-- The characters of a number. -/
def chars : Number → List Char
  | .whole i => Numeral.intChars i
  | .float x =>
    let body := if x.significand = 0 then ['0', '.', '0'] else scientificChars layout x.shortest
    if x.negative then '-' :: body else body

/-- A number as a document writes it. -/
def text (n : Number) : String := String.ofList n.chars

/-! ## Reading -/

/-- The largest significand that a token keeps. -/
def wordLimit : Nat := Numeral.twoTo 64

/-- A significand and the power of ten that goes with it while a token is read. -/
structure Scaled where
  /-- The digits taken so far. -/
  significand : Nat
  /-- The power of ten that scales them. -/
  exponent : Int

/-- Takes the digits before the point. From the first that does not fit, each one raises the exponent. -/
def takeWhole (p : Scaled) (full : Bool) : List Char → Scaled × Bool
  | [] => (p, full)
  | c :: cs =>
    let d := (Numeral.decimalValue? c).getD 0
    if full || wordLimit ≤ 10 * p.significand + d then takeWhole { p with exponent := p.exponent + 1 } true cs
    else takeWhole { p with significand := 10 * p.significand + d } false cs

/-- Takes the digits after the point up to the first that does not fit. -/
def takeFraction (p : Scaled) : List Char → Scaled
  | [] => p
  | c :: cs =>
    let d := (Numeral.decimalValue? c).getD 0
    if wordLimit ≤ 10 * p.significand + d then p
    else takeFraction ⟨10 * p.significand + d, p.exponent - 1⟩ cs

/-- The largest power of ten that is a number of the format. -/
def greatestPower : Nat := 308

/-- Divides a magnitude by `10 ^ k`, at most `10 ^ 308` at a time. -/
def shiftDown (x : Binary64) (k : Nat) : Option Binary64 :=
  if _h : k ≤ greatestPower then (Binary64.nearest false (Numeral.tenTo k) 1).bind x.dividedBy
  else if x.significand = 0 then some x
  else
    ((Binary64.nearest false (Numeral.tenTo greatestPower) 1).bind x.dividedBy).bind fun y =>
      shiftDown y (k - greatestPower)
termination_by k
decreasing_by simp only [greatestPower] at *; omega

/-- The magnitude of `significand * 10 ^ exponent`; `none` above the range. -/
def magnitude? (p : Scaled) : Option Binary64 :=
  (Binary64.nearest false p.significand 1).bind fun x =>
    if p.exponent < 0 then shiftDown x p.exponent.natAbs
    else if p.exponent.toNat ≤ greatestPower then
      (Binary64.nearest false (Numeral.tenTo p.exponent.toNat) 1).bind x.times
    else if x.significand = 0 then some x else none

/-- The number of a token: a sign, the digits before the point, the digits after it if there is one, and the signed
exponent if there is one. -/
def ofToken? (negative : Bool) (digits : List Char) (fraction : Option (List Char)) (exponent : Option Int) :
    Option Number :=
  let (p, full) := takeWhole ⟨0, 0⟩ false digits
  let float := fun (p : Scaled) => (magnitude? p).map fun x => Number.float (x.withSign negative)
  match fraction, exponent with
  | none, none =>
    if full then float p
    else if !negative then some (.whole p.significand)
    else if p.significand = 0 ∨ Numeral.twoTo 63 < p.significand then float p
    else some (.whole (-(p.significand : Int)))
  | fraction, exponent =>
    let p := takeFraction p (fraction.getD [])
    float { p with exponent := p.exponent + exponent.getD 0 }

end Number
end Cohort.Json
