import Cohort.Decimal.Basic

/-!
# Reading decimals

Two notations. Plain notation (`Decimal.readPlain?`) is a sign, digits and at most one point, with underscores allowed
once a digit has been read. Digits that do not fit before the point are refused; the first digit that does not fit
after it rounds the ones before, a half away from zero, and the others are dropped. An underscore in the place of that
digit rounds down, unless the digits before it are too many for 64 bits (`Decimal.roundsHere`). Scientific notation
(`Decimal.readScientific?`) is a plain decimal, `e`, and an exponent of at most 28 either way.
-/

namespace Cohort.Decimal

/-! ## Plain notation -/

/-- Digits rounded by the digit after them. If that carries them out of range, the last one goes as well. -/
def roundBy (digit mantissa scale : Nat) : Option (Nat × Nat) :=
  if digit < 5 then some (mantissa, scale)
  else if mantissa + 1 < bound then some (mantissa + 1, scale)
  else if scale = 0 then none
  else some ((mantissa + 1 + 4) / 10, scale - 1)

/-- A digit or an underscore. -/
def isTail (c : Char) : Bool := Numeral.isDecimal c || c == '_'

/-- Digits below this bound have room for one more in 64 bits, and 255 to spare. -/
def shortBound : Nat := Numeral.twoTo 64 / 10 - 255

/-- Whether an underscore stands where the digit would that rounds the others: after the last place, while the digits
before it are few. Behind more digits it is skipped like any other. -/
def roundsHere (mantissa scale : Nat) (point : Bool) : Bool :=
  point && scale == maxScale && decide (mantissa / 10 < shortBound)

/-- Digits and places of a text without sign: `point` after the point, `started` after the first digit. -/
def readDigits? (mantissa scale : Nat) (point started : Bool) : List Char → Option (Nat × Nat)
  | [] => if started then some (mantissa, scale) else none
  | c :: cs =>
    match Numeral.decimalValue? c with
    | some d =>
      if !point then
        if 10 * mantissa + d < bound then readDigits? (10 * mantissa + d) scale false true cs else none
      else if scale < maxScale && decide (10 * mantissa + d < bound) then
        readDigits? (10 * mantissa + d) (scale + 1) true true cs
      else if cs.all isTail then roundBy d mantissa scale
      else none
    | none =>
      if c = '.' && !point then readDigits? mantissa scale true started cs
      else if c = '_' && started then
        if roundsHere mantissa scale point then
          if cs.all isTail then some (mantissa, scale) else none
        else readDigits? mantissa scale point started cs
      else none

/-- A sign and the text after it. -/
def readSign : List Char → Bool × List Char
  | '-' :: cs => (true, cs)
  | '+' :: cs => (false, cs)
  | cs => (false, cs)

/-- A decimal in plain notation. -/
def readPlain? (cs : List Char) : Option Decimal :=
  let (negative, cs) := readSign cs
  (readDigits? 0 0 false false cs).bind fun (mantissa, scale) => ofParts? negative mantissa scale

/-! ## Scientific notation -/

/-- The value without its last `places` digits, a half going away from zero. -/
def dropDigits (places n : Nat) : Nat :=
  let unit := Numeral.tenTo places
  if unit ≤ 2 * (n % unit) then n / unit + 1 else n / unit

/-- A decimal times `10 ^ (-k)`, rounded to 28 places; the sign stays when all digits go. -/
def scaleDown? (d : Decimal) (k : Nat) : Option Decimal :=
  if d.scale + k ≤ maxScale then signed? d.negative d.digits (d.scale + k)
  else signed? d.negative (dropDigits (d.scale + k - maxScale) d.digits) maxScale

/-- A decimal times `10 ^ k`, with no place more than needed. -/
def scaleUp? (d : Decimal) (k : Nat) : Option Decimal :=
  if k ≤ d.scale then signed? d.negative d.digits (d.scale - k)
  else signed? d.negative (d.digits * Numeral.tenTo (k - d.scale)) 0

/-- A decimal in scientific notation. -/
def readScientific? (cs : List Char) : Option Decimal :=
  let isMark := fun (c : Char) => c == 'e' || c == 'E'
  match cs.dropWhile (fun c => !isMark c) with
  | [] => none
  | _ :: exponent => do
    let base ← readPlain? (cs.takeWhile fun c => !isMark c)
    let (down, digits) := match exponent with
      | '-' :: r => (true, r)
      | r => (false, r)
    let k ← Numeral.unsigned? (Numeral.twoTo 32) digits
    if maxScale < k then none
    else if down then base.scaleDown? k
    else base.scaleUp? k

/-- A decimal in plain or else in scientific notation. -/
def read? (s : String) : Option Decimal :=
  match readPlain? s.toList with
  | some d => some d
  | none => readScientific? s.toList

end Cohort.Decimal
