/-!
# Numerals

Whole numbers written in base ten and sixteen. `digits` writes a natural number with no leading zero, `padded` with at
least a given number of digits; `natural?` reads any non-empty run of decimal digits. The readers of ranges take one
optional sign and refuse a number outside of them; `unsigned` says why (`Fault`). `twoTo` and `tenTo` are the powers
that ranges and places are counted in.
-/

namespace Cohort.Numeral

/-- Two to the power of `k`. -/
abbrev twoTo (k : Nat) : Nat := Nat.pow 2 k

/-- Ten to the power of `k`. -/
abbrev tenTo (k : Nat) : Nat := Nat.pow 10 k

/-- The digit of base sixteen with the given value; small letters above nine. -/
def digitChar (n : Nat) : Char :=
  if n < 10 then Char.ofNat (48 + n) else Char.ofNat (87 + n)

/-- The value of a decimal digit. -/
def decimalValue? (c : Char) : Option Nat :=
  if '0' ≤ c ∧ c ≤ '9' then some (c.toNat - 48) else none

/-- The value of a digit of base sixteen, in either case. -/
def hexValue? (c : Char) : Option Nat :=
  if '0' ≤ c ∧ c ≤ '9' then some (c.toNat - 48)
  else if 'a' ≤ c ∧ c ≤ 'f' then some (c.toNat - 87)
  else if 'A' ≤ c ∧ c ≤ 'F' then some (c.toNat - 55)
  else none

/-- The value of digits in base sixteen. -/
def hexNumber (ds : List Char) : Nat := ds.foldl (fun n c => 16 * n + (hexValue? c).getD 0) 0

/-- A decimal digit of ASCII. -/
def isDecimal (c : Char) : Bool := (decimalValue? c).isSome

/-- The decimal digits of a natural number, most significant first; zero has one. -/
def digits (n : Nat) : List Char :=
  if n < 10 then [digitChar n] else digits (n / 10) ++ [digitChar (n % 10)]
termination_by n
decreasing_by omega

/-- The digits of a natural number in base sixteen, most significant first; zero has one. -/
def hexDigits (n : Nat) : List Char :=
  if n < 16 then [digitChar n] else hexDigits (n / 16) ++ [digitChar (n % 16)]
termination_by n
decreasing_by omega

/-- Exactly `width` digits in the given base, the value taken modulo the largest that fits. -/
def fixed (base width n : Nat) : List Char :=
  match width with
  | 0 => []
  | w + 1 => fixed base w (n / base) ++ [digitChar (n % base)]

/-- The decimal digits of a natural number with zeros in front up to `width`. -/
def padded (width n : Nat) : List Char :=
  let ds := digits n
  List.replicate (width - ds.length) '0' ++ ds

/-- A natural number in base ten. -/
def natText (n : Nat) : String := String.ofList (digits n)

/-- The decimal digits of an integer, with a minus sign in front of a negative one. -/
def intChars (i : Int) : List Char :=
  if i < 0 then '-' :: digits i.natAbs else digits i.natAbs

/-- An integer in base ten. -/
def intText (i : Int) : String := String.ofList (intChars i)

/-- The value of a run of digits after `acc`, `none` at the first character that is no digit. -/
def valueFrom : Nat → List Char → Option Nat
  | acc, [] => some acc
  | acc, c :: cs => (decimalValue? c).bind fun d => valueFrom (10 * acc + d) cs

/-- The value of a non-empty run of decimal digits. -/
def natural? (cs : List Char) : Option Nat :=
  if cs.isEmpty then none else valueFrom 0 cs

/-- Why a text is no number of a range. -/
inductive Fault where
  /-- It is empty. -/
  | empty
  /-- A character is no digit. -/
  | notDigit
  /-- The digits up to some point are out of the range. -/
  | tooLarge
  deriving DecidableEq

/-- The wording of a fault. -/
def Fault.message : Fault → String
  | .empty => "cannot parse integer from empty string"
  | .notDigit => "invalid digit found in string"
  | .tooLarge => "number too large to fit in target type"

/-- The value of a run of digits after `acc` if it stays below `bound`, or its first fault. -/
def valueBelow (bound : Nat) : Nat → List Char → Except Fault Nat
  | acc, [] => .ok acc
  | acc, c :: cs =>
    match decimalValue? c with
    | none => .error .notDigit
    | some d => if 10 * acc + d < bound then valueBelow bound (10 * acc + d) cs else .error .tooLarge

/-- Digits with an optional plus sign, for a value below `bound`. -/
def unsigned (bound : Nat) (cs : List Char) : Except Fault Nat :=
  match cs with
  | [] => .error .empty
  | ['+'] => .error .notDigit
  | '+' :: r => valueBelow bound 0 r
  | r => valueBelow bound 0 r

/-- The value of digits with an optional plus sign, if it is below `bound`. -/
def unsigned? (bound : Nat) (cs : List Char) : Option Nat := (unsigned bound cs).toOption

/-- Digits with an optional sign, for a value from `-bound` to `bound - 1`. -/
def signed? (bound : Nat) (cs : List Char) : Option Int :=
  match cs with
  | '-' :: r => (natural? r).bind fun n => if n ≤ bound then some (-(n : Int)) else none
  | '+' :: r => (natural? r).bind fun n => if n < bound then some (n : Int) else none
  | r => (natural? r).bind fun n => if n < bound then some (n : Int) else none

end Cohort.Numeral
