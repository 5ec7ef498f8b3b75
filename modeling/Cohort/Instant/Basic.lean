import Cohort.Numeral

/-!
# Instants

An instant is a date and a time of day in universal time, down to the nanosecond (`Instant`). Second 60 is a leap
second, at the end of any minute. Written, an instant has as many fractional digits of the second as it needs out of
0, 3, 6 and 9, and ends in `Z` (`Instant.text`) or in `+00:00` (`Instant.offsetText`). A year outside 0 to 9999 has a
sign.
-/

namespace Cohort

/-- The number of days of a month of the Gregorian calendar, zero if there is no such month. -/
def daysInMonth (year : Int) (month : Nat) : Nat :=
  if month = 2 then
    if year % 4 = 0 ∧ (year % 100 ≠ 0 ∨ year % 400 = 0) then 29 else 28
  else if month = 4 ∨ month = 6 ∨ month = 9 ∨ month = 11 then 30
  else if 1 ≤ month ∧ month ≤ 12 then 31
  else 0

/-- A day of the Gregorian calendar, extended to all years. -/
structure Date where
  /-- The year; year zero is the one before year one. -/
  year : Int
  /-- The month, from one. -/
  month : Nat
  /-- The day of the month, from one. -/
  day : Nat
  deriving DecidableEq

namespace Date

/-- A day that the month has, of a year in the range of the calendar. -/
def isValid (d : Date) : Bool :=
  -262143 ≤ d.year && d.year ≤ 262142 && 1 ≤ d.day && d.day ≤ daysInMonth d.year d.month

/-- The day after. -/
def next (d : Date) : Date :=
  if d.day < daysInMonth d.year d.month then { d with day := d.day + 1 }
  else if d.month < 12 then ⟨d.year, d.month + 1, 1⟩
  else ⟨d.year + 1, 1, 1⟩

/-- The day before. -/
def previous (d : Date) : Date :=
  if 1 < d.day then { d with day := d.day - 1 }
  else if 1 < d.month then ⟨d.year, d.month - 1, daysInMonth d.year (d.month - 1)⟩
  else ⟨d.year - 1, 12, 31⟩

/-- The year with four digits, with a sign and at least four digits outside 0 to 9999. -/
def yearChars (y : Int) : List Char :=
  if y < 0 then '-' :: Numeral.padded 4 y.natAbs
  else if 9999 < y then '+' :: Numeral.padded 4 y.natAbs
  else Numeral.padded 4 y.natAbs

/-- Year, month and day with hyphens between them. -/
def chars (d : Date) : List Char :=
  yearChars d.year ++ '-' :: Numeral.padded 2 d.month ++ '-' :: Numeral.padded 2 d.day

end Date

/-- A moment in universal time. -/
structure Instant where
  /-- The day. -/
  date : Date
  /-- The minute of the day, below 1440. -/
  minute : Nat
  /-- The second of the minute; 60 in a leap second. -/
  second : Nat
  /-- The nanosecond of the second. -/
  nano : Nat
  deriving DecidableEq

namespace Instant

/-- The moment that is `minutes` before the given local time; an offset is less than a day. -/
def ofLocal (date : Date) (minute second nano : Nat) (offset : Int) : Instant :=
  let m : Int := minute - offset
  if m < 0 then ⟨date.previous, (m + 1440).toNat, second, nano⟩
  else if 1440 ≤ m then ⟨date.next, (m - 1440).toNat, second, nano⟩
  else ⟨date, m.toNat, second, nano⟩

/-- A point and the fractional digits of the second: none, three, six or nine, whichever is enough. -/
def fractionChars (nano : Nat) : List Char :=
  if nano = 0 then []
  else if nano % 1000000 = 0 then '.' :: Numeral.padded 3 (nano / 1000000)
  else if nano % 1000 = 0 then '.' :: Numeral.padded 6 (nano / 1000)
  else '.' :: Numeral.padded 9 nano

/-- Date and time of day. -/
def chars (t : Instant) : List Char :=
  t.date.chars ++ 'T' :: Numeral.padded 2 (t.minute / 60) ++ ':' :: Numeral.padded 2 (t.minute % 60) ++
    ':' :: Numeral.padded 2 t.second ++ fractionChars t.nano

/-- The written form that ends in `Z`. -/
def text (t : Instant) : String := String.ofList (t.chars ++ ['Z'])

/-- The written form that ends in `+00:00`. -/
def offsetText (t : Instant) : String := String.ofList (t.chars ++ "+00:00".toList)

end Instant
end Cohort
