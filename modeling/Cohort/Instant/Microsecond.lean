import Cohort.Instant.Basic

/-!
# Instants to the microsecond

A database counts the microseconds from the start of the year 2000. `Instant.toMicrosecond` is the instant that the
count of another one stands for: a leap second is the second after it, and what is less than a microsecond is cut off
toward the start of the count.
-/

namespace Cohort.Instant

/-- The start of the next minute. -/
def nextMinute (t : Instant) : Instant :=
  if t.minute < 1439 then ⟨t.date, t.minute + 1, 0, 0⟩ else ⟨t.date.next, 0, 0, 0⟩

/-- The start of the next second. -/
def nextSecond (t : Instant) : Instant :=
  if t.second < 59 then { t with second := t.second + 1, nano := 0 } else t.nextMinute

/-- The instant with a leap second counted as the second after it. -/
def withoutLeap (t : Instant) : Instant := if t.second < 60 then t else { t.nextMinute with nano := t.nano }

/-- The year with which the count starts. -/
def countStart : Int := 2000

/-- The nanoseconds of a whole number of microseconds, cut off. -/
def cutOff (nano : Nat) : Nat := nano / 1000 * 1000

/-- The nanoseconds of a whole number of microseconds, filled up. -/
def fillUp (nano : Nat) : Nat := (nano + 999) / 1000 * 1000

/-- The instant to the microsecond. -/
def toMicrosecond (t : Instant) : Instant :=
  let t := t.withoutLeap
  if countStart ≤ t.date.year then { t with nano := cutOff t.nano }
  else if fillUp t.nano < 1000000000 then { t with nano := fillUp t.nano }
  else t.nextSecond

end Cohort.Instant
