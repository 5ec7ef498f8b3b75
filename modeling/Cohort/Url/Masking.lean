import Cohort.Url.Reader

/-!
# Addresses without their passwords

An address can be shown if stars stand in for its password (`maskUrl`). Of a text that is no address only the first and
the last characters are shown, and nothing of a short one.
-/

namespace Cohort

/-- What stands in for what is not shown. -/
def mask : List Char := ['*', '*', '*']

/-- The address with stars for its password. -/
def Url.masked (u : Url) : Url := if u.password.isEmpty then u else { u with password := mask }

/-- The longest text of which nothing is shown. -/
def maskLimit : Nat := 20

/-- The number of characters that are shown at each end. -/
def shownEnds : Nat := 10

/-- A text with its middle hidden, or all of it if it is short. -/
def maskText (cs : List Char) : List Char :=
  if maskLimit < cs.length then cs.take shownEnds ++ mask ++ cs.drop (cs.length - shownEnds) else mask

/-- An address as it may be shown. -/
def maskUrl (s : String) : String :=
  match Url.read s with
  | .ok u => u.masked.text
  | .error _ => String.ofList (maskText s.toList)

end Cohort
