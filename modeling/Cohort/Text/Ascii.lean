/-!
# Case and length of texts

`lower` and `upper` move the letters of ASCII only: a letter outside ASCII stands for itself, so two texts that differ
in the case of `É` stay different. `byteLength` counts a text in UTF-8, the unit of the limits on identifiers.
-/

namespace Cohort.Text

/-- Capital letters of ASCII become small. -/
def lower (s : String) : String := String.ofList (s.toList.map Char.toLower)

/-- Small letters of ASCII become capital. -/
def upper (s : String) : String := String.ofList (s.toList.map Char.toUpper)

/-- The number of bytes of a text in UTF-8. -/
def byteLength : List Char → Nat
  | [] => 0
  | c :: cs => c.utf8Size + byteLength cs

/-- The same text up to the case of ASCII letters. -/
def sameLetters (a b : List Char) : Bool := a.map Char.toLower == b.map Char.toLower

end Cohort.Text
