import Cohort.Numeral

/-!
# Percent-encoding

A character that may not stand in a part of an address is written as its bytes in UTF-8, each as a percent sign and two
digits of base sixteen. Which characters that are depends on the part; all characters outside ASCII are among them.
-/

namespace Cohort.Url

/-- The characters that no part holds: controls, and those outside ASCII. -/
def controlSet (c : Char) : Bool := c.toNat < 0x20 || 0x7E < c.toNat

/-- The characters that a fragment does not hold. -/
def fragmentSet (c : Char) : Bool := controlSet c || [' ', '"', '<', '>', '`'].contains c

/-- The characters that a query does not hold. -/
def querySet (c : Char) : Bool := controlSet c || [' ', '"', '#', '<', '>'].contains c

/-- The characters that a query does not hold in a special scheme. -/
def specialQuerySet (c : Char) : Bool := querySet c || c == '\''

/-- The characters that a path does not hold. -/
def pathSet (c : Char) : Bool := querySet c || ['?', '`', '\x7b', '\x7d'].contains c

/-- The characters that credentials do not hold. -/
def userinfoSet (c : Char) : Bool :=
  pathSet c || ['/', ':', ';', '=', '@', '[', '\\', ']', '^', '|'].contains c

/-- A byte as a percent sign and two digits. -/
def encodeByte (b : UInt8) : List Char := '%' :: (Numeral.fixed 16 2 b.toNat).map Char.toUpper

/-- A character of a part, given the characters that the part does not hold. -/
def encodeChar (excluded : Char → Bool) (c : Char) : List Char :=
  if excluded c then (String.utf8EncodeChar c).flatMap encodeByte else [c]

/-- A text in a part, given the characters that the part does not hold. -/
def encode (excluded : Char → Bool) (cs : List Char) : List Char := cs.flatMap (encodeChar excluded)

/-- The bytes that a text with percent-encoding stands for. -/
def decode : List Char → List UInt8
  | [] => []
  | '%' :: a :: b :: rest =>
    match Numeral.hexValue? a, Numeral.hexValue? b with
    | some x, some y => (16 * x + y).toUInt8 :: decode rest
    | _, _ => '%'.toNat.toUInt8 :: decode (a :: b :: rest)
  | c :: rest => String.utf8EncodeChar c ++ decode rest

end Cohort.Url
