import Cohort.Numeral

/-!
# UTF-8

Bytes that are no text have a first fault (`Utf8.fault?`): a character that starts there and goes on with a byte that
it cannot have, or that the bytes end in. `Utf8.lossy` is the text that bytes stand for with each fault replaced by one
character.
-/

namespace Cohort.Text.Utf8

/-- Where bytes are no text. -/
structure Fault where
  /-- The byte at which the faulty character starts. -/
  index : Nat
  /-- How many bytes of it could be read, unless the bytes end in it. -/
  length : Option Nat
  deriving DecidableEq

/-- The wording of a fault. -/
def Fault.message (f : Fault) : String :=
  match f.length with
  | some n =>
    "invalid utf-8 sequence of " ++ Numeral.natText n ++ " bytes from index " ++ Numeral.natText f.index
  | none => "incomplete utf-8 byte sequence from index " ++ Numeral.natText f.index

/-- The bytes that go on with any character. -/
def tail : Nat × Nat := (0x80, 0xBF)

/-- Between which bytes those after the first byte of a character are; none if no character starts with it. Characters
that fewer bytes would do for, surrogates and what is behind the last character are left out. -/
def tails? (b : Nat) : Option (List (Nat × Nat)) :=
  if b < 0x80 then some []
  else if b < 0xC2 then none
  else if b < 0xE0 then some [tail]
  else if b = 0xE0 then some [(0xA0, 0xBF), tail]
  else if b = 0xED then some [(0x80, 0x9F), tail]
  else if b < 0xF0 then some [tail, tail]
  else if b = 0xF0 then some [(0x90, 0xBF), tail, tail]
  else if b < 0xF4 then some [tail, tail, tail]
  else if b = 0xF4 then some [(0x80, 0x8F), tail, tail]
  else none

/-- The first fault of bytes behind a character that started at `start`, of which `passed` bytes have been read and the
bytes `owed` are missing. -/
def faultBehind (start passed : Nat) (owed : List (Nat × Nat)) : List UInt8 → Option Fault
  | [] => if owed.isEmpty then none else some ⟨start, none⟩
  | b :: bs =>
    match owed with
    | [] =>
      match tails? b.toNat with
      | none => some ⟨start + passed, some 1⟩
      | some owed => faultBehind (start + passed) 1 owed bs
    | (low, high) :: owed =>
      if low ≤ b.toNat ∧ b.toNat ≤ high then faultBehind start (passed + 1) owed bs else some ⟨start, some passed⟩

/-- The first fault of bytes. -/
def fault? (bs : List UInt8) : Option Fault := faultBehind 0 0 [] bs

/-- The text that bytes stand for, empty if they are no text. -/
def text (bs : List UInt8) : List Char := ((String.fromUTF8? ⟨bs.toArray⟩).getD "").toList

/-- The text of at most `fuel` parts without fault and the faults behind them. -/
def lossyParts : Nat → List UInt8 → List Char
  | 0, _ => []
  | fuel + 1, bs =>
    match fault? bs with
    | none => text bs
    | some ⟨index, some length⟩ => text (bs.take index) ++ '\uFFFD' :: lossyParts fuel (bs.drop (index + length))
    | some ⟨index, none⟩ => text (bs.take index) ++ ['\uFFFD']

/-- The text that bytes stand for, each fault replaced by one character. -/
def lossy (bs : List UInt8) : List Char := lossyParts (bs.length + 1) bs

end Cohort.Text.Utf8
