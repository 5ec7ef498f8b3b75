import Cohort.Instant.Basic
import Cohort.Text.Ascii
import Cohort.Text.Blank

/-!
# Reading instants

Two readers of date, time of day and offset. `Instant.read` takes the fixed layout `YYYY-MM-DDThh:mm:ss` with an
optional fraction and an offset. `Instant.readLoose` also takes shorter numbers, a signed year, blanks around the
parts, `UTC` for the offset and nothing or a blank for the colon in it. Both say which of five things is wrong
(`Instant.Error`); the fixed layout looks at the parts from left to right and at the offset's size last, the loose one
refuses a number out of its own range as soon as it is read and a day that the month does not have at the end.
-/

namespace Cohort.Instant

/-- What is wrong with a text that is no instant. -/
inductive Error where
  /-- The text ends too soon. -/
  | premature
  /-- A character stands where it may not. -/
  | invalid
  /-- A number is out of its range, or there is no such day. -/
  | outOfRange
  /-- Something follows the offset. -/
  | trailing
  /-- In universal time, the day is outside the calendar. -/
  | impossible
  deriving DecidableEq

/-- The wording of an error. -/
def Error.message : Error → String
  | .premature => "premature end of input"
  | .invalid => "input contains invalid characters"
  | .outOfRange => "input is out of range"
  | .trailing => "trailing input"
  | .impossible => "no possible date and time matching input"

/-! ## Parts of both layouts -/

/-- The rest of a text after a given character. -/
def expect (c : Char) : List Char → Except Error (List Char)
  | [] => .error .premature
  | d :: cs => if d = c then .ok cs else .error .invalid

/-- The nanoseconds of a fraction, given the text after the point: nine digits count, further ones are dropped. -/
def readNano (cs : List Char) : Except Error (Nat × List Char) :=
  let ds := cs.takeWhile Numeral.isDecimal
  if cs.isEmpty then .error .premature
  else if ds.isEmpty then .error .invalid
  else
    let kept := ds.take 9
    let value := (Numeral.natural? kept).getD 0
    .ok (value * Numeral.tenTo (9 - kept.length), cs.dropWhile Numeral.isDecimal)

/-- Two characters, and whether the text has two bytes at all. -/
def readPair (cs : List Char) : Except Error (Char × Char × List Char) :=
  if Text.byteLength cs < 2 then .error .premature
  else match cs with
    | a :: b :: rest => .ok (a, b, rest)
    | _ => .error .invalid

/-- The sign of an offset, true for one that is behind universal time. -/
def readSign : List Char → Except Error (Bool × List Char)
  | [] => .error .premature
  | '+' :: cs => .ok (false, cs)
  | '-' :: cs => .ok (true, cs)
  | '\u2212' :: cs => .ok (true, cs)
  | _ :: _ => .error .invalid

/-- An offset in minutes: `Z`, or a sign, two digits of hours, what `colon` takes, two digits of minutes. -/
def readOffset (colon : List Char → Except Error (List Char)) (cs : List Char) : Except Error (Int × List Char) :=
  match cs with
  | 'Z' :: rest => .ok (0, rest)
  | 'z' :: rest => .ok (0, rest)
  | cs => do
    let (behind, cs) ← readSign cs
    let (h₁, h₂, cs) ← readPair cs
    match Numeral.natural? [h₁, h₂] with
    | none => .error .invalid
    | some hours =>
      let cs ← colon cs
      let (m₁, m₂, cs) ← readPair cs
      match Numeral.natural? [m₁, m₂] with
      | none => .error .invalid
      | some minutes =>
        if 60 ≤ minutes then .error .outOfRange
        else
          let total : Int := (hours * 60 + minutes : Nat)
          .ok (if behind then -total else total, cs)

/-! ## The fixed layout -/

/-- The value of `width` digits at the start of a text. -/
def readFixed (width : Nat) (cs : List Char) : Except Error (Nat × List Char) :=
  match Numeral.natural? (cs.take width) with
  | some n => if (cs.take width).length = width then .ok (n, cs.drop width) else .error .invalid
  | none => .error .invalid

/-- The rest of a text after one of the marks between date and time. -/
def readMark : List Char → Except Error (List Char)
  | 'T' :: cs => .ok cs
  | 't' :: cs => .ok cs
  | ' ' :: cs => .ok cs
  | _ => .error .invalid

/-- The fraction of the second, if a point follows. -/
def readFraction (cs : List Char) : Except Error (Nat × List Char) :=
  match cs with
  | '.' :: rest => readNano rest
  | rest => .ok (0, rest)

/-- An instant in the fixed layout. -/
def readChars (cs : List Char) : Except Error Instant := do
  if Text.byteLength cs < 19 then .error .premature
  let (year, cs) ← readFixed 4 cs
  let cs ← expect '-' cs
  let (month, cs) ← readFixed 2 cs
  let cs ← expect '-' cs
  let (day, cs) ← readFixed 2 cs
  let date : Date := ⟨year, month, day⟩
  if !date.isValid then .error .outOfRange
  let cs ← readMark cs
  let (hour, cs) ← readFixed 2 cs
  let cs ← expect ':' cs
  let (minute, cs) ← readFixed 2 cs
  let cs ← expect ':' cs
  let (second, cs) ← readFixed 2 cs
  let (nano, cs) ← readFraction cs
  if 24 ≤ hour ∨ 60 ≤ minute ∨ 60 < second then .error .outOfRange
  let (offset, cs) ← readOffset (expect ':') cs
  if !cs.isEmpty then .error .trailing
  if 1440 ≤ offset.natAbs then .error .outOfRange
  let t := ofLocal date (hour * 60 + minute) second nano offset
  return t

/-- An instant in the fixed layout. -/
def read (s : String) : Except Error Instant := readChars s.toList

/-! ## The loose layout -/

/-- A number of one to `width` digits after blanks. -/
def readLooseNumber (width : Nat) (cs : List Char) : Except Error (Nat × List Char) :=
  let ds := (cs.take width).takeWhile Numeral.isDecimal
  if cs.isEmpty then .error .premature
  else match Numeral.natural? ds with
    | none => .error .invalid
    | some n => .ok (n, cs.drop ds.length)

/-- A number of one or two digits from `low` to `high`, after blanks. -/
def readBounded (low high : Nat) (cs : List Char) : Except Error (Nat × List Char) := do
  let (n, cs) ← readLooseNumber 2 (Text.trimStartChars cs)
  if low ≤ n ∧ n ≤ high then .ok (n, cs) else .error .outOfRange

/-- A year: up to four digits, or any number of them after a sign. -/
def readYear (cs : List Char) : Except Error (Int × List Char) := do
  let cs := Text.trimStartChars cs
  let (year, rest) ← match cs with
    | '-' :: r => (readLooseNumber r.length r).map fun (n, rest) => (-(n : Int), rest)
    | '+' :: r => (readLooseNumber r.length r).map fun (n, rest) => ((n : Int), rest)
    | r => (readLooseNumber 4 r).map fun (n, rest) => ((n : Int), rest)
  if -(Numeral.twoTo 31 : Int) ≤ year ∧ year < Numeral.twoTo 31 then .ok (year, rest) else .error .outOfRange

/-- Blanks and then a mark between two numbers. -/
def expectLoose (c : Char) (cs : List Char) : Except Error (List Char) := expect c (Text.trimStartChars cs)

/-- The rest of a text after one of the marks between date and time. -/
def readLooseMark : List Char → Except Error (List Char)
  | [] => .error .premature
  | cs => readMark cs

/-- The rest of a text after any number of colons and blanks. -/
def skipColons (cs : List Char) : Except Error (List Char) :=
  .ok (cs.dropWhile fun c => c == ':' || Text.isBlank c)

/-- An offset, or `UTC` in any case of letters. -/
def readLooseOffset (cs : List Char) : Except Error (Int × List Char) :=
  if Text.sameLetters (cs.take 3) "utc".toList then .ok (0, cs.drop 3) else readOffset skipColons cs

/-- An instant in the loose layout. -/
def readLooseChars (cs : List Char) : Except Error Instant := do
  let (year, cs) ← readYear cs
  let cs ← expectLoose '-' cs
  let (month, cs) ← readBounded 1 12 cs
  let cs ← expectLoose '-' cs
  let (day, cs) ← readBounded 1 31 cs
  let cs ← readLooseMark cs
  let (hour, cs) ← readBounded 0 23 cs
  let cs ← expectLoose ':' cs
  let (minute, cs) ← readBounded 0 59 cs
  let cs ← expectLoose ':' cs
  let (second, cs) ← readBounded 0 60 cs
  let (nano, cs) ← readFraction cs
  let (offset, cs) ← readLooseOffset (Text.trimStartChars cs)
  if !(Text.trimStartChars cs).isEmpty then .error .trailing
  let date : Date := ⟨year, month, day⟩
  if !date.isValid then .error .outOfRange
  if 1440 ≤ offset.natAbs then .error .outOfRange
  let t := ofLocal date (hour * 60 + minute) second nano offset
  if !t.date.isValid then .error .impossible
  return t

/-- An instant in the loose layout. -/
def readLoose (s : String) : Except Error Instant := readLooseChars s.toList

end Cohort.Instant
