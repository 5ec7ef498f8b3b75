import Cohort.Numeral
import Cohort.Text.Ascii

/-!
# Universally unique identifiers

An identifier is its thirty-two digits of base sixteen. `Uuid.text` writes them in small letters with hyphens after
the digits 8, 12, 16 and 20. `Uuid.read` takes that form and three more: no hyphens at all, the hyphenated form in
braces, and the hyphenated form after `urn:uuid:`. Any other text is refused with the first thing that is wrong with
it (`Uuid.diagnose`): its length, a character, the number of groups, or the length of a group.
-/

namespace Cohort

/-- A 128-bit identifier, as its digits of base sixteen from the most significant one. -/
structure Uuid where
  /-- The digits. -/
  digits : List (Fin 16)
  /-- There are thirty-two of them. -/
  length_digits : digits.length = 32
  deriving DecidableEq

namespace Uuid

/-- What is wrong with a text that is no identifier. -/
inductive Error where
  /-- No accepted form has this many bytes. -/
  | length (found : Nat)
  /-- The character at this byte is neither a digit nor a hyphen. -/
  | character (found : Char) (index : Nat)
  /-- The hyphens do not make five groups. -/
  | groupCount (found : Nat)
  /-- A group has too few or too many digits. -/
  | groupLength (group expected found : Nat)
  deriving DecidableEq

/-- The wording of an error. -/
def Error.message : Error → String
  | .length n => "invalid length: found " ++ Numeral.natText n
  | .character c i => "invalid character: found `" ++ c.toString ++ "` at " ++ Numeral.natText i
  | .groupCount n => "invalid group count: expected 5, found " ++ Numeral.natText n
  | .groupLength g e n =>
    "invalid group length in group " ++ Numeral.natText g ++ ": expected " ++ Numeral.natText e ++ ", found " ++
      Numeral.natText n

/-- The identifier with the given digits, if there are thirty-two. -/
def ofDigits? (ds : List (Fin 16)) : Option Uuid :=
  if h : ds.length = 32 then some ⟨ds, h⟩ else none

/-! ## Writing -/

/-- A digit in small letters. -/
def digitText (d : Fin 16) : Char := Numeral.digitChar d.val

/-- Groups of 8, 4, 4, 4 and 12 digits with hyphens between them. -/
def hyphenate (cs : List Char) : List Char :=
  cs.take 8 ++ '-' :: ((cs.drop 8).take 4 ++ '-' :: ((cs.drop 12).take 4 ++ '-' ::
    ((cs.drop 16).take 4 ++ '-' :: cs.drop 20)))

/-- The hyphenated form in small letters. -/
def chars (u : Uuid) : List Char := hyphenate (u.digits.map digitText)

/-- The hyphenated form in small letters. -/
def text (u : Uuid) : String := String.ofList u.chars

/-! ## Reading -/

/-- A digit of base sixteen in either case. -/
def digit? (c : Char) : Option (Fin 16) :=
  (Numeral.hexValue? c).bind fun n => if h : n < 16 then some ⟨n, h⟩ else none

/-- Thirty-two digits and nothing else. -/
def readPlain? (cs : List Char) : Option Uuid := (cs.mapM digit?).bind ofDigits?

/-- Five groups of 8, 4, 4, 4 and 12 digits with single hyphens between them. -/
def readHyphenated? (cs : List Char) : Option Uuid :=
  if cs.length = 36 ∧ cs[8]? = some '-' ∧ cs[13]? = some '-' ∧ cs[18]? = some '-' ∧ cs[23]? = some '-' then
    readPlain? (cs.take 8 ++ (cs.drop 9).take 4 ++ (cs.drop 14).take 4 ++ (cs.drop 19).take 4 ++ cs.drop 24)
  else none

/-- The text between an opening brace in front and a closing brace at the end. -/
def unbrace? (cs : List Char) : Option (List Char) :=
  match cs with
  | '{' :: r => if r.getLast? = some '}' then some r.dropLast else none
  | _ => none

/-- The text after `urn:uuid:`, in any case of letters. -/
def afterUrn? (cs : List Char) : Option (List Char) :=
  if Text.sameLetters (cs.take 9) "urn:uuid:".toList then some (cs.drop 9) else none

/-- One of the four accepted forms. -/
def readForm? (cs : List Char) : Option Uuid :=
  match readPlain? cs with
  | some u => some u
  | none =>
    match readHyphenated? cs with
    | some u => some u
    | none =>
      match unbrace? cs with
      | some r => readHyphenated? r
      | none => (afterUrn? cs).bind readHyphenated?

/-- The bytes at which the hyphens of a text stand, or its first character that is neither a digit nor a hyphen. -/
def scan (index : Nat) : List Char → Except (Char × Nat) (List Nat)
  | [] => .ok []
  | c :: cs =>
    if c = '-' then (scan (index + 1) cs).map (index :: ·)
    else if (Numeral.hexValue? c).isSome then scan (index + 1) cs
    else .error (c, index)

/-- The bytes at which the five groups of the hyphenated form start, and the digits of each. -/
def layout : List (Nat × Nat) := [(0, 8), (9, 4), (14, 4), (19, 4), (24, 12)]

/-- The first group of the layout that ends at another byte than it should, the last one ending at `total`. -/
def misplaced (total : Nat) : Nat → List (Nat × Nat) → List Nat → Error
  | g, (start, width) :: rest, h :: hs =>
    if h = start + width then misplaced total (g + 1) rest hs else .groupLength g width (h - start)
  | g, (start, width) :: _, [] => .groupLength g width (total - start)
  | g, [], _ => .groupLength g 0 0

/-- A text as it is examined for what is wrong with it. -/
structure Examined where
  /-- The characters that should be digits and hyphens. -/
  chars : List Char
  /-- The byte that the first of them counts as. -/
  start : Nat
  /-- Whether they could have been digits without hyphens. -/
  bare : Bool

/-- A text as long as one of the forms is examined as that form. Any other text is examined without the wrapping it
begins with, and its bytes are still counted from the wrapping. -/
def examine (cs : List Char) : Examined :=
  match Text.byteLength cs, unbrace? cs, afterUrn? cs with
  | 32, _, _ => ⟨cs, 0, true⟩
  | 36, _, _ => ⟨cs, 0, false⟩
  | 38, some r, _ => ⟨r, 0, false⟩
  | 45, _, some r => ⟨r, 0, false⟩
  | _, some r, _ => ⟨r, 1, false⟩
  | _, none, some r => ⟨r, 9, false⟩
  | _, none, none => ⟨cs, 0, true⟩

/-- What is wrong with a text that has none of the accepted forms. -/
def diagnose (cs : List Char) : Error :=
  let total := Text.byteLength cs
  if total = 0 ∨ 45 < total then .length total
  else
    let examined := examine cs
    match scan 0 examined.chars with
    | .error (c, i) => .character c (examined.start + i)
    | .ok hyphens =>
      if hyphens.isEmpty && examined.bare then .length total
      else if hyphens.length ≠ 4 then .groupCount (hyphens.length + 1)
      else misplaced total 0 layout hyphens

/-- The identifier a text denotes. -/
def read (s : String) : Except Error Uuid :=
  match readForm? s.toList with
  | some u => .ok u
  | none => .error (diagnose s.toList)

/-! ## Order -/

/-- Digits compared from the most significant one. -/
def digitsBefore : List (Fin 16) → List (Fin 16) → Bool
  | [], _ => false
  | _ :: _, [] => false
  | a :: as, b :: bs => a.val < b.val || (a == b && digitsBefore as bs)

/-- The order of identifiers as numbers: not after. -/
def notAfter (a b : Uuid) : Bool := !digitsBefore b.digits a.digits

end Uuid
end Cohort
