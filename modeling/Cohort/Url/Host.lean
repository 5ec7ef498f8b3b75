import Cohort.Url.Basic
import Cohort.Url.Domain.Basic
import Cohort.Url.Encoding

/-!
# Reading hosts

Between brackets stands an IPv6 address. In a special scheme any other host is a domain name, read without regard to
case and written in ASCII; one that ends in a number is an IPv4 address. In other schemes a host is any text without the
characters that have a meaning in an address.
-/

namespace Cohort.Url

/-! ## IPv6 -/

/-- A number from 0 to 255 without superfluous zeros. -/
def byte? (ds : List Char) : Option Nat :=
  if ds.head? = some '0' ∧ ds.length ≠ 1 then none
  else (Numeral.natural? ds).bind fun n => if n < 256 then some n else none

/-- An IPv4 address in four parts, as two pieces of an IPv6 address. -/
def embeddedPieces? (cs : List Char) : Option (List Nat) := do
  match ← (Text.parts (fun c => c == '.') cs).mapM byte? with
  | [a, b, c, d] => some [256 * a + b, 256 * c + d]
  | _ => none

/-- The pieces of an IPv6 address after `pieces`, and where a run of zeros was left out. -/
def readPieces? : Nat → List Nat → Option Nat → List Char → Option (List Nat × Option Nat)
  | _, pieces, gap, [] => some (pieces, gap)
  | 0, _, _, _ :: _ => none
  | fuel + 1, pieces, gap, c :: cs =>
    if pieces.length = 8 then none
    else if c = ':' then
      if gap.isSome then none else readPieces? fuel pieces (some pieces.length) cs
    else
      let ds := ((c :: cs).take 4).takeWhile fun d => (Numeral.hexValue? d).isSome
      match (c :: cs).drop ds.length with
      | [] => some (pieces ++ [Numeral.hexNumber ds], gap)
      | '.' :: _ =>
        if ds.isEmpty || 6 < pieces.length then none
        else (embeddedPieces? (c :: cs)).map fun two => (pieces ++ two, gap)
      | ':' :: rest => if rest.isEmpty then none else readPieces? fuel (pieces ++ [Numeral.hexNumber ds]) gap rest
      | _ => none

/-- An IPv6 address. -/
def ipv6? (cs : List Char) : Option (List Nat) := do
  let read := readPieces? (cs.length + 1)
  let (pieces, gap) ← match cs with
    | ':' :: ':' :: rest => read [] (some 0) rest
    | ':' :: _ => none
    | cs => read [] none cs
  match gap with
  | some g => some (pieces.take g ++ List.replicate (8 - pieces.length) 0 ++ pieces.drop g)
  | none => if pieces.length = 8 then some pieces else none

/-! ## IPv4 -/

/-- The value of digits in a base, if all of them are digits of that base. -/
def numberIn? (base : Nat) (ds : List Char) : Option Nat :=
  if ds.all fun c => (Numeral.hexValue? c).any fun v => decide (v < base) then
    some (ds.foldl (fun n c => base * n + (Numeral.hexValue? c).getD 0) 0)
  else none

/-- A number in base ten, in base sixteen after `0x` or in base eight after `0`. -/
def ipv4Number? : List Char → Option Nat
  | [] => none
  | '0' :: 'x' :: ds => numberIn? 16 ds
  | '0' :: 'X' :: ds => numberIn? 16 ds
  | '0' :: d :: ds => numberIn? 8 (d :: ds)
  | ds => numberIn? 10 ds

/-- The parts of a domain name, an empty one at the end left out. -/
def labels (name : List Char) : List (List Char) :=
  let parts := Text.parts (fun c => c == '.') name
  if 1 < parts.length && parts.getLast? == some [] then parts.dropLast else parts

/-- A domain name whose last part is a number. -/
def endsInNumber (name : List Char) : Bool :=
  match (labels name).getLast? with
  | none => false
  | some l => (!l.isEmpty && l.all Numeral.isDecimal) || (ipv4Number? l).isSome

/-- An IPv4 address of one to four numbers, the last of which fills the rest of the address. -/
def ipv4? (name : List Char) : Option Nat := do
  let parts := labels name
  if 4 < parts.length then none
  else
    let numbers ← parts.mapM ipv4Number?
    let front := numbers.dropLast
    let last ← numbers.getLast?
    if Numeral.twoTo (8 * (4 - front.length)) ≤ last then none
    else if front.any fun n => 255 < n then none
    else some (front.foldl (fun n b => 256 * n + b) 0 * Numeral.twoTo (8 * (4 - front.length)) + last)

/-! ## Hosts -/

/-- The characters that no host may have. -/
def forbiddenInHost : List Char :=
  ['\x00', '\t', '\n', '\x0d', ' ', '#', '/', ':', '<', '>', '?', '@', '[', '\\', ']', '^', '|']

/-- A character that a domain name may not have. -/
def forbiddenInDomain (c : Char) : Bool :=
  forbiddenInHost.contains c || c == '%' || c.toNat < 0x20 || c.toNat == 0x7F

/-- A domain name or IPv4 address. -/
def readDomain (cs : List Char) : Except Error Host :=
  match String.fromUTF8? ⟨(decode cs).toArray⟩ with
  | none => .error .domainName
  | some s =>
    match Domain.toAscii? forbiddenInDomain s.toList with
    | none => .error .domainName
    | some name =>
      if name.isEmpty then .error .emptyHost
      else if endsInNumber name then
        match ipv4? name with
        | some n => .ok (.ipv4 n)
        | none => .error .ipv4
      else .ok (.domain name)

/-- A host of a special scheme or of another one. -/
def readHost (special : Bool) (cs : List Char) : Except Error Host :=
  match cs with
  | '[' :: r =>
    if r.getLast? = some ']' then
      match ipv6? r.dropLast with
      | some pieces => .ok (.ipv6 pieces)
      | none => .error .ipv6
    else .error .ipv6
  | cs =>
    if special then readDomain cs
    else if cs.any forbiddenInHost.contains then .error .hostCharacter
    else .ok (.domain (encode controlSet cs))

end Cohort.Url
