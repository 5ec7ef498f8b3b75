import Cohort.Json.Basic

/-!
# Reading documents

`Json.read?` reads one document from a text, with blanks of the format (space, tab, line feed, carriage return) around
its tokens, and nothing after it. A string may hold no control character; an escape names one character or, by two
halves, one outside the basic plane. Each call of a reader passes on fewer characters than it got, so the length of
the text bounds the depth of the calls.
-/

namespace Cohort.Json

/-- The text after its leading blanks. -/
def skipBlanks (cs : List Char) : List Char :=
  cs.dropWhile fun c => c == ' ' || c == '\t' || c == '\n' || c == '\r'

/-- The value of four digits of base sixteen and the rest of the text. -/
def readUnit? : List Char → Option (Nat × List Char)
  | a :: b :: c :: d :: rest => do
    let a ← Numeral.hexValue? a
    let b ← Numeral.hexValue? b
    let c ← Numeral.hexValue? c
    let d ← Numeral.hexValue? d
    return (((a * 16 + b) * 16 + c) * 16 + d, rest)
  | _ => none

/-- The character of a code point that is none of the halves. -/
def charOf? (n : Nat) : Option Char :=
  if h : n.isValidChar then some (Char.ofNatAux n h) else none

/-- The character of an escape of the form `uXXXX`, given the text after the letter. -/
def readEscapedUnit? (cs : List Char) : Option (Char × List Char) := do
  let (high, rest) ← readUnit? cs
  if 0xD800 ≤ high ∧ high < 0xDC00 then
    match rest with
    | '\\' :: 'u' :: more =>
      let (low, rest) ← readUnit? more
      if 0xDC00 ≤ low ∧ low < 0xE000 then
        let c ← charOf? (0x10000 + (high - 0xD800) * 1024 + (low - 0xDC00))
        return (c, rest)
      else none
    | _ => none
  else
    let c ← charOf? high
    return (c, rest)

/-- The character of an escape, given the text after the backslash. -/
def readEscape? : List Char → Option (Char × List Char)
  | '"' :: r => some ('"', r)
  | '\\' :: r => some ('\\', r)
  | '/' :: r => some ('/', r)
  | 'b' :: r => some ('\x08', r)
  | 'f' :: r => some ('\x0c', r)
  | 'n' :: r => some ('\n', r)
  | 'r' :: r => some ('\r', r)
  | 't' :: r => some ('\t', r)
  | 'u' :: r => readEscapedUnit? r
  | _ => none

/-- The characters of a string up to its closing quote, given the text after the opening one. -/
def readString? : Nat → List Char → Option (List Char × List Char)
  | 0, _ => none
  | _ + 1, [] => none
  | fuel + 1, c :: cs =>
    if c = '"' then some ([], cs)
    else if c = '\\' then do
      let (c, rest) ← readEscape? cs
      let (s, rest) ← readString? fuel rest
      return (c :: s, rest)
    else if c.toNat < 32 then none
    else do
      let (s, rest) ← readString? fuel cs
      return (c :: s, rest)

/-- A run of decimal digits and the rest of the text. -/
def spanDigits (cs : List Char) : List Char × List Char :=
  (cs.takeWhile Numeral.isDecimal, cs.dropWhile Numeral.isDecimal)

/-- The digits after the point, if a point follows. -/
def readFraction? : List Char → Option (Option (List Char) × List Char)
  | '.' :: cs =>
    let (ds, rest) := spanDigits cs
    if ds.isEmpty then none else some (some ds, rest)
  | cs => some (none, cs)

/-- The signed exponent, if one follows. -/
def readExponent? : List Char → Option (Option Int × List Char)
  | c :: cs =>
    if c = 'e' ∨ c = 'E' then
      let (negative, cs) := match cs with
        | '-' :: r => (true, r)
        | '+' :: r => (false, r)
        | r => (false, r)
      let (ds, rest) := spanDigits cs
      (Numeral.natural? ds).map fun n => (some (if negative then -(n : Int) else (n : Int)), rest)
    else some (none, c :: cs)
  | [] => some (none, [])

/-- A number. No digit may follow a leading zero. -/
def readNumber? (cs : List Char) : Option (Number × List Char) := do
  let (negative, cs) := match cs with
    | '-' :: r => (true, r)
    | r => (false, r)
  let (ds, rest) := spanDigits cs
  if ds.isEmpty || (ds.head? == some '0' && ds.length ≠ 1) then none
  else
    let (fraction, rest) ← readFraction? rest
    let (exponent, rest) ← readExponent? rest
    let n ← Number.ofToken? negative ds fraction exponent
    return (n, rest)

/-- The rest of the text after a word, if it starts with that word. -/
def afterWord? (word : String) (cs : List Char) : Option (List Char) :=
  if word.toList.isPrefixOf cs then some (cs.drop word.toList.length) else none

mutual

/-- A document and the rest of the text. -/
def readValue? : Nat → List Char → Option (Json × List Char)
  | 0, _ => none
  | fuel + 1, cs =>
    match skipBlanks cs with
    | [] => none
    | c :: cs =>
      if c = '"' then (readString? (cs.length + 1) cs).map fun (s, rest) => (.string (String.ofList s), rest)
      else if c = '[' then
        match skipBlanks cs with
        | ']' :: rest => some (.array [], rest)
        | cs => (readElements? fuel cs).map fun (xs, rest) => (.array xs, rest)
      else if c = '{' then
        match skipBlanks cs with
        | '}' :: rest => some (.object [], rest)
        | cs => (readMembers? fuel cs).map fun (ms, rest) => (ofMembers ms, rest)
      else if c = 'n' then (afterWord? "ull" cs).map fun rest => (.null, rest)
      else if c = 't' then (afterWord? "rue" cs).map fun rest => (.bool true, rest)
      else if c = 'f' then (afterWord? "alse" cs).map fun rest => (.bool false, rest)
      else (readNumber? (c :: cs)).map fun (n, rest) => (.number n, rest)

/-- The elements of an array up to its closing bracket. -/
def readElements? : Nat → List Char → Option (List Json × List Char)
  | 0, _ => none
  | fuel + 1, cs => do
    let (x, rest) ← readValue? fuel cs
    match skipBlanks rest with
    | ',' :: rest =>
      let (xs, rest) ← readElements? fuel rest
      return (x :: xs, rest)
    | ']' :: rest => return ([x], rest)
    | _ => none

/-- The members of an object up to its closing brace. -/
def readMembers? : Nat → List Char → Option (List (String × Json) × List Char)
  | 0, _ => none
  | fuel + 1, cs =>
    match skipBlanks cs with
    | '"' :: cs => do
      let (k, rest) ← readString? (cs.length + 1) cs
      match skipBlanks rest with
      | ':' :: rest =>
        let (v, rest) ← readValue? fuel rest
        match skipBlanks rest with
        | ',' :: rest =>
          let (ms, rest) ← readMembers? fuel rest
          return ((String.ofList k, v) :: ms, rest)
        | '}' :: rest => return ([(String.ofList k, v)], rest)
        | _ => none
      | _ => none
    | _ => none

end

/-- The document a text holds. -/
def read? (s : String) : Option Json :=
  let cs := s.toList
  match readValue? (2 * cs.length + 2) cs with
  | some (doc, rest) => if (skipBlanks rest).isEmpty then some doc else none
  | none => none

end Cohort.Json
