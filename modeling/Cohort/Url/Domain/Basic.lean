import Cohort.Text.Direction
import Cohort.Text.Joining
import Cohort.Url.Domain.Mapping
import Cohort.Url.Punycode

/-!
# Domain names

A domain name is written in ASCII (`Domain.toAscii?`). Its characters are replaced by those that they stand for, and
the name is composed. Then each of its labels is written: as it is, or by its Punycode behind a mark. A label that has
the mark already must be one that could have been written that way. No label starts with a mark of the character
before it, joiners make a difference, and if one label has leftward text, all of them are unambiguous.
-/

namespace Cohort.Url.Domain

/-- A label of a domain name. -/
structure Label where
  /-- How it is written. -/
  written : List Char
  /-- The characters it stands for. -/
  meant : List Char

/-- A name with the characters that its own stand for, in the one spelling of them. -/
def normalized? (cs : List Char) : Option (List Char) := (cs.mapM mapped?).map fun ps => Text.composed ps.flatten

/-- A label that a name can have, apart from the direction of its characters. -/
def isAcceptable (cs : List Char) : Bool := !cs.head?.any Text.isMark && Text.joinersMatter cs

/-- The mark of a label that is written by its Punycode. -/
def punycodeMark : List Char := ['x', 'n', '-', '-']

/-- The longest label that is written by its Punycode. -/
def longestEncoded : Nat := 1000

/-- The longest Punycode that is read. -/
def longestDecoded : Nat := 2000

/-- A character of ASCII. -/
def isAscii (c : Char) : Bool := c.toNat < 0x80

/-- The label that is written by the given Punycode. It has characters outside ASCII, so no hyphen is the last. -/
def ofPunycode? (code : List Char) : Option Label :=
  if longestDecoded < code.length || !code.all isAscii || code.isEmpty || code.getLast? == some '-' then none
  else (Punycode.decode? code).bind fun cs =>
    if normalized? cs == some cs && isAcceptable cs then some ⟨punycodeMark ++ code, cs⟩ else none

/-- The label of a name whose characters stand for themselves. -/
def ofPart? (cs : List Char) : Option Label :=
  if punycodeMark.isPrefixOf cs then ofPunycode? (cs.drop punycodeMark.length)
  else if cs.all isAscii then some ⟨cs, cs⟩
  else if cs.length ≤ longestEncoded && isAcceptable cs then some ⟨punycodeMark ++ Punycode.encode cs, cs⟩
  else none

/-- A domain name in ASCII, given the characters of ASCII that it may not have. -/
def toAscii? (forbidden : Char → Bool) (cs : List Char) : Option (List Char) := do
  let name ← normalized? cs
  if name.any forbidden then none
  else
    let labels ← (Text.parts (· == '.') name).mapM ofPart?
    let leftward := labels.any fun l => l.meant.any Text.runsLeft
    if leftward && !labels.all (fun l => Text.isUnambiguous l.meant) then none
    else some (['.'].intercalate (labels.map Label.written))

end Cohort.Url.Domain
