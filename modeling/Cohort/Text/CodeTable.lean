import Cohort.Numeral
import Cohort.Text.Blank
import Cohort.Text.Parts

/-!
# Tables of code points

A property of characters is a table of code points (`CodeTable`), read from lines of entries with blanks between them
(`CodeTable.ofLines`). An entry is a code point, a range of them such as `B2-B3`, or every second one of a range, such
as `100~12E`, all in base sixteen. What the table gives to them stands behind an equals sign, as numbers with plus
signs between them. A table of a set gives nothing (`CodeTable.holds`).
-/

namespace Cohort.Text

/-- Code points of an entry, and what a table gives to them. -/
structure CodeRange where
  /-- The first code point. -/
  first : Nat
  /-- The last code point. -/
  last : Nat
  /-- The distance from one to the next. -/
  step : Nat
  /-- What the table gives to them. -/
  values : List Nat

namespace CodeRange

/-- Whether an entry is about a code point. -/
def holds (r : CodeRange) (n : Nat) : Bool := r.first ≤ n && n ≤ r.last && (n - r.first) % r.step == 0

/-- The numbers of an entry, the first of them as far on as the character is in the range. -/
def shifted (r : CodeRange) (c : Char) : List Nat :=
  match r.values with
  | [] => []
  | v :: vs => (v + (c.toNat - r.first)) :: vs

/-- The entry that a text spells. -/
def ofText (cs : List Char) : CodeRange :=
  let place := cs.takeWhile (· != '=')
  let given := cs.drop (place.length + 1)
  let ends := (parts (fun c => c == '-' || c == '~') place).map Numeral.hexNumber
  let values := if given.isEmpty then [] else (parts (· == '+') given).map Numeral.hexNumber
  ⟨ends.headD 0, ends.getLastD 0, if place.contains '~' then 2 else 1, values⟩

end CodeRange

/-- A table of code points. -/
structure CodeTable where
  /-- Its entries. -/
  entries : List CodeRange

namespace CodeTable

/-- The table that lines of entries spell. -/
def ofLines (lines : List String) : CodeTable :=
  ⟨lines.flatMap fun line => (words line.toList).map CodeRange.ofText⟩

/-- The entry about a character. -/
def find? (t : CodeTable) (c : Char) : Option CodeRange := t.entries.find? fun r => r.holds c.toNat

/-- Whether a table has an entry about a character. -/
def holds (t : CodeTable) (c : Char) : Bool := t.entries.any fun r => r.holds c.toNat

end CodeTable
end Cohort.Text
