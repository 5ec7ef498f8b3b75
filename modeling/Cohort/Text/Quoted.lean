import Cohort.Numeral
import Cohort.Text.Printable

/-!
# Quoted texts

A text between double quotes, as messages show one. Quotes and backslashes have a backslash in front, tab, line feed,
carriage return and the null character have their letters, and any other character that is not printable is its code
point in braces.
-/

namespace Cohort.Text

/-- A character inside a quoted text. -/
def quotedChar (c : Char) : List Char :=
  if c.toNat = 0 then ['\\', '0']
  else if c = '\t' then ['\\', 't']
  else if c = '\r' then ['\\', 'r']
  else if c = '\n' then ['\\', 'n']
  else if c = '\\' then ['\\', '\\']
  else if c = '"' then ['\\', '"']
  else if isPrintable c then [c]
  else ['\\', 'u', '\x7b'] ++ Numeral.hexDigits c.toNat ++ ['\x7d']

/-- A text between double quotes. -/
def quoted (s : String) : String := String.ofList ('"' :: s.toList.flatMap quotedChar ++ ['"'])

end Cohort.Text
