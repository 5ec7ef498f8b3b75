import Cohort.Json.Basic

/-!
# Writing documents

`Json.render` writes a document without spaces, `Json.pretty` with two spaces of indentation a level and one element a
line. Quotes, backslashes and control characters of strings are escaped, all other characters stand for themselves.
-/

namespace Cohort.Json

/-- A character inside a written string. -/
def escapeChar (c : Char) : List Char :=
  if c = '"' then ['\\', '"']
  else if c = '\\' then ['\\', '\\']
  else if c = '\n' then ['\\', 'n']
  else if c = '\t' then ['\\', 't']
  else if c = '\r' then ['\\', 'r']
  else if c.toNat = 8 then ['\\', 'b']
  else if c.toNat = 12 then ['\\', 'f']
  else if c.toNat < 32 then ['\\', 'u'] ++ Numeral.fixed 16 4 c.toNat
  else [c]

/-- A written string. -/
def quote (s : String) : List Char := '"' :: s.toList.flatMap escapeChar ++ ['"']

mutual

/-- A document without spaces. -/
def chars : Json → List Char
  | .null => "null".toList
  | .bool true => "true".toList
  | .bool false => "false".toList
  | .number n => n.chars
  | .string s => quote s
  | .array xs => '[' :: elementChars xs ++ [']']
  | .object ms => '{' :: memberChars ms ++ ['}']

/-- Documents with commas between them. -/
def elementChars : List Json → List Char
  | [] => []
  | [x] => x.chars
  | x :: xs => x.chars ++ ',' :: elementChars xs

/-- Members with commas between them. -/
def memberChars : List (String × Json) → List Char
  | [] => []
  | [(k, v)] => quote k ++ ':' :: v.chars
  | (k, v) :: ms => quote k ++ ':' :: v.chars ++ ',' :: memberChars ms

end

/-- A document without spaces. -/
def render (doc : Json) : String := String.ofList doc.chars

/-- A new line with the indentation of a level. -/
def newline (level : Nat) : List Char := '\n' :: List.replicate (2 * level) ' '

mutual

/-- A document at a level of indentation. -/
def prettyChars (level : Nat) : Json → List Char
  | .array [] => ['[', ']']
  | .object [] => ['{', '}']
  | .array xs => '[' :: prettyElements (level + 1) xs ++ newline level ++ [']']
  | .object ms => '{' :: prettyMembers (level + 1) ms ++ newline level ++ ['}']
  | .null => "null".toList
  | .bool true => "true".toList
  | .bool false => "false".toList
  | .number n => n.chars
  | .string s => quote s

/-- One element a line. -/
def prettyElements (level : Nat) : List Json → List Char
  | [] => []
  | [x] => newline level ++ prettyChars level x
  | x :: xs => newline level ++ prettyChars level x ++ ',' :: prettyElements level xs

/-- One member a line. -/
def prettyMembers (level : Nat) : List (String × Json) → List Char
  | [] => []
  | [(k, v)] => newline level ++ quote k ++ ':' :: ' ' :: prettyChars level v
  | (k, v) :: ms => newline level ++ quote k ++ ':' :: ' ' :: prettyChars level v ++ ',' :: prettyMembers level ms

end

/-- A document with one element a line. -/
def pretty (doc : Json) : String := String.ofList (doc.prettyChars 0)

end Cohort.Json
