import Cohort.Text.Mark

/-!
# Directions of characters

Letters run to the right or to the left (`direction`). A text with letters that run to the left must not be mistaken
for another one when it is shown, which `isUnambiguous` sees to: a text starts with a letter, ends in a letter or digit
of the same direction, and holds no letter of the other one. The tables hold for the characters that a name can have.
-/

namespace Cohort.Text

/-- The direction of a character. -/
inductive Direction where
  /-- A letter that runs to the right. -/
  | rightward
  /-- A letter that runs to the left. -/
  | leftward
  /-- A digit of Arabic script. -/
  | arabicDigit
  /-- Any other digit. -/
  | digit
  /-- A mark of the character before it. -/
  | mark
  /-- A character that takes the direction around it. -/
  | neutral
  /-- A character that separates texts. -/
  | separator
  deriving DecidableEq

/-- Letters that run to the left. -/
def leftwardLetters : CodeTable := .ofLines
  ["5BE 5C0 5C3 5C6 5D0-5F4 608 60B 60D 61B-64A 66D-66F 671-6D5 6E5-6E6 6EE-6EF 6FA-710 712-72F 74D-7A5 7B1-7EA",
   "7F4-7F5 7FA 7FE-815 81A 824 828 830-858 85E-88F 8A0-8C9 FBB2-FBC2 FE73 10800-1091B 10920-10A00 10A10-10A35",
   "10A40-10AE4 10AEB-10B35 10B40-10D23 10D4A-10D4F 10D6F-10D8F 10E80-10EA9 10EAD-10EC7 10F00-10F45 10F51-10F81",
   "10F86-10FF6 1E800-1E8CF 1E922-1E943 1E94B-1ED3D"]

/-- Digits of Arabic script. -/
def arabicDigits : CodeTable := .ofLines
  ["660-669 66B-66C 10D30-10D39 10E60-10E7E"]

/-- Digits of other scripts that are written rightward within leftward text. -/
def otherDigits : CodeTable := .ofLines
  ["30-39 6F0-6F9 102E1-102FB 10D40-10D49"]

/-- Characters that take the direction around them. -/
def neutrals : CodeTable := .ofLines
  ["0-8 E-1B 21-2F 3A-60 7B-D7 F7 2B9-2BA 2C2-2CF 2D2-2ED 2EF-2FF 375 3F6 58A-58F 606-607 609-60A 60C 60E-60F 66A",
   "6DE 6E9 7F6-7F9 9F2-9F3 9FB AF1 BF3-BFA C78-C7E E3F F3A-F3D 1390-1399 1400 169B-169C 17DB 17F0-180A 1940-1945",
   "19DE-19FF 200C-20C1 2104-214D 218A-2335 237B-2394 2396-26AB 26AD-27FF 2900-2BFF 2CE5-2CEA 2CF9-2CFF 2E00-3004",
   "3008-3020 3030 3037 303D-303F 30A0 30FB 31C0-31E5 4DC0-4DFF A490-A4C6 A60D-A60F A673 A67E-A67F A700-A721 A788",
   "A828-A82B A838-A839 A874-A877 AB6A-AB6B FBC3-FDFF FE45-FE46 10101 10140-1018C 10190-101A0 1091F 10B39-10B3F",
   "10D6E 10ED0-10ED8 11052-11065 11660-1166C 11FD5-11FF1 16FE2 1CC00-1CEF0 1D1E9-1D241 1D245 1D300-1D356 1E2FF",
   "1EEF0-1F12F 1F16D-1F16F 1F1AD 1F260-1FBFA"]

/-- Characters that separate texts. -/
def separators : CodeTable := .ofLines
  ["9-D 1C-20"]

/-- The direction of a character. -/
def direction (c : Char) : Direction :=
  if leftwardLetters.holds c then .leftward
  else if arabicDigits.holds c then .arabicDigit
  else if otherDigits.holds c then .digit
  else if isNonspacing c then .mark
  else if neutrals.holds c then .neutral
  else if separators.holds c then .separator
  else .rightward

/-- A character of leftward text. -/
def runsLeft (c : Char) : Bool := direction c == .leftward || direction c == .arabicDigit

/-- The characters after the first of a text that starts with a letter of the given direction, from the last that is
no mark to the second: the last one is a letter or digit, there is none of the other direction, and leftward text has
one kind of digits. -/
def endsUnambiguously (start : Direction) : List Direction → Bool
  | [] => true
  | last :: middle =>
    match start with
    | .rightward =>
      [.rightward, .digit].contains last && middle.all [.rightward, .digit, .neutral, .mark].contains
    | .leftward =>
      [.leftward, .digit, .arabicDigit].contains last &&
        middle.all [.leftward, .digit, .arabicDigit, .neutral, .mark].contains &&
          !((last :: middle).contains .digit && (last :: middle).contains .arabicDigit)
    | _ => false

/-- A text that cannot be mistaken for another one beside leftward text. -/
def isUnambiguous : List Char → Bool
  | [] => true
  | c :: cs =>
    let start := direction c
    (start == .rightward || start == .leftward) &&
      endsUnambiguously start ((cs.map direction).reverse.dropWhile (· == .mark))

end Cohort.Text
