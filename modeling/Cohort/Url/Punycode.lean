import Cohort.Text.Parts

/-!
# Punycode

A label of a domain name in ASCII for one that is not. The characters of ASCII come first, with a hyphen
behind them. Then come the others in the order of their code points, each as the number of steps from the one before:
a step is a place in the label, or the next code point when all places have been passed. A number is written in digits
of base thirty-six, the least significant first; a digit below a threshold ends it, and the thresholds follow the
numbers written so far (`bias`). `encode` writes a label, `decode?` reads one.
-/

namespace Cohort.Url.Punycode

/-! ## Digits -/

/-- The digit with the given value: letters, then the digits of ASCII. -/
def digit (n : Nat) : Char := if n < 26 then Char.ofNat (97 + n) else Char.ofNat (22 + n)

/-- The value of a digit. -/
def digitValue? (c : Char) : Option Nat :=
  if 'a' ≤ c ∧ c ≤ 'z' then some (c.toNat - 97)
  else if '0' ≤ c ∧ c ≤ '9' then some (c.toNat - 22)
  else none

/-- The threshold of a digit; `k` is thirty-six for the first digit and as much more for each other one. -/
def threshold (k bias : Nat) : Nat := if k ≤ bias then 1 else min 26 (k - bias)

theorem threshold_pos (k bias : Nat) : 0 < threshold k bias := by
  unfold threshold; split <;> omega

/-- Divides a number until it is small, adding thirty-six to `k` each time. -/
def damp (delta k : Nat) : Nat × Nat := if 455 < delta then damp (delta / 35) (k + 36) else (delta, k)
termination_by delta

/-- The bias after a number, given how many characters the label has by then. -/
def adapt (delta count : Nat) (first : Bool) : Nat :=
  let delta := if first then delta / 700 else delta / 2
  let (delta, k) := damp (delta + delta / count) 0
  k + 36 * delta / (delta + 38)

/-! ## Writing -/

/-- A number in digits. -/
def number (bias k q : Nat) : List Char :=
  let t := threshold k bias
  if q < t then [digit q] else digit (t + (q - t) % (36 - t)) :: number bias (k + 36) ((q - t) / (36 - t))
termination_by q
decreasing_by
  have := threshold_pos k bias
  have := Nat.div_le_self (q - threshold k bias) (36 - threshold k bias)
  omega

/-- What has been written of a label. -/
structure Written where
  /-- The text. -/
  text : List Char
  /-- The steps since the last character. -/
  delta : Nat
  /-- The bias. -/
  bias : Nat
  /-- The number of characters written. -/
  count : Nat

/-- Passes a character of a label while the characters with code point `n` are written. -/
def pass (basic n : Nat) (w : Written) (c : Char) : Written :=
  if c.toNat < n then { w with delta := w.delta + 1 }
  else if c.toNat = n then
    ⟨w.text ++ number w.bias 36 w.delta, 0, adapt w.delta (w.count + 1) (w.count == basic), w.count + 1⟩
  else w

/-- Writes the characters with the given code points, in increasing order, the last one passed being `n - 1`. -/
def writePoints (label : List Char) (basic : Nat) : List Nat → Nat → Written → Written
  | [], _, w => w
  | m :: ms, n, w =>
    let w := label.foldl (pass basic m) { w with delta := w.delta + (m - n) * (w.count + 1) }
    writePoints label basic ms (m + 1) { w with delta := w.delta + 1 }

/-- The first code point outside ASCII. -/
def firstPoint : Nat := 128

/-- The bias before the first number. -/
def firstBias : Nat := 72

/-- A label in ASCII. -/
def encode (label : List Char) : List Char :=
  let basic := label.filter fun c => c.toNat < firstPoint
  let points := (((label.filter fun c => firstPoint ≤ c.toNat).map Char.toNat).mergeSort).eraseDups
  let front := if basic.isEmpty then [] else basic ++ ['-']
  (writePoints label basic.length points firstPoint ⟨front, 0, firstBias, basic.length⟩).text

/-! ## Reading -/

/-- The bound of numbers. -/
def bound : Nat := 4294967296

/-- A number at the start of a text, added to `sum`, and the rest of the text. -/
def readNumber? (bias k weight sum : Nat) : List Char → Option (Nat × List Char)
  | [] => none
  | c :: cs =>
    let t := threshold k bias
    match digitValue? c with
    | none => none
    | some d =>
      if bound ≤ sum + d * weight then none
      else if d < t then some (sum + d * weight, cs)
      else if bound ≤ weight * (36 - t) then none
      else readNumber? bias (k + 36) (weight * (36 - t)) (sum + d * weight) cs

theorem length_lt_of_readNumber? {bias k weight sum n : Nat} {cs rest : List Char}
    (h : readNumber? bias k weight sum cs = some (n, rest)) : rest.length < cs.length := by
  induction cs generalizing k weight sum with
  | nil => simp [readNumber?] at h
  | cons c cs ih =>
    simp only [readNumber?] at h
    split at h
    · cases h
    · split at h
      · cases h
      · split at h
        · simp_all
        · split at h
          · cases h
          · exact Nat.lt_succ_of_lt (ih h)

/-- The label whose characters up to the step `sum` of code point `point` are `label`, and which goes on with the
numbers of a text. -/
def readPoints? (label : List Char) (point bias sum : Nat) (cs : List Char) : Option (List Char) :=
  match cs with
  | [] => some label
  | c :: rest =>
    match h : readNumber? bias 36 1 sum (c :: rest) with
    | none => none
    | some (n, tail) =>
      let places := label.length + 1
      let next := point + n / places
      let place := n % places
      if next.isValidChar then
        readPoints? (label.insertIdx place (Char.ofNat next)) next (adapt (n - sum) places (sum == 0)) (place + 1) tail
      else none
termination_by cs.length
decreasing_by
  have := length_lt_of_readNumber? h
  simp_all

/-- The characters before the last hyphen and those after it; a hyphen in front divides nothing. -/
def divide (cs : List Char) : List Char × List Char :=
  match (Text.parts (· == '-') cs).reverse with
  | tail :: front :: more =>
    if front.isEmpty && more.isEmpty then ([], cs) else (['-'].intercalate (front :: more).reverse, tail)
  | _ => ([], cs)

/-- The label that a text in ASCII stands for. -/
def decode? (cs : List Char) : Option (List Char) :=
  let (front, points) := divide cs
  readPoints? front firstPoint firstBias 0 points

end Cohort.Url.Punycode
