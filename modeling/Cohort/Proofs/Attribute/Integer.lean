import Cohort.Attribute.Coercion
import Cohort.Proofs.Binary64.Rounding
import Cohort.Proofs.Numeral
import Cohort.Proofs.Text.Blank

/-!
# Integers as parameters

A number of a document has a rational value (`Json.Number.value`). It is taken as an integer exactly if this value is one
in the range of 64 bits (`integerOfNumber?_eq_some`), whichever of three ways it comes: a whole number in the range is
taken as it is, one above it is rounded to binary64 first and is not below `2 ^ 63` then, and a number of binary64 is
compared with the ends of the range. A text is taken exactly if it denotes such an integer, with blanks around
(`integerOfText?_eq_some`). Both together are `coerce_integer_exact`.
-/

namespace Cohort

/-! ## Numbers of a document -/

namespace Json.Number

/-- The value of a number. -/
def value : Number → ℚ
  | .whole i => i
  | .float x => x.value

/-- A whole number fits in 64 bits, with a sign if it is negative and without one if it is not. -/
def Fits : Number → Prop
  | .whole i => -2 ^ 63 ≤ i ∧ i < 2 ^ 64
  | .float _ => True

theorem takeWhole_lt : ∀ (ds : List Char) (p : Scaled) (full : Bool), p.significand < wordLimit →
    (takeWhole p full ds).1.significand < wordLimit
  | [], _, _, h => h
  | c :: cs, p, full, h => by
    rw [takeWhole]
    split
    · exact takeWhole_lt cs _ _ h
    · rename_i hroom
      refine takeWhole_lt cs _ _ ?_
      rw [Bool.or_eq_true, not_or, decide_eq_true_eq, not_le] at hroom
      exact hroom.2

/-- **A number that is read fits.** -/
theorem fits_of_ofToken? {negative : Bool} {digits : List Char} {fraction : Option (List Char)} {exponent : Option Int}
    {n : Number} (h : ofToken? negative digits fraction exponent = some n) : n.Fits := by
  have hlt : (takeWhole ⟨0, 0⟩ false digits).1.significand < 2 ^ 64 := takeWhole_lt digits ⟨0, 0⟩ false (by decide)
  have hfloat {p : Scaled} (h : ((magnitude? p).map fun x => Number.float (x.withSign negative)) = some n) : n.Fits := by
    obtain ⟨x, -, rfl⟩ := Option.map_eq_some_iff.1 h
    trivial
  unfold ofToken? at h
  dsimp only at h
  split at h
  · split at h
    · exact hfloat h
    split at h
    · cases h
      exact ⟨by omega, by omega⟩
    split at h
    · exact hfloat h
    · rename_i hsmall
      have hle : (takeWhole ⟨0, 0⟩ false digits).1.significand ≤ 2 ^ 63 := not_lt.1 (not_or.1 hsmall).2
      cases h
      exact ⟨by omega, by omega⟩
  · exact hfloat h

end Json.Number

/-! ## Integers -/

theorem Numeral.AllDigits.not_blank {ds : List Char} (h : AllDigits ds) : ∀ c ∈ ds, Text.isBlank c = false := by
  intro c hc
  have hlow : 48 ≤ c.toNat := UInt32.le_iff_toNat_le.1 (h.digit c hc).1
  have hhigh : c.toNat ≤ 57 := UInt32.le_iff_toNat_le.1 (h.digit c hc).2
  simp only [Text.isBlank, Bool.or_eq_false_iff, Bool.and_eq_false_iff, decide_eq_false_iff_not, beq_eq_false_iff_ne]
  omega

/-- No sign and no digit is blank. -/
theorem Numeral.Denotes.not_blank {cs : List Char} {i : Int} (h : Denotes cs i) : ∀ c ∈ cs, Text.isBlank c = false := by
  cases h with
  | plain h => exact h.not_blank
  | plus h => exact List.forall_mem_cons.2 ⟨by decide, h.not_blank⟩
  | minus h => exact List.forall_mem_cons.2 ⟨by decide, h.not_blank⟩

namespace AttributeKind

theorem inWord?_eq_some {w i : Int} : inWord? w = some i ↔ w = i ∧ -2 ^ 63 ≤ i ∧ i ≤ 2 ^ 63 - 1 := by
  rw [inWord?, show leastInteger = -2 ^ 63 from rfl, show greatestInteger = 2 ^ 63 - 1 from rfl,
    Option.ite_none_right_eq_some, Option.some_inj, and_comm]
  exact and_congr_right fun h => by rw [h]

/-- The least integer of the range is a number of binary64. -/
theorem exists_ofInt?_leastInteger : ∃ x, Binary64.ofInt? leastInteger = some x ∧ x.value = -2 ^ 63 :=
  ⟨⟨true, 2 ^ 52, 11, by decide⟩, by decide +kernel, by norm_num [Binary64.value, Binary64.magnitude]⟩

/-- The greatest one is rounded up. -/
theorem exists_ofInt?_greatestInteger : ∃ x, Binary64.ofInt? greatestInteger = some x ∧ x.value = 2 ^ 63 :=
  ⟨⟨false, 2 ^ 52, 11, by decide⟩, by decide +kernel, by norm_num [Binary64.value, Binary64.magnitude]⟩

theorem withinWord_iff {x : Binary64} : withinWord x = true ↔ -2 ^ 63 ≤ x.value ∧ x.value < 2 ^ 63 := by
  obtain ⟨least, hleast, hleast'⟩ := exists_ofInt?_leastInteger
  obtain ⟨greatest, hgreatest, hgreatest'⟩ := exists_ofInt?_greatestInteger
  rw [withinWord, hleast, hgreatest, Option.any_some, Option.any_some, Bool.and_eq_true, decide_eq_true_iff,
    decide_eq_true_iff, Binary64.le_iff, Binary64.lt_iff, hleast', hgreatest']

theorem integerOfFloat?_eq_some {x : Binary64} {i : Int} :
    integerOfFloat? x = some i ↔ (i : ℚ) = x.value ∧ -2 ^ 63 ≤ i ∧ i ≤ 2 ^ 63 - 1 := by
  rw [integerOfFloat?, Option.ite_none_right_eq_some, Binary64.toInt?_eq_some, withinWord_iff, and_comm]
  refine and_congr_right fun hi => ?_
  rw [← hi, Int.le_sub_one_iff]
  exact_mod_cast Iff.rfl

/-- A whole number above the range is above it also when it is rounded. -/
theorem integerOfFloat?_of_rounded {w : Int} {x : Binary64} (hw : 2 ^ 63 ≤ w) (hx : Binary64.ofInt? w = some x) (i : Int) :
    integerOfFloat? x ≠ some i := by
  intro hi
  obtain ⟨hvalue, -, hle⟩ := integerOfFloat?_eq_some.1 hi
  have hround := Binary64.two_pow_le_of_ofInt? hw hx
  rw [← hvalue] at hround
  have : 2 ^ 63 ≤ i := by exact_mod_cast hround
  omega

/-- **A number that fits is taken exactly if it is an integer of the range.** -/
theorem integerOfNumber?_eq_some {n : Json.Number} (hn : n.Fits) {i : Int} :
    integerOfNumber? n = some i ↔ (i : ℚ) = n.value ∧ -2 ^ 63 ≤ i ∧ i ≤ 2 ^ 63 - 1 := by
  cases n with
  | float x => exact integerOfFloat?_eq_some
  | whole w =>
    rw [integerOfNumber?, Option.or_eq_some_iff, inWord?_eq_some, Json.Number.value, Int.cast_inj, eq_comm]
    refine ⟨fun h => h.resolve_right ?_, .inl⟩
    rintro ⟨hnone, hrounded⟩
    obtain ⟨x, hx, hi⟩ := Option.bind_eq_some_iff.1 hrounded
    refine integerOfFloat?_of_rounded ?_ hx i hi
    -- it fits, so it is not below the range
    have hout : ¬(-2 ^ 63 ≤ w ∧ w ≤ 2 ^ 63 - 1) := fun h => by
      rw [inWord?_eq_some.2 ⟨rfl, h⟩] at hnone
      cases hnone
    have hlow : -2 ^ 63 ≤ w := hn.1
    omega

/-- **A text is taken exactly if it denotes an integer of the range**, with blanks around. -/
theorem integerOfText?_eq_some {s : String} {i : Int} : integerOfText? s = some i ↔
    ∃ word, Text.Padded word s.toList ∧ Numeral.Denotes word i ∧ -2 ^ 63 ≤ i ∧ i ≤ 2 ^ 63 - 1 := by
  have htrim : (Text.trim s).toList = Text.trimChars s.toList := String.toList_ofList
  rw [integerOfText?, htrim, Numeral.signed?_eq_some (by decide), Int.le_sub_one_iff]
  constructor
  · exact fun h => ⟨_, Text.padded_trimChars s.toList, h⟩
  · rintro ⟨word, hpadded, hdenotes, hrange⟩
    rw [hpadded.trimChars_eq hdenotes.not_blank]
    exact ⟨hdenotes, hrange⟩

theorem coerce_number_eq_ok {n : Json.Number} {p : Parameter} :
    coerce .integer (.number n) = .ok p ↔ ∃ i, integerOfNumber? n = some i ∧ p = .integer i := by
  rw [coerce]
  cases integerOfNumber? n with
  | none => exact ⟨nofun, nofun⟩
  | some i => simp [eq_comm]

theorem coerce_string_eq_ok {s : String} {p : Parameter} :
    coerce .integer (.string s) = .ok p ↔ ∃ i, integerOfText? s = some i ∧ p = .integer i := by
  rw [coerce]
  cases integerOfText? s with
  | none => exact ⟨nofun, nofun⟩
  | some i => simp [eq_comm]

end AttributeKind

/-- **Integers are taken exactly and never wrap.** A number that fits is taken for an integer attribute if and only if
its value is an integer from `-2 ^ 63` to `2 ^ 63 - 1`, and it is taken as this integer. A text is taken if and only if
it is blank but for an optional sign and at least one digit that denote such an integer, and it is taken as this one. -/
theorem coerce_integer_exact :
    (∀ n : Json.Number, n.Fits → ∀ p, AttributeKind.integer.coerce (.number n) = .ok p ↔
      ∃ i : Int, (i : ℚ) = n.value ∧ -2 ^ 63 ≤ i ∧ i ≤ 2 ^ 63 - 1 ∧ p = .integer i) ∧
    ∀ (s : String) (p : Parameter), AttributeKind.integer.coerce (.string s) = .ok p ↔
      ∃ (word : List Char) (i : Int), Text.Padded word s.toList ∧ Numeral.Denotes word i ∧
        -2 ^ 63 ≤ i ∧ i ≤ 2 ^ 63 - 1 ∧ p = .integer i := by
  refine ⟨fun n hn p => ?_, fun s p => ?_⟩
  · rw [AttributeKind.coerce_number_eq_ok]
    simp only [AttributeKind.integerOfNumber?_eq_some hn, and_assoc]
  · rw [AttributeKind.coerce_string_eq_ok]
    simp only [AttributeKind.integerOfText?_eq_some]
    constructor
    · rintro ⟨i, ⟨word, hpadded, hdenotes, hlow, hhigh⟩, rfl⟩
      exact ⟨word, i, hpadded, hdenotes, hlow, hhigh, rfl⟩
    · rintro ⟨word, i, hpadded, hdenotes, hlow, hhigh, rfl⟩
      exact ⟨i, ⟨word, hpadded, hdenotes, hlow, hhigh⟩, rfl⟩

/-- The greatest integer is taken, as a number and as a text. The next one is read from a document but not taken. -/
theorem coerce_integer_exact_greatest :
    let above : Json.Number := .whole 9223372036854775808
    Json.Number.ofToken? false "9223372036854775808".toList none none = some above ∧ above.Fits ∧
      (∀ p, AttributeKind.integer.coerce (.number above) ≠ .ok p) ∧
      AttributeKind.integer.coerce (.number (.whole 9223372036854775807)) = .ok (.integer 9223372036854775807) ∧
      AttributeKind.integer.coerce (.string " +9223372036854775807\u3000") = .ok (.integer 9223372036854775807) := by
  intro above
  have hread : Json.Number.ofToken? false "9223372036854775808".toList none none = some above := by decide +kernel
  have hfits := Json.Number.fits_of_ofToken? hread
  refine ⟨hread, hfits, fun p h => ?_, ?_, ?_⟩
  · obtain ⟨i, hi, -, hle, -⟩ := (coerce_integer_exact.1 above hfits p).1 h
    have : i = 9223372036854775808 := Int.cast_injective hi
    omega
  · have hfits : (Json.Number.whole 9223372036854775807).Fits := ⟨by decide, by decide⟩
    exact (coerce_integer_exact.1 _ hfits _).2 ⟨_, rfl, by decide, by decide, rfl⟩
  · have hnumeral : Numeral.natural? "9223372036854775807".toList = some 9223372036854775807 := by decide
    obtain ⟨hdigits, hnumber⟩ := Numeral.natural?_eq_some.1 hnumeral
    have hdenotes : Numeral.Denotes "+9223372036854775807".toList 9223372036854775807 := by
      have := Numeral.Denotes.plus hdigits
      rwa [← hnumber] at this
    have hpadded : Text.Padded "+9223372036854775807".toList " +9223372036854775807\u3000".toList :=
      ⟨[' '], ['\u3000'], by decide, List.forall_mem_singleton.2 (by decide), List.forall_mem_singleton.2 (by decide)⟩
    exact (coerce_integer_exact.2 _ _).2 ⟨_, _, hpadded, hdenotes, by decide, by decide, rfl⟩

end Cohort
