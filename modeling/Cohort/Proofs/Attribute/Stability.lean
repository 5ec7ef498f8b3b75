import Cohort.Proofs.Attribute.Numeric
import Cohort.Proofs.Instant.RoundTrip

/-!
# Parameters taken once more

Each kind of attribute is compared with parameters of one form: integers of 64 bits, decimals, truth values, moments of
a day or texts (`AttributeKind.HasForm`, `hasForm_of_coerce`). A parameter of this form is taken once more from its own
document, as the same parameter (`coerce_json`): an integer is a number in the range, a decimal and an instant have no
blanks and read back from their texts. Hence what a value is taken as does not change when it is taken again
(`coerce_stable`), except for a year that is written with a sign, which the fixed layout of instants does not have.
-/

namespace Cohort

/-- The same parameter. The sign of a zero does not count, but its places do. -/
inductive Parameter.Same : Parameter → Parameter → Prop
  | refl (p : Parameter) : Same p p
  | numeric {d d' : Decimal} (hvalue : d.value = d'.value) (hscale : d.scale = d'.scale) :
      Same (.numeric d) (.numeric d')

/-- An instant has a year of four digits. -/
def Parameter.InYears (p : Parameter) : Prop := ∀ t, p = .instant t → 0 ≤ t.date.year ∧ t.date.year ≤ 9999

/-! ## Texts without blanks -/

theorem Numeral.padded_not_blank (width n : ℕ) : ∀ c ∈ padded width n, Text.isBlank c = false :=
  (allDigits_padded width n).not_blank

theorem Date.chars_not_blank (d : Date) : ∀ c ∈ d.chars, Text.isBlank c = false := by
  have hyear : ∀ c ∈ yearChars d.year, Text.isBlank c = false := by
    have hdigits := Numeral.padded_not_blank 4 d.year.natAbs
    unfold yearChars
    split
    · exact List.forall_mem_cons.2 ⟨by decide, hdigits⟩
    · split
      · exact List.forall_mem_cons.2 ⟨by decide, hdigits⟩
      · exact hdigits
  have hmark : Text.isBlank '-' = false := by decide
  unfold chars
  simp only [List.forall_mem_append, List.forall_mem_cons]
  exact ⟨⟨hyear, hmark, Numeral.padded_not_blank 2 _⟩, hmark, Numeral.padded_not_blank 2 _⟩

namespace Instant

theorem fractionChars_not_blank (nano : ℕ) : ∀ c ∈ fractionChars nano, Text.isBlank c = false := by
  have hfraction (width n : ℕ) : ∀ c ∈ '.' :: Numeral.padded width n, Text.isBlank c = false :=
    List.forall_mem_cons.2 ⟨by decide, Numeral.padded_not_blank width n⟩
  unfold fractionChars
  split
  · exact List.forall_mem_nil _
  · split
    · exact hfraction 3 _
    · split
      · exact hfraction 6 _
      · exact hfraction 9 _

theorem text_not_blank (t : Instant) : ∀ c ∈ t.text.toList, Text.isBlank c = false := by
  have htwo (n : ℕ) := Numeral.padded_not_blank 2 n
  rw [text, String.toList_ofList, chars]
  have hT : Text.isBlank 'T' = false := by decide
  have hcolon : Text.isBlank ':' = false := by decide
  have hZ : Text.isBlank 'Z' = false := by decide
  simp only [List.forall_mem_append, List.forall_mem_cons]
  exact ⟨⟨⟨⟨⟨t.date.chars_not_blank, hT, htwo _⟩, hcolon, htwo _⟩, hcolon, htwo _⟩, fractionChars_not_blank t.nano⟩, hZ,
    fun _ h => absurd h List.not_mem_nil⟩

/-- An instant is read from its text also as a value, where blanks around it are dropped. -/
theorem read_trim_text {t : Instant} (h : t.WellFormed) (hlow : 0 ≤ t.date.year) (hhigh : t.date.year ≤ 9999) :
    read (Text.trim t.text) = .ok t := by
  rw [Text.trim_of_not_blank t.text_not_blank, read, text, String.toList_ofList, readChars_chars h hlow hhigh]

end Instant

namespace Decimal

theorem text_not_blank (d : Decimal) : ∀ c ∈ d.text.toList, Text.isBlank c = false := by
  obtain ⟨cs, hchars, hcs⟩ := d.unsigned_chars
  rw [text, String.toList_ofList, hchars]
  refine List.forall_mem_append.2 ⟨?_, hcs.not_blank⟩
  split
  · exact List.forall_mem_singleton.2 (by decide)
  · exact List.forall_mem_nil _

theorem read?_trim_text (d : Decimal) : read? (Text.trim d.text) = some d.unsignedZero := by
  rw [Text.trim_of_not_blank d.text_not_blank, read?, text, String.toList_ofList, readPlain?_chars]

/-- A zero without its sign is still zero. -/
theorem value_unsignedZero (d : Decimal) : d.unsignedZero.value = d.value := by
  by_cases hzero : d.digits = 0
  · simp [value, magnitude, unsignedZero, hzero]
  · simp [value, magnitude, unsignedZero, hzero]

end Decimal

/-! ## Parameters of a kind -/

namespace AttributeKind

/-- The parameters that an attribute of a kind is compared with. -/
inductive HasForm : AttributeKind → Parameter → Prop
  | integer {i : ℤ} (hlow : -2 ^ 63 ≤ i) (hhigh : i ≤ 2 ^ 63 - 1) : HasForm integer (.integer i)
  | numeric (d : Decimal) : HasForm numeric (.numeric d)
  | boolean (b : Bool) : HasForm boolean (.boolean b)
  | datetime {t : Instant} (h : t.WellFormed) : HasForm datetime (.instant t)
  | text (s : String) : HasForm text (.text s)

theorem hasForm_of_integerOfNumber? {n : Json.Number} {i : ℤ} (h : integerOfNumber? n = some i) :
    HasForm integer (.integer i) := by
  cases n with
  | float x =>
    obtain ⟨-, hlow, hhigh⟩ := integerOfFloat?_eq_some.1 h
    exact .integer hlow hhigh
  | whole w =>
    rcases Option.or_eq_some_iff.1 h with h | ⟨-, h⟩
    · obtain ⟨-, hlow, hhigh⟩ := inWord?_eq_some.1 h
      exact .integer hlow hhigh
    · obtain ⟨x, -, h⟩ := Option.bind_eq_some_iff.1 h
      obtain ⟨-, hlow, hhigh⟩ := integerOfFloat?_eq_some.1 h
      exact .integer hlow hhigh

theorem hasForm_of_numeric? {s : String} {p : Parameter} (h : numeric? s = .ok p) : HasForm numeric p := by
  unfold numeric? at h
  split at h
  · cases h
    exact .numeric _
  · cases h

/-- **What a value is taken as is of the form that the kind takes.** -/
theorem hasForm_of_coerce {kind : AttributeKind} {value : Json} {p : Parameter} (h : kind.coerce value = .ok p) :
    kind.HasForm p := by
  cases kind with
  | integer =>
    cases value with
    | number n =>
      obtain ⟨i, hi, rfl⟩ := coerce_number_eq_ok.1 h
      exact hasForm_of_integerOfNumber? hi
    | string s =>
      obtain ⟨i, hi, rfl⟩ := coerce_string_eq_ok.1 h
      obtain ⟨-, -, -, hlow, hhigh⟩ := integerOfText?_eq_some.1 hi
      exact .integer hlow hhigh
    | _ => cases h
  | numeric =>
    cases value with
    | number n => exact hasForm_of_numeric? h
    | string s => exact hasForm_of_numeric? h
    | _ => cases h
  | boolean =>
    cases value with
    | bool b =>
      cases h
      exact .boolean b
    | string s =>
      rw [coerce] at h
      split at h
      · cases h
        exact .boolean _
      · cases h
    | _ => cases h
  | datetime =>
    cases value with
    | string s =>
      rw [coerce] at h
      split at h
      · rename_i t ht
        cases h
        exact .datetime (Instant.wellFormed_of_readChars ht)
      · cases h
    | _ => cases h
  | text =>
    cases value with
    | string s =>
      cases h
      exact .text s
    | number n =>
      cases h
      exact .text _
    | bool b =>
      cases h
      exact .text _
    | _ => cases h

/-- **A parameter is taken from its own document as the same parameter.** -/
theorem coerce_json {kind : AttributeKind} {p : Parameter} (h : kind.HasForm p) (hyears : p.InYears) :
    ∃ p', kind.coerce p.json = .ok p' ∧ p.Same p' := by
  cases h with
  | @integer i hlow hhigh =>
    have hi : integerOfNumber? (.whole i) = some i :=
      Option.or_eq_some_iff.2 (.inl (inWord?_eq_some.2 ⟨rfl, hlow, hhigh⟩))
    exact ⟨_, coerce_number_eq_ok.2 ⟨i, hi, rfl⟩, .refl _⟩
  | numeric d =>
    refine ⟨.numeric d.unsignedZero, ?_, .numeric d.value_unsignedZero.symm rfl⟩
    rw [Parameter.json, coerce, numeric?, d.read?_trim_text]
  | boolean b => exact ⟨_, rfl, .refl _⟩
  | @datetime t ht =>
    obtain ⟨hlow, hhigh⟩ := hyears t rfl
    refine ⟨.instant t, ?_, .refl _⟩
    rw [Parameter.json, coerce, Instant.read_trim_text ht hlow hhigh]
  | text s => exact ⟨_, rfl, .refl _⟩

/-- **What a value is taken as does not change when it is taken again.** For every kind and every value that it takes,
the document of the parameter is taken as the same parameter: the same integer, truth value or text, a decimal of the
same value and places, the same instant down to the nanosecond and in a leap second too, unless its year in universal
time is not written with four digits. -/
theorem coerce_stable {kind : AttributeKind} {value : Json} {p : Parameter} (h : kind.coerce value = .ok p)
    (hyears : p.InYears) : ∃ p', kind.coerce p.json = .ok p' ∧ p.Same p' :=
  coerce_json (hasForm_of_coerce h) hyears

/-- A zero with a sign and places, and a leap second that is on the day before in universal time. -/
theorem coerce_stable_zero_leap :
    let zero : Decimal := ⟨true, 0, 28, by decide, by decide⟩
    let leap : Instant := ⟨⟨2016, 12, 31⟩, 1439, 60, 123456789⟩
    numeric.coerce (.string "-0.1e-28") = .ok (.numeric zero) ∧ Parameter.InYears (.numeric zero) ∧
      (∃ p, numeric.coerce (Parameter.numeric zero).json = .ok p ∧ Parameter.Same (.numeric zero) p) ∧
      datetime.coerce (.string "2017-01-01T00:59:60.1234567899+01:00") = .ok (.instant leap) ∧
      Parameter.InYears (.instant leap) ∧
      ∃ p, datetime.coerce (Parameter.instant leap).json = .ok p ∧ Parameter.Same (.instant leap) p := by
  intro zero leap
  have hzero : numeric.coerce (.string "-0.1e-28") = .ok (.numeric zero) := by
    have htrim : Text.trim "-0.1e-28" = "-0.1e-28" := by decide +kernel
    have hread : Decimal.read? "-0.1e-28" = some zero := by decide +kernel
    rw [coerce, htrim, numeric?, hread]
  have hleap : datetime.coerce (.string "2017-01-01T00:59:60.1234567899+01:00") = .ok (.instant leap) := by
    have hread : Instant.read (Text.trim "2017-01-01T00:59:60.1234567899+01:00") = .ok leap := by decide +kernel
    rw [coerce, hread]
  have hzeroYears : Parameter.InYears (.numeric zero) := by
    intro t ht
    cases ht
  have hyears : Parameter.InYears (.instant leap) := by
    intro t ht
    cases ht
    decide
  exact ⟨hzero, hzeroYears, coerce_stable hzero hzeroYears, hleap, hyears, coerce_stable hleap hyears⟩

end AttributeKind
end Cohort
