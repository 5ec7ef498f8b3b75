import Cohort.Proofs.Attribute.Integer
import Cohort.Proofs.Decimal.Reading

/-!
# Decimals as parameters

Every number of a document is written as a decimal number (`Json.Number.exists_written`), and a text may hold one with
blanks around (`Json.Writes`). The decimal that either is taken as stands for the number that is written
(`coerce_numeric_stands`): it has the same value just if the number in front of the exponent and the whole number are
values of decimals, and is rounded otherwise. So a number that is the value of a decimal can still be rounded, if the
number in front of its exponent is not (`coerce_numeric_rounded`).
-/

namespace Cohort

/-! ## Numbers of a document -/

namespace Json.Number

theorem allDigits_zeros_append {k : ℕ} {ds : List Char} (h : Numeral.AllDigits ds) :
    Numeral.AllDigits (List.replicate k '0' ++ ds) where
  ne_nil := by simp [h.ne_nil]
  digit := List.forall_mem_append.2 ⟨fun c hc => by rw [List.eq_of_mem_replicate hc]; decide, h.digit⟩

/-- A positive decimal under a layout is written with a point in place, or with an exponent behind its digits. -/
theorem scientificChars_form (l : Layout) (s : Binary64.Scientific) :
    (∃ n k, Decimal.Unsigned (scientificChars l s) n k) ∨
      ∃ ds n k es e, scientificChars l s = ds ++ 'e' :: es ∧ Decimal.Unsigned ds n k ∧ Numeral.Denotes es e := by
  have hds := Numeral.allDigits_digits s.digits
  unfold scientificChars
  dsimp only
  generalize Numeral.digits s.digits = ds at hds ⊢
  split
  · left
    split
    · exact ⟨_, _, @Decimal.Unsigned.pointed ['0'] _ (allDigits_zeros_append (k := _ + 1) hds)⟩
    · split
      · exact ⟨_, _, .pointed (by rwa [List.take_append_drop])⟩
      · rw [show ['.', '0'] = '.' :: ['0'] from rfl]
        refine ⟨_, _, .pointed ⟨by simp, ?_⟩⟩
        have hzero : Numeral.AllDigits ['0'] := by decide
        refine List.forall_mem_append.2 ⟨List.forall_mem_append.2 ⟨hds.digit, fun c hc => ?_⟩, hzero.digit⟩
        rw [List.eq_of_mem_replicate hc]
        decide
  · right
    have hexponent : ∃ e, Numeral.Denotes
        ((if s.point - 1 < 0 then '-' else '+') :: Numeral.digits (s.point - 1).natAbs) e := by
      split
      · exact ⟨_, .minus (Numeral.allDigits_digits _)⟩
      · exact ⟨_, .plus (Numeral.allDigits_digits _)⟩
    obtain ⟨e, he⟩ := hexponent
    cases ds with
    | nil => exact absurd rfl hds.ne_nil
    | cons d ds =>
      cases ds with
      | nil => exact ⟨_, _, _, _, e, rfl, .whole hds, he⟩
      | cons d' ds => exact ⟨_, _, _, _, e, rfl, @Decimal.Unsigned.pointed [d] _ hds, he⟩

/-- Digits may have a minus sign in front, and an exponent behind them. -/
theorem exists_written_digits {ds : List Char} {n k : ℕ} (h : Decimal.Unsigned ds n k) (negative : Bool) :
    (∃ b e, Decimal.Written (if negative then '-' :: ds else ds) b e) ∧ ∀ {es : List Char} {e : ℤ},
      Numeral.Denotes es e → ∃ b e, Decimal.Written (if negative then '-' :: (ds ++ 'e' :: es) else ds ++ 'e' :: es) b e := by
  cases negative with
  | true => exact ⟨⟨_, _, .plain (.minus h)⟩, fun he => ⟨_, _, .scientific (.minus h) (.inl rfl) he⟩⟩
  | false => exact ⟨⟨_, _, .plain (.unsigned h)⟩, fun he => ⟨_, _, .scientific (.unsigned h) (.inl rfl) he⟩⟩

/-- **Every number of a document is written as a decimal number.** -/
theorem exists_written (n : Number) : ∃ b e, Decimal.Written n.text.toList b e := by
  rw [text, String.toList_ofList]
  cases n with
  | whole i =>
    have h := (exists_written_digits (.whole (Numeral.allDigits_digits i.natAbs)) (decide (i < 0))).1
    simpa [chars, Numeral.intChars] using h
  | float x =>
    by_cases hzero : x.significand = 0
    · simp only [chars, hzero, ↓reduceIte]
      exact (exists_written_digits (@Decimal.Unsigned.pointed ['0'] ['0'] (by decide)) x.negative).1
    · simp only [chars, hzero, ↓reduceIte]
      rcases scientificChars_form layout x.shortest with ⟨n, k, h⟩ | ⟨ds, n, k, es, e, hchars, h, he⟩
      · exact (exists_written_digits h x.negative).1
      · rw [hchars]
        exact (exists_written_digits h x.negative).2 he

end Json.Number

/-! ## Texts -/

theorem Decimal.Unsigned.not_blank {cs : List Char} {n k : ℕ} (h : Unsigned cs n k) :
    ∀ c ∈ cs, Text.isBlank c = false := by
  cases h with
  | whole hds => exact hds.not_blank
  | pointed hds =>
    obtain ⟨hwhole, hfraction⟩ := List.forall_mem_append.1 hds.not_blank
    exact List.forall_mem_append.2 ⟨hwhole, List.forall_mem_cons.2 ⟨by decide, hfraction⟩⟩

theorem Decimal.Plain.not_blank {cs : List Char} {b : ℚ} (h : Plain cs b) : ∀ c ∈ cs, Text.isBlank c = false := by
  cases h with
  | unsigned h => exact h.not_blank
  | plus h => exact List.forall_mem_cons.2 ⟨by decide, h.not_blank⟩
  | minus h => exact List.forall_mem_cons.2 ⟨by decide, h.not_blank⟩

theorem Decimal.Written.not_blank {cs : List Char} {b : ℚ} {e : ℤ} (h : Written cs b e) :
    ∀ c ∈ cs, Text.isBlank c = false := by
  cases h with
  | plain h => exact h.not_blank
  | scientific h hmark he =>
    refine List.forall_mem_append.2 ⟨h.not_blank, List.forall_mem_cons.2 ⟨?_, he.not_blank⟩⟩
    rcases hmark with rfl | rfl <;> decide

/-- A number that is written in a value, with blanks around in a text: the number in front of the exponent, and the
exponent. -/
inductive Json.Writes : Json → ℚ → ℤ → Prop
  | string {s : String} {word : List Char} {b : ℚ} {e : ℤ} : Text.Padded word s.toList → Decimal.Written word b e →
      Writes (.string s) b e
  | number {n : Number} {b : ℚ} {e : ℤ} : Decimal.Written n.text.toList b e → Writes (.number n) b e

namespace AttributeKind

/-- A text is taken for the number that is written in it. -/
theorem numeric?_stands {s : String} {b : ℚ} {e : ℤ} {p : Parameter} (h : Decimal.Written s.toList b e)
    (hp : numeric? s = .ok p) : ∃ d : Decimal, p = .numeric d ∧ d.Stands b e := by
  unfold numeric? at hp
  split at hp
  · rename_i d hd
    cases hp
    exact ⟨d, rfl, Decimal.read?_stands h hd⟩
  · cases hp

/-- **The decimal that a value is taken as stands for the number that is written**, and it has the same value just if
the number in front of the exponent and the whole number are values of decimals. -/
theorem coerce_numeric_stands {value : Json} {b : ℚ} {e : ℤ} {p : Parameter} (h : value.Writes b e)
    (hp : numeric.coerce value = .ok p) : ∃ d : Decimal, p = .numeric d ∧ d.Stands b e ∧
      (d.value = b * 10 ^ e ↔ Decimal.Representable b ∧ Decimal.Representable (b * 10 ^ e)) := by
  obtain ⟨d, rfl, hstands⟩ : ∃ d : Decimal, p = .numeric d ∧ d.Stands b e := by
    cases h with
    | @string s word b e hpadded hwritten =>
      have htrim : (Text.trim s).toList = word := by
        rw [Text.trim, String.toList_ofList, hpadded.trimChars_eq hwritten.not_blank]
      exact numeric?_stands (htrim ▸ hwritten) hp
    | number hwritten => exact numeric?_stands hwritten hp
  exact ⟨d, rfl, hstands, hstands.value_eq_iff⟩

/-- A text with an exponent and with blanks around. -/
theorem coerce_numeric_stands_padded :
    let value : Json := .string "\u00a0-1.50e1 "
    value.Writes (-(150 / 10 ^ 2)) 1 ∧ numeric.coerce value = .ok (.numeric ⟨true, 150, 1, by decide, by decide⟩) ∧
      ∃ d : Decimal, Parameter.numeric ⟨true, 150, 1, by decide, by decide⟩ = .numeric d ∧
        d.Stands (-(150 / 10 ^ 2)) 1 ∧ (d.value = -(150 / 10 ^ 2) * 10 ^ (1 : ℤ) ↔
          Decimal.Representable (-(150 / 10 ^ 2)) ∧ Decimal.Representable (-(150 / 10 ^ 2) * 10 ^ (1 : ℤ))) := by
  intro value
  have hbase : Decimal.Plain "-1.50".toList (-(150 / 10 ^ 2)) :=
    .minus (@Decimal.Unsigned.pointed ['1'] ['5', '0'] (by decide))
  have hone : Numeral.Denotes ['1'] 1 := .plain (by decide)
  have hpadded : Text.Padded "-1.50e1".toList "\u00a0-1.50e1 ".toList :=
    ⟨['\u00a0'], [' '], by decide, List.forall_mem_singleton.2 (by decide), List.forall_mem_singleton.2 (by decide)⟩
  have hwrites : value.Writes (-(150 / 10 ^ 2)) 1 := .string hpadded (.scientific hbase (.inl rfl) hone)
  have htrim : Text.trim "\u00a0-1.50e1 " = "-1.50e1" := by decide +kernel
  have hread : Decimal.read? "-1.50e1" = some ⟨true, 150, 1, by decide, by decide⟩ := by decide +kernel
  have hcoerce : numeric.coerce value = .ok (.numeric ⟨true, 150, 1, by decide, by decide⟩) := by
    rw [coerce, htrim, numeric?, hread]
  exact ⟨hwrites, hcoerce, coerce_numeric_stands hwrites hcoerce⟩

/-- The half of a unit is written with an exponent behind a number that no decimal has as its value. It is taken as one,
although a decimal has the value of a half. -/
theorem coerce_numeric_rounded :
    Decimal.Written "0.00000000000000000000000000005e28".toList (5 / 10 ^ 29) 28 ∧
      (5 / 10 ^ 29 : ℚ) * 10 ^ (28 : ℤ) = 1 / 2 ∧ Decimal.Representable (1 / 2) ∧ ∃ d : Decimal,
        numeric.coerce (.string "0.00000000000000000000000000005e28") = .ok (.numeric d) ∧ d.value = 1 := by
  have hbase : Decimal.Plain "0.00000000000000000000000000005".toList (5 / 10 ^ 29) :=
    .unsigned (@Decimal.Unsigned.pointed ['0'] "00000000000000000000000000005".toList (by decide))
  have hexponent : Numeral.Denotes ['2', '8'] 28 := .plain (by decide)
  have htrim : Text.trim "0.00000000000000000000000000005e28" = "0.00000000000000000000000000005e28" := by
    decide +kernel
  have hread : Decimal.read? "0.00000000000000000000000000005e28" = some ⟨false, 1, 0, by decide, by decide⟩ := by
    decide +kernel
  refine ⟨.scientific hbase (.inl rfl) hexponent, by norm_num, ⟨⟨false, 5, 1, by decide, by decide⟩, ?_⟩,
    ⟨false, 1, 0, by decide, by decide⟩, ?_, ?_⟩
  · norm_num [Decimal.value, Decimal.magnitude]
  · rw [coerce, htrim, numeric?, hread]
  · norm_num [Decimal.value, Decimal.magnitude]

end AttributeKind

end Cohort
