import Cohort.Instant.Reader
import Cohort.Proofs.Checking
import Cohort.Proofs.Numeral
import Cohort.Proofs.Text.Blank
import Mathlib.Data.List.TakeWhile

/-!
# Instants read back

What is read in the fixed layout is a day that its month has, a minute of the day, a second and a nanosecond
(`WellFormed`), also where the offset moves it to the day before or after (`wellFormed_of_readChars`). Such an instant
of the years 0 to 9999 reads back from its own text (`readChars_chars`), as each of its parts is written in the width
in which it is read (`readFixed_padded`, `readFraction_chars`).
-/

namespace Cohort

open Numeral

/-! ## Days -/

namespace Date

/-- A day that the month has. -/
structure IsDay (d : Date) : Prop where
  /-- Days are counted from one. -/
  pos : 1 ≤ d.day
  /-- The month has it. -/
  le : d.day ≤ daysInMonth d.year d.month

theorem daysInMonth_le (year : Int) (month : Nat) : daysInMonth year month ≤ 31 := by
  unfold daysInMonth
  split
  · split <;> omega
  · split
    · omega
    · split <;> omega

theorem daysInMonth_pos (year : Int) {month : Nat} (h : 1 ≤ month ∧ month ≤ 12) : 28 ≤ daysInMonth year month := by
  unfold daysInMonth
  split
  · split <;> omega
  · split <;> omega

theorem IsDay.month {d : Date} (h : d.IsDay) : 1 ≤ d.month ∧ d.month ≤ 12 := by
  have hle := Nat.le_trans h.pos h.le
  unfold daysInMonth at hle
  split at hle
  · omega
  · split at hle
    · omega
    · split at hle <;> omega

theorem isValid_iff {d : Date} : d.isValid = true ↔ -262143 ≤ d.year ∧ d.year ≤ 262142 ∧ d.IsDay := by
  simp only [isValid, Bool.and_eq_true, decide_eq_true_eq]
  constructor
  · rintro ⟨⟨⟨hlow, hhigh⟩, hpos⟩, hle⟩
    exact ⟨hlow, hhigh, hpos, hle⟩
  · rintro ⟨hlow, hhigh, hpos, hle⟩
    exact ⟨⟨⟨hlow, hhigh⟩, hpos⟩, hle⟩

theorem IsDay.next {d : Date} (h : d.IsDay) : d.next.IsDay := by
  have hmonth := h.month
  unfold Date.next
  split
  · exact ⟨by dsimp; omega, by dsimp; omega⟩
  · split
    · have := daysInMonth_pos d.year (show 1 ≤ d.month + 1 ∧ d.month + 1 ≤ 12 by omega)
      exact ⟨by dsimp; omega, by dsimp; omega⟩
    · have := daysInMonth_pos (d.year + 1) (show 1 ≤ 1 ∧ 1 ≤ 12 by omega)
      exact ⟨by dsimp; omega, by dsimp; omega⟩

theorem IsDay.previous {d : Date} (h : d.IsDay) : d.previous.IsDay := by
  have hmonth := h.month
  have hle := h.le
  unfold Date.previous
  split
  · exact ⟨by dsimp; omega, by dsimp; omega⟩
  · split
    · have := daysInMonth_pos d.year (show 1 ≤ d.month - 1 ∧ d.month - 1 ≤ 12 by omega)
      exact ⟨by dsimp; omega, by dsimp; omega⟩
    · have : daysInMonth (d.year - 1) 12 = 31 := by simp [daysInMonth]
      exact ⟨by dsimp; omega, by dsimp; omega⟩

end Date

namespace Instant

/-- A moment of a day. Second 60 is a leap second. -/
structure WellFormed (t : Instant) : Prop where
  /-- The month has the day. -/
  date : t.date.IsDay
  /-- The day has the minute. -/
  minute : t.minute < 1440
  /-- The minute has the second. -/
  second : t.second ≤ 60
  /-- The second has the nanosecond. -/
  nano : t.nano < 1000000000

/-! ## What is read -/

theorem wellFormed_ofLocal {date : Date} {minute second nano : Nat} {offset : Int} (hdate : date.IsDay)
    (hminute : minute < 1440) (hsecond : second ≤ 60) (hnano : nano < 1000000000) (hoffset : offset.natAbs < 1440) :
    (ofLocal date minute second nano offset).WellFormed := by
  unfold ofLocal
  dsimp only
  split
  · exact ⟨hdate.previous, by dsimp; omega, hsecond, hnano⟩
  · split
    · exact ⟨hdate.next, by dsimp; omega, hsecond, hnano⟩
    · exact ⟨hdate, by dsimp; omega, hsecond, hnano⟩

theorem readNano_lt {cs rest : List Char} {n : Nat} (h : readNano cs = .ok (n, rest)) : n < 1000000000 := by
  unfold readNano at h
  dsimp only at h
  split at h
  · cases h
  · split at h
    · cases h
    · cases h
      -- at most nine digits are kept
      generalize hkept : (cs.takeWhile isDecimal).take 9 = kept
      have hlength : kept.length ≤ 9 := by
        rw [← hkept]
        simp
      have hdigits : ∀ c ∈ kept, '0' ≤ c ∧ c ≤ '9' := fun c hc => by
        rw [← hkept] at hc
        exact isDecimal_iff.1 (List.mem_takeWhile_imp (List.mem_of_mem_take hc))
      have hvalue : (natural? kept).getD 0 < 10 ^ kept.length := by
        cases hn : natural? kept with
        | none => simp
        | some m =>
          rw [Option.getD_some, (natural?_eq_some.1 hn).2]
          exact number_lt hdigits
      calc (natural? kept).getD 0 * tenTo (9 - kept.length)
          < 10 ^ kept.length * 10 ^ (9 - kept.length) := Nat.mul_lt_mul_of_pos_right hvalue (Nat.pow_pos (by omega))
        _ = 1000000000 := by rw [← Nat.pow_add, Nat.add_sub_cancel' hlength]

theorem readFraction_lt {cs rest : List Char} {n : Nat} (h : readFraction cs = .ok (n, rest)) : n < 1000000000 := by
  unfold readFraction at h
  split at h
  · exact readNano_lt h
  · cases h
    omega

/-- **What is read is a moment of a day.** -/
theorem wellFormed_of_readChars {cs : List Char} {t : Instant} (h : readChars cs = .ok t) : t.WellFormed := by
  unfold readChars at h
  dsimp only at h
  split at h
  · cases h
  · obtain ⟨⟨year, cs⟩, -, h⟩ := check_bind_ok.1 h
    obtain ⟨cs, -, h⟩ := check_bind_ok.1 h
    obtain ⟨⟨month, cs⟩, -, h⟩ := check_bind_ok.1 h
    obtain ⟨cs, -, h⟩ := check_bind_ok.1 h
    obtain ⟨⟨day, cs⟩, -, h⟩ := check_bind_ok.1 h
    dsimp only at h
    split at h
    · cases h
    · rename_i hvalid
      obtain ⟨cs, -, h⟩ := check_bind_ok.1 h
      obtain ⟨⟨hour, cs⟩, -, h⟩ := check_bind_ok.1 h
      obtain ⟨cs, -, h⟩ := check_bind_ok.1 h
      obtain ⟨⟨minute, cs⟩, -, h⟩ := check_bind_ok.1 h
      obtain ⟨cs, -, h⟩ := check_bind_ok.1 h
      obtain ⟨⟨second, cs⟩, -, h⟩ := check_bind_ok.1 h
      obtain ⟨⟨nano, cs⟩, hnano, h⟩ := check_bind_ok.1 h
      dsimp only at h
      split at h
      · cases h
      · rename_i htime
        obtain ⟨⟨offset, cs⟩, -, h⟩ := check_bind_ok.1 h
        dsimp only at h
        split at h
        · cases h
        · split at h
          · cases h
          · rename_i hoffset
            cases h
            simp only [Bool.not_eq_true, Bool.not_eq_false'] at hvalid
            exact wellFormed_ofLocal (Date.isValid_iff.1 hvalid).2.2 (by omega) (by omega) (readFraction_lt hnano)
              (by omega)

/-! ## What is written -/

/-- A number is read in the width in which it is written. -/
theorem readFixed_padded (width n : Nat) (hwidth : 0 < width) (h : n < 10 ^ width) (rest : List Char) :
    readFixed width (padded width n ++ rest) = .ok (n, rest) := by
  have hlength := length_padded hwidth h
  have htake : (padded width n ++ rest).take width = padded width n := by
    rw [List.take_append_of_le_length (by omega), List.take_of_length_le (by omega)]
  have hdrop : (padded width n ++ rest).drop width = rest := by
    rw [List.drop_append_of_le_length (by omega), List.drop_of_length_le (by omega), List.nil_append]
  unfold readFixed
  simp only [htake, hdrop, natural?_padded, hlength, ↓reduceIte]

theorem expect_self (c : Char) (cs : List Char) : expect c (c :: cs) = .ok cs := by
  simp [expect]

theorem readNano_padded (width n : Nat) (hwidth : 0 < width) (hnine : width ≤ 9) (h : n < 10 ^ width) {c : Char}
    (hc : isDecimal c = false) (rest : List Char) :
    readNano (padded width n ++ c :: rest) = .ok (n * 10 ^ (9 - width), c :: rest) := by
  have hlength := length_padded hwidth h
  have hdigits : ∀ d ∈ padded width n, isDecimal d = true :=
    fun d hd => isDecimal_iff.2 ((allDigits_padded width n).digit d hd)
  have htake : (padded width n ++ c :: rest).takeWhile isDecimal = padded width n := by
    rw [List.takeWhile_append_of_pos hdigits, List.takeWhile_cons_of_neg (by simp [hc]), List.append_nil]
  have hdrop : (padded width n ++ c :: rest).dropWhile isDecimal = c :: rest := by
    rw [List.dropWhile_append_of_pos hdigits, List.dropWhile_cons_of_neg (by simp [hc])]
  have hkept : (padded width n).take 9 = padded width n := List.take_of_length_le (by omega)
  have hne : (padded width n).isEmpty = false := List.isEmpty_eq_false_iff.2 (allDigits_padded width n).ne_nil
  unfold readNano
  simp only [htake, hdrop, hkept, natural?_padded, hlength, hne]
  simp [tenTo]

/-- The fraction of the second reads back, however many digits it has. -/
theorem readFraction_chars {nano : Nat} (h : nano < 1000000000) :
    readFraction (fractionChars nano ++ ['Z']) = .ok (nano, ['Z']) := by
  have hZ : isDecimal 'Z' = false := by decide
  unfold fractionChars
  split
  · rename_i hzero
    subst hzero
    rfl
  · split
    · rename_i hmilli
      have := readNano_padded 3 (nano / 1000000) (by omega) (by omega) (by omega) hZ []
      rw [List.cons_append, readFraction, this]
      simp only [Except.ok.injEq, Prod.mk.injEq, and_true]
      omega
    · split
      · rename_i hmicro
        have := readNano_padded 6 (nano / 1000) (by omega) (by omega) (by omega) hZ []
        rw [List.cons_append, readFraction, this]
        simp only [Except.ok.injEq, Prod.mk.injEq, and_true]
        omega
      · have := readNano_padded 9 nano (by omega) (by omega) (by omega) hZ []
        rw [List.cons_append, readFraction, this]
        simp

/-- **An instant reads back from its text**, with all its fractional digits, in a leap second too. -/
theorem readChars_chars {t : Instant} (h : t.WellFormed) (hlow : 0 ≤ t.date.year) (hhigh : t.date.year ≤ 9999) :
    readChars (t.chars ++ ['Z']) = .ok t := by
  obtain ⟨⟨year, month, day⟩, minute, second, nano⟩ := t
  obtain ⟨hdate, hminute, hsecond, hnano⟩ := h
  dsimp only at hdate hminute hsecond hnano hlow hhigh
  have hmonth : 1 ≤ month ∧ month ≤ 12 := hdate.month
  have hday : day ≤ 31 := Nat.le_trans hdate.le (Date.daysInMonth_le _ _)
  have hvalid : Date.isValid ⟨year, month, day⟩ = true := Date.isValid_iff.2 ⟨by dsimp; omega, by dsimp; omega, hdate⟩
  have hyear : (Date.yearChars year) = padded 4 year.natAbs := by
    rw [Date.yearChars, if_neg (by omega), if_neg (by omega)]
  have hyear' : ((year.natAbs : Nat) : Int) = year := by omega
  have hminutes : minute / 60 * 60 + minute % 60 = minute := by omega
  have hchars : (Instant.mk ⟨year, month, day⟩ minute second nano).chars ++ ['Z'] =
      padded 4 year.natAbs ++ '-' :: (padded 2 month ++ '-' :: (padded 2 day ++ 'T' :: (padded 2 (minute / 60) ++
        ':' :: (padded 2 (minute % 60) ++ ':' :: (padded 2 second ++ (fractionChars nano ++ ['Z'])))))) := by
    simp [chars, Date.chars, hyear]
  have hlength : ¬Text.byteLength ((Instant.mk ⟨year, month, day⟩ minute second nano).chars ++ ['Z']) < 19 := by
    have hbytes := Text.length_le_byteLength ((Instant.mk ⟨year, month, day⟩ minute second nano).chars ++ ['Z'])
    have hyears := le_length_padded 4 year.natAbs
    have hmonths := le_length_padded 2 month
    have hdays := le_length_padded 2 day
    have hhours := le_length_padded 2 (minute / 60)
    have hminutes := le_length_padded 2 (minute % 60)
    have hseconds := le_length_padded 2 second
    rw [hchars] at hbytes ⊢
    simp only [List.length_append, List.length_cons] at hbytes
    omega
  unfold readChars
  rw [if_neg hlength, hchars]
  have hoffset : readOffset (expect ':') ['Z'] = .ok (0, []) := rfl
  have hmark (cs : List Char) : readMark ('T' :: cs) = .ok cs := rfl
  have htime : ¬(24 ≤ minute / 60 ∨ 60 ≤ minute % 60 ∨ 60 < second) := by omega
  simp only [readFixed_padded 4 year.natAbs (by omega) (by omega),
    readFixed_padded 2 month (by omega) (by omega),
    readFixed_padded 2 day (by omega) (by omega),
    readFixed_padded 2 (minute / 60) (by omega) (by omega),
    readFixed_padded 2 (minute % 60) (by omega) (by omega),
    readFixed_padded 2 second (by omega) (by omega),
    expect_self, hmark, readFraction_chars hnano, hoffset, hyear', hvalid, hminutes, htime, bind, Except.bind]
  have hlocal : ofLocal ⟨year, month, day⟩ minute second nano 0 = ⟨⟨year, month, day⟩, minute, second, nano⟩ := by
    unfold ofLocal
    simp only [Int.sub_zero]
    rw [if_neg (by omega), if_neg (by omega), Int.toNat_natCast]
  simp [hlocal, pure, Except.pure]

end Instant
end Cohort
