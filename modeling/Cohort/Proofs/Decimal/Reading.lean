import Cohort.Proofs.Decimal.Value
import Cohort.Proofs.Numeral
import Mathlib.Data.List.TakeWhile

/-!
# Written decimals

A decimal number is written in plain notation, digits with at most one point and a sign (`Plain`), or in scientific
notation, where an exponent follows (`Written`). What is read of plain notation renders the number
(`readPlain?_renders`): as many digits are kept as have room, and the first one without room rounds them. In scientific
notation the number before the exponent is read on its own, and so rounded on its own, before the exponent moves its
point and the result is rounded again (`read?_stands`). So the decimal has the value that is written just if the number
in front of the exponent and the whole number are representable (`Stands.value_eq_iff`).

Digits that have room are kept as they are (`Unsigned.read_fitting`), so a decimal reads back from its own text, all its
places included (`readPlain?_chars`).
-/

namespace Cohort.Decimal

open Numeral

/-! ## Notation -/

/-- Digits with at most one point before, among or behind them: the number of all of them, and how many of them stand
behind the point. -/
inductive Unsigned : List Char → ℕ → ℕ → Prop
  | whole {ds : List Char} : AllDigits ds → Unsigned ds (number ds) 0
  | pointed {ds fs : List Char} : AllDigits (ds ++ fs) → Unsigned (ds ++ '.' :: fs) (number (ds ++ fs)) fs.length

/-- Plain notation of a number. -/
inductive Plain : List Char → ℚ → Prop
  | unsigned {cs : List Char} {n k : ℕ} : Unsigned cs n k → Plain cs (n / 10 ^ k)
  | plus {cs : List Char} {n k : ℕ} : Unsigned cs n k → Plain ('+' :: cs) (n / 10 ^ k)
  | minus {cs : List Char} {n k : ℕ} : Unsigned cs n k → Plain ('-' :: cs) (-(n / 10 ^ k))

/-- **A number as it is written**, in plain notation with the exponent zero, or in scientific notation: the number in
front and the exponent of ten that it is multiplied by. -/
inductive Written : List Char → ℚ → ℤ → Prop
  | plain {cs : List Char} {b : ℚ} : Plain cs b → Written cs b 0
  | scientific {cs es : List Char} {b : ℚ} {mark : Char} {e : ℤ} : Plain cs b → mark = 'e' ∨ mark = 'E' →
      Denotes es e → Written (cs ++ mark :: es) b e

/-! ## Digits -/

theorem decimalValue?_of_digit {c : Char} (h : '0' ≤ c ∧ c ≤ '9') : decimalValue? c = some (c.toNat - 48) := if_pos h

theorem digit_le {c : Char} (h : '0' ≤ c ∧ c ≤ '9') : c.toNat - 48 ≤ 9 := by
  have : c.toNat ≤ 57 := UInt32.le_iff_toNat_le.1 h.2
  omega

theorem all_isTail {cs : List Char} (h : ∀ c ∈ cs, '0' ≤ c ∧ c ≤ '9') : cs.all isTail = true := by
  rw [List.all_eq_true]
  intro c hc
  simp [isTail, isDecimal, decimalValue?_of_digit (h c hc)]

/-- Digits behind a number make it no smaller. -/
theorem le_shift (n k : ℕ) : n ≤ n * 10 ^ k := Nat.le_mul_of_pos_right n (Nat.pow_pos (by decide))

/-- The first digit is put behind the number in front. -/
theorem shift_number_cons (m : ℕ) (c : Char) (ds : List Char) : m * 10 ^ (c :: ds).length + number (c :: ds) =
    (10 * m + (c.toNat - 48)) * 10 ^ ds.length + number ds := by
  rw [number_cons, List.length_cons, show '0'.toNat = 48 from rfl]
  ring

/-- Digits before the point are taken if they have room together. -/
theorem readDigits?_whole {rest : List Char} : ∀ (ds : List Char) {m : ℕ} {started : Bool},
    (∀ c ∈ ds, '0' ≤ c ∧ c ≤ '9') → m < bound →
    readDigits? m 0 false started (ds ++ rest) =
      if m * 10 ^ ds.length + number ds < bound then
        readDigits? (m * 10 ^ ds.length + number ds) 0 false (started || !ds.isEmpty) rest
      else none
  | [], m, started, _, hm => by simp [number, hm]
  | c :: ds, m, started, hdigits, _ => by
    have hc := hdigits c List.mem_cons_self
    rw [List.cons_append, readDigits?, decimalValue?_of_digit hc, shift_number_cons]
    simp only [Bool.not_false, ↓reduceIte]
    by_cases hroom : 10 * m + (c.toNat - 48) < bound
    · rw [if_pos hroom, readDigits?_whole ds (fun d hd => hdigits d (List.mem_cons_of_mem _ hd)) hroom]
      simp
    · have hle := le_shift (10 * m + (c.toNat - 48)) ds.length
      rw [if_neg hroom, if_neg (by omega)]

theorem readDigits?_point {m : ℕ} {started : Bool} (fs : List Char) :
    readDigits? m 0 false started ('.' :: fs) = readDigits? m 0 true started fs := by
  rw [readDigits?, show decimalValue? '.' = none from rfl]
  simp

/-- Digits behind the point are taken if they have room together. -/
theorem readDigits?_fitting : ∀ (fs : List Char) {m k : ℕ} {started : Bool}, (∀ c ∈ fs, '0' ≤ c ∧ c ≤ '9') →
    m * 10 ^ fs.length + number fs < bound → k + fs.length ≤ maxScale → (started = true ∨ fs ≠ []) →
    readDigits? m k true started fs = some (m * 10 ^ fs.length + number fs, k + fs.length)
  | [], m, k, started, _, _, _, hstarted => by
    have : started = true := by simpa using hstarted
    simp [readDigits?, number, this]
  | c :: fs, m, k, started, hdigits, hroom, hplaces, _ => by
    have hc := hdigits c List.mem_cons_self
    rw [shift_number_cons] at hroom ⊢
    rw [List.length_cons] at hplaces
    have hone : 10 * m + (c.toNat - 48) < bound := by
      have hle := le_shift (10 * m + (c.toNat - 48)) fs.length
      omega
    have hk : k < maxScale := by omega
    rw [readDigits?, decimalValue?_of_digit hc]
    simp only [Bool.not_true, Bool.false_eq_true, ↓reduceIte, hk, hone, decide_true, Bool.and_self]
    rw [readDigits?_fitting fs (fun d hd => hdigits d (List.mem_cons_of_mem _ hd)) hroom (by omega) (.inl rfl),
      List.length_cons]
    congr 2
    omega

theorem bound_eq : bound = 79228162514264337593543950336 := by decide

/-- **Digits are rounded by the first one that has no room.** It stands for tenths of the last place, and what is behind
it for less than one of them. -/
theorem roundBy_renders {m k d n j : ℕ} {x y : ℚ} (hm : m < bound) (hd : d ≤ 9) (hy : 0 ≤ y) (hlt : y < 1)
    (hx : x * 10 ^ k = m + (d + y) / 10) (hroom : k = maxScale ∨ bound ≤ 10 * m + d)
    (h : roundBy d m k = some (n, j)) : Magnitude.Renders n j x := by
  have hd' : (d : ℚ) ≤ 9 := by exact_mod_cast hd
  have hfull (hnm : m ≤ n) : Full n k := by
    refine hroom.imp id fun hroom => ?_
    omega
  by_cases hrep : Representable x
  · -- there is nothing to round
    have hzero : ((d : ℚ) + y) / 10 = 0 := by
      refine hrep.fract_eq_zero hx (by positivity) (by linarith) (hroom.imp id fun hroom => ?_)
      have : (bound : ℚ) ≤ 10 * m + d := by exact_mod_cast hroom
      linarith
    have hd0 : d = 0 := by
      have : (d : ℚ) = 0 := by linarith [show (0 : ℚ) ≤ d by positivity]
      exact_mod_cast this
    rw [hd0, roundBy, if_pos (by omega)] at h
    cases h
    left
    rw [hzero, add_zero] at hx
    exact (eq_div_iff (by positivity)).2 hx
  · right
    refine ⟨hrep, ?_⟩
    unfold roundBy at h
    split at h
    · rename_i hsmall
      cases h
      have : (d : ℚ) ≤ 4 := by exact_mod_cast (by omega : d ≤ 4)
      refine ⟨⟨?_, ?_⟩, hfull (Nat.le_refl _)⟩ <;> rw [hx] <;> linarith [show (0 : ℚ) ≤ d by positivity]
    · rename_i hlarge
      have hfive : (5 : ℚ) ≤ d := by exact_mod_cast (by omega : 5 ≤ d)
      split at h
      · cases h
        refine ⟨⟨?_, ?_⟩, hfull (Nat.le_succ _)⟩ <;> rw [hx] <;> push_cast <;> linarith
      · rename_i hcarry
        split at h
        · cases h
        · -- the digits are all those there are, and the carry takes the last of them
          rename_i hplaces
          cases h
          have hm : m = 79228162514264337593543950335 := by
            have := bound_eq
            omega
          subst hm
          have hshift : x * 10 ^ (k - 1) = (79228162514264337593543950335 + (d + y) / 10) / 10 := by
            have hpow : (10 : ℚ) ^ k = 10 ^ (k - 1) * 10 := by
              rw [← pow_succ]
              congr 1
              omega
            rw [hpow] at hx
            push_cast at hx
            linarith
          refine ⟨⟨?_, ?_⟩, .inr (by decide)⟩ <;> rw [hshift] <;> norm_num <;> linarith

theorem roundBy_lt {m k d n j : ℕ} (hm : m < bound) (hk : k ≤ maxScale) (h : roundBy d m k = some (n, j)) :
    n < bound ∧ j ≤ maxScale := by
  unfold roundBy at h
  split at h
  · cases h
    exact ⟨hm, hk⟩
  · split at h
    · cases h
      exact ⟨‹_›, hk⟩
    · split at h
      · cases h
      · cases h
        have := bound_eq
        exact ⟨by omega, by omega⟩

/-- What is read of a run of digits behind the point renders them. -/
theorem readDigits?_fraction : ∀ (fs : List Char) {m k n j : ℕ} {started : Bool}, (∀ c ∈ fs, '0' ≤ c ∧ c ≤ '9') →
    m < bound → k ≤ maxScale → readDigits? m k true started fs = some (n, j) →
    (n < bound ∧ j ≤ maxScale) ∧
      Magnitude.Renders n j (((m * 10 ^ fs.length + number fs : ℕ) : ℚ) / 10 ^ (k + fs.length))
  | [], m, k, n, j, started, _, hm, hk, h => by
    rw [readDigits?] at h
    split at h
    · cases h
      exact ⟨⟨hm, hk⟩, .inl (by simp [number])⟩
    · cases h
  | c :: fs, m, k, n, j, started, hdigits, hm, hk, h => by
    have hc := hdigits c List.mem_cons_self
    have hfs : ∀ d ∈ fs, '0' ≤ d ∧ d ≤ '9' := fun d hd => hdigits d (List.mem_cons_of_mem _ hd)
    rw [readDigits?, decimalValue?_of_digit hc] at h
    simp only [Bool.not_true, Bool.false_eq_true, ↓reduceIte] at h
    rw [shift_number_cons, List.length_cons, show k + (fs.length + 1) = k + 1 + fs.length by omega]
    split at h
    · rename_i hroom
      rw [Bool.and_eq_true, decide_eq_true_eq, decide_eq_true_eq] at hroom
      exact readDigits?_fraction fs hfs hroom.2 hroom.1 h
    · rename_i hroom
      rw [all_isTail hfs, if_pos rfl] at h
      refine ⟨roundBy_lt hm hk h, ?_⟩
      have hlt : (number fs : ℚ) < 10 ^ fs.length := by exact_mod_cast number_lt hfs
      have hpow : (0 : ℚ) < 10 ^ fs.length := by positivity
      refine roundBy_renders (y := number fs / 10 ^ fs.length) hm (digit_le hc) (by positivity)
        ((div_lt_one hpow).2 hlt) ?_ ?_ h
      · push_cast
        rw [pow_add, pow_add]
        field_simp
        ring
      · rw [Bool.and_eq_true, decide_eq_true_eq, decide_eq_true_eq, not_and_or] at hroom
        omega

/-! ## Plain notation -/

theorem readSign_unsigned {cs : List Char} {n k : ℕ} (h : Unsigned cs n k) : readSign cs = (false, cs) := by
  have hhead : ∀ c ∈ cs.head?, c ≠ '+' ∧ c ≠ '-' := by
    intro c hc
    cases h with
    | whole hds =>
      cases hcs : cs with
      | nil => simp [hcs] at hc
      | cons c' cs' =>
        rw [hcs] at hc hds
        cases hc
        exact hds.head_ne
    | @pointed ds fs hds =>
      cases ds with
      | nil =>
        cases hc
        decide
      | cons c' ds =>
        cases hc
        exact hds.head_ne
  unfold readSign
  split
  · exact absurd rfl (hhead '-' rfl).2
  · exact absurd rfl (hhead '+' rfl).1
  · rfl

/-- **What is read of digits with a point renders them.** -/
theorem Unsigned.read_renders {cs : List Char} {n k n' k' : ℕ} (h : Unsigned cs n k)
    (hread : readDigits? 0 0 false false cs = some (n', k')) :
    (n' < bound ∧ k' ≤ maxScale) ∧ Magnitude.Renders n' k' (n / 10 ^ k) := by
  cases h with
  | whole hds =>
    rw [← List.append_nil cs, readDigits?_whole cs hds.digit (by decide)] at hread
    split at hread
    · rename_i hroom
      rw [readDigits?] at hread
      split at hread
      · cases hread
        exact ⟨⟨hroom, Nat.zero_le _⟩, .inl (by simp)⟩
      · cases hread
    · cases hread
  | @pointed ds fs hds =>
    obtain ⟨hwhole, hfraction⟩ := List.forall_mem_append.1 hds.digit
    rw [readDigits?_whole ds hwhole (by decide)] at hread
    split at hread
    · rename_i hroom
      rw [readDigits?_point] at hread
      have := readDigits?_fraction fs hfraction hroom (Nat.zero_le _) hread
      simpa only [Nat.zero_mul, Nat.zero_add, ← number_append] using this
    · cases hread

/-- **Digits that have room are read as they are.** -/
theorem Unsigned.read_fitting {cs : List Char} {n k : ℕ} (h : Unsigned cs n k) (hn : n < bound) (hk : k ≤ maxScale) :
    readDigits? 0 0 false false cs = some (n, k) := by
  cases h with
  | whole hds =>
    rw [← List.append_nil cs, readDigits?_whole cs hds.digit (by decide)]
    simp [hn, readDigits?, hds.ne_nil]
  | @pointed ds fs hds =>
    obtain ⟨hwhole, hfraction⟩ := List.forall_mem_append.1 hds.digit
    rw [number_append] at hn ⊢
    have hroom : number ds < bound := by
      have hle := le_shift (number ds) fs.length
      omega
    have hstarted : (false || !ds.isEmpty) = true ∨ fs ≠ [] := by
      have := hds.ne_nil
      cases ds <;> simp_all
    rw [readDigits?_whole ds hwhole (by decide)]
    simp only [Nat.zero_mul, Nat.zero_add, hroom, ↓reduceIte]
    rw [readDigits?_point, readDigits?_fitting fs hfraction hn (by omega) hstarted, Nat.zero_add]

theorem ofParts?_renders {negative : Bool} {n k : ℕ} {x : ℚ} {d : Decimal} (hx : 0 ≤ x) (h : Magnitude.Renders n k x)
    (hd : ofParts? negative n k = some d) : d.Renders (if negative then -x else x) := by
  unfold ofParts? signed? at hd
  split at hd
  · cases hd
    refine renders_of_magnitude hx ?_ h
    by_cases hn : n = 0 <;> simp [hn]
  · cases hd

/-- **What is read of plain notation renders the number.** -/
theorem readPlain?_renders {cs : List Char} {b : ℚ} {d : Decimal} (h : Plain cs b) (hread : readPlain? cs = some d) :
    d.Renders b := by
  have hdigits {negative : Bool} {ds : List Char} {n k : ℕ} (hds : Unsigned ds n k)
      (hread : (readDigits? 0 0 false false ds).bind (fun parts => ofParts? negative parts.1 parts.2) = some d) :
      d.Renders (if negative then -((n : ℚ) / 10 ^ k) else n / 10 ^ k) := by
    obtain ⟨⟨n', k'⟩, hread, hd⟩ := Option.bind_eq_some_iff.1 hread
    exact ofParts?_renders (by positivity) (hds.read_renders hread).2 hd
  unfold readPlain? at hread
  cases h with
  | unsigned hds =>
    rw [readSign_unsigned hds] at hread
    exact hdigits hds hread
  | plus hds => exact hdigits hds hread
  | minus hds => exact hdigits hds hread

/-- A decimal without the sign of a zero. -/
def unsignedZero (d : Decimal) : Decimal := { d with negative := d.negative && d.digits != 0 }

theorem unsigned_chars (d : Decimal) :
    ∃ cs, d.chars = (if d.negative then ['-'] else []) ++ cs ∧ Unsigned cs d.digits d.scale := by
  have hlength := le_length_padded (d.scale + 1) d.digits
  have hdigits := allDigits_padded (d.scale + 1) d.digits
  have hnumber := number_padded (d.scale + 1) d.digits
  unfold chars
  generalize padded (d.scale + 1) d.digits = ds at hlength hdigits hnumber
  refine ⟨_, List.append_assoc _ _ _, ?_⟩
  by_cases hscale : d.scale = 0
  · rw [if_pos hscale, List.append_nil, hscale, Nat.sub_zero, List.take_length, ← hnumber]
    exact .whole hdigits
  · rw [if_neg hscale]
    have h : Unsigned (ds.take (ds.length - d.scale) ++ '.' :: ds.drop (ds.length - d.scale))
        (number (ds.take (ds.length - d.scale) ++ ds.drop (ds.length - d.scale)))
        (ds.drop (ds.length - d.scale)).length := .pointed (by rwa [List.take_append_drop])
    rw [List.take_append_drop, hnumber, List.length_drop] at h
    rwa [show ds.length - (ds.length - d.scale) = d.scale by omega] at h

/-- **A decimal reads back from its text**, all its places included; only the sign of a zero is lost. -/
theorem readPlain?_chars (d : Decimal) : readPlain? d.chars = some d.unsignedZero := by
  obtain ⟨cs, hchars, hcs⟩ := unsigned_chars d
  have hsign : readSign d.chars = (d.negative, cs) := by
    rw [hchars]
    cases d.negative with
    | true => rfl
    | false => exact readSign_unsigned hcs
  have hroom : d.scale ≤ maxScale ∧ d.digits < bound := ⟨d.scale_le, d.digits_lt⟩
  unfold readPlain?
  rw [hsign]
  simp only [hcs.read_fitting hroom.2 hroom.1, Option.bind_some, ofParts?, signed?, hroom, and_self, ↓reduceDIte]
  rfl

/-! ## Scientific notation -/

/-- Plain notation has no exponent. -/
theorem isPlain_of_readDigits? : ∀ (cs : List Char) {m k : ℕ} {point started : Bool} {r : ℕ × ℕ},
    readDigits? m k point started cs = some r → ∀ c ∈ cs, isTail c = true ∨ c = '.'
  | [], _, _, _, _, _, _ => by simp
  | c :: cs, m, k, point, started, r, h => by
    have htail (h : cs.all isTail = true) : ∀ d ∈ cs, isTail d = true ∨ d = '.' :=
      fun d hd => .inl (List.all_eq_true.1 h d hd)
    rw [readDigits?] at h
    rw [List.forall_mem_cons]
    cases hc : decimalValue? c with
    | some d =>
      simp only [hc] at h
      refine ⟨.inl (by simp [isTail, isDecimal, hc]), ?_⟩
      split at h
      · split at h
        · exact isPlain_of_readDigits? cs h
        · cases h
      · split at h
        · exact isPlain_of_readDigits? cs h
        · split at h
          · exact htail ‹_›
          · cases h
    | none =>
      simp only [hc] at h
      split at h
      · rename_i hpoint
        rw [Bool.and_eq_true, decide_eq_true_eq] at hpoint
        exact ⟨.inr hpoint.1, isPlain_of_readDigits? cs h⟩
      · split at h
        · rename_i hunderscore
          rw [Bool.and_eq_true, decide_eq_true_eq] at hunderscore
          refine ⟨.inl (by simp [isTail, hunderscore.1]), ?_⟩
          split at h
          · split at h
            · exact htail ‹_›
            · cases h
          · exact isPlain_of_readDigits? cs h
        · cases h

/-- A text with a mark of the exponent is not in plain notation. -/
theorem readPlain?_of_mark {cs es : List Char} {mark : Char} (hmark : mark = 'e' ∨ mark = 'E') :
    readPlain? (cs ++ mark :: es) = none := by
  rw [Option.eq_none_iff_forall_not_mem]
  intro d hd
  have hmem : mark ∈ (readSign (cs ++ mark :: es)).2 := by
    unfold readSign
    split
    · rename_i h
      cases cs <;> rcases hmark with rfl | rfl <;> simp_all <;> simp [← h]
    · rename_i h
      cases cs <;> rcases hmark with rfl | rfl <;> simp_all <;> simp [← h]
    · simp
  unfold readPlain? at hd
  obtain ⟨r, hr, -⟩ := Option.bind_eq_some_iff.1 (Option.mem_def.1 hd)
  have := isPlain_of_readDigits? _ hr _ hmem
  rcases hmark with rfl | rfl <;> exact absurd this (by decide)

theorem Unsigned.no_mark {cs : List Char} {n k : ℕ} (h : Unsigned cs n k) :
    ∀ c ∈ cs, (c == 'e' || c == 'E') = false := by
  have hdigits {ds : List Char} (hds : ∀ c ∈ ds, '0' ≤ c ∧ c ≤ '9') : ∀ c ∈ ds, (c == 'e' || c == 'E') = false := by
    intro c hc
    have := (hds c hc).2
    rw [Bool.or_eq_false_iff, beq_eq_false_iff_ne, beq_eq_false_iff_ne]
    constructor <;> rintro rfl <;> exact absurd this (by decide)
  cases h with
  | whole hds => exact hdigits hds.digit
  | pointed hds =>
    obtain ⟨hwhole, hfraction⟩ := List.forall_mem_append.1 hds.digit
    exact List.forall_mem_append.2 ⟨hdigits hwhole, List.forall_mem_cons.2 ⟨by decide, hdigits hfraction⟩⟩

theorem Plain.no_mark {cs : List Char} {b : ℚ} (h : Plain cs b) : ∀ c ∈ cs, (c == 'e' || c == 'E') = false := by
  cases h with
  | unsigned hds => exact hds.no_mark
  | plus hds => exact List.forall_mem_cons.2 ⟨by decide, hds.no_mark⟩
  | minus hds => exact List.forall_mem_cons.2 ⟨by decide, hds.no_mark⟩

/-- Digits are dropped so that the nearest number stays, a half going up. -/
theorem dropDigits_nearest (p n : ℕ) : Nearest (dropDigits p n) ((n : ℚ) / 10 ^ p) := by
  have hunit : 0 < 10 ^ p := by positivity
  have hdivision : 10 ^ p * (n / 10 ^ p) + n % 10 ^ p = n := Nat.div_add_mod n (10 ^ p)
  have hlt : n % 10 ^ p < 10 ^ p := Nat.mod_lt n hunit
  have hpow : (0 : ℚ) < 10 ^ p := by positivity
  unfold dropDigits
  change Nearest (if 10 ^ p ≤ 2 * (n % 10 ^ p) then n / 10 ^ p + 1 else n / 10 ^ p) _
  generalize n / 10 ^ p = f at hdivision ⊢
  generalize n % 10 ^ p = r at hdivision hlt ⊢
  have hn : (n : ℚ) = 10 ^ p * f + r := by exact_mod_cast hdivision.symm
  have hr : (r : ℚ) < 10 ^ p := by exact_mod_cast hlt
  split
  · rename_i hhalf
    have hhalf : (10 : ℚ) ^ p ≤ 2 * r := by exact_mod_cast hhalf
    constructor
    · rw [le_div_iff₀ hpow, hn]
      push_cast
      linarith
    · rw [div_lt_iff₀ hpow, hn]
      push_cast
      linarith
  · rename_i hhalf
    have hhalf : 2 * (r : ℚ) < 10 ^ p := by exact_mod_cast not_le.1 hhalf
    constructor
    · rw [le_div_iff₀ hpow, hn]
      linarith [show (0 : ℚ) ≤ r by positivity]
    · rw [div_lt_iff₀ hpow, hn]
      linarith

theorem value_mul (d : Decimal) (x : ℚ) : d.value * x = if d.negative then -(d.magnitude * x) else d.magnitude * x := by
  unfold value
  split <;> ring

theorem signed?_eq_some {negative : Bool} {n k : ℕ} {d : Decimal} (h : signed? negative n k = some d) :
    d.negative = negative ∧ d.digits = n ∧ d.scale = k := by
  unfold signed? at h
  split at h
  · cases h
    exact ⟨rfl, rfl, rfl⟩
  · cases h

/-- Zeros are dropped without rounding. -/
theorem dropDigits_of_mod {p n : ℕ} (h : n % 10 ^ p = 0) : dropDigits p n = n / 10 ^ p := by
  unfold dropDigits
  change (if 10 ^ p ≤ 2 * (n % 10 ^ p) then n / 10 ^ p + 1 else n / 10 ^ p) = _
  have hunit : 0 < 10 ^ p := by positivity
  rw [h, if_neg (by omega)]

/-- A number divided by a power of ten, with the remainder. -/
theorem div_pow_eq (n p : ℕ) : (n : ℚ) / 10 ^ p = (n / 10 ^ p : ℕ) + (n % 10 ^ p : ℕ) / 10 ^ p := by
  have : ((10 ^ p * (n / 10 ^ p) + n % 10 ^ p : ℕ) : ℚ) = n := by rw [Nat.div_add_mod]
  push_cast at this
  field_simp
  linarith

/-- **A negative exponent**: the point moves to the left, and what has no place is rounded off. -/
theorem scaleDown?_renders {b d : Decimal} {k : ℕ} (h : b.scaleDown? k = some d) :
    d.Renders (b.value * (10 ^ k)⁻¹) := by
  have hmagnitude : b.magnitude * (10 ^ k)⁻¹ = b.digits / 10 ^ (b.scale + k) := by
    rw [magnitude, pow_add, ← div_eq_mul_inv, div_div]
  have hnonneg : 0 ≤ b.magnitude * (10 ^ k)⁻¹ := mul_nonneg b.magnitude_nonneg (by positivity)
  rw [value_mul]
  unfold scaleDown? at h
  split at h
  · obtain ⟨hnegative, hdigits, hscale⟩ := signed?_eq_some h
    refine renders_of_magnitude hnonneg (.inr hnegative) (.inl ?_)
    rw [hmagnitude, hdigits, hscale]
  · rename_i hplaces
    obtain ⟨hnegative, hdigits, hscale⟩ := signed?_eq_some h
    refine renders_of_magnitude hnonneg (.inr hnegative) ?_
    rw [hdigits, hscale, hmagnitude]
    generalize hp : b.scale + k - maxScale = p
    have hx : (b.digits : ℚ) / 10 ^ (b.scale + k) * 10 ^ maxScale = b.digits / 10 ^ p := by
      rw [show b.scale + k = p + maxScale by omega, pow_add]
      field_simp
    by_cases hrep : Representable ((b.digits : ℚ) / 10 ^ (b.scale + k))
    · -- there is nothing to round
      left
      have hlt : ((b.digits % 10 ^ p : ℕ) : ℚ) < 10 ^ p := by exact_mod_cast Nat.mod_lt b.digits (by positivity)
      have hsplit := div_pow_eq b.digits p
      have hrest := hrep.fract_eq_zero (hx.trans hsplit) (by positivity) ((div_lt_one (by positivity)).2 hlt) (.inl rfl)
      have hmod : b.digits % 10 ^ p = 0 := by
        have : ((b.digits % 10 ^ p : ℕ) : ℚ) = 0 := by simpa using hrest
        exact_mod_cast this
      rw [dropDigits_of_mod hmod, eq_div_iff (by positivity), hx, hsplit, hrest, add_zero]
    · right
      refine ⟨hrep, ?_, .inl rfl⟩
      rw [hx]
      exact dropDigits_nearest p b.digits

/-- **A positive exponent** changes no digit. -/
theorem scaleUp?_value {b d : Decimal} {k : ℕ} (h : b.scaleUp? k = some d) : d.value = b.value * 10 ^ k := by
  have hvalue (hnegative : d.negative = b.negative) (hmagnitude : d.magnitude = b.magnitude * 10 ^ k) :
      d.value = b.value * 10 ^ k := by rw [value_mul, value, hnegative, hmagnitude]
  unfold scaleUp? at h
  split at h
  · rename_i hle
    obtain ⟨hnegative, hdigits, hscale⟩ := signed?_eq_some h
    refine hvalue hnegative ?_
    rw [magnitude, magnitude, hdigits, hscale, div_mul_eq_mul_div, div_eq_div_iff (by positivity) (by positivity),
      mul_assoc, ← pow_add, Nat.add_sub_cancel' hle]
  · rename_i hle
    obtain ⟨hnegative, hdigits, hscale⟩ := signed?_eq_some h
    refine hvalue hnegative ?_
    rw [magnitude, magnitude, hdigits, hscale, pow_zero, div_one, div_mul_eq_mul_div, eq_div_iff (by positivity)]
    push_cast [tenTo]
    rw [mul_assoc]
    change (b.digits : ℚ) * (((10 ^ (k - b.scale) : ℕ) : ℚ) * 10 ^ b.scale) = _
    push_cast
    rw [← pow_add, Nat.sub_add_cancel (by omega)]

/-- **The decimal for a written number**: the number in front of the exponent is rendered, and then the product of what
renders it with the power of ten. -/
def Stands (d : Decimal) (b : ℚ) (e : ℤ) : Prop := ∃ base : Decimal, base.Renders b ∧ d.Renders (base.value * 10 ^ e)

/-- **Nothing is rounded just if both numbers are representable.** -/
theorem Stands.value_eq_iff {d : Decimal} {b : ℚ} {e : ℤ} (h : d.Stands b e) :
    d.value = b * 10 ^ e ↔ Representable b ∧ Representable (b * 10 ^ e) := by
  obtain ⟨base, hbase, hd⟩ := h
  refine ⟨fun hvalue => ⟨⟨base, ?_⟩, ⟨d, hvalue⟩⟩, fun ⟨hb, hproduct⟩ => ?_⟩
  · have hunit : (10 : ℚ) ^ e ≠ 0 := zpow_ne_zero e (by norm_num)
    obtain ⟨k, rfl | rfl⟩ := e.eq_nat_or_neg
    · -- the number in front is not rounded, as its product is not
      rw [zpow_natCast] at hd hvalue hunit
      exact mul_right_cancel₀ hunit (hd.value_mul_pow.symm.trans hvalue)
    · -- the number in front is the decimal with its point moved to the right
      have hb : b = d.value * 10 ^ k := by
        rw [hvalue, zpow_neg, zpow_natCast]
        field_simp
      rw [hb] at hbase ⊢
      exact hbase.value_mul_pow
  · rw [hbase.value_eq hb] at hd
    exact hd.value_eq hproduct

theorem readScientific?_eq {cs es : List Char} {b : ℚ} {mark : Char} (h : Plain cs b)
    (hmark : mark = 'e' ∨ mark = 'E') : readScientific? (cs ++ mark :: es) =
      (readPlain? cs).bind fun base =>
        match (match es with
          | '-' :: r => (true, r)
          | r => (false, r)) with
        | (down, digits) => (unsigned? (twoTo 32) digits).bind fun k =>
          if maxScale < k then none else if down then base.scaleDown? k else base.scaleUp? k := by
  have hfront : ∀ c ∈ cs, (!(c == 'e' || c == 'E')) = true := fun c hc => by rw [h.no_mark c hc]; rfl
  have hmark' : (!(mark == 'e' || mark == 'E')) = false := by rcases hmark with rfl | rfl <;> rfl
  unfold readScientific?
  dsimp only
  rw [List.dropWhile_append_of_pos hfront, List.dropWhile_cons_of_neg (by simp [hmark']),
    List.takeWhile_append_of_pos hfront, List.takeWhile_cons_of_neg (by simp [hmark']), List.append_nil]
  rfl

/-- **What is read of scientific notation stands for the number.** -/
theorem readScientific?_stands {cs es : List Char} {b : ℚ} {mark : Char} {e : ℤ} {d : Decimal} (h : Plain cs b)
    (hmark : mark = 'e' ∨ mark = 'E') (hes : Denotes es e) (hread : readScientific? (cs ++ mark :: es) = some d) :
    d.Stands b e := by
  rw [readScientific?_eq h hmark] at hread
  obtain ⟨base, hbase, hread⟩ := Option.bind_eq_some_iff.1 hread
  refine ⟨base, readPlain?_renders h hbase, ?_⟩
  have hup {k : ℕ} {ds : List Char} (hk : k = number ds)
      (hread : (if maxScale < k then none else base.scaleUp? k) = some d) :
      d.Renders (base.value * 10 ^ (number ds : ℤ)) := by
    split at hread
    · cases hread
    · rw [zpow_natCast, ← hk]
      exact .inl (scaleUp?_value hread)
  cases hes with
  | plain hds =>
    split at hread
    rename_i down digits hsplit
    split at hsplit
    · exact absurd rfl hds.head_ne.2
    · cases hsplit
      obtain ⟨k, hk, hread⟩ := Option.bind_eq_some_iff.1 hread
      exact hup (hds.eq_of_unsigned? (.inl hk)) hread
  | plus hds =>
    obtain ⟨k, hk, hread⟩ := Option.bind_eq_some_iff.1 hread
    exact hup (hds.eq_of_unsigned? (.inr hk)) hread
  | minus hds =>
    obtain ⟨k, hk, hread⟩ := Option.bind_eq_some_iff.1 hread
    split at hread
    · cases hread
    · rw [zpow_neg, zpow_natCast, ← hds.eq_of_unsigned? (.inl hk)]
      exact scaleDown?_renders hread

/-- **What is read of a written number stands for it.** -/
theorem read?_stands {s : String} {b : ℚ} {e : ℤ} {d : Decimal} (h : Written s.toList b e) (hread : read? s = some d) :
    d.Stands b e := by
  unfold read? at hread
  generalize s.toList = cs at h hread
  cases h with
  | plain hplain =>
    split at hread
    · rename_i d' hd'
      cases hread
      exact ⟨d, readPlain?_renders hplain hd', .inl (by rw [zpow_zero, mul_one])⟩
    · -- without a mark there is no exponent to read
      have hnil : cs.dropWhile (fun c => !(c == 'e' || c == 'E')) = [] :=
        List.dropWhile_eq_nil_iff.2 fun c hc => by rw [hplain.no_mark c hc]; rfl
      unfold readScientific? at hread
      dsimp only at hread
      rw [hnil] at hread
      cases hread
  | scientific hplain hmark hes =>
    rw [readPlain?_of_mark hmark] at hread
    exact readScientific?_stands hplain hmark hes hread

end Cohort.Decimal
