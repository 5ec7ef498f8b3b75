import Cohort.Text.Ascii
import Cohort.Text.Blank
import Mathlib.Data.List.TakeWhile

/-!
# Blanks around words

A text is what is left of it between its ends, with blanks around (`padded_trimChars`). Nothing is left of it exactly if
it is blank (`trimChars_eq_nil`), and a word without blanks is what is left of it with any blanks around
(`Padded.trimChars_eq`).
-/

namespace Cohort.Text

/-- A text that is a word with nothing but blanks around it. -/
def Padded (word cs : List Char) : Prop :=
  ∃ before after, cs = before ++ word ++ after ∧ (∀ c ∈ before, isBlank c = true) ∧ ∀ c ∈ after, isBlank c = true

theorem dropWhile_of_not_blank {cs : List Char} (h : ∀ c ∈ cs, isBlank c = false) : cs.dropWhile isBlank = cs := by
  cases cs with
  | nil => rfl
  | cons c cs => rw [List.dropWhile_cons_of_neg (by simp [h c List.mem_cons_self])]

theorem padded_trimChars (cs : List Char) : Padded (trimChars cs) cs := by
  refine ⟨cs.takeWhile isBlank, ((trimStartChars cs).reverse.takeWhile isBlank).reverse, ?_, ?_, ?_⟩
  · rw [trimChars, List.append_assoc, ← List.reverse_append, List.takeWhile_append_dropWhile, List.reverse_reverse,
      trimStartChars, List.takeWhile_append_dropWhile]
  · exact fun c hc => List.mem_takeWhile_imp hc
  · exact fun c hc => List.mem_takeWhile_imp (List.mem_reverse.1 hc)

theorem Padded.trimChars_eq {word cs : List Char} (h : Padded word cs) (hword : ∀ c ∈ word, isBlank c = false) :
    trimChars cs = word := by
  obtain ⟨before, after, rfl, hbefore, hafter⟩ := h
  have hstart : trimStartChars (before ++ word ++ after) = (word ++ after).dropWhile isBlank := by
    rw [trimStartChars, List.append_assoc, List.dropWhile_append_of_pos hbefore]
  have hreverse {l : List Char} (hl : ∀ c ∈ l, isBlank c = true) : ∀ c ∈ l.reverse, isBlank c = true :=
    fun c hc => hl c (List.mem_reverse.1 hc)
  cases word with
  | nil =>
    have hnil : after.dropWhile isBlank = [] := List.dropWhile_eq_nil_iff.2 hafter
    rw [trimChars, hstart, List.nil_append, hnil]
    rfl
  | cons c word =>
    rw [trimChars, hstart, List.cons_append, List.dropWhile_cons_of_neg (by simp [hword c List.mem_cons_self]),
      ← List.cons_append, List.reverse_append, List.dropWhile_append_of_pos (hreverse hafter),
      dropWhile_of_not_blank fun c hc => hword c (List.mem_reverse.1 hc), List.reverse_reverse]

theorem trimChars_eq_nil {cs : List Char} : trimChars cs = [] ↔ ∀ c ∈ cs, isBlank c = true := by
  constructor
  · intro h
    obtain ⟨before, after, hcs, hbefore, hafter⟩ := padded_trimChars cs
    rw [h, List.append_nil] at hcs
    rw [hcs]
    exact List.forall_mem_append.2 ⟨hbefore, hafter⟩
  · intro h
    exact Padded.trimChars_eq ⟨cs, [], by simp, h, List.forall_mem_nil _⟩ (List.forall_mem_nil _)

theorem trim_of_not_blank {s : String} (h : ∀ c ∈ s.toList, isBlank c = false) : trim s = s := by
  have hpadded : Padded s.toList s.toList := ⟨[], [], by simp, List.forall_mem_nil _, List.forall_mem_nil _⟩
  rw [trim, hpadded.trimChars_eq h, String.ofList_toList]

/-- No character from `A` to `z` is blank. -/
theorem isBlank_of_letter {c : Char} (hlow : 65 ≤ c.toNat) (hhigh : c.toNat ≤ 122) : isBlank c = false := by
  simp only [isBlank, Bool.or_eq_false_iff, Bool.and_eq_false_iff, decide_eq_false_iff_not, beq_eq_false_iff_ne]
  omega

theorem isBlank_of_toUpper {c : Char} (h : isBlank c.toUpper = false) : isBlank c = false := by
  by_cases hsmall : 'a'.val ≤ c.val ∧ c.val ≤ 'z'.val
  · have hlow : 97 ≤ c.toNat := UInt32.le_iff_toNat_le.1 hsmall.1
    exact isBlank_of_letter (by omega) (UInt32.le_iff_toNat_le.1 hsmall.2)
  · have hsame : c.toUpper = c := dif_neg hsmall
    rwa [hsame] at h

/-- The case of a letter does not matter. -/
theorem isBlank_toLower (c : Char) : isBlank c.toLower = isBlank c := by
  by_cases hcapital : 'A'.val ≤ c.val ∧ c.val ≤ 'Z'.val
  · have hlow : 65 ≤ c.toNat := UInt32.le_iff_toNat_le.1 hcapital.1
    have hhigh : c.toNat ≤ 90 := UInt32.le_iff_toNat_le.1 hcapital.2
    have hsmall : c.toLower.toNat = c.toNat + 32 := by
      have hlower : c.toLower = _ := dif_pos hcapital
      rw [hlower]
      exact (UInt32.toNat_add _ _).trans (Nat.mod_eq_of_lt (show c.toNat + 32 < 2 ^ 32 by omega))
    exact (isBlank_of_letter (by omega) (by omega)).trans (isBlank_of_letter hlow (by omega)).symm
  · have hsame : c.toLower = c := dif_neg hcapital
    rw [hsame]

/-! ## Lengths -/

/-- A character has at least one byte. -/
theorem length_le_byteLength : ∀ cs : List Char, cs.length ≤ byteLength cs
  | [] => Nat.le_refl 0
  | c :: cs => by
    have := length_le_byteLength cs
    have := c.utf8Size_pos
    rw [List.length_cons, byteLength]
    omega

end Cohort.Text
