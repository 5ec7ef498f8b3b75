import Cohort.Proofs.Text.Blank
import Cohort.Uuid

/-!
# Reading written identifiers

The written form of an identifier reads back as it (`read_text`): every digit does (`digit?_digitText`), and the hyphens
are looked for where they have been put (`readHyphenated?_hyphenate`). It holds no blank, and so it stays as it is where
blanks around it are dropped (`trim_text`).
-/

namespace Cohort

namespace Uuid

/-! ## Digits -/

theorem digit?_digitText (d : Fin 16) : digit? (digitText d) = some d := by
  revert d
  decide

theorem isBlank_digitText (d : Fin 16) : Text.isBlank (digitText d) = false := by
  revert d
  decide

theorem mapM_digit? : ∀ ds : List (Fin 16), (ds.map digitText).mapM digit? = some ds
  | [] => rfl
  | d :: ds => by
    rw [List.map_cons, List.mapM_cons, digit?_digitText, mapM_digit? ds]
    rfl

theorem readPlain?_digits (u : Uuid) : readPlain? (u.digits.map digitText) = some u := by
  rw [readPlain?, mapM_digit?, Option.bind_some, ofDigits?, dif_pos u.length_digits]

/-- One character that is no digit is one too many. -/
theorem readPlain?_eq_none {c : Char} (hc : digit? c = none) {cs : List Char} (h : c ∈ cs) : readPlain? cs = none := by
  have key : ∀ {cs : List Char}, c ∈ cs → cs.mapM digit? = none := by
    intro cs
    induction cs with
    | nil => exact fun h => absurd h List.not_mem_nil
    | cons a cs ih =>
      intro h
      rw [List.mapM_cons]
      rcases List.mem_cons.1 h with rfl | h
      · rw [hc]
        rfl
      · rw [ih h]
        cases digit? a <;> rfl
  rw [readPlain?, key h, Option.bind_none]

/-! ## Hyphens -/

theorem mem_hyphenate {c : Char} {cs : List Char} (h : c ∈ hyphenate cs) : c = '-' ∨ c ∈ cs := by
  have hgroup {n k : Nat} (h : c ∈ (cs.drop n).take k) : c ∈ cs := List.mem_of_mem_drop (List.mem_of_mem_take h)
  simp only [hyphenate, List.mem_append, List.mem_cons] at h
  rcases h with h | h | h | h | h | h | h | h | h
  · exact .inr (List.mem_of_mem_take h)
  · exact .inl h
  · exact .inr (hgroup h)
  · exact .inl h
  · exact .inr (hgroup h)
  · exact .inl h
  · exact .inr (hgroup h)
  · exact .inl h
  · exact .inr (List.mem_of_mem_drop h)

/-- Without its hyphens a hyphenated text is what it was. -/
theorem readHyphenated?_hyphenate {cs : List Char} (h : cs.length = 32) :
    readHyphenated? (hyphenate cs) = readPlain? cs := by
  have hregroup (n k : Nat) : (cs.drop n).take k ++ cs.drop (n + k) = cs.drop n := by
    rw [← List.drop_drop, List.take_append_drop]
  rw [readHyphenated?, if_pos (by simp [hyphenate, h])]
  congr 1
  calc _ = cs.take 8 ++ ((cs.drop 8).take 4 ++ ((cs.drop 12).take 4 ++ ((cs.drop 16).take 4 ++ cs.drop 20))) := by
        simp [hyphenate, List.drop_append, List.drop_take, h]
    _ = cs := by rw [hregroup 16 4, hregroup 12 4, hregroup 8 4, List.take_append_drop]

/-! ## Written identifiers -/

theorem hyphen_mem_chars (u : Uuid) : '-' ∈ u.chars := by
  simp [chars, hyphenate]

theorem readForm?_chars (u : Uuid) : readForm? u.chars = some u := by
  have hlength : (u.digits.map digitText).length = 32 := by rw [List.length_map, u.length_digits]
  rw [readForm?, readPlain?_eq_none (by decide) u.hyphen_mem_chars, chars, readHyphenated?_hyphenate hlength,
    readPlain?_digits]

/-- **A written identifier reads back.** -/
theorem read_text (u : Uuid) : read u.text = .ok u := by
  rw [read, text, String.toList_ofList, readForm?_chars]

theorem isBlank_of_mem_chars {u : Uuid} {c : Char} (h : c ∈ u.chars) : Text.isBlank c = false := by
  rcases mem_hyphenate h with rfl | h
  · decide
  · obtain ⟨d, _, rfl⟩ := List.mem_map.1 h
    exact isBlank_digitText d

theorem trim_text (u : Uuid) : Text.trim u.text = u.text := by
  refine Text.trim_of_not_blank ?_
  rw [text, String.toList_ofList]
  exact fun _ => isBlank_of_mem_chars

theorem isBlankText_text (u : Uuid) : Text.isBlankText u.text = false := by
  rw [Text.isBlankText, text, String.toList_ofList, List.all_eq_false]
  exact ⟨'-', u.hyphen_mem_chars, by decide⟩

end Uuid
end Cohort
