import Cohort.Proofs.Text.Blank
import Mathlib.Data.List.Forall2

/-!
# Words of a text

The words of a text are its maximal runs of characters that are not blank (`HasWords`). Every text has one list of
words, which is the one that `words` finds (`hasWords_iff`). Texts have the same words up to the case of their letters
(`SameWords`) exactly if they are one text when their words are put together with one space between them, in small
letters (`sameWords_iff`).
-/

namespace Cohort.Text

/-- **The words of a text.** Blanks before, between and after them do not count, and no word can be made longer. -/
inductive HasWords : List Char → List (List Char) → Prop
  | nil : HasWords [] []
  | blank {c : Char} {cs : List Char} {ws : List (List Char)} : isBlank c = true → HasWords cs ws →
      HasWords (c :: cs) ws
  | word {w cs : List Char} {ws : List (List Char)} : w ≠ [] → (∀ c ∈ w, isBlank c = false) →
      (∀ c ∈ cs.head?, isBlank c = true) → HasWords cs ws → HasWords (w ++ cs) (w :: ws)

/-- Texts with the same words up to the case of the letters of ASCII. -/
def SameWords (s s' : String) : Prop :=
  ∃ ws ws', HasWords s.toList ws ∧ HasWords s'.toList ws' ∧ List.Forall₂ (sameLetters · ·) ws ws'

/-! ## Finding words -/

theorem words_nil : words [] = [] := rfl

theorem words_cons_blank {c : Char} (h : isBlank c = true) (cs : List Char) : words (c :: cs) = words cs := by
  rw [words.eq_def]
  simp [h]

/-- A word that starts right before another one belongs to it. -/
theorem words_cons_cons {c d : Char} (hc : isBlank c = false) (hd : isBlank d = false) {cs w : List Char}
    {ws : List (List Char)} (h : words (d :: cs) = w :: ws) : words (c :: d :: cs) = (c :: w) :: ws := by
  rw [words.eq_def]
  simp [hc, hd, h]

/-- A word that ends before a blank or at the end stands alone. -/
theorem words_cons_alone {c : Char} (hc : isBlank c = false) {cs : List Char} (h : ∀ d ∈ cs.head?, isBlank d = true) :
    words (c :: cs) = [c] :: words cs := by
  cases cs with
  | nil =>
    rw [words.eq_def]
    simp [hc, words_nil]
  | cons d cs =>
    have hd : isBlank d = true := h d rfl
    rw [words.eq_def]
    simp [hc, hd]

theorem words_append : ∀ {w cs : List Char}, w ≠ [] → (∀ c ∈ w, isBlank c = false) →
    (∀ c ∈ cs.head?, isBlank c = true) → words (w ++ cs) = w :: words cs
  | [], _, h, _, _ => absurd rfl h
  | [c], _, _, hw, hcs => words_cons_alone (hw c (by simp)) hcs
  | c :: d :: w, cs, _, hw, hcs => by
    have ih : words (d :: w ++ cs) = (d :: w) :: words cs :=
      words_append (by simp) (fun x hx => hw x (List.mem_cons_of_mem _ hx)) hcs
    exact words_cons_cons (hw c (by simp)) (hw d (by simp)) ih

theorem HasWords.words_eq {cs : List Char} {ws : List (List Char)} (h : HasWords cs ws) : words cs = ws := by
  induction h with
  | nil => rfl
  | blank hc _ ih => rw [words_cons_blank hc, ih]
  | word hne hw hcs _ ih => rw [words_append hne hw hcs, ih]

/-- The words that are found are the words of the text. -/
theorem hasWords_words (cs : List Char) : HasWords cs (words cs) := by
  induction hn : cs.length using Nat.strongRecOn generalizing cs with
  | _ n ih =>
    cases cs with
    | nil => exact .nil
    | cons c cs =>
      by_cases hc : isBlank c = true
      · rw [words_cons_blank hc]
        exact .blank hc (ih cs.length (by simp at hn; omega) cs rfl)
      · -- the word that starts here goes up to the next blank
        have hw : ∀ d ∈ (c :: cs).takeWhile (!isBlank ·), isBlank d = false := fun d hd => by
          simpa using List.mem_takeWhile_imp hd
        have hrest : ∀ d ∈ ((c :: cs).dropWhile (!isBlank ·)).head?, isBlank d = true := fun d hd => by
          have := List.head?_dropWhile_not (!isBlank ·) (c :: cs)
          rw [Option.mem_def.1 hd] at this
          simpa using this
        have hne : (c :: cs).takeWhile (!isBlank ·) ≠ [] := by simp [hc]
        have hlength : ((c :: cs).dropWhile (!isBlank ·)).length < n := by
          rw [List.dropWhile_cons_of_pos (by simp [hc])]
          have := List.length_dropWhile_le (!isBlank ·) cs
          simp at hn
          omega
        have h := HasWords.word hne hw hrest (ih _ hlength _ rfl)
        rwa [← words_append hne hw hrest, List.takeWhile_append_dropWhile] at h

/-- **Every text has the words that are found, and no others.** -/
theorem hasWords_iff {cs : List Char} {ws : List (List Char)} : HasWords cs ws ↔ words cs = ws :=
  ⟨HasWords.words_eq, fun h => h ▸ hasWords_words cs⟩

/-! ## Putting words together -/

theorem map_intercalate (f : Char → Char) (sep : List Char) : ∀ ws : List (List Char),
    (sep.intercalate ws).map f = (sep.map f).intercalate (ws.map (·.map f))
  | [] => rfl
  | [w] => by simp
  | w :: v :: ws => by
    have ih := map_intercalate f sep (v :: ws)
    simp only [List.map_cons, List.intercalate_cons_cons, List.map_append] at ih ⊢
    rw [ih]

/-- What is put together from words with one space between them has these words. -/
theorem words_intercalate : ∀ {ws : List (List Char)}, (∀ w ∈ ws, w ≠ [] ∧ ∀ c ∈ w, isBlank c = false) →
    words ([' '].intercalate ws) = ws
  | [], _ => rfl
  | [w], h => by
    obtain ⟨hne, hw⟩ := h w List.mem_cons_self
    have hend : ∀ c ∈ ([] : List Char).head?, isBlank c = true := nofun
    have hword := words_append hne hw hend
    rw [List.append_nil] at hword
    rw [List.intercalate_singleton, hword, words_nil]
  | w :: v :: ws, h => by
    obtain ⟨hne, hw⟩ := h w List.mem_cons_self
    have ih := words_intercalate fun x hx => h x (List.mem_cons_of_mem w hx)
    have hspace : isBlank ' ' = true := rfl
    have hcs : ∀ c ∈ (' ' :: [' '].intercalate (v :: ws)).head?, isBlank c = true := fun c hc =>
      Option.some.inj hc ▸ hspace
    rw [List.intercalate_cons_cons, List.append_assoc, List.singleton_append, words_append hne hw hcs,
      words_cons_blank hspace, ih]

theorem HasWords.of_mem {cs : List Char} {ws : List (List Char)} (h : HasWords cs ws) :
    ∀ w ∈ ws, w ≠ [] ∧ ∀ c ∈ w, isBlank c = false := by
  induction h with
  | nil => exact List.forall_mem_nil _
  | blank _ _ ih => exact ih
  | word hne hw _ _ ih => exact List.forall_mem_cons.2 ⟨⟨hne, hw⟩, ih⟩

/-- The words of a text in small letters are its words in small letters. -/
theorem words_lower_unwords (cs : List Char) :
    words ((unwords cs).map Char.toLower) = (words cs).map (·.map Char.toLower) := by
  rw [unwords, map_intercalate]
  refine words_intercalate fun w hw => ?_
  obtain ⟨v, hv, rfl⟩ := List.mem_map.1 hw
  obtain ⟨hne, hblank⟩ := (hasWords_words cs).of_mem v hv
  refine ⟨by simpa using hne, fun c hc => ?_⟩
  obtain ⟨b, hb, rfl⟩ := List.mem_map.1 hc
  rw [isBlank_toLower]
  exact hblank b hb

/-- **Texts have the same words exactly if they are the same once their words are put together in small letters.** -/
theorem sameWords_iff {s s' : String} : SameWords s s' ↔
    lower (String.ofList (unwords s.toList)) = lower (String.ofList (unwords s'.toList)) := by
  have hsame (ws ws' : List (List Char)) : List.Forall₂ (sameLetters · ·) ws ws' ↔
      ws.map (·.map Char.toLower) = ws'.map (·.map Char.toLower) := by
    rw [← List.forall₂_eq_eq_eq, List.forall₂_map_left_iff, List.forall₂_map_right_iff]
    simp only [sameLetters, beq_iff_eq]
  simp only [lower, String.toList_ofList, String.ofList_inj]
  constructor
  · rintro ⟨ws, ws', hws, hws', h⟩
    rw [unwords, unwords, hws.words_eq, hws'.words_eq, map_intercalate, map_intercalate, (hsame ws ws').1 h]
  · intro h
    refine ⟨_, _, hasWords_words _, hasWords_words _, (hsame _ _).2 ?_⟩
    rw [← words_lower_unwords, ← words_lower_unwords, h]

end Cohort.Text
