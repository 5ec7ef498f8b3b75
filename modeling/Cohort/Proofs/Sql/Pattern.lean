import Mathlib.Data.List.Infix
import Cohort.Proofs.Sql.Meaning

/-!
# Patterns

A pattern is a text in which `%` stands for any characters, `_` for any one, and `\` takes away the meaning of the
character behind it (`Pattern.read`). `Pattern.accepts` says of which texts it is a pattern.

Between two percent signs, a text is a pattern of the texts of which some part has it as its pattern (`accepts_around`).
Only a backslash at its end takes away the meaning of the last percent sign (`accepts_before`). So a text without the
three characters finds the texts that contain it, and any other text finds one that does not contain it
(`finds_of_read`).
-/

namespace Cohort.Sql

namespace Pattern

/-- A part of a pattern. -/
inductive Part where
  /-- Any characters, or none. -/
  | anything
  /-- Any one character. -/
  | anyOne
  /-- A character. -/
  | char (c : Char)

/-- What a character stands for that no backslash precedes. -/
def Part.ofChar (c : Char) : Part := if c = '%' then .anything else if c = '_' then .anyOne else .char c

/-- The parts of a pattern. A backslash with nothing behind it is no pattern. -/
def read : List Char → Option (List Part)
  | [] => some []
  | ['\\'] => none
  | '\\' :: c :: cs => (read cs).map (.char c :: ·)
  | c :: cs => (read cs).map (.ofChar c :: ·)

/-- Whether a text has a pattern. -/
def accepts : List Part → List Char → Bool
  | [], t => t.isEmpty
  | .anything :: ps, t => t.tails.any (accepts ps)
  | .anyOne :: ps, t => !t.isEmpty && accepts ps t.tail
  | .char c :: ps, t => t.head? == some c && accepts ps t.tail

/-- A character with a meaning of its own in patterns. -/
def isSpecial (c : Char) : Bool := c == '%' || c == '_' || c == '\\'

/-! ## Texts that have a pattern -/

theorem accepts_nil {t : List Char} : accepts [] t = true ↔ t = [] := List.isEmpty_iff

theorem accepts_anything {ps : List Part} {t : List Char} :
    accepts (.anything :: ps) t = true ↔ ∃ u v, t = u ++ v ∧ accepts ps v = true := by
  rw [accepts, List.any_eq_true]
  constructor
  · rintro ⟨v, hv, hps⟩
    obtain ⟨u, rfl⟩ := (List.mem_tails v t).1 hv
    exact ⟨u, v, rfl, hps⟩
  · rintro ⟨u, v, rfl, hps⟩
    exact ⟨v, (List.mem_tails v _).2 ⟨u, rfl⟩, hps⟩

theorem accepts_anyOne {ps : List Part} {t : List Char} :
    accepts (.anyOne :: ps) t = true ↔ ∃ c v, t = c :: v ∧ accepts ps v = true := by
  constructor
  · intro h
    cases t with
    | nil => cases h
    | cons c v => exact ⟨c, v, rfl, h⟩
  · rintro ⟨c, v, rfl, h⟩
    exact h

theorem accepts_char {c : Char} {ps : List Part} {t : List Char} :
    accepts (.char c :: ps) t = true ↔ ∃ v, t = c :: v ∧ accepts ps v = true := by
  rw [accepts, Bool.and_eq_true, beq_iff_eq]
  constructor
  · rintro ⟨hc, h⟩
    exact ⟨t.tail, List.eq_cons_of_mem_head? hc, h⟩
  · rintro ⟨v, rfl, h⟩
    exact ⟨rfl, h⟩

/-- A text with one pattern after the other is a text with the one, followed by a text with the other. -/
theorem accepts_append {qs : List Part} : ∀ {ps : List Part} {t : List Char},
    accepts (ps ++ qs) t = true ↔ ∃ u v, t = u ++ v ∧ accepts ps u = true ∧ accepts qs v = true
  | [], t => by
    constructor
    · intro h
      exact ⟨[], t, rfl, rfl, h⟩
    · rintro ⟨u, v, rfl, hu, hv⟩
      rw [accepts_nil.1 hu]
      exact hv
  | .anything :: ps, t => by
    rw [List.cons_append, accepts_anything]
    simp only [accepts_append, accepts_anything]
    constructor
    · rintro ⟨u, _, rfl, v, w, rfl, hv, hw⟩
      exact ⟨u ++ v, w, (List.append_assoc u v w).symm, ⟨u, v, rfl, hv⟩, hw⟩
    · rintro ⟨_, w, rfl, ⟨u, v, rfl, hv⟩, hw⟩
      exact ⟨u, v ++ w, List.append_assoc u v w, v, w, rfl, hv, hw⟩
  | .anyOne :: ps, t => by
    rw [List.cons_append, accepts_anyOne]
    simp only [accepts_append, accepts_anyOne]
    constructor
    · rintro ⟨c, _, rfl, v, w, rfl, hv, hw⟩
      exact ⟨c :: v, w, rfl, ⟨c, v, rfl, hv⟩, hw⟩
    · rintro ⟨_, w, rfl, ⟨c, v, rfl, hv⟩, hw⟩
      exact ⟨c, v ++ w, rfl, v, w, rfl, hv, hw⟩
  | .char c :: ps, t => by
    rw [List.cons_append, accepts_char]
    simp only [accepts_append, accepts_char]
    constructor
    · rintro ⟨_, rfl, v, w, rfl, hv, hw⟩
      exact ⟨c :: v, w, rfl, ⟨v, rfl, hv⟩, hw⟩
    · rintro ⟨_, w, rfl, ⟨v, rfl, hv⟩, hw⟩
      exact ⟨v ++ w, rfl, v, w, rfl, hv, hw⟩

/-- Characters are the pattern of themselves. -/
theorem accepts_chars : ∀ {cs t : List Char}, accepts (cs.map .char) t = true ↔ t = cs
  | [], t => accepts_nil
  | c :: cs, t => by
    rw [List.map_cons, accepts_char]
    simp only [accepts_chars]
    constructor
    · rintro ⟨_, rfl, rfl⟩
      rfl
    · rintro rfl
      exact ⟨cs, rfl, rfl⟩

/-- **A pattern with anything around it** is one of the texts of which some part has the pattern. -/
theorem accepts_around {ps : List Part} {t : List Char} :
    accepts (.anything :: (ps ++ [.anything])) t = true ↔ ∃ u, u <:+: t ∧ accepts ps u = true := by
  have hend (v : List Char) : accepts [.anything] v = true := accepts_anything.2 ⟨v, [], by simp, rfl⟩
  rw [accepts_anything]
  simp only [accepts_append, hend, and_true]
  constructor
  · rintro ⟨u, _, rfl, v, w, rfl, hv⟩
    exact ⟨v, ⟨u, w, List.append_assoc u v w⟩, hv⟩
  · rintro ⟨v, ⟨u, w, rfl⟩, hv⟩
    exact ⟨u, v ++ w, List.append_assoc u v w, v, w, rfl, hv⟩

/-- A text in which some part has a pattern, with a percent sign behind it at the end of the text. -/
theorem accepts_before {ps : List Part} {t : List Char} :
    accepts (.anything :: (ps ++ [.char '%'])) t = true ↔ ∃ u, u ++ ['%'] <:+ t ∧ accepts ps u = true := by
  have hend (v : List Char) : accepts [.char '%'] v = true ↔ v = ['%'] := @accepts_chars ['%'] v
  rw [accepts_anything]
  simp only [accepts_append, hend]
  constructor
  · rintro ⟨u, _, rfl, v, _, rfl, hv, rfl⟩
    exact ⟨v, ⟨u, rfl⟩, hv⟩
  · rintro ⟨v, ⟨u, rfl⟩, hv⟩
    exact ⟨u, v ++ ['%'], rfl, v, ['%'], rfl, hv, rfl⟩

/-! ## Reading -/

section

variable {c : Char} {cs : List Char} {ps : List Part}

theorem read_escaped (c : Char) (cs : List Char) : read ('\\' :: c :: cs) = (read cs).map (.char c :: ·) := by
  rw [read]

theorem read_cons (hc : c ≠ '\\') (cs : List Char) : read (c :: cs) = (read cs).map (.ofChar c :: ·) := by
  rw [read]
  · exact fun h _ => hc h
  · exact fun _ _ h _ => hc h

/-- The last case of `read` is that of a character other than a backslash. -/
theorem ne_backslash (hend : c = '\\' → cs = [] → False) (hescape : ∀ c' cs', c = '\\' → cs = c' :: cs' → False) :
    c ≠ '\\' := by
  intro hc
  cases cs with
  | nil => exact hend hc rfl
  | cons c' cs' => exact hescape c' cs' hc rfl

/-- How a pattern spells its parts: it is empty, or starts with an escaped character or with one that is not. -/
inductive Spells : List Char → List Part → Prop where
  | nil : Spells [] []
  | escaped (c : Char) {cs : List Char} {ps : List Part} (tail : Spells cs ps) :
    Spells ('\\' :: c :: cs) (.char c :: ps)
  | cons {c : Char} {cs : List Char} {ps : List Part} (hc : c ≠ '\\') (tail : Spells cs ps) :
    Spells (c :: cs) (.ofChar c :: ps)

theorem spells_of_read (h : read cs = some ps) : Spells cs ps := by
  fun_induction read cs generalizing ps with
  | case1 =>
    cases h
    exact .nil
  | case2 => cases h
  | case3 c cs ih =>
    obtain ⟨qs, hqs, rfl⟩ := Option.map_eq_some_iff.1 h
    exact .escaped c (ih hqs)
  | case4 c cs hend hescape ih =>
    obtain ⟨qs, hqs, rfl⟩ := Option.map_eq_some_iff.1 h
    exact .cons (ne_backslash hend hescape) (ih hqs)

/-- A pattern keeps its parts when more characters follow. -/
theorem Spells.read_append (h : Spells cs ps) (ds : List Char) : read (cs ++ ds) = (read ds).map (ps ++ ·) := by
  induction h with
  | nil => simp
  | escaped c _ ih =>
    rw [List.cons_append, List.cons_append, read_escaped, ih, Option.map_map]
    rfl
  | cons hc _ ih =>
    rw [List.cons_append, read_cons hc, ih, Option.map_map]
    rfl

/-- A text that is no pattern ends in a backslash, behind a pattern. -/
theorem exists_of_read_eq_none (h : read cs = none) : ∃ bs ps, cs = bs ++ ['\\'] ∧ read bs = some ps := by
  fun_induction read cs with
  | case1 => cases h
  | case2 => exact ⟨[], [], rfl, rfl⟩
  | case3 c cs ih =>
    obtain ⟨bs, ps, rfl, hbs⟩ := ih (Option.map_eq_none_iff.1 h)
    exact ⟨'\\' :: c :: bs, _, rfl, by rw [read_escaped, hbs]; rfl⟩
  | case4 c cs hend hescape ih =>
    obtain ⟨bs, ps, rfl, hbs⟩ := ih (Option.map_eq_none_iff.1 h)
    exact ⟨c :: bs, _, rfl, by rw [read_cons (ne_backslash hend hescape), hbs]; rfl⟩

/-- Without the characters with a meaning, a pattern has itself as parts. -/
theorem read_plain (h : ∀ c ∈ cs, isSpecial c = false) : read cs = some (cs.map .char) := by
  induction cs with
  | nil => rfl
  | cons c cs ih =>
    obtain ⟨hc, hcs⟩ := List.forall_mem_cons.1 h
    simp only [isSpecial, Bool.or_eq_false_iff, beq_eq_false_iff_ne] at hc
    obtain ⟨⟨hpercent, hunderscore⟩, hbackslash⟩ := hc
    rw [read_cons hbackslash, ih hcs, Part.ofChar, if_neg hpercent, if_neg hunderscore]
    rfl

/-! ### Between percent signs -/

/-- A text between percent signs. -/
def between (cs : List Char) : List Char := '%' :: (cs ++ ['%'])

theorem read_between (h : read cs = some ps) : read (between cs) = some (.anything :: (ps ++ [.anything])) := by
  rw [between, read_cons (by decide), (spells_of_read h).read_append]
  rfl

theorem read_between_backslash (h : read cs = some ps) :
    read (between (cs ++ ['\\'])) = some (.anything :: (ps ++ [.char '%'])) := by
  rw [between, read_cons (by decide), List.append_assoc, (spells_of_read h).read_append]
  rfl

theorem exists_read_between (cs : List Char) : ∃ ps, read (between cs) = some ps := by
  cases h : read cs with
  | some ps => exact ⟨_, read_between h⟩
  | none =>
    obtain ⟨bs, ps, rfl, hbs⟩ := exists_of_read_eq_none h
    exact ⟨_, read_between_backslash hbs⟩

end

/-! ## A text with a pattern that is not a part of it -/

/-- A text that has a pattern. -/
def sample : List Part → List Char
  | [] => []
  | .anything :: ps => sample ps
  | .anyOne :: ps => 'x' :: sample ps
  | .char c :: ps => c :: sample ps

theorem accepts_sample : ∀ ps : List Part, accepts ps (sample ps) = true
  | [] => rfl
  | .anything :: ps => accepts_anything.2 ⟨[], sample ps, rfl, accepts_sample ps⟩
  | .anyOne :: ps => accepts_anyOne.2 ⟨'x', sample ps, rfl, accepts_sample ps⟩
  | .char _ :: ps => accepts_char.2 ⟨sample ps, rfl, accepts_sample ps⟩

section

variable {c : Char} {cs : List Char} {ps : List Part}

theorem length_sample_ofChar (c : Char) (ps : List Part) :
    (sample (.ofChar c :: ps)).length ≤ (sample ps).length + 1 := by
  unfold Part.ofChar
  split
  · exact Nat.le_succ _
  · split <;> exact Nat.le_refl _

/-- The sample is not longer than the pattern. -/
theorem Spells.length_sample_le (h : Spells cs ps) : (sample ps).length ≤ cs.length := by
  induction h with
  | nil => exact Nat.le_refl 0
  | escaped _ _ ih => exact Nat.le_succ_of_le (Nat.succ_le_succ ih)
  | @cons c _ ps _ _ ih => exact (length_sample_ofChar c ps).trans (Nat.succ_le_succ ih)

/-- The sample is another text than the pattern if a character with a meaning is in it. -/
theorem Spells.plain_of_sample_eq (h : Spells cs ps) (hsample : sample ps = cs) : ∀ c ∈ cs, isSpecial c = false := by
  induction h with
  | nil => exact List.forall_mem_nil _
  | escaped c tail =>
    have hlength := congrArg List.length hsample
    simp only [sample, List.length_cons] at hlength
    have := tail.length_sample_le
    omega
  | @cons c cs ps hc tail ih =>
    obtain rfl | hpercent := eq_or_ne c '%'
    · have hlength : (sample ps).length = cs.length + 1 := congrArg List.length hsample
      have := tail.length_sample_le
      omega
    obtain rfl | hunderscore := eq_or_ne c '_'
    · cases hsample
    rw [Part.ofChar, if_neg hpercent, if_neg hunderscore] at hsample
    refine List.forall_mem_cons.2 ⟨?_, ih (List.cons.inj hsample).2⟩
    simp [isSpecial, hc, hpercent, hunderscore]

/-- Between percent signs, a text with one of the characters that have a meaning is a pattern of a text that it is no
part of. -/
theorem exists_mistaken (h : read (between cs) = some ps) (hspecial : ∃ c ∈ cs, isSpecial c = true) :
    ∃ t, accepts ps t = true ∧ ¬cs <:+: t := by
  obtain ⟨c, hc, hspecial⟩ := hspecial
  cases hcs : read cs with
  | some qs =>
    cases (read_between hcs).symm.trans h
    refine ⟨sample qs, accepts_around.2 ⟨sample qs, List.infix_rfl, accepts_sample qs⟩, fun hinfix => ?_⟩
    have heq := hinfix.eq_of_length_le (spells_of_read hcs).length_sample_le
    exact absurd ((spells_of_read hcs).plain_of_sample_eq heq.symm c hc) (by simp [hspecial])
  | none =>
    obtain ⟨bs, qs, rfl, hbs⟩ := exists_of_read_eq_none hcs
    cases (read_between_backslash hbs).symm.trans h
    refine ⟨sample qs ++ ['%'], accepts_before.2 ⟨sample qs, List.suffix_rfl, accepts_sample qs⟩, fun hinfix => ?_⟩
    have heq := hinfix.eq_of_length_le (by simpa using (spells_of_read hbs).length_sample_le)
    exact absurd (List.append_inj' heq rfl).2 (by decide)

end

/-! ## What a text finds -/

/-- **What a text finds between percent signs.** -/
structure Finds (needle : List Char) (found : List Char → Bool) : Prop where
  /-- The texts of which some part has the text as its pattern. -/
  pattern : ∀ ps, read needle = some ps → ∀ t, found t = true ↔ ∃ u, u <:+: t ∧ accepts ps u = true
  /-- If the text ends in a backslash that is not escaped, those that end in a percent sign behind a part that has the
  rest of the text as its pattern. -/
  backslash : ∀ cs ps, needle = cs ++ ['\\'] → read cs = some ps → ∀ t, found t = true ↔
    ∃ u, u ++ ['%'] <:+ t ∧ accepts ps u = true
  /-- These are the texts that contain the text exactly if no character in it has a meaning of its own. -/
  contains : (∀ t, found t = true ↔ needle <:+: t) ↔ ∀ c ∈ needle, isSpecial c = false

theorem finds_of_read {cs : List Char} {ps : List Part} (h : read (between cs) = some ps) : Finds cs (accepts ps) where
  pattern qs hqs t := by
    cases (read_between hqs).symm.trans h
    exact accepts_around
  backslash bs qs hcs hqs t := by
    subst hcs
    cases (read_between_backslash hqs).symm.trans h
    exact accepts_before
  contains := by
    constructor
    · intro hall c hc
      refine Bool.eq_false_iff.2 fun hspecial => ?_
      obtain ⟨t, haccepts, hno⟩ := exists_mistaken h ⟨c, hc, hspecial⟩
      exact hno ((hall t).1 haccepts)
    · intro hplain t
      cases (read_between (read_plain hplain)).symm.trans h
      simp only [accepts_around, accepts_chars, exists_eq_right]

end Pattern
end Cohort.Sql
