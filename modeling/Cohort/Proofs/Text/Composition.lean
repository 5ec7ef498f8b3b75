import Cohort.Text.Composition

/-!
# Characters that stand apart

A character that is composed of no others and composes no others (`StandsApart`) is not lost when a text is composed
(`StandsApart.mem_composed`). Whether a character stands apart is a question to the table of compositions
(`standsApart_of_absent`), which is looked through line by line (`CodeTable.all_ofLines_cons`).
-/

namespace Cohort.Text

/-- A character that is composed of no others and composes no others. -/
structure StandsApart (c : Char) : Prop where
  /-- It is not taken apart. -/
  split : splitCharacter? c = none
  /-- It is not put together with a character in front of it. -/
  behind : ∀ a, joinCharacters? a c = none
  /-- It is not put together with a character behind it. -/
  before : ∀ b, joinCharacters? c b = none

/-! ## Composed texts -/

section

variable {c : Char}

-- An equation by definition, as for `splitDeep`.
theorem composeBehind_cons (a d : Char) (between cs : List Char) : composeBehind a between (d :: cs) =
    match (if (match between with
        | [] => false
        | e :: _ => decide (combiningClass d ≤ combiningClass e)) then none else joinCharacters? a d) with
    | some b => composeBehind b between cs
    | none =>
      if combiningClass d = 0 then a :: between.reverse ++ composeBehind d [] cs
      else composeBehind a (d :: between) cs := rfl

theorem StandsApart.mem_decomposed (h : StandsApart c) {cs : List Char} (hc : c ∈ cs) : c ∈ decomposed cs := by
  have hwhole : splitDeep compositionDepth c = [c] := splitDeep_of_none h.split 3
  exact List.mem_flatMap.2 ⟨c, hc, hwhole ▸ List.mem_singleton_self c⟩

theorem mem_insertMark {d : Char} : ∀ {ds : List Char}, c ∈ insertMark d ds ↔ c = d ∨ c ∈ ds
  | [] => by simp [insertMark]
  | e :: ds => by
    rw [insertMark]
    split
    · rw [List.mem_cons, mem_insertMark, List.mem_cons, or_left_comm]
    · exact List.mem_cons

/-- Marks are moved, not lost. -/
theorem mem_ordered : ∀ {cs : List Char}, c ∈ ordered cs ↔ c ∈ cs
  | [] => Iff.rfl
  | d :: cs => by
    rw [ordered]
    split
    · rw [List.mem_cons, mem_ordered, List.mem_cons]
    · rw [mem_insertMark, mem_ordered, List.mem_cons]

/-- A character that stands apart is put together neither with the letter nor with a mark behind it. -/
theorem StandsApart.mem_composeBehind (h : StandsApart c) : ∀ {cs : List Char} {a : Char} {between : List Char},
    c = a ∨ c ∈ between ∨ c ∈ cs → c ∈ composeBehind a between cs
  | [], a, between, hc => by
    show c ∈ a :: between.reverse
    simpa using hc
  | d :: cs, a, between, hc => by
    rw [composeBehind_cons]
    split
    · rename_i b hjoin
      -- neither part of what is put together is the character
      have hjoin := (Option.ite_none_left_eq_some.1 hjoin).2
      have hparts : c ≠ a ∧ c ≠ d := by
        constructor
        · rintro rfl
          rw [h.before] at hjoin
          cases hjoin
        · rintro rfl
          rw [h.behind] at hjoin
          cases hjoin
      refine h.mem_composeBehind (.inr ?_)
      simpa [hparts.1, hparts.2] using hc
    · split
      · rw [List.cons_append, List.mem_cons, List.mem_append, List.mem_reverse]
        rcases hc with rfl | hc | hc
        · exact .inl rfl
        · exact .inr (.inl hc)
        · exact .inr (.inr (h.mem_composeBehind ((List.mem_cons.1 hc).imp_right .inr)))
      · refine h.mem_composeBehind ?_
        rw [List.mem_cons (b := d)] at hc ⊢
        rcases hc with hc | hc | hc | hc
        · exact .inl hc
        · exact .inr (.inl (.inr hc))
        · exact .inr (.inl (.inl hc))
        · exact .inr (.inr hc)

/-- **A character that stands apart is a character of the composed text.** -/
theorem StandsApart.mem_composed (h : StandsApart c) {cs : List Char} (hc : c ∈ cs) : c ∈ composed cs := by
  have hrecomposed : ∀ {ds : List Char}, c ∈ ds → c ∈ recomposed ds := by
    intro ds
    induction ds with
    | nil => exact id
    | cons d ds ih =>
      intro hd
      rw [recomposed]
      split
      · exact h.mem_composeBehind ((List.mem_cons.1 hd).imp_right .inr)
      · exact List.mem_cons.2 ((List.mem_cons.1 hd).imp_right ih)
  exact hrecomposed (mem_ordered.2 (h.mem_decomposed hc))

end

/-! ## The table of compositions -/

/-- The entries of a table are checked line by line. -/
theorem CodeTable.all_ofLines_cons {check : CodeRange → Bool} {line : List Char} {lines : List String}
    (hline : ((words line).map CodeRange.ofText).all check = true) (h : (ofLines lines).entries.all check = true) :
    (ofLines (String.ofList line :: lines)).entries.all check = true := by
  rw [ofLines, List.flatMap_cons, String.toList_ofList, List.all_append, hline]
  exact h

/-- A character below Hangul that the table of compositions does not name stands apart. -/
theorem standsApart_of_absent {c : Char} (hangul : c.toNat < Hangul.leading)
    (h : compositions.entries.all (fun r => !r.holds c.toNat && !r.values.contains c.toNat) = true) :
    StandsApart c := by
  have habsent (r : CodeRange) (hr : r ∈ compositions.entries) : r.holds c.toNat = false ∧ c.toNat ∉ r.values := by
    have := List.all_eq_true.1 h r hr
    simpa using this
  have hunnamed {a b : Char} (hab : a = c ∨ b = c) :
      compositions.entries.find? (fun r => r.values == [a.toNat, b.toNat]) = none := by
    refine List.find?_eq_none.2 fun r hr hvalues => (habsent r hr).2 ?_
    rw [beq_iff_eq.1 hvalues]
    rcases hab with rfl | rfl <;> simp
  have hvowel : c.toNat < Hangul.vowel := Nat.lt_trans hangul (by decide)
  have htrailing : c.toNat < Hangul.trailing := Nat.lt_trans hangul (by decide)
  have hsyllable : c.toNat < Hangul.syllable := Nat.lt_trans hangul (by decide)
  refine ⟨?_, fun a => ?_, fun b => ?_⟩
  · have hfind : compositions.find? c = none :=
      List.find?_eq_none.2 fun r hr => by rw [(habsent r hr).1]; exact Bool.false_ne_true
    delta splitCharacter?
    rw [hfind]
    exact if_pos (.inl hsyllable)
  · delta joinCharacters?
    rw [hunnamed (.inr rfl)]
    unfold Hangul.join?
    dsimp only
    rw [if_neg (by omega), if_neg (by omega)]
  · delta joinCharacters?
    rw [hunnamed (.inl rfl)]
    unfold Hangul.join?
    dsimp only
    rw [if_neg (by omega), if_neg (by omega)]

/-- The at sign stands apart. -/
theorem standsApart_at : StandsApart '@' := by
  refine standsApart_of_absent (by decide) ?_
  unfold compositions
  repeat refine CodeTable.all_ofLines_cons (by decide +kernel) ?_
  rfl

end Cohort.Text
