import Cohort.Proofs.Calculation.Outcome

/-!
# Which failures are written down

A failed calculation of a known group leaves a row that says why, as long as no more than one statement is refused and
the row itself can be written and committed (`calculate_failure_recorded`). There is one gap: the refusal of a bare
statement, that is of the statements around the savepoint, reaches the caller and leaves everything as it was.
-/

namespace Cohort

open Session

/-- The row of a failure is not lost if no writing of a row and no commit is refused. -/
theorem not_losesFailure {es : List Event}
    (h : ∀ event ∈ es, event.refusal.isSome → event.statement.name ∉ ["upsert_log", "commit"]) : ¬ LosesFailure es := by
  rintro ⟨entry, -, words, hm | hm⟩
  · exact h _ hm rfl (by simp [Statement.name])
  · exact h _ (hm.subset (List.mem_cons_of_mem _ (List.mem_singleton_self _))) rfl (by simp [Statement.name])

/-- **A failure is written down**, if the group was found, no more than one statement was refused and it was not the
writing or the committing of the failure: the log row of the group says that the calculation failed, and why. The
failures that are not written down are refusals of statements around the savepoint, and those change nothing. -/
theorem calculate_failure_recorded {σ : Type} {s : Service σ} (hs : s.Quiet) {w w₁ w' : World σ}
    (hw : w.database.AtRest) {id : Uuid} {g : Group} {e : CalculationError} {es : List Event}
    (hfetch : (fetchGroup s.client id).run.run w = (.ok g, w₁))
    (hrun : (s.calculate id).run.run w = (.error e, w')) (htrace : w'.database.trace = w.database.trace ++ es)
    (hone : refusals es ≤ 1) (hkept : ¬ LosesFailure es) :
    (∃ count, w'.database.store.Shows g.id .failed count (some e.message)) ∨
      w'.database.store = w.database.store ∧
        ∃ st words, st.isBare ∧ ⟨st, some words⟩ ∈ es ∧ e = .database (.server words) := by
  obtain ⟨S, es', hafter, hcourse⟩ := Service.calculate_course hs hw id
  rw [hrun] at hafter hcourse
  have hstore : w'.database.store = S := congrArg Database.store hafter
  have hes : es' = es := by
    have h := congrArg Database.trace hafter
    rw [htrace] at h
    exact (List.append_cancel_left h).symm
  subst hes
  rw [hstore]
  have hgroup : ∀ {g' w'}, (fetchGroup s.client id).run.run w = (.ok g', w') → g' = g := by
    intro g' w' h
    rw [hfetch] at h
    cases h
    rfl
  generalize hr : (.error e : Except CalculationError Calculated) = r at hcourse
  cases hcourse with
  | unknown e' w₂ _ h =>
    rw [hfetch] at h
    cases h
  | unnoted g' w₂ e' w₃ _ h hprepare hlost => exact absurd hlost hkept
  | unprepared g' w₂ e' w₃ _ h hprepare =>
    cases hr
    rw [hgroup h]
    exact .inl ⟨0, Store.shows_writeLog _ g.id g.entityId s.options.now 0 .failed e.message⟩
  | written g' w₂ p w₃ ids deliveries _ _ h hprepare hout => cases hr
  | unwritten g' w₂ p w₃ e' _ _ h hprepare hout =>
    cases hr
    rw [hgroup h] at hout
    cases hout with
    | undone _ _ he =>
      obtain hbare | htwo | hlost := he
      · exact .inr ⟨rfl, hbare⟩
      · omega
      · exact absurd hlost hkept
    | failed stage _ _ hb => exact .inl ⟨_, (stage.records _ s.options g _ _).shows⟩

/-- In a shop, the second new member is refused: the failure is written down. -/
theorem calculate_failure_recorded_shop :
    let w := Shop.world .empty Shop.noRules [⟨"insert_membership", 2, "disk full"⟩]
    ∃ e w', (Shop.service.calculate (Shop.id 8)).run.run w = (.error e, w') ∧ refusals w'.database.trace = 1 ∧
      ¬ LosesFailure w'.database.trace ∧
        ∃ count, w'.database.store.Shows (Shop.id 8) .failed count (some e.message) := by
  intro w
  have hfails : ((Shop.service.calculate (Shop.id 8)).run.run w).1.isOk = false := by decide +kernel
  have hone : refusals ((Shop.service.calculate (Shop.id 8)).run.run w).2.database.trace = 1 := by decide +kernel
  have hrefused : ∀ event ∈ ((Shop.service.calculate (Shop.id 8)).run.run w).2.database.trace, event.refusal.isSome →
      event.statement.isBare = false ∧ event.statement.name ∉ ["upsert_log", "commit"] := by decide +kernel
  generalize hrun : (Shop.service.calculate (Shop.id 8)).run.run w = p at hfails hone hrefused
  obtain ⟨r, w'⟩ := p
  cases r with
  | ok c => cases hfails
  | error e =>
    have hkept := not_losesFailure fun event hm hr => (hrefused event hm hr).2
    refine ⟨e, w', rfl, hone, hkept, ?_⟩
    obtain ⟨w₁, hfetch⟩ := Shop.fetch_world .empty Shop.noRules [⟨"insert_membership", 2, "disk full"⟩]
    obtain hshown | ⟨-, st, words, hbare, hm, -⟩ :=
      calculate_failure_recorded Shop.quiet_service (Shop.atRest_world _ _ _) hfetch hrun
        (List.nil_append w'.database.trace).symm (Nat.le_of_eq hone) hkept
    · exact hshown
    · exact absurd hbare (by rw [(hrefused _ hm rfl).1]; exact Bool.false_ne_true)

/-- In a shop, the transaction cannot be opened: the call fails on that one refusal, and no row says so. -/
theorem calculate_unrecorded_shop :
    let w := Shop.world .empty Shop.noRules [⟨"begin", 1, "too many connections"⟩]
    let w' := ((Shop.service.calculate (Shop.id 8)).run.run w).2
    ((fetchGroup Shop.service.client (Shop.id 8)).run.run w).1.isOk ∧
      ((Shop.service.calculate (Shop.id 8)).run.run w).1.isOk = false ∧ refusals w'.database.trace = 1 ∧
        ¬ LosesFailure w'.database.trace ∧ (w'.database.store.log? (Shop.id 8)).isNone := by
  refine ⟨by decide +kernel, by decide +kernel, by decide +kernel, not_losesFailure ?_, by decide +kernel⟩
  decide +kernel

end Cohort
