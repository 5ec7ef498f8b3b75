import Cohort.Proofs.Calculation.Outcome

/-!
# Members and log rows over many calculations

A history is a list of calculations, of whatever groups, on whatever definitions, and with whatever statements refused
(`Attempt`); each begins with the store that the one before left (`storeAfter`). What one of them does to a group is
told by `Attempt.Effect` (`Attempt.effect_store`), and from that follows how the rows of a group stand after any history
(`members_match_log`): a row that tells of a success counts the members, and a group without a row has none.

A row that tells of a failure does not mean that the group is empty. A group that cannot be prepared keeps its members,
and so does one whose calculation is refused its savepoint (`Attempt.Keeps`).
-/

namespace Cohort

open Session

/-! ## One calculation -/

/-- A calculation of a group, in a world where no session is open, by a service whose client and orchestrator leave the
rows alone. -/
structure Attempt where
  /-- The state of the client. -/
  Metadata : Type
  /-- The service. -/
  service : Service Metadata
  /-- The service leaves the rows alone. -/
  quiet : service.Quiet
  /-- The world, up to the committed store. -/
  world : World Metadata
  /-- No session is open. -/
  atRest : world.database.AtRest
  /-- The group. -/
  group : Uuid

namespace Attempt

/-- The world with a store committed. -/
def start (a : Attempt) (S : Store) : World a.Metadata :=
  { a.world with database := { a.world.database with store := S } }

/-- The calculation on a store. -/
def run (a : Attempt) (S : Store) : Except CalculationError Calculated × World a.Metadata :=
  (a.service.calculate a.group).run.run (a.start S)

/-- The store that is committed after the calculation. -/
def store (a : Attempt) (S : Store) : Store := (a.run S).2.database.store

/-- The calculation writes a failure down and keeps the members of the group: the group could not be prepared, or the
savepoint could not be set. -/
def Keeps (a : Attempt) (S : Store) (group : Uuid) : Prop :=
  ∃ g w₁, (fetchGroup a.service.client a.group).run.run (a.start S) = (.ok g, w₁) ∧ g.id = group ∧
    ∃ e, (a.run S).1 = .error e ∧
      ((∃ w₂, (prepare a.service.client g).run.run w₁ = (.error e, w₂)) ∨
        ∃ es words, (a.run S).2.database.trace = a.world.database.trace ++ es ∧ ⟨.savepoint, some words⟩ ∈ es)

/-- What a calculation does to the rows of a group. -/
inductive Effect (a : Attempt) (S S' : Store) (group : Uuid) : Prop
  /-- It does not touch them. -/
  | untouched : S'.log? group = S.log? group → S'.membersOf group = S.membersOf group → Effect a S S' group
  /-- It replaces the members. -/
  | completed : S'.Shows group .completed (S'.membersOf group).length none → Effect a S S' group
  /-- It fails, and removes the members. -/
  | emptied (count : Nat) (message : String) : S'.Shows group .failed count (some message) → S'.membersOf group = [] →
    Effect a S S' group
  /-- It fails, and keeps the members. -/
  | kept (count : Nat) (message : String) : S'.Shows group .failed count (some message) →
    S'.membersOf group = S.membersOf group → a.Keeps S group → Effect a S S' group

theorem savepoint_of_stage? {st : Statement} (h : st.stage? = some .savepoint) : st = .savepoint := by
  cases st <;> first | rfl | cases h

/-- Rows of other groups are not touched. -/
theorem untouched_of_records {a : Attempt} {S S' : Store} {group other : Uuid} {status : CalculationStatus}
    {count : Nat} {message : Option String} {members : List Uuid}
    (h : S.Records S' other status count message members) (hne : group ≠ other) : a.Effect S S' group :=
  .untouched (h.otherLogs group hne) (h.otherMembers group hne)

theorem completed_of_records {a : Attempt} {S S' : Store} {group : Uuid} {ids : List Uuid}
    (h : S.Records S' group .completed ids.length none ids) : a.Effect S S' group := by
  refine .completed ?_
  rw [h.members]
  exact h.shows

theorem effect_store (a : Attempt) (S : Store) (group : Uuid) : a.Effect S (a.store S) group := by
  have hrest : (a.start S).database.AtRest := ⟨a.atRest.transaction, a.atRest.depth, a.atRest.queued⟩
  obtain ⟨S', es, hafter, hcourse⟩ := Service.calculate_course a.quiet hrest a.group
  have hstore : a.store S = S' := congrArg Database.store hafter
  have htrace : (a.run S).2.database.trace = a.world.database.trace ++ es := congrArg Database.trace hafter
  rw [hstore]
  generalize hr : ((a.service.calculate a.group).run.run (a.start S)).1 = r at hcourse
  cases hcourse with
  | unknown => exact .untouched rfl rfl
  | unnoted => exact .untouched rfl rfl
  | unprepared g w₁ e w₂ _ hfetch hprepare =>
    have hrecords := S.records_writeLog g.id g.entityId a.service.options.now 0 .failed (some e.message)
    by_cases hg : group = g.id
    · subst hg
      exact .kept 0 e.message hrecords.shows hrecords.members ⟨g, w₁, hfetch, rfl, e, hr, .inl ⟨w₂, hprepare⟩⟩
    · exact untouched_of_records hrecords hg
  | written g w₁ p w₂ ids deliveries _ _ hfetch hprepare hout =>
    cases hout
    have hrecords := S.records_replace g.id g.entityId a.service.options.now a.world.database.answers.length .completed
      none a.world.database.answers
    by_cases hg : group = g.id
    · subst hg
      exact completed_of_records hrecords
    · exact untouched_of_records hrecords hg
  | unwritten g w₁ p w₂ e _ _ hfetch hprepare hout =>
    cases hout with
    | undone => exact .untouched rfl rfl
    | failed stage _ _ hb =>
      have hrecords := stage.records S a.service.options g (stage.count a.world.database.answers.length) e.message
      by_cases hg : group = g.id
      · subst hg
        by_cases hstage : stage = .savepoint
        · subst hstage
          refine .kept _ e.message hrecords.shows hrecords.members ⟨g, w₁, hfetch, rfl, e, hr, .inr ?_⟩
          cases hb with
          | refused _ st words hst hm =>
            obtain rfl := savepoint_of_stage? hst
            exact ⟨es, words, htrace, hm⟩
        · exact .emptied _ e.message hrecords.shows (hrecords.members.trans (Stage.kept_of_ne hstage _ _))
      · exact untouched_of_records hrecords hg

end Attempt

/-! ## Many calculations -/

/-- The store after a history, nothing being stored before it. -/
def storeAfter (history : List Attempt) : Store := history.foldl (fun S a => a.store S) .empty

theorem storeAfter_append (history : List Attempt) (a : Attempt) :
    storeAfter (history ++ [a]) = a.store (storeAfter history) := by
  simp [storeAfter]

/-- How the rows of a group stand after a history. -/
inductive Stands (history : List Attempt) (group : Uuid) (S : Store) : Prop
  /-- The group was never calculated. -/
  | never : S.log? group = none → S.membersOf group = [] → Stands history group S
  /-- The last calculation that ended succeeded. -/
  | completed : S.Shows group .completed (S.membersOf group).length none → Stands history group S
  /-- The last calculation that ended failed, and removed the members. -/
  | emptied (count : Nat) (message : String) : S.Shows group .failed count (some message) → S.membersOf group = [] →
    Stands history group S
  /-- The last calculation that ended failed, and the members are those that a calculation kept. -/
  | kept (count : Nat) (message : String) (before : List Attempt) (a : Attempt) (after : List Attempt) :
    S.Shows group .failed count (some message) → history = before ++ a :: after → a.Keeps (storeAfter before) group →
      S.membersOf group = (storeAfter before).membersOf group → Stands history group S

/-- One more calculation. -/
theorem Stands.append {history : List Attempt} {group : Uuid} (h : Stands history group (storeAfter history))
    (a : Attempt) : Stands (history ++ [a]) group (storeAfter (history ++ [a])) := by
  have heffect := a.effect_store (storeAfter history) group
  rw [← storeAfter_append] at heffect
  cases heffect with
  | untouched hlog hmembers =>
    cases h with
    | never hlog' hmembers' => exact .never (hlog.trans hlog') (hmembers.trans hmembers')
    | completed hshows =>
      refine .completed ?_
      rw [hmembers]
      exact hshows.congr hlog
    | emptied count message hshows hnone => exact .emptied count message (hshows.congr hlog) (hmembers.trans hnone)
    | kept count message before b after hshows hhistory hkeeps hsame =>
      refine .kept count message before b (after ++ [a]) (hshows.congr hlog) ?_ hkeeps (hmembers.trans hsame)
      rw [hhistory, List.append_assoc, List.cons_append]
  | completed hshows => exact .completed hshows
  | emptied count message hshows hnone => exact .emptied count message hshows hnone
  | kept count message hshows hsame hkeeps => exact .kept count message history a [] hshows rfl hkeeps hsame

/-- Any number of calculations. -/
theorem stands_storeAfter (group : Uuid) : ∀ (rest history : List Attempt),
    Stands history group (storeAfter history) → Stands (history ++ rest) group (storeAfter (history ++ rest))
  | [], history, h => by
    rw [List.append_nil]
    exact h
  | a :: rest, history, h => by
    have ih := stands_storeAfter group rest (history ++ [a]) (h.append a)
    rw [List.append_assoc] at ih
    exact ih

/-- **Members and log rows after any history.** A group without a log row has no members; a row that tells of a success
counts them; and any other row tells of a failure. After a failure there are no members, but for those that a
calculation kept because it could not prepare the group or set its savepoint. -/
theorem members_match_log (history : List Attempt) (group : Uuid) :
    match (storeAfter history).log? group with
    | none => (storeAfter history).membersOf group = []
    | some row =>
      (row.status = CalculationStatus.completed.name ∧
        row.memberCount = LogEntry.countOf ((storeAfter history).membersOf group).length ∧
          (((storeAfter history).membersOf group).length < Numeral.twoTo 63 →
            row.memberCount = ((storeAfter history).membersOf group).length)) ∨
        row.status = CalculationStatus.failed.name ∧
          ((storeAfter history).membersOf group = [] ∨
            ∃ before a after, history = before ++ a :: after ∧ a.Keeps (storeAfter before) group ∧
              (storeAfter history).membersOf group = (storeAfter before).membersOf group) := by
  have h := stands_storeAfter group history [] (.never rfl rfl)
  rw [List.nil_append] at h
  cases h with
  | never hlog hmembers =>
    rw [hlog]
    exact hmembers
  | completed hshows =>
    obtain ⟨row, hrow, hstatus, -, hcount⟩ := hshows
    rw [hrow]
    exact .inl ⟨hstatus, hcount⟩
  | emptied count message hshows hnone =>
    obtain ⟨row, hrow, hstatus, -⟩ := hshows
    rw [hrow]
    exact .inr ⟨hstatus, .inl hnone⟩
  | kept count message before a after hshows hhistory hkeeps hsame =>
    obtain ⟨row, hrow, hstatus, -⟩ := hshows
    rw [hrow]
    exact .inr ⟨hstatus, .inr ⟨before, a, after, hhistory, hkeeps, hsame⟩⟩

/-- In a shop, a group is calculated and then its rules are broken: the row tells of a failure, and the members are
those of before. -/
theorem members_kept_shop :
    let history : List Attempt :=
      [Shop.noRules, .object [("type", .string "union")]].map fun rules =>
        ⟨Registry, Shop.service, Shop.quiet_service, Shop.world .empty rules [], Shop.atRest_world _ _ _, Shop.id 8⟩
    ((storeAfter history).log? (Shop.id 8)).map (·.status) = some CalculationStatus.failed.name ∧
      (storeAfter history).membersOf (Shop.id 8) = [Shop.id 9, Shop.id 10] := by
  decide +kernel

end Cohort
