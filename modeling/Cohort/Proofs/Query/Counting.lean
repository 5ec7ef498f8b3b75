import Cohort.Proofs.Query.Aliases
import Cohort.Proofs.Query.Renumbering

/-!
# Counting aliases in 32 bits

A builder counts its aliases without end. A counter of 32 bits starts over behind its last number (`counted`). It gives
the same names while fewer than `2 ^ 32` are handed out, and no longer (`counted_eq_iff`). A clause takes at most one
alias for each relationship in its criteria, also if it is refused (`clause_aliases_le`), so it is enough that there are
not too many of them:

* `run_counted`: the aliases of a run of calls are those of the counter.
* `clause_counted`: so are the rows that a clause introduces behind what has been handed out.
* `membershipQuery_counted`: so are those of the query for an entity.
-/

namespace Cohort

open Sql

/-! ## The counter -/

/-- The names that a counter of 32 bits gives behind a number. -/
def counted (c : UInt32) : Nat → List String
  | 0 => []
  | k + 1 => (Alias.numbered (c + 1).toNat).text :: counted (c + 1) k

/-- The counter forgets multiples of `2 ^ 32`. -/
theorem counted_eq_map : ∀ n k : Nat, counted (.ofNat n) k =
    (List.range' (n + 1) k).map fun m => (Alias.numbered (m % UInt32.size)).text
  | _, 0 => rfl
  | n, k + 1 => by
    have hnext : UInt32.ofNat n + 1 = .ofNat (n + 1) := (UInt32.ofNat_add n 1).symm
    rw [counted, hnext, UInt32.toNat_ofNat', counted_eq_map (n + 1) k, List.range'_succ, List.map_cons]

theorem counted_eq {n k : Nat} (h : n + k < UInt32.size) : counted (.ofNat n) k = namesAfter n k := by
  rw [counted_eq_map, namesAfter]
  refine List.map_congr_left fun m hm => ?_
  have hlt := (List.mem_range'_1.1 hm).2
  rw [Nat.mod_eq_of_lt (by omega)]

/-- **The counter is right exactly if it does not start over.** -/
theorem counted_eq_iff {n k : Nat} (hk : 0 < k) :
    counted (.ofNat n) k = namesAfter n k ↔ n + k < UInt32.size := by
  refine ⟨fun h => ?_, counted_eq⟩
  rw [counted_eq_map, namesAfter, List.map_inj_left] at h
  have hlast := text_numbered_injective (h (n + k) (List.mem_range'_1.2 (by omega)))
  rw [← hlast]
  exact Nat.mod_lt _ (by decide)

/-- The names around the last number. -/
example : counted 4294967294 3 = ["pe4294967295", "pe0", "pe1"] := by decide +kernel

/-! ## What is taken -/

theorem Draft.append_aliases_le (x y : Draft) : (x.append y).aliases ≤ x.aliases + y.aliases := by
  rw [append]
  cases x.texts with
  | error e => exact Nat.le_add_right _ _
  | ok ts => exact Nat.le_refl _

variable (d : Definitions)

mutual

theorem Rule.draft_aliases_le (scope : Uuid) : ∀ r : Rule, (r.draft d scope).aliases ≤ r.relationshipIds.length
  | .condition c => by
    rw [Rule.draft]
    cases c.resolve d scope <;> exact Nat.zero_le _
  | .nested ⟨_, k, rs⟩ => by
    rw [Rule.draft, Rule.relationshipIds]
    exact Rule.drafts_aliases_le scope rs
  | .related id ⟨_, k, rs⟩ => by
    rw [Rule.draft, Rule.relationshipIds, List.length_cons]
    cases d.join scope id with
    | error e => exact Nat.zero_le _
    | ok join =>
      have := Rule.drafts_aliases_le join.relatedEntityId rs
      show 1 + (Rule.drafts d join.relatedEntityId rs).aliases ≤ _
      omega

/-- Rules take at most one alias for each relationship in them. -/
theorem Rule.drafts_aliases_le (scope : Uuid) : ∀ rs : List Rule,
    (Rule.drafts d scope rs).aliases ≤ (Rule.allRelationshipIds rs).length
  | [] => Nat.le_refl 0
  | r :: rs => by
    have hr := Rule.draft_aliases_le scope r
    have hrs := Rule.drafts_aliases_le scope rs
    have happend := Draft.append_aliases_le (r.draft d scope) (Rule.drafts d scope rs)
    rw [Rule.drafts, Rule.allRelationshipIds, List.length_append]
    omega

end

/-- A clause takes at most one alias for each relationship in its criteria, also if it is refused. -/
theorem clause_aliases_le (row : Alias) (scope : Uuid) (c : Criteria) (b : Builder) :
    ((Builder.clause d row scope c).run b).2.aliases ≤ b.aliases + (Rule.allRelationshipIds c.rules).length := by
  rw [(clause_described d row scope c b).2]
  exact Nat.add_le_add_left (Rule.drafts_aliases_le d scope c.rules) b.aliases

/-- The most aliases that a call takes. -/
def Call.demand : Call → Nat
  | .allocate => 1
  | .bind _ => 0
  | .clause _ _ c => (Rule.allRelationshipIds c.rules).length

theorem Call.aliases_le (b : Builder) (call : Call) : (call.run d b).2.aliases ≤ b.aliases + call.demand := by
  cases call with
  | allocate | bind => exact Nat.le_refl _
  | clause row scope c => exact clause_aliases_le d row scope c b

theorem runAll_aliases_le (calls : List Call) : ∀ b : Builder,
    (runAll d b calls).aliases ≤ b.aliases + (calls.map Call.demand).sum := by
  induction calls with
  | nil => exact fun b => Nat.le_refl b.aliases
  | cons call calls ih =>
    intro b
    have hcall := call.aliases_le d b
    have hcalls : (runAll d b (call :: calls)).aliases ≤ _ := ih (call.run d b).2
    rw [List.map_cons, List.sum_cons]
    omega

/-! ## Runs -/

/-- **The aliases of a run are those of a counter of 32 bits**, and the counter stands at their number, if the calls ask
for fewer than `2 ^ 32`. -/
theorem run_counted (calls : List Call) (h : (calls.map Call.demand).sum < UInt32.size) :
    let ledger := noteAll d .fresh calls
    ledger.given.map Alias.text = counted 0 ledger.given.length ∧
      (UInt32.ofNat ledger.given.length).toNat = ledger.builder.aliases := by
  intro ledger
  have hledger : ledger = .of (runAll d .fresh calls) := noteAll_of d calls .fresh
  have hlength : ledger.given.length = (runAll d .fresh calls).aliases := by
    rw [hledger, Ledger.of, List.length_map, List.length_range']
  have hfew : (runAll d .fresh calls).aliases < UInt32.size := by
    have hle := runAll_aliases_le d calls .fresh
    have hfresh : Builder.fresh.aliases = 0 := rfl
    omega
  rw [hlength, hledger, Ledger.texts_of]
  exact ⟨(counted_eq (by rwa [Nat.zero_add])).symm, UInt32.toNat_ofNat_of_lt hfew⟩

variable {d}

/-- **The rows of a clause are those of a counter of 32 bits that stands at what has been handed out.** -/
theorem clause_counted {row : Alias} {scope : Uuid} {c : Criteria} {b b' : Builder} {k : Clause}
    (hrow : isName row.text = true) (h : (Builder.clause d row scope c).run b = (.ok k, b'))
    (hfew : b.aliases + (Rule.allRelationshipIds c.rules).length < UInt32.size) :
    ∃ ts, tokens k.text = some ts ∧
      introductions ts = counted (.ofNat b.aliases) (Rule.allRelationshipIds c.rules).length := by
  obtain ⟨ts, m, hts, haliases, hintroductions⟩ := clause_introductions hrow h
  obtain ⟨_, hb⟩ := Builder.clause_run_ok h
  obtain rfl : m = (Rule.allRelationshipIds c.rules).length := by
    have := hb.rows.1
    omega
  exact ⟨ts, hts, hintroductions.trans (counted_eq hfew).symm⟩

/-- **The rows of a query are those of a counter of 32 bits that starts from zero.** -/
theorem membershipQuery_counted {c : Criteria} {entity : Uuid} {q : Query} (h : membershipQuery d c entity = .ok q)
    (hfew : (Rule.allRelationshipIds c.rules).length + 1 < UInt32.size) :
    ∃ ts, tokens q.text = some ts ∧ introductions ts = counted 0 ((Rule.allRelationshipIds c.rules).length + 1) := by
  obtain ⟨ts, _, _, hts, _, hscopes, _⟩ := membershipQuery_rows h
  have hcounted : counted 0 ((Rule.allRelationshipIds c.rules).length + 1) = _ :=
    counted_eq (by rwa [Nat.zero_add])
  exact ⟨ts, hts, hscopes.introductions_eq.trans hcounted.symm⟩

end Cohort
