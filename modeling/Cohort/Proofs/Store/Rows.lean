import Cohort.Store.Database

/-!
# Rows of a store

What a store shows of a group is its log row (`Store.log?`) and its members (`Store.membersOf`). Each write is known by
what it does to these two, for the group that it writes and for all others.
-/

namespace Cohort

/-! ## Tables -/

namespace Table

variable {α : Type}

theorem insertEntry_insertEntry (id : Uuid) (a b : α) : ∀ es : List (Uuid × α),
    insertEntry id a (insertEntry id b es) = insertEntry id a es
  | [] => by simp [insertEntry]
  | (k, c) :: es => by
    by_cases h : id = k
    · simp [insertEntry, h]
    · simp [insertEntry, h, insertEntry_insertEntry id a b es]

/-- Of two values put under one identifier the last one counts. -/
theorem insert_insert (t : Table α) (id : Uuid) (a b : α) : (t.insert id b).insert id a = t.insert id a :=
  congrArg Table.mk (insertEntry_insertEntry id a b t.entries)

end Table

/-! ## Counts -/

theorem Numeral.twoTo_succ (k : Nat) : twoTo (k + 1) = twoTo k * 2 := rfl

theorem bmod_eq_of_small (n w : Nat) (h : 2 * n < w) : Int.bmod n w = n :=
  Int.bmod_eq_of_le (by omega) (by omega)

/-- A count that fits into a signed number of 64 bits is written as it is. -/
theorem LogEntry.countOf_eq {n : Nat} (h : n < Numeral.twoTo 63) : countOf n = n := by
  refine bmod_eq_of_small n _ ?_
  rw [Numeral.twoTo_succ 63]
  omega

/-! ## Groups -/

namespace Store

/-- The log row of a group. -/
def log? (S : Store) (group : Uuid) : Option LogRow := S.logs.get? group

/-- The store with some more members of a group. -/
def addMembers (S : Store) (group : Uuid) (ms : List Uuid) : Store := ms.foldl (fun S m => S.addMember group m) S

variable (S : Store) (group other : Uuid)

@[simp] theorem log?_writeLog (e : LogEntry) : (S.writeLog e).log? other =
    if other = e.groupId then some (.ofEntry e) else S.log? other :=
  S.logs.get?_insert e.groupId other (.ofEntry e)

@[simp] theorem log?_removeMembers : (S.removeMembers group).log? other = S.log? other := rfl

@[simp] theorem log?_addMembers : ∀ (ms : List Uuid) (S : Store), (S.addMembers group ms).log? other = S.log? other
  | [], _ => rfl
  | m :: ms, S => log?_addMembers ms (S.addMember group m)

@[simp] theorem membersOf_writeLog (e : LogEntry) : (S.writeLog e).membersOf other = S.membersOf other := rfl

@[simp] theorem membersOf_removeMembers :
    (S.removeMembers group).membersOf other = if other = group then [] else S.membersOf other := by
  rw [membersOf, membersOf, removeMembers, List.filter_filter]
  split
  · rename_i h
    subst h
    rw [List.filter_eq_nil_iff.2 (by simp), List.map_nil]
  · rename_i h
    refine congrArg _ (List.filter_congr fun m _ => ?_)
    by_cases hm : m.1 = other
    · simp [hm, h]
    · simp [hm]

@[simp] theorem membersOf_addMember (m : Uuid) : (S.addMember group m).membersOf other =
    if other = group then S.membersOf other ++ [m] else S.membersOf other := by
  rw [membersOf, membersOf, addMember, List.filter_append, List.map_append]
  split
  · rename_i h
    subst h
    simp
  · rename_i h
    simp [Ne.symm h]

@[simp] theorem membersOf_addMembers : ∀ (ms : List Uuid) (S : Store), (S.addMembers group ms).membersOf other =
    if other = group then S.membersOf other ++ ms else S.membersOf other
  | [], S => by simp [addMembers]
  | m :: ms, S => by
    have ih := membersOf_addMembers ms (S.addMember group m)
    rw [membersOf_addMember] at ih
    rw [addMembers, List.foldl_cons]
    refine ih.trans ?_
    split <;> simp

theorem addMembers_writeLog (e : LogEntry) : ∀ (ms : List Uuid) (S : Store),
    (S.writeLog e).addMembers group ms = (S.addMembers group ms).writeLog e
  | [], _ => rfl
  | m :: ms, S => addMembers_writeLog e ms (S.addMember group m)

/-- A log row that is overwritten leaves no trace. -/
theorem writeLog_writeLog (e e' : LogEntry) (h : e.groupId = e'.groupId) :
    (S.writeLog e).writeLog e' = S.writeLog e' := by
  rw [writeLog, writeLog, writeLog, h, Table.insert_insert]

end Store

/-! ## What is left of a calculation -/

/-- A store shows how the last calculation of a group stands, how many members it found and why it failed. -/
def Store.Shows (S : Store) (group : Uuid) (status : CalculationStatus) (count : Nat) (message : Option String) :
    Prop :=
  ∃ row, S.log? group = some row ∧ row.status = status.name ∧ row.errorMessage = message ∧
    row.memberCount = LogEntry.countOf count ∧ (count < Numeral.twoTo 63 → row.memberCount = count)

theorem Store.Shows.congr {S S' : Store} {group : Uuid} {status : CalculationStatus} {count : Nat}
    {message : Option String} (h : S.Shows group status count message) (hlog : S'.log? group = S.log? group) :
    S'.Shows group status count message := by
  obtain ⟨row, hrow, hrest⟩ := h
  exact ⟨row, hlog.trans hrow, hrest⟩

/-- A store that came of another one by a calculation of a group. -/
structure Store.Records (S S' : Store) (group : Uuid) (status : CalculationStatus) (count : Nat)
    (message : Option String) (members : List Uuid) : Prop where
  /-- The log row tells how the calculation ended. -/
  shows : S'.Shows group status count message
  /-- These are the members of the group. -/
  members : S'.membersOf group = members
  /-- The log rows of other groups are as they were. -/
  otherLogs : ∀ other, other ≠ group → S'.log? other = S.log? other
  /-- The members of other groups are as they were. -/
  otherMembers : ∀ other, other ≠ group → S'.membersOf other = S.membersOf other

namespace Store

theorem shows_writeLog (S : Store) (group entity : Uuid) (now : Instant) (count : Nat) (status : CalculationStatus)
    (message : Option String) :
    (S.writeLog ⟨group, entity, now, LogEntry.countOf count, status, message⟩).Shows group status count message := by
  refine ⟨⟨group, entity, now.toMicrosecond, LogEntry.countOf count, status.name, message⟩, ?_, rfl, rfl, ?_, ?_⟩
  · rw [log?_writeLog, if_pos rfl, LogRow.ofEntry]
  · dsimp only
  · intro h
    dsimp only
    exact LogEntry.countOf_eq h

/-- Writing a log row keeps everything else. -/
theorem records_writeLog (S : Store) (group entity : Uuid) (now : Instant) (count : Nat) (status : CalculationStatus)
    (message : Option String) :
    S.Records (S.writeLog ⟨group, entity, now, LogEntry.countOf count, status, message⟩) group status count message
      (S.membersOf group) where
  shows := S.shows_writeLog group entity now count status message
  members := rfl
  otherLogs other h := by simp [h]
  otherMembers _ _ := rfl

/-- The members of a group are replaced, and a log row tells of it. -/
theorem records_replace (S : Store) (group entity : Uuid) (now : Instant) (count : Nat) (status : CalculationStatus)
    (message : Option String) (ms : List Uuid) :
    S.Records (((S.removeMembers group).addMembers group ms).writeLog
      ⟨group, entity, now, LogEntry.countOf count, status, message⟩) group status count message ms where
  shows := shows_writeLog _ group entity now count status message
  members := by simp
  otherLogs other h := by simp [h]
  otherMembers other h := by simp [h]

end Store
end Cohort
