import PrivacyGateway.Authenticity

/-!
A log with a checkpoint store, rolled back by an attacker who cannot touch the store.
Every call of `append` that returns overwrites the checkpoint with that of its own
record, whatever the store held before. So the verification reports the deletion as
long as no call has returned since (`rollback_detected_iff`), and no longer.
-/
namespace PrivacyGateway.Rollback
open PrivacyGateway.Strings PrivacyGateway.Errors PrivacyGateway.StdLib PrivacyGateway.SqlValues
open PrivacyGateway.JsonText PrivacyGateway.AuditLog PrivacyGateway.Verification PrivacyGateway.Tampering
open PrivacyGateway.Authenticity

/-- A call of `append` and what happens around it. -/
structure Call where
  conditions : Conditions
  payload : Json

/-- The table and the checkpoint that the store holds. -/
structure Log where
  table : AuditTable
  store : Option AuditCheckpoint
  deriving DecidableEq

def Log.empty : Log := ⟨.empty,none⟩

/-- `append` through a logger with the store. -/
def Call.append (rt : Runtime) (log : Log) (call : Call) : Appended :=
  AuditLog.append rt log.table (some log.store) call.conditions call.payload

/-- The log after the call. -/
def afterCall (rt : Runtime) (log : Log) (call : Call) : Log :=
  ⟨(call.append rt log).table,(call.append rt log).store.join⟩

def afterCalls (rt : Runtime) (log : Log) (calls : List Call) : Log := calls.foldl (afterCall rt) log

/-- One of the calls returns, so it has saved its checkpoint. -/
def Returns (rt : Runtime) : Log → List Call → Prop
  | _, [] => False
  | log, call :: rest => (∃ row, (call.append rt log).result = .ok row) ∨ Returns rt (afterCall rt log call) rest

/-- The log that an append extends by the next row. -/
def Grown (rt : Runtime) (table after : AuditTable) : Prop :=
  ∃ timestamp payload, after.rows = table.rows ++ [nextRow rt table.last timestamp payload]

/-- A call that returns adds its row and saves its checkpoint; one that raises leaves the
    store alone, and the table too unless its save is what failed. -/
theorem call_spec (rt : Runtime) (log : Log) (call : Call) :
    (∃ row, (call.append rt log).result = .ok row ∧ Grown rt log.table (afterCall rt log call).table ∧
        row ∈ (afterCall rt log call).table.rows ∧
        ∃ createdAt, (afterCall rt log call).store = some (checkpointOf rt row createdAt)) ∨
      (∃ e, (call.append rt log).result = .error e) ∧ (afterCall rt log call).store = log.store ∧
        ((afterCall rt log call).table = log.table ∨ Grown rt log.table (afterCall rt log call).table) := by
  rcases append_spec rt log.table (some log.store) call.conditions call.payload with
    ⟨timestamp,row,appended,outcome⟩ | ⟨raised,table,store⟩
  · obtain ⟨payload,_,made,_,rows⟩ := appendOnce_ok appended
    have grown : Grown rt log.table (afterCall rt log call).table := ⟨_,payload,made ▸ rows⟩
    rcases outcome with ⟨returned,store⟩ | ⟨raised,store,_⟩
    · refine .inl ⟨row,returned,grown,?_,call.conditions.savedAt,?_⟩
      · change row ∈ (call.append rt log).table.rows
        rw [Call.append,rows]
        simp
      · rw [afterCall,Call.append,store]
        rfl
    · exact .inr ⟨raised,congrArg Option.join store,.inr grown⟩
  · exact .inr ⟨raised,congrArg Option.join store,.inl table⟩

/-- The log is valid, and the checkpoint names one of its records. -/
structure Consistent (rt : Runtime) (log : Log) : Prop where
  valid : ValidChain rt log.table.rows
  named : ∀ checkpoint, log.store = some checkpoint → ∃ row ∈ log.table.rows, Names rt checkpoint row

section
variable {rt : Runtime} {table after : AuditTable} {log : Log}

theorem Grown.valid (grown : Grown rt table after) (valid : ValidChain rt table.rows) : ValidChain rt after.rows := by
  obtain ⟨timestamp,payload,rows⟩ := grown
  exact rows ▸ valid.next timestamp payload

theorem Grown.begins (grown : Grown rt table after) : table.rows <+: after.rows := by
  obtain ⟨_,_,rows⟩ := grown
  exact rows ▸ List.prefix_append _ _

theorem afterCall_table (rt : Runtime) (log : Log) (call : Call) :
    (afterCall rt log call).table = log.table ∨ Grown rt log.table (afterCall rt log call).table := by
  rcases call_spec rt log call with ⟨_,_,grown,_⟩ | ⟨_,_,unreturned⟩
  · exact .inr grown
  · exact unreturned

theorem valid_afterCall (valid : ValidChain rt log.table.rows) (call : Call) :
    ValidChain rt (afterCall rt log call).table.rows := by
  rcases afterCall_table rt log call with same | grown
  · exact same ▸ valid
  · exact grown.valid valid

theorem afterCall_grow (rt : Runtime) (log : Log) (call : Call) :
    log.table.rows <+: (afterCall rt log call).table.rows := by
  rcases afterCall_table rt log call with same | grown
  · exact same ▸ List.prefix_rfl
  · exact grown.begins

theorem consistent_saved (valid : ValidChain rt log.table.rows) {row : Row} {createdAt : UtcTime}
    (member : row ∈ log.table.rows) (saved : log.store = some (checkpointOf rt row createdAt)) : Consistent rt log := by
  refine ⟨valid,fun checkpoint held => ?_⟩
  rw [saved] at held
  cases held
  exact ⟨row,member,checkpointOf_names ..⟩

theorem consistent_afterCall (consistent : Consistent rt log) (call : Call) :
    Consistent rt (afterCall rt log call) := by
  have valid := valid_afterCall consistent.valid call
  rcases call_spec rt log call with ⟨row,_,_,member,createdAt,store⟩ | ⟨_,store,_⟩
  · exact consistent_saved valid member store
  · refine ⟨valid,fun checkpoint held => ?_⟩
    obtain ⟨row,member,named⟩ := consistent.named checkpoint (store ▸ held)
    exact ⟨row,(afterCall_grow rt log call).subset member,named⟩

theorem consistent_afterCalls (consistent : Consistent rt log) (calls : List Call) :
    Consistent rt (afterCalls rt log calls) := by
  induction calls generalizing log with
  | nil => exact consistent
  | cons call rest ih => exact ih (consistent_afterCall consistent call)

theorem consistent_empty (rt : Runtime) : Consistent rt .empty :=
  ⟨⟨trivial,fun _ member => absurd member List.not_mem_nil⟩,fun _ held => by cases held⟩

theorem afterCalls_grow (rt : Runtime) (log : Log) (calls : List Call) :
    log.table.rows <+: (afterCalls rt log calls).table.rows := by
  induction calls generalizing log with
  | nil => exact List.prefix_rfl
  | cons call rest ih => exact (afterCall_grow rt log call).trans (ih _)

/-- Every older copy of the table is a beginning of it. -/
theorem older_copy (rt : Runtime) (log : Log) (earlier later : List Call) :
    (afterCalls rt log earlier).table.rows <+: (afterCalls rt log (earlier ++ later)).table.rows := by
  unfold afterCalls
  rw [List.foldl_append]
  exact afterCalls_grow rt _ later

/-- The first call that returns makes the log consistent again; until then the store holds
    what it held. -/
theorem after_rollback (log : Log) (valid : ValidChain rt log.table.rows) (calls : List Call) :
    (Returns rt log calls → Consistent rt (afterCalls rt log calls)) ∧
      (¬ Returns rt log calls → ValidChain rt (afterCalls rt log calls).table.rows ∧
        (afterCalls rt log calls).store = log.store) := by
  induction calls generalizing log with
  | nil => exact ⟨False.elim,fun _ => ⟨valid,rfl⟩⟩
  | cons call rest ih =>
    have validNext := valid_afterCall valid call
    rcases call_spec rt log call with ⟨row,returned,_,member,createdAt,store⟩ | ⟨⟨e,raised⟩,store,_⟩
    · have consistent := consistent_saved validNext member store
      exact ⟨fun _ => consistent_afterCalls consistent rest,fun never => absurd (.inl ⟨row,returned⟩) never⟩
    · have later : Returns rt log (call :: rest) ↔ Returns rt (afterCall rt log call) rest := by
        simp [Returns,raised]
      obtain ⟨some_,none_⟩ := ih _ validNext
      rw [later,← store]
      exact ⟨some_,none_⟩

end

/-- After a rollback below the checkpointed record, the verification is INVALID exactly as
    long as no call of append has returned and none whose save failed has written the
    checkpointed record again. -/
theorem rollback_detected_iff (rt : Runtime) (before after : List Call) (checkpoint : AuditCheckpoint)
    (held : (afterCalls rt .empty before).store = some checkpoint) (rolledBack : AuditTable)
    (older : rolledBack.rows <+: (afterCalls rt .empty before).table.rows)
    (lost : (rolledBack.rows.length : Int) < checkpoint.lastRecordId) :
    let now := afterCalls rt ⟨rolledBack,some checkpoint⟩ after
    (∃ result, verifyWithStore rt now.table (some now.store) = .ok result ∧ result.status = .invalid) ↔
      ¬ Returns rt ⟨rolledBack,some checkpoint⟩ after ∧
        ∀ row ∈ now.table.rows.drop rolledBack.rows.length, ¬ Names rt checkpoint row := by
  have honest := consistent_afterCalls (consistent_empty rt) before
  have valid : ValidChain rt rolledBack.rows := by
    rw [List.prefix_iff_eq_take.mp older]
    exact honest.valid.take _
  have ascii : isAscii checkpoint.lastRecordMac = true := by
    obtain ⟨row,member,named⟩ := honest.named checkpoint held
    obtain ⟨h,_,macText⟩ := (honest.valid.2 row member).mac_text
    rw [named.2,macText]
    exact h.ascii
  -- No record that was left has the checkpointed id.
  have unnamed : ∀ row ∈ rolledBack.rows, ¬ Names rt checkpoint row := by
    intro row member named
    obtain ⟨i,found⟩ := List.getElem?_of_mem member
    have position := valid.id_getElem found
    have inside := (List.getElem?_eq_some_iff.mp found).1
    have := named.1
    omega
  obtain ⟨recovered,unchanged⟩ := after_rollback ⟨rolledBack,some checkpoint⟩ valid after
  by_cases returned : Returns rt ⟨rolledBack,some checkpoint⟩ after
  · have consistent := recovered returned
    obtain ⟨result,verified,sound,_⟩ := verifyWithStore_consistent consistent.valid consistent.named
    refine iff_of_false ?_ fun both => both.1 returned
    rintro ⟨other,same,invalid⟩
    rw [verified] at same
    cases same
    exact sound invalid
  · obtain ⟨validNow,store⟩ := unchanged returned
    simp only [store,verifyWithStore,returned,not_false_eq_true,true_and]
    refine (verify_invalid_iff validNow ascii).trans ?_
    obtain ⟨added,rows⟩ := afterCalls_grow rt ⟨rolledBack,some checkpoint⟩ after
    rw [← rows,List.drop_left,List.forall_mem_append]
    exact and_iff_right unnamed

def emptyCall : Call := ⟨sampleConditions,.obj []⟩
def otherCall : Call := ⟨sampleConditions,.obj [field "a" (.int 1)]⟩

/-- An append whose save fails. -/
def unsavedCall : Call := { otherCall with conditions := { sampleConditions with saveFault := some .osError } }

/-- The second record is deleted, and the verification reports it also after an append that
    finds the database locked and one that writes another record but cannot save. -/
theorem rollback_detected_iff_unsaved :
    let now := afterCalls sampleRuntime ⟨oneRecord,some (checkpointOf sampleRuntime secondRow sampleTime)⟩
      [⟨lockedConditions,.obj []⟩,unsavedCall]
    now.table.count = 2 ∧
      ∃ result, verifyWithStore sampleRuntime now.table (some now.store) = .ok result ∧ result.status = .invalid := by
  have unreturned : ∀ row, (unsavedCall.append sampleRuntime
      ⟨oneRecord,some (checkpointOf sampleRuntime secondRow sampleTime)⟩).result ≠ .ok row := by
    have raised : (unsavedCall.append sampleRuntime
        ⟨oneRecord,some (checkpointOf sampleRuntime secondRow sampleTime)⟩).result = .error (.gateway auditWriteError) := by
      decide +kernel
    exact fun row returned => nomatch raised.symm.trans returned
  refine ⟨by decide +kernel,
    (rollback_detected_iff sampleRuntime [emptyCall,emptyCall] _ (checkpointOf sampleRuntime secondRow sampleTime)
      (by decide +kernel) oneRecord ⟨[secondRow],by decide +kernel⟩ (by decide +kernel)).mpr ⟨?_,?_⟩⟩
  · rintro (⟨row,returned⟩ | ⟨row,returned⟩ | none)
    · exact nomatch returned
    · exact unreturned row returned
    · exact none
  · have differ : ∀ row ∈ (afterCalls sampleRuntime ⟨oneRecord,some (checkpointOf sampleRuntime secondRow sampleTime)⟩
        [⟨lockedConditions,.obj []⟩,unsavedCall]).table.rows.drop oneRecord.rows.length,
        secondRow.recordMac.pyStr sampleRuntime ≠ row.recordMac.pyStr sampleRuntime := by
      decide +kernel
    exact fun row member named => differ row member (str_inj.mp named.2)

/-- One more append, and the log is VALID with its tail verified. -/
theorem later_append_hides_rollback :
    (afterCalls sampleRuntime .empty [emptyCall,emptyCall]).store = some (checkpointOf sampleRuntime secondRow sampleTime) ∧
    oneRecord.rows <+: (afterCalls sampleRuntime .empty [emptyCall,emptyCall]).table.rows ∧
    (oneRecord.rows.length : Int) < (checkpointOf sampleRuntime secondRow sampleTime).lastRecordId ∧
    let now := afterCalls sampleRuntime ⟨oneRecord,some (checkpointOf sampleRuntime secondRow sampleTime)⟩ [otherCall]
    verifyWithStore sampleRuntime now.table (some now.store) = .ok ⟨.valid,2,none,none,true⟩ :=
  ⟨by decide +kernel,⟨[secondRow],by decide +kernel⟩,by decide +kernel,by decide +kernel⟩

end PrivacyGateway.Rollback
