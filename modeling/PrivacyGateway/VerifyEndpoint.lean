import PrivacyGateway.AuditEndpoints
import PrivacyGateway.SharedStore

/-!
`/v1/audit/verify` on a log that is in use. The endpoint reads the checkpoint file first and
the table later, while calls append and save. Its answer depends on nothing but the checkpoint
whose rename was the last before the file was read, and on the number of records by the time
the table is (`verify_answers`): it never raises a false alarm, and it says that the tail is
verified exactly when that checkpoint is of the newest record.
-/
namespace PrivacyGateway.VerifyEndpoint
open PrivacyGateway.Strings PrivacyGateway.Errors PrivacyGateway.StdLib PrivacyGateway.JsonText
open PrivacyGateway.Raising PrivacyGateway.AuditLog PrivacyGateway.Verification PrivacyGateway.Runs
open PrivacyGateway.CheckpointFile PrivacyGateway.SharedStore
open PrivacyGateway.AuditEndpoints (requireAdmin requireAdmin_eq_ok auditVerify verdictBody history_grows)
open PrivacyGateway.Writers (AppendCall reachable_inv sampleCalls committing)

/-- The verdict on an honest log of so many records, given the checkpoint that was loaded. -/
def honestVerdict (count : Nat) : Option AuditCheckpoint → Verification
  | none => if count = 0 then ⟨.empty,0,none,none,false⟩ else ⟨.unverifiable,count,none,some unverifiableReason,false⟩
  | some checkpoint =>
    if checkpoint.lastRecordId = count then ⟨.valid,count,none,none,true⟩
    else ⟨.valid,count,none,some (staleReason checkpoint.lastRecordId count),false⟩

section
variable {calls : Nat → AppendCall}

/-- A chain that no one has touched gets that verdict. -/
theorem verifyWithStore_honest {rt : Runtime} {table : AuditTable} (valid : ValidChain rt table.rows)
    {loaded : Option AuditCheckpoint} (named : ∀ c, loaded = some c → ∃ row ∈ table.rows, Names rt c row) :
    verifyWithStore rt table (some loaded) = .ok (honestVerdict table.count loaded) := by
  cases loaded with
  | none =>
    by_cases records : table.rows = []
    · simp [verifyWithStore,verifyChain_empty records,honestVerdict,AuditTable.count,records]
    · simp [verifyWithStore,verify_valid valid records,honestVerdict,AuditTable.count,records]
  | some checkpoint =>
    obtain ⟨row,member,names⟩ := named checkpoint rfl
    rw [verifyWithStore,verify_named valid member names,honestVerdict,names.1]
    rfl

/-- The loaded checkpoint is of a record of the table that is read later. -/
theorem named_later {rt : Runtime} {s t : Writers.State} (before : Reachable (Writers.step rt calls) .start s)
    (later : Reachable (Writers.step rt calls) s t) :
    ValidChain rt t.table.rows ∧ ∀ c, s.store = some c → ∃ row ∈ t.table.rows, Names rt c row := by
  obtain ⟨first,ran⟩ := before
  obtain ⟨second,ran'⟩ := later
  have inv := reachable_inv ⟨first,ran⟩
  have inv' : Writers.Inv rt calls t := reachable_inv ⟨first ++ second,by rw [run_append,ran,Option.bind_some,ran']⟩
  refine ⟨inv'.valid,fun c held => ?_⟩
  obtain ⟨row,member,names⟩ := inv.stored c held
  have grown := history_grows ⟨second,ran'⟩
  rw [inv.rows] at member
  exact ⟨row,by rw [inv'.rows]; exact (grown.map Prod.snd).subset member,names⟩

end

/-- Whatever happens between the reading of the file and that of the table, and however saves,
    failures and crashes have gone before, the administrator gets the honest verdict on the
    checkpoint that was renamed last, and anyone else gets none. -/
theorem verify_answers (py : Interpreter) (calls : Nat → AppendCall) (deep : 0 < py.jsonDepth) (directory : Bool)
    (configured : PyStr) (header : Option PyStr) (before after : List Event) (s t : State)
    (ran : run (step py calls) (.start directory) before = some s) (later : run (step py calls) s after = some t) :
    (requireAdmin configured header = .ok () →
      auditVerify py configured header t.log.table (some s.stored) =
        .ok (verdictBody (honestVerdict t.log.table.count s.log.store))) ∧
    (∀ e, requireAdmin configured header = .error e →
      auditVerify py configured header t.log.table (some s.stored) = .error e) ∧
    (honestVerdict t.log.table.count s.log.store).status ≠ .invalid ∧
    ((honestVerdict t.log.table.count s.log.store).tailVerified = true ↔
      ∃ checkpoint row, s.log.store = some checkpoint ∧ t.log.table.last = some row ∧ Names py.rt checkpoint row) := by
  obtain ⟨reached,kept⟩ := log_reached deep (kept_start directory) ⟨before,ran⟩
  obtain ⟨reached',_⟩ := log_reached deep kept ⟨after,later⟩
  obtain ⟨valid,named⟩ := named_later reached reached'
  have verdict := verifyWithStore_honest valid named
  obtain ⟨result,verified,sound,tail⟩ := verifyWithStore_consistent valid named
  rw [verdict] at verified
  cases verified
  refine ⟨fun opened => ?_,fun e refused => ?_,sound,tail⟩
  · rw [auditVerify,opened,ok_bind]
    simp only [verifyWithFile,kept.loads,ok_bind,verdict]
    rfl
  · rw [auditVerify,refused]
    rfl

/-- The file is read after the first save, and the table after the second commit. -/
theorem verify_answers_stale :
    ∃ s t, run (step sampleInterpreter sampleCalls) (.start true)
        ((committing 0).map .log ++ [.enter 0 sampleTime,.mkdir 0,.mkstemp 0 0,.close 0,.replace 0]) = some s ∧
      run (step sampleInterpreter sampleCalls) s ((committing 1).map .log) = some t ∧
      auditVerify sampleInterpreter (lit "k") (some (lit "k")) t.log.table (some s.stored) =
        .ok (verdictBody ⟨.valid,2,none,some (staleReason 1 2),false⟩) := by
  have first : (run (step sampleInterpreter sampleCalls) (.start true)
      ((committing 0).map .log ++ [.enter 0 sampleTime,.mkdir 0,.mkstemp 0 0,.close 0,.replace 0])).map
        (fun s => s.log.store) = some (some (checkpointOf sampleRuntime firstRow sampleTime)) := by decide +kernel
  have both : (run (step sampleInterpreter sampleCalls) (.start true)
      (((committing 0).map .log ++ [.enter 0 sampleTime,.mkdir 0,.mkstemp 0 0,.close 0,.replace 0]) ++
        (committing 1).map .log)).map (fun t => t.log.table) = some twoRecords := by decide +kernel
  obtain ⟨s,ran,store⟩ := Option.map_eq_some_iff.mp first
  obtain ⟨t,later,table⟩ := Option.map_eq_some_iff.mp both
  rw [run_append,ran,Option.bind_some] at later
  obtain ⟨answers,_⟩ := verify_answers sampleInterpreter sampleCalls (by decide) true (lit "k") (some (lit "k")) _ _ s t ran
    later
  have opened : requireAdmin (lit "k") (some (lit "k")) = .ok () :=
    requireAdmin_eq_ok.mpr ⟨by decide,encodable_lit _,rfl⟩
  refine ⟨s,t,ran,later,(answers opened).trans ?_⟩
  rw [store,table]
  rfl

end PrivacyGateway.VerifyEndpoint
