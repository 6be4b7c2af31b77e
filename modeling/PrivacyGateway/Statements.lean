import PrivacyGateway.Sessions
import PrivacyGateway.Verification

/-!
`append` statement by statement. Every statement of an attempt may raise a `sqlite3`
error; what the connection has not committed is rolled back (`appendOnce_statements`), so
the retry loop is the one of `attempts` (`append_statements`). The checkpoint is saved
after the commit: an append is all or nothing just as long as that save does not fail
(`all_or_nothing_iff`).
-/
namespace PrivacyGateway.Statements
open PrivacyGateway.Strings PrivacyGateway.Errors PrivacyGateway.StdLib PrivacyGateway.JsonText PrivacyGateway.AuditLog
open PrivacyGateway.Sessions PrivacyGateway.Verification

/-- What `_append_once` and `_connect` ask of SQLite. Closing the connection raises nothing. -/
inductive Statement where
  | connect | pragma | createTable | createCommit | begin | select | insert | commit | rollback
  deriving DecidableEq, Repr

/-- An open connection: the table as it is committed, and as its transaction has it. -/
structure Connection where
  committed : AuditTable
  working : AuditTable
  deriving DecidableEq

/-- The transaction is given up. -/
def Connection.restore (c : Connection) : Connection := { c with working := c.committed }

section
variable (rt : Runtime) (faults : Statement → Option SqliteError)

/-- A statement that raises has no effect. -/
def statement (s : Statement) (effect : Connection → Connection) : Session PyException Connection Unit :=
  match faults s with
  | some e => throw (.sqlite e)
  | none => modify effect

/-- `_connect()` -/
def connect : Session PyException Connection Unit := do
  statement faults .connect id
  statement faults .pragma id
  statement faults .createTable id
  statement faults .createCommit id

/-- The `try` block of `_append_once`. -/
def transaction (timestamp : UtcTime) (payloadJson : PyStr) : Session PyException Connection Row := do
  statement faults .begin Connection.restore
  statement faults .select id
  let c ← get
  match insertNext rt c.working c.working.last timestamp payloadJson with
  | .error e => throw e
  | .ok (row,after) =>
    statement faults .insert fun c => { c with working := after }
    statement faults .commit fun c => { c with committed := c.working }
    return row

/-- `_append_once(payload_json)` -/
def appendOnceStatements (timestamp : UtcTime) (payloadJson : PyStr) : Session PyException Connection Row := do
  connect faults
  try
    transaction rt faults timestamp payloadJson
  catch e =>
    statement faults .rollback Connection.restore
    throw e
  finally
    modify Connection.restore

end

/-- An attempt on a table, and the table as it is committed afterwards. -/
def attempt (rt : Runtime) (faults : Statement → Option SqliteError) (table : AuditTable) (timestamp : UtcTime)
    (payloadJson : PyStr) : Except PyException Row × AuditTable :=
  let (result,connection) := (appendOnceStatements rt faults timestamp payloadJson).on ⟨table,table⟩
  (result,connection.committed)

/-- What the statements of a `try` block that is reached raise. -/
def transactionFault (faults : Statement → Option SqliteError) (table : AuditTable) (payloadJson : PyStr) :
    Option PyException :=
  (([.begin,.select].findSome? faults).map .sqlite).or
    ((unwritable table payloadJson).or (([.insert,.commit].findSome? faults).map .sqlite))

/-- The exception that ends an attempt: that of the connection, or that of the transaction
    unless the rollback raises one. -/
def attemptFault (faults : Statement → Option SqliteError) (table : AuditTable) (payloadJson : PyStr) :
    Option PyException :=
  match [.connect,.pragma,.createTable,.createCommit].findSome? faults with
  | some e => some (.sqlite e)
  | none => (transactionFault faults table payloadJson).map fun e => ((faults .rollback).map PyException.sqlite).getD e

/-- What happens around one call of `append`: the clock of each attempt, what its statements
    raise, the clock at the checkpoint, and whether its save raises an `OSError`. -/
structure Around where
  now : Nat → UtcTime
  faults : Nat → Statement → Option SqliteError
  savedAt : UtcTime
  saveFails : Bool

/-- The retry loop, with `left` attempts left. -/
def attemptLoop (rt : Runtime) (around : Around) (payloadJson : PyStr) :
    Nat → AuditTable → Except PyException Row × AuditTable
  | 0, table => (.error (.gateway auditWriteError),table)
  | left + 1, table =>
    let i := appendRetries - (left + 1)
    match attempt rt (around.faults i) table (around.now i) payloadJson with
    | (.error (.sqlite .operational),after) => attemptLoop rt around payloadJson left after
    | (.error e,after) => (.error e,after)
    | (.ok row,after) => (.ok row,after)

/-- `append(payload)` -/
def appendStatements (rt : Runtime) (table : AuditTable) (store : Option (Option AuditCheckpoint)) (around : Around)
    (payload : Json) : Appended :=
  match attemptLoop rt around (canonicalJson rt payload) appendRetries table with
  | (.error e,after) => ⟨.error e,after,store⟩
  | (.ok row,after) =>
    match store with
    | none => ⟨.ok row,after,none⟩
    | some held =>
      if around.saveFails then ⟨.error (.gateway auditWriteError),after,some held⟩
      else ⟨.ok row,after,some (some (checkpointOf rt row around.savedAt))⟩

/-- The call leaves the returned record behind the others, or nothing. -/
structure AllOrNothing (table : AuditTable) (done : Appended) : Prop where
  returned : ∀ row, done.result = .ok row → done.table.rows = table.rows ++ [row]
  raised : done.result = .error (.gateway auditWriteError) → done.table = table

/-- The statements up to the commit. -/
def toCommit : List Statement := [.connect,.pragma,.createTable,.createCommit,.begin,.select,.insert,.commit]

/-- Statements that raise nothing but `OperationalError`. -/
def operationalOnly (fails : Nat → Statement → Bool) (i : Nat) (s : Statement) : Option SqliteError :=
  if fails i s then some .operational else none

/-- The record can be written, and in one of the attempts no statement fails. -/
def Commits (table : AuditTable) (payloadJson : PyStr) (fails : Nat → Statement → Bool) : Prop :=
  unwritable table payloadJson = none ∧ ∃ i < appendRetries, ∀ s ∈ toCommit, fails i s = false

theorem statement_on (faults : Statement → Option SqliteError) (s : Statement) (effect : Connection → Connection)
    (c : Connection) :
    (statement faults s effect).on c =
      match faults s with
      | some e => (.error (.sqlite e),c)
      | none => (.ok (),effect c) := by
  unfold statement
  cases faults s <;> rfl

theorem connect_on (faults : Statement → Option SqliteError) (c : Connection) :
    (connect faults).on c =
      match [Statement.connect,.pragma,.createTable,.createCommit].findSome? faults with
      | some e => (.error (.sqlite e),c)
      | none => (.ok (),c) := by
  simp only [connect,bind_on,statement_on,List.findSome?_cons,List.findSome?_nil]
  cases faults .connect with
  | some e => rfl
  | none =>
    cases faults .pragma with
    | some e => rfl
    | none =>
      cases faults .createTable with
      | some e => rfl
      | none => cases faults .createCommit <;> rfl

/-- The `try` block: it raises and has committed nothing, or it has committed the next row. -/
theorem transaction_on (rt : Runtime) (faults : Statement → Option SqliteError) (table : AuditTable) (timestamp : UtcTime)
    (payloadJson : PyStr) :
    (∃ e working, transactionFault faults table payloadJson = some e ∧
        (transaction rt faults timestamp payloadJson).on ⟨table,table⟩ = (.error e,⟨table,working⟩)) ∨
      ∃ row after, transactionFault faults table payloadJson = none ∧
        appendOnce rt table timestamp payloadJson = .ok (row,after) ∧
        (transaction rt faults timestamp payloadJson).on ⟨table,table⟩ = (.ok row,⟨after,after⟩) := by
  simp only [transaction,bind_on,statement_on,transactionFault,List.findSome?_cons,List.findSome?_nil]
  cases faults .begin with
  | some e => exact .inl ⟨_,_,rfl,rfl⟩
  | none =>
    cases faults .select with
    | some e => exact .inl ⟨_,_,rfl,rfl⟩
    | none =>
      simp only [Connection.restore,id,get_on,Option.map_none,Option.none_or]
      rcases appendOnce_spec rt table timestamp payloadJson with ⟨e,fault,raised⟩ | ⟨writable,row,after,made⟩
      · rw [appendOnce] at raised
        simp only [raised,fault]
        exact .inl ⟨_,_,rfl,rfl⟩
      · have inserted := made
        rw [appendOnce] at inserted
        simp only [inserted,writable,bind_on,statement_on,Option.none_or]
        cases faults .insert with
        | some e => exact .inl ⟨_,_,rfl,rfl⟩
        | none =>
          cases faults .commit with
          | some e => exact .inl ⟨_,_,rfl,rfl⟩
          | none => exact .inr ⟨row,after,rfl,made,rfl⟩

/-- An attempt raises and leaves the table, or it has made the transaction. -/
theorem attempt_spec (rt : Runtime) (faults : Statement → Option SqliteError) (table : AuditTable) (timestamp : UtcTime)
    (payloadJson : PyStr) :
    (∃ e, attemptFault faults table payloadJson = some e ∧
        attempt rt faults table timestamp payloadJson = (.error e,table)) ∨
      ∃ row after, attemptFault faults table payloadJson = none ∧
        appendOnce rt table timestamp payloadJson = .ok (row,after) ∧
        attempt rt faults table timestamp payloadJson = (.ok row,after) := by
  simp only [attempt,attemptFault,appendOnceStatements,bind_on,connect_on,tryFinally_on,tryCatch_on,modify_on]
  cases [Statement.connect,.pragma,.createTable,.createCommit].findSome? faults with
  | some e => exact .inl ⟨_,rfl,rfl⟩
  | none =>
    rcases transaction_on rt faults table timestamp payloadJson with
      ⟨e,working,fault,ran⟩ | ⟨row,after,fault,appended,ran⟩
    · simp only [ran,fault,statement_on]
      cases faults .rollback <;> exact .inl ⟨_,rfl,rfl⟩
    · simp only [ran,fault]
      exact .inr ⟨row,after,rfl,appended,rfl⟩

/-! ### The loop -/

section
variable {rt : Runtime} {table : AuditTable} {payloadJson : PyStr}

/-- The conditions that the statements make for the call as a whole. -/
def conditionsOf (around : Around) (table : AuditTable) (payloadJson : PyStr) : Conditions where
  now := around.now
  fault i := attemptFault (around.faults i) table payloadJson
  savedAt := around.savedAt
  saveFault := if around.saveFails then some .osError else none

/-- The loop does what `attempts` does with the whole attempts. -/
theorem attemptLoop_attempts (rt : Runtime) (around : Around) (table : AuditTable) (payloadJson : PyStr) (left : Nat) :
    attemptLoop rt around payloadJson left table =
      match attempts rt table (conditionsOf around table payloadJson) payloadJson left with
      | .ok (row,after) => (.ok row,after)
      | .error e => (.error e,table) := by
  induction left with
  | zero => rfl
  | succ left ih =>
    simp only [attemptLoop,attempts,conditionsOf]
    rcases attempt_spec rt (around.faults (appendRetries - (left + 1))) table (around.now (appendRetries - (left + 1)))
      payloadJson with ⟨e,fault,tried⟩ | ⟨row,after,fault,appended,tried⟩
    · simp only [fault,tried]
      -- Only an `OperationalError` is tried again.
      cases e with
      | sqlite kind =>
        cases kind with
        | operational => exact ih
        | _ => rfl
      | _ => rfl
    · simp only [fault,tried,appended]

theorem append_statements (rt : Runtime) (table : AuditTable) (store : Option (Option AuditCheckpoint)) (around : Around)
    (payload : Json) :
    appendStatements rt table store around payload =
      append rt table store (conditionsOf around table (canonicalJson rt payload)) payload := by
  unfold appendStatements append
  rw [attemptLoop_attempts]
  cases attempts rt table (conditionsOf around table (canonicalJson rt payload)) (canonicalJson rt payload) appendRetries with
  | error e => rfl
  | ok made =>
    obtain ⟨row,after⟩ := made
    cases store with
    | none => rfl
    | some held => cases fails : around.saveFails <;> simp [conditionsOf,fails]

theorem findSome_operational (fails : Nat → Statement → Bool) (i : Nat) (statements : List Statement) :
    (∀ s ∈ statements, fails i s = false) ∧ statements.findSome? (operationalOnly fails i) = none ∨
      ¬ (∀ s ∈ statements, fails i s = false) ∧ statements.findSome? (operationalOnly fails i) = some .operational := by
  induction statements with
  | nil => exact .inl ⟨fun s member => absurd member List.not_mem_nil,rfl⟩
  | cons s rest ih =>
    rw [List.findSome?_cons,operationalOnly,List.forall_mem_cons]
    cases failed : fails i s with
    | true => exact .inr ⟨by simp,by simp⟩
    | false => simpa using ih

theorem transactionFault_operational (fails : Nat → Statement → Bool) (i : Nat) (table : AuditTable) (payloadJson : PyStr) :
    (transactionFault (operationalOnly fails i) table payloadJson = none ↔ unwritable table payloadJson = none ∧
      (∀ s ∈ [Statement.begin,.select], fails i s = false) ∧ ∀ s ∈ [Statement.insert,.commit], fails i s = false) ∧
    ∀ e, transactionFault (operationalOnly fails i) table payloadJson = some e →
      e = .sqlite .operational ∨ unwritable table payloadJson = some e := by
  rw [transactionFault]
  rcases findSome_operational fails i [.begin,.select] with ⟨begins,begun⟩ | ⟨begins,begun⟩
  · rw [begun,Option.map_none,Option.none_or]
    cases unwritable table payloadJson with
    | some e => exact ⟨iff_of_false (by simp) (by simp),fun other same => .inr same⟩
    | none =>
      rw [Option.none_or]
      rcases findSome_operational fails i [.insert,.commit] with ⟨ends,ended⟩ | ⟨ends,ended⟩
      · exact ⟨iff_of_true (by rw [ended]; rfl) ⟨rfl,begins,ends⟩,fun e same => by rw [ended] at same; cases same⟩
      · rw [ended]
        exact ⟨iff_of_false (by simp) fun clear => ends clear.2.2,fun e same => .inl (Option.some.inj same).symm⟩
  · rw [begun]
    exact ⟨iff_of_false (by simp) fun clear => begins clear.2.1,fun e same => .inl (Option.some.inj same).symm⟩

/-- With `OperationalError`s alone, an attempt is ended by one or by a record that cannot be written. -/
theorem attemptFault_operational (fails : Nat → Statement → Bool) (i : Nat) (table : AuditTable) (payloadJson : PyStr) :
    (attemptFault (operationalOnly fails i) table payloadJson = none ↔
      unwritable table payloadJson = none ∧ ∀ s ∈ toCommit, fails i s = false) ∧
    ∀ e, attemptFault (operationalOnly fails i) table payloadJson = some e →
      e = .sqlite .operational ∨ unwritable table payloadJson = some e := by
  have all : (∀ s ∈ toCommit, fails i s = false) ↔
      (∀ s ∈ [Statement.connect,.pragma,.createTable,.createCommit], fails i s = false) ∧
        (∀ s ∈ [Statement.begin,.select], fails i s = false) ∧ ∀ s ∈ [Statement.insert,.commit], fails i s = false := by
    simp only [toCommit,List.forall_mem_cons]
    tauto
  obtain ⟨clear,raises⟩ := transactionFault_operational fails i table payloadJson
  rw [attemptFault,all]
  rcases findSome_operational fails i [.connect,.pragma,.createTable,.createCommit] with ⟨opens,opened⟩ | ⟨opens,opened⟩
  · simp only [opened,Option.map_eq_none_iff,Option.map_eq_some_iff]
    refine ⟨by rw [clear]; tauto,?_⟩
    rintro _ ⟨e,fault,rfl⟩
    rw [operationalOnly]
    cases fails i .rollback with
    | true => exact .inl rfl
    | false => exact raises e fault
  · simp only [opened]
    exact ⟨iff_of_false (by simp) fun both => opens both.2.1,fun e same => .inl (Option.some.inj same).symm⟩

/-- The loop returns just when the record is committed. -/
theorem loop_returns_iff (rt : Runtime) (table : AuditTable) (payloadJson : PyStr) (fails : Nat → Statement → Bool)
    {conditions : Conditions}
    (fault : ∀ i, conditions.fault i = attemptFault (operationalOnly fails i) table payloadJson) :
    (∃ row after, attempts rt table conditions payloadJson appendRetries = .ok (row,after)) ↔
      Commits table payloadJson fails := by
  have clear := fun i => (attemptFault_operational fails i table payloadJson).1
  rcases attempts_spec rt table conditions payloadJson le_rfl with ⟨all,gaveUp⟩ | ⟨i,_,high,before,other,ended⟩
  · rw [gaveUp]
    refine iff_of_false (by simp) ?_
    rintro ⟨writable,i,high,goes⟩
    have busy := all i (by omega) high
    rw [fault,(clear i).mpr ⟨writable,goes⟩] at busy
    cases busy
  · rw [ended]
    cases raised : conditions.fault i with
    | none =>
      obtain ⟨writable,goes⟩ := (clear i).mp (by rw [← fault,raised])
      refine iff_of_true ?_ ⟨writable,i,high,goes⟩
      rcases appendOnce_spec rt table (conditions.now i) payloadJson with ⟨e,unwritten,_⟩ | ⟨_,made⟩
      · rw [writable] at unwritten
        cases unwritten
      · exact made
    | some e =>
      rcases (attemptFault_operational fails i table payloadJson).2 e (by rw [← fault,raised]) with rfl | unwritten
      · exact absurd raised other
      · exact iff_of_false (by simp) fun commits => by rw [commits.1] at unwritten; cases unwritten

/-- A call is all or nothing just when it commits nothing, or there is no checkpoint to save,
    or the save does not fail. -/
theorem all_or_nothing_iff (rt : Runtime) (table : AuditTable) (store : Option (Option AuditCheckpoint))
    (now : Nat → UtcTime) (fails : Nat → Statement → Bool) (savedAt : UtcTime) (saveFails : Bool) (payload : Json) :
    AllOrNothing table (appendStatements rt table store ⟨now,operationalOnly fails,savedAt,saveFails⟩ payload) ↔
      (Commits table (canonicalJson rt payload) fails → store ≠ none → saveFails = false) := by
  have committed := @loop_returns_iff rt table (canonicalJson rt payload) fails
    (conditionsOf ⟨now,operationalOnly fails,savedAt,saveFails⟩ table (canonicalJson rt payload)) fun _ => rfl
  rw [appendStatements,attemptLoop_attempts]
  cases tried : attempts rt table (conditionsOf ⟨now,operationalOnly fails,savedAt,saveFails⟩ table
      (canonicalJson rt payload)) (canonicalJson rt payload) appendRetries with
  | error e =>
    rw [tried] at committed
    refine iff_of_true ⟨fun row same => (by cases same),fun _ => rfl⟩ fun commits => ?_
    obtain ⟨_,_,same⟩ := committed.mpr commits
    cases same
  | ok made =>
    obtain ⟨row,after⟩ := made
    rw [tried] at committed
    have commits := committed.mp ⟨row,after,rfl⟩
    obtain ⟨timestamp,appended⟩ := attempts_ok tried
    obtain ⟨_,_,_,_,rows⟩ := appendOnce_ok appended
    have grown : after ≠ table := by
      rintro rfl
      simpa using congrArg List.length rows
    rw [forall_prop_of_true commits]
    cases store with
    | none =>
      refine iff_of_true ⟨?_,fun raised => (by cases raised)⟩ fun absent => absurd rfl absent
      rintro _ ⟨⟩
      exact rows
    | some held =>
      cases saveFails with
      | false =>
        refine iff_of_true ⟨?_,fun raised => (by cases raised)⟩ fun _ => rfl
        rintro _ ⟨⟩
        exact rows
      | true =>
        refine iff_of_false (fun whole => grown (whole.raised rfl)) fun never => ?_
        cases never (by simp)

end

/-- No statement fails, but the first checkpoint cannot be saved. -/
def unsaved : Around := ⟨fun _ => sampleTime,operationalOnly fun _ _ => false,sampleTime,true⟩

/-- The append raises its error, and its record is in the table. -/
theorem unsaved_record_stays :
    (appendStatements sampleRuntime .empty (some none) unsaved (.obj [])).result = .error (.gateway auditWriteError) ∧
    (appendStatements sampleRuntime .empty (some none) unsaved (.obj [])).table = oneRecord ∧
    ¬ AllOrNothing .empty (appendStatements sampleRuntime .empty (some none) unsaved (.obj [])) := by
  have looped : attemptLoop sampleRuntime unsaved (canonicalJson sampleRuntime (.obj [])) appendRetries .empty =
      (.ok firstRow,oneRecord) := by decide +kernel
  have ran : appendStatements sampleRuntime .empty (some none) unsaved (.obj []) =
      ⟨.error (.gateway auditWriteError),oneRecord,some none⟩ := by
    simp only [appendStatements,looped]
    rfl
  rw [ran]
  exact ⟨rfl,rfl,fun whole => absurd (whole.raised rfl) (by decide +kernel)⟩

end PrivacyGateway.Statements
