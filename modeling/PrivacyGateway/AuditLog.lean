import Mathlib.Data.List.AList
import PrivacyGateway.HashChain
import PrivacyGateway.JsonText
import PrivacyGateway.Separated
import PrivacyGateway.SqlValues

/-!
The audit table and the logger's operations on it. A table holds its rows in order
of their ids, each id once (`AuditTable`); the other columns may hold anything after
an edit. `appendOnce` is the transaction that reads the last row and inserts the
next one, `append` the retries around it and the checkpoint, `verifyChain` the walk
over all rows and the comparison with a checkpoint.
-/
namespace PrivacyGateway.AuditLog
open PrivacyGateway.Strings PrivacyGateway.Errors PrivacyGateway.StdLib PrivacyGateway.SqlValues
open PrivacyGateway.Separated PrivacyGateway.JsonText

/-- A `datetime` in UTC. -/
structure UtcTime where
  year : Nat
  month : Nat
  day : Nat
  hour : Nat
  minute : Nat
  second : Nat
  microsecond : Nat
  inRange : year ≤ 9999 ∧ 1 ≤ month ∧ month ≤ 12 ∧ 1 ≤ day ∧ day ≤ 31 ∧ hour < 24 ∧ minute < 60 ∧ second < 60 ∧
    microsecond < 1000000
  deriving DecidableEq

/-- A number with leading zeros. -/
def padded (width n : Nat) : Text := List.replicate (width - (decimal n).length) '0' ++ decimal n

/-- `isoformat(timespec="microseconds")`, the text of `_utc_now()`. -/
def UtcTime.isoformat (t : UtcTime) : Text :=
  padded 4 t.year ++ '-' :: padded 2 t.month ++ '-' :: padded 2 t.day ++ 'T' :: padded 2 t.hour ++ ':' ::
    padded 2 t.minute ++ ':' :: padded 2 t.second ++ '.' :: padded 6 t.microsecond ++ "+00:00".toList

/-! ### Rows and tables -/

/-- A row of `audit_log`; the id is the integer primary key. -/
structure Row where
  id : Int
  schemaVersion : SqlValue
  timestamp : SqlValue
  payload : SqlValue
  prevHash : SqlValue
  recordHash : SqlValue
  recordMac : SqlValue
  deriving DecidableEq

/-- The table as `ORDER BY id` reads it: no id occurs twice. -/
structure AuditTable where
  rows : List Row
  sorted : rows.Pairwise (fun a b => a.id < b.id)
  deriving DecidableEq

def AuditTable.empty : AuditTable := ⟨[],.nil⟩

/-- `ORDER BY id DESC LIMIT 1` -/
def AuditTable.last (table : AuditTable) : Option Row := table.rows.getLast?

/-- `SELECT COUNT(*)` -/
def AuditTable.count (table : AuditTable) : Nat := table.rows.length

/-- The row in its place among the others. -/
def inPlace (row : Row) (rows : List Row) : List Row :=
  rows.filter (fun r => r.id < row.id) ++ row :: rows.filter (fun r => row.id < r.id)

theorem inPlace_sorted {rows : List Row} (row : Row) (sorted : rows.Pairwise (fun a b => a.id < b.id)) :
    (inPlace row rows).Pairwise (fun a b => a.id < b.id) := by
  refine List.pairwise_append.mpr ⟨sorted.filter _,List.pairwise_cons.mpr ⟨?_,sorted.filter _⟩,?_⟩
  · intro later member
    simpa using (List.mem_filter.mp member).2
  · intro earlier member other inRest
    have below : earlier.id < row.id := by simpa using (List.mem_filter.mp member).2
    rcases List.mem_cons.mp inRest with rfl | above
    · exact below
    · have : row.id < other.id := by simpa using (List.mem_filter.mp above).2
      omega

/-- `INSERT`: `none` where the id is taken. -/
def AuditTable.insert (table : AuditTable) (row : Row) : Option AuditTable :=
  if row.id ∈ table.rows.map Row.id then none else some ⟨inPlace row table.rows,inPlace_sorted row table.sorted⟩

/-- `GENESIS_HASH` -/
def genesisHash : Text := List.replicate 64 '0'

/-- `AUDIT_SCHEMA_VERSION` -/
def auditSchemaVersion : Int := 2

/-- The largest integer of a column. -/
def maxRowId : Int := 2 ^ 63 - 1

/-- `f"{record_id}|{schema_version}|{timestamp}|{payload_json}|{prev_hash}"` -/
def material (recordId schemaVersion : Int) (timestamp payloadJson prevHash : Text) : Text :=
  joined '|' [decimalInt recordId,decimalInt schemaVersion,timestamp,payloadJson,prevHash]

/-- `_compute_record_hash` of what can be encoded. -/
def computeRecordHash (rt : Runtime) (recordId schemaVersion : Int) (timestamp payloadJson prevHash : Text) : HexText :=
  rt.sha256 (material recordId schemaVersion timestamp payloadJson prevHash)

/-- `_mac(record_hash)` -/
def mac (rt : Runtime) (recordHash : Text) : HexText := rt.hmac recordHash

/-- `next_id` after the given last row. -/
def nextId : Option Row → Int
  | some row => row.id + 1
  | none => 1

/-- `prev_hash` after the given last row. -/
def prevHash (rt : Runtime) : Option Row → Text
  | some row => row.recordHash.pyStr rt
  | none => genesisHash

/-- The row that `_append_once` makes to follow the given last row. -/
def nextRow (rt : Runtime) (last : Option Row) (timestamp payloadJson : Text) : Row :=
  let recordHash :=
    (computeRecordHash rt (nextId last) auditSchemaVersion timestamp payloadJson (prevHash rt last)).text
  ⟨nextId last,.int auditSchemaVersion,.text timestamp,.text payloadJson,.text (prevHash rt last),.text recordHash,
    .text (mac rt recordHash).text⟩

/-- The hashing and the `INSERT` of `_append_once`, after it has read the given last row. -/
def insertNext (rt : Runtime) (table : AuditTable) (last : Option Row) (timestamp : UtcTime) (payloadJson : PyStr) :
    Except PyException (Row × AuditTable) :=
  match encodeUtf8 payloadJson with
  | none => .error .unicodeEncodeError
  | some payload =>
    let row := nextRow rt last timestamp.isoformat payload
    if row.id > maxRowId then .error .overflowError
    else
      match table.insert row with
      | some after => .ok (row,after)
      | none => .error (.sqlite .integrity)

/-- `_append_once(payload_json)` with no failure of the database: the row and the table with it. -/
def appendOnce (rt : Runtime) (table : AuditTable) (timestamp : UtcTime) (payloadJson : PyStr) :
    Except PyException (Row × AuditTable) := insertNext rt table table.last timestamp payloadJson

/-! ### Checkpoints and the append -/

/-- `CHECKPOINT_VERSION` -/
def checkpointVersion : Int := 1

structure AuditCheckpoint where
  lastRecordId : Int
  lastRecordMac : PyStr
  createdAt : PyStr
  version : Int
  deriving DecidableEq

/-- The checkpoint of a record. -/
def checkpointOf (rt : Runtime) (row : Row) (createdAt : UtcTime) : AuditCheckpoint :=
  ⟨row.id,str (row.recordMac.pyStr rt),str createdAt.isoformat,checkpointVersion⟩

/-- `create_checkpoint()` of a log whose newest row holds what an append wrote. -/
def createCheckpoint (rt : Runtime) (table : AuditTable) (createdAt : UtcTime) : Option AuditCheckpoint :=
  table.last.map fun row => checkpointOf rt row createdAt

/-- `_APPEND_RETRIES` -/
def appendRetries : Nat := 5

/-- What happens around one call of `append`: the clock of each attempt, the exception
    that ends an attempt before its commit, the clock at the checkpoint and the
    exception of its save. -/
structure Conditions where
  now : Nat → UtcTime
  fault : Nat → Option PyException
  savedAt : UtcTime
  saveFault : Option PyException

/-- The retry loop, with `left` attempts left. -/
def attempts (rt : Runtime) (table : AuditTable) (conditions : Conditions) (payloadJson : PyStr) :
    Nat → Except PyException (Row × AuditTable)
  | 0 => .error (.gateway auditWriteError)
  | left + 1 =>
    let attempt := appendRetries - (left + 1)
    match conditions.fault attempt with
    | some (.sqlite .operational) => attempts rt table conditions payloadJson left
    | some e => .error e
    | none => appendOnce rt table (conditions.now attempt) payloadJson

/-- What a call of `append` leaves: its result, the table and the content of the store. -/
structure Appended where
  result : Except PyException Row
  table : AuditTable
  store : Option (Option AuditCheckpoint)

/-- `append(payload)`; `store` is `none` for a logger without a checkpoint store and
    otherwise the checkpoint that the store holds. -/
def append (rt : Runtime) (table : AuditTable) (store : Option (Option AuditCheckpoint)) (conditions : Conditions)
    (payload : Json) : Appended :=
  match attempts rt table conditions (canonicalJson rt payload) appendRetries with
  | .error e => ⟨.error e,table,store⟩
  | .ok (row,after) =>
    match store with
    | none => ⟨.ok row,after,none⟩
    | some held =>
      match conditions.saveFault with
      | none => ⟨.ok row,after,some (some (checkpointOf rt row conditions.savedAt))⟩
      | some .osError => ⟨.error (.gateway auditWriteError),after,some held⟩
      | some e => ⟨.error e,after,some held⟩

/-! ### Verification -/

inductive ChainStatus where
  | valid | invalid | empty | unverifiable
  deriving DecidableEq, Repr

/-- `ChainVerificationResult` -/
structure Verification where
  status : ChainStatus
  entriesChecked : Nat
  firstInvalidId : Option Int
  reason : Option Text
  tailVerified : Bool
  deriving DecidableEq

def sequenceReason (recordId expectedId : Int) : Text :=
  "record id ".toList ++ decimalInt recordId ++ " breaks the sequence (expected ".toList ++ decimalInt expectedId ++
    "): a record was deleted, duplicated, or renumbered".toList
def linkageReason : Text :=
  "prev_hash does not match the previous record's hash: chain linkage broken (edit, reorder, or deletion upstream)".toList
def contentReason : Text :=
  "stored record_hash does not match the recomputed hash: record content was modified".toList
def macReason : Text := "record MAC invalid: the record was re-hashed without the audit key".toList
def emptyReason : Text :=
  "the external checkpoint expects records, but the log is empty (complete deletion or replacement)".toList
def missingReason (recordId : Int) : Text :=
  "the external checkpoint expects record ".toList ++ decimalInt recordId ++
    ", which is missing (tail deletion or database rollback)".toList
def rewrittenReason : Text :=
  "the record named by the external checkpoint has a different MAC (rewritten history or checkpoint mismatch)".toList
def staleReason (recordId latestId : Int) : Text :=
  "the external checkpoint verifies history through record ".toList ++ decimalInt recordId ++
    ", but the current tail is record ".toList ++ decimalInt latestId ++
    "; the checkpoint is stale and does not verify the current tail".toList
def unverifiableReason : Text :=
  "internal chain is consistent, but no external checkpoint exists to verify the tail against".toList

/-- The variables of the loop of `verify_chain`. -/
structure Walk where
  checked : Nat
  expectedPrev : SqlValue
  expectedId : Int
  macsById : AList fun _ : Int => SqlValue

def Walk.start : Walk := ⟨0,.text genesisHash,1,∅⟩

@[simp] theorem start_checked : Walk.start.checked = 0 := rfl
@[simp] theorem start_expectedPrev : Walk.start.expectedPrev = .text genesisHash := rfl
@[simp] theorem start_expectedId : Walk.start.expectedId = 1 := rfl

/-- One turn of the loop: the verdict that ends it, or the variables after it. -/
def checkRow (rt : Runtime) (walk : Walk) (row : Row) : Except PyException (Verification ⊕ Walk) :=
  let checked := walk.checked + 1
  let invalid := fun reason => .ok (.inl ⟨.invalid,checked,some row.id,some reason,false⟩)
  if row.id ≠ walk.expectedId then invalid (sequenceReason row.id walk.expectedId)
  else if row.prevHash ≠ walk.expectedPrev then invalid linkageReason
  else
    match row.schemaVersion.pyInt rt with
    | .error e => .error e
    | .ok schemaVersion =>
      let recomputed := computeRecordHash rt row.id schemaVersion (row.timestamp.pyStr rt) (row.payload.pyStr rt)
        (row.prevHash.pyStr rt)
      if .text recomputed.text ≠ row.recordHash then invalid contentReason
      else
        match compareDigest (.str (str (mac rt recomputed.text).text)) row.recordMac.digestArg with
        | .error e => .error e
        | .ok false => invalid macReason
        | .ok true => .ok (.inr ⟨checked,row.recordHash,walk.expectedId + 1,walk.macsById.insert row.id row.recordMac⟩)

/-- The loop of `verify_chain`. -/
def walkRows (rt : Runtime) : Walk → List Row → Except PyException (Verification ⊕ Walk)
  | walk, [] => .ok (.inr walk)
  | walk, row :: rest =>
    match checkRow rt walk row with
    | .error e => .error e
    | .ok (.inl verdict) => .ok (.inl verdict)
    | .ok (.inr next) => walkRows rt next rest

/-- After the loop: the comparison with the checkpoint. -/
def checkTail (walk : Walk) (latestId : Int) : Option AuditCheckpoint → Except PyException Verification
  | none => .ok ⟨.valid,walk.checked,none,none,false⟩
  | some checkpoint =>
    match walk.macsById.lookup checkpoint.lastRecordId with
    | none => .ok ⟨.invalid,walk.checked,none,some (missingReason checkpoint.lastRecordId),false⟩
    | some expectedMac =>
      match compareDigest expectedMac.digestArg (.str checkpoint.lastRecordMac) with
      | .error e => .error e
      | .ok false => .ok ⟨.invalid,walk.checked,some checkpoint.lastRecordId,some rewrittenReason,false⟩
      | .ok true =>
        if checkpoint.lastRecordId ≠ latestId then
          .ok ⟨.valid,walk.checked,none,some (staleReason checkpoint.lastRecordId latestId),false⟩
        else .ok ⟨.valid,walk.checked,none,none,true⟩

/-- `verify_chain(checkpoint)` -/
def verifyChain (rt : Runtime) (table : AuditTable) (checkpoint : Option AuditCheckpoint) :
    Except PyException Verification :=
  match table.last with
  | none =>
    match checkpoint with
    | some _ => .ok ⟨.invalid,0,none,some emptyReason,false⟩
    | none => .ok ⟨.empty,0,none,none,false⟩
  | some latest =>
    match walkRows rt .start table.rows with
    | .error e => .error e
    | .ok (.inl verdict) => .ok verdict
    | .ok (.inr walk) => checkTail walk latest.id checkpoint

/-- `verify_with_store(store)`; the argument is `none` for no store and otherwise what it loads. -/
def verifyWithStore (rt : Runtime) (table : AuditTable) : Option (Option AuditCheckpoint) →
    Except PyException Verification
  | none => verifyChain rt table none
  | some (some checkpoint) => verifyChain rt table (some checkpoint)
  | some none =>
    match verifyChain rt table none with
    | .error e => .error e
    | .ok result =>
      if result.status = .valid then .ok ⟨.unverifiable,result.entriesChecked,none,some unverifiableReason,false⟩
      else .ok result

/-! ### What an append does -/

theorem padded_chars {width n : Nat} {c : Char} (member : c ∈ padded width n) : c.isDigit = true := by
  rcases List.mem_append.mp member with zero | digit
  · rw [List.eq_of_mem_replicate zero]
    decide
  · exact decimal_digits digit

/-- A timestamp holds no separator. -/
theorem isoformat_bar_free (t : UtcTime) : '|' ∉ t.isoformat := by
  have numbers : ∀ width n, '|' ∉ padded width n := fun _ _ member => absurd (padded_chars member) (by decide)
  simp [UtcTime.isoformat,numbers]

/-- The next row comes after every row of the table. -/
theorem nextRow_after (rt : Runtime) (table : AuditTable) (timestamp payloadJson : Text) :
    ∀ r ∈ table.rows, r.id < (nextRow rt table.last timestamp payloadJson).id := by
  intro r member
  rw [AuditTable.last]
  obtain ⟨rows,sorted⟩ := table
  cases rows using List.reverseRecOn with
  | nil => cases member
  | append_singleton front last =>
    rw [List.getLast?_concat]
    have before := (List.pairwise_append.mp sorted).2.2
    rcases List.mem_append.mp member with earlier | here
    · have := before r earlier last List.mem_cons_self
      simp only [nextRow,nextId]
      omega
    · rw [List.mem_singleton.mp here]
      simp only [nextRow,nextId]
      omega

theorem insert_after {table : AuditTable} {row : Row} (after : ∀ r ∈ table.rows, r.id < row.id) :
    ∃ grown, table.insert row = some grown ∧ grown.rows = table.rows ++ [row] := by
  have fresh : row.id ∉ table.rows.map Row.id := by
    intro member
    obtain ⟨r,inTable,same⟩ := List.mem_map.mp member
    have := after r inTable
    omega
  refine ⟨_,by rw [AuditTable.insert,if_neg fresh],?_⟩
  have below : table.rows.filter (fun r => r.id < row.id) = table.rows :=
    List.filter_eq_self.mpr fun r member => decide_eq_true (after r member)
  have above : table.rows.filter (fun r => row.id < r.id) = [] := by
    refine List.filter_eq_nil_iff.mpr fun r member => ?_
    have := after r member
    simp only [decide_eq_true_eq]
    omega
  simp only [inPlace,below,above]

/-- A transaction that succeeds adds the next row at the end. -/
theorem appendOnce_ok {rt : Runtime} {table after : AuditTable} {timestamp : UtcTime} {payloadJson : PyStr} {row : Row}
    (appended : appendOnce rt table timestamp payloadJson = .ok (row,after)) :
    ∃ payload, payloadJson = str payload ∧ row = nextRow rt table.last timestamp.isoformat payload ∧
      row.id ≤ maxRowId ∧ after.rows = table.rows ++ [row] := by
  unfold appendOnce insertNext at appended
  cases encoded : encodeUtf8 payloadJson with
  | none => simp [encoded] at appended
  | some payload =>
    obtain ⟨grown,inserted,rows⟩ := insert_after (nextRow_after rt table timestamp.isoformat payload)
    simp only [encoded,inserted] at appended
    split_ifs at appended with fits
    simp only [Except.ok.injEq,Prod.mk.injEq] at appended
    obtain ⟨rfl,rfl⟩ := appended
    exact ⟨payload,encodeUtf8_eq_some.mp encoded,rfl,Int.not_lt.mp fits,rows⟩

/-- What hashing the record or binding its id raises. -/
def unwritable (table : AuditTable) (payloadJson : PyStr) : Option PyException :=
  if encodeUtf8 payloadJson = none then some .unicodeEncodeError
  else if nextId table.last > maxRowId then some .overflowError
  else none

/-- A transaction raises that, or succeeds. -/
theorem appendOnce_spec (rt : Runtime) (table : AuditTable) (timestamp : UtcTime) (payloadJson : PyStr) :
    (∃ e, unwritable table payloadJson = some e ∧ appendOnce rt table timestamp payloadJson = .error e) ∨
      unwritable table payloadJson = none ∧ ∃ row after, appendOnce rt table timestamp payloadJson = .ok (row,after) := by
  unfold unwritable appendOnce insertNext
  cases encoded : encodeUtf8 payloadJson with
  | none => exact .inl ⟨_,rfl,rfl⟩
  | some payload =>
    obtain ⟨grown,inserted,_⟩ := insert_after (nextRow_after rt table timestamp.isoformat payload)
    have position : (nextRow rt table.last timestamp.isoformat payload).id = nextId table.last := rfl
    simp only [reduceCtorEq,↓reduceIte,inserted,position]
    by_cases beyond : nextId table.last > maxRowId
    · exact .inl ⟨_,by rw [if_pos beyond],by rw [if_pos beyond]⟩
    · exact .inr ⟨by rw [if_neg beyond],_,_,by rw [if_neg beyond]⟩

/-- An attempt that succeeds is one transaction. -/
theorem attempts_ok {rt : Runtime} {table after : AuditTable} {conditions : Conditions} {payloadJson : PyStr} {left : Nat}
    {row : Row} (tried : attempts rt table conditions payloadJson left = .ok (row,after)) :
    ∃ timestamp, appendOnce rt table timestamp payloadJson = .ok (row,after) := by
  induction left with
  | zero => cases tried
  | succ left ih =>
    rw [attempts] at tried
    split at tried
    · exact ih tried
    · cases tried
    · exact ⟨_,tried⟩

/-- The loop ends with the first attempt that no `OperationalError` ends, or gives up where
    there is none. -/
theorem attempts_spec (rt : Runtime) (table : AuditTable) (conditions : Conditions) (payloadJson : PyStr) {left : Nat}
    (inside : left ≤ appendRetries) :
    (∀ i, appendRetries - left ≤ i → i < appendRetries → conditions.fault i = some (.sqlite .operational)) ∧
        attempts rt table conditions payloadJson left = .error (.gateway auditWriteError) ∨
      ∃ i, appendRetries - left ≤ i ∧ i < appendRetries ∧
        (∀ j, appendRetries - left ≤ j → j < i → conditions.fault j = some (.sqlite .operational)) ∧
        conditions.fault i ≠ some (.sqlite .operational) ∧
        attempts rt table conditions payloadJson left =
          match conditions.fault i with
          | some e => .error e
          | none => appendOnce rt table (conditions.now i) payloadJson := by
  induction left with
  | zero => exact .inl ⟨fun i low high => by omega,rfl⟩
  | succ left ih =>
    have next : appendRetries - left = appendRetries - (left + 1) + 1 := by omega
    by_cases retried : conditions.fault (appendRetries - (left + 1)) = some (.sqlite .operational)
    · have goesOn : attempts rt table conditions payloadJson (left + 1) = attempts rt table conditions payloadJson left := by
        simp only [attempts,retried]
      have extended : ∀ {bound}, (∀ j, appendRetries - left ≤ j → j < bound → conditions.fault j = some (.sqlite .operational)) →
          ∀ j, appendRetries - (left + 1) ≤ j → j < bound → conditions.fault j = some (.sqlite .operational) := by
        intro bound later j low high
        rcases Nat.eq_or_lt_of_le low with rfl | above
        · exact retried
        · exact later j (by omega) high
      rw [goesOn]
      rcases ih (by omega) with ⟨all,gaveUp⟩ | ⟨i,low,high,before,other,ended⟩
      · exact .inl ⟨extended all,gaveUp⟩
      · exact .inr ⟨i,by omega,high,extended before,other,ended⟩
    · refine .inr ⟨_,le_rfl,by omega,fun j low high => by omega,retried,?_⟩
      rw [attempts]
      cases ended : conditions.fault (appendRetries - (left + 1)) with
      | none => rfl
      | some e =>
        cases e with
        | sqlite kind =>
          cases kind with
          | operational => exact absurd ended retried
          | _ => rfl
        | _ => rfl

/-- An append that returns has made its transaction and, with a store, saved the
    checkpoint of its row; one that raises has left table and store alone, or has made
    the transaction and failed to save. -/
theorem append_spec (rt : Runtime) (table : AuditTable) (store : Option (Option AuditCheckpoint)) (conditions : Conditions)
    (payload : Json) :
    let done := append rt table store conditions payload
    (∃ timestamp row, appendOnce rt table timestamp (canonicalJson rt payload) = .ok (row,done.table) ∧
      (done.result = .ok row ∧ done.store = store.map (fun _ => some (checkpointOf rt row conditions.savedAt)) ∨
        (∃ e, done.result = .error e) ∧ done.store = store ∧ store ≠ none)) ∨
      (∃ e, done.result = .error e) ∧ done.table = table ∧ done.store = store := by
  unfold append
  cases tried : attempts rt table conditions (canonicalJson rt payload) appendRetries with
  | error e => exact .inr ⟨⟨e,rfl⟩,rfl,rfl⟩
  | ok made =>
    obtain ⟨row,after⟩ := made
    obtain ⟨timestamp,appended⟩ := attempts_ok tried
    refine .inl ⟨timestamp,row,?_⟩
    cases store with
    | none => exact ⟨appended,.inl ⟨rfl,rfl⟩⟩
    | some held =>
      cases conditions.saveFault with
      | none => exact ⟨appended,.inl ⟨rfl,rfl⟩⟩
      | some e => cases e <;> exact ⟨appended,.inr ⟨⟨_,rfl⟩,rfl,by simp⟩⟩

end PrivacyGateway.AuditLog
