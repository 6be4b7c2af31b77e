import PrivacyGateway.CheckpointFile
import PrivacyGateway.JsonCompact
import PrivacyGateway.Writers

/-!
Reading the audit log: `entries` with its LIMIT and OFFSET, `latest` and
`create_checkpoint`, which all parse the payloads they read. Whatever calls have written
the log, and however they were interleaved, each page holds the committed records in the
order of their commits, with the fields of their payloads in the order of the keys
(`entries_returned`).
-/
namespace PrivacyGateway.ReadLog
open PrivacyGateway.Strings PrivacyGateway.Errors PrivacyGateway.StdLib PrivacyGateway.JsonText
open PrivacyGateway.Raising PrivacyGateway.SqlValues PrivacyGateway.AuditLog PrivacyGateway.Verification
open PrivacyGateway.CheckpointFile PrivacyGateway.JsonCompact PrivacyGateway.Runs PrivacyGateway.Writers

structure AuditRecord where
  id : Int
  schemaVersion : Int
  timestamp : Text
  payload : Json
  prevHash : Text
  recordHash : Text
  recordMac : Text

section
variable (py : Interpreter) (loadsBytes : List UInt8 → Except PyException Json)

/-- `json.loads(cell)`; `loadsBytes` is that of a bytes object. -/
def loadsCell : SqlValue → Except PyException Json
  | .text t => py.loads t
  | .blob bytes => loadsBytes bytes
  | _ => .error .typeError

/-- The record that the code makes of a row. -/
def recordOf (row : Row) : Except PyException AuditRecord := do
  let schemaVersion ← row.schemaVersion.pyInt py.rt
  let payload ← loadsCell py loadsBytes row.payload
  return ⟨row.id,schemaVersion,row.timestamp.pyStr py.rt,payload,row.prevHash.pyStr py.rt,row.recordHash.pyStr py.rt,
    row.recordMac.pyStr py.rt⟩

/-- An integer that can be bound to a parameter of a statement. -/
def bindable (n : Int) : Bool := -(2 ^ 63) ≤ n && n ≤ maxRowId

/-- `LIMIT ? OFFSET ?`: a negative limit is none, a negative offset is zero. Without a limit
    the statement has no such clause, whatever the offset. -/
def page {α : Type} (limit : Option Int) (offset : Int) (rows : List α) : Except PyException (List α) :=
  match limit with
  | none => .ok rows
  | some limit =>
    if bindable limit && bindable offset then
      let rest := rows.drop offset.toNat
      .ok (if limit < 0 then rest else rest.take limit.toNat)
    else .error .overflowError

/-- `entries(limit, offset)` -/
def entries (table : AuditTable) (limit : Option Int) (offset : Int) : Except PyException (List AuditRecord) := do
  let rows ← page limit offset table.rows
  rows.mapM (recordOf py loadsBytes)

/-- `latest()` -/
def latest (table : AuditTable) : Except PyException (Option AuditRecord) :=
  match table.last with
  | none => .ok none
  | some row => (recordOf py loadsBytes row).map some

/-- `create_checkpoint()`, which reads the newest record whole. -/
def createCheckpoint (table : AuditTable) (createdAt : UtcTime) : Except PyException (Option AuditCheckpoint) :=
  (latest py loadsBytes table).map fun record => record.map fun last =>
    ⟨last.id,str last.recordMac,str createdAt.isoformat,checkpointVersion⟩

end

/-- What `_append_once` returns for the row it has inserted. -/
def returnedRecord (rt : Runtime) (row : Row) (payload : Json) : AuditRecord :=
  ⟨row.id,auditSchemaVersion,row.timestamp.pyStr rt,payload,row.prevHash.pyStr rt,row.recordHash.pyStr rt,
    row.recordMac.pyStr rt⟩

theorem page_map {α β : Type} (limit : Option Int) (offset : Int) (rows : List α) (change : α → β) :
    page limit offset (rows.map change) = (page limit offset rows).map (List.map change) := by
  unfold page
  cases limit with
  | none => rfl
  | some limit =>
    simp only
    split_ifs
    · rw [← List.map_drop]
      rfl
    · rw [← List.map_drop,← List.map_take]
      rfl
    · rfl

theorem page_subset {α : Type} {limit : Option Int} {offset : Int} {rows found : List α}
    (paged : page limit offset rows = .ok found) : ∀ a ∈ found, a ∈ rows := by
  unfold page at paged
  cases limit with
  | none =>
    cases paged
    exact fun _ inside => inside
  | some limit =>
    simp only at paged
    split_ifs at paged
    · cases paged
      exact fun _ inside => List.mem_of_mem_drop inside
    · cases paged
      exact fun _ inside => List.mem_of_mem_drop (List.mem_of_mem_take inside)

/-- Every row of a written log states the present schema version, under an id that SQLite
    can hold. -/
theorem written_row {rt : Runtime} {table : AuditTable} (log : Written rt table) :
    ∀ row ∈ table.rows, row.schemaVersion = .int auditSchemaVersion ∧ row.id ≤ maxRowId := by
  induction log with
  | empty => exact fun row inside => absurd inside List.not_mem_nil
  | append _ appended ih =>
    obtain ⟨payload,_,made,bound,rows⟩ := appendOnce_ok appended
    intro row inside
    rw [rows] at inside
    rcases List.mem_append.mp inside with earlier | last
    · exact ih row earlier
    · rw [List.mem_singleton.mp last]
      exact ⟨by rw [made]; rfl,bound⟩

section
variable {py : Interpreter} {loadsBytes : List UInt8 → Except PyException Json} {calls : Nat → AppendCall} {s : State}

/-- A row that holds the encoding of a payload is read as its record. -/
theorem recordOf_row {row : Row} {payload : Json} {t : Text} (version : row.schemaVersion = .int auditSchemaVersion)
    (encoded : canonicalJson py.rt payload = str t) (holds : row.payload = .text t)
    (readable : Readable py.floatOf py.rt py.jsonDepth payload) :
    recordOf py loadsBytes row = .ok (returnedRecord py.rt row (arranged true payload)) := by
  obtain ⟨u,written,loaded⟩ := loads_dumps true readable
  obtain rfl : t = u := str_inj.mp (encoded.symm.trans written)
  rw [recordOf,version,holds]
  have parsed : loadsCell py loadsBytes (.text t) = .ok (arranged true payload) := loaded
  rw [parsed]
  rfl

theorem recordOf_committed (inv : Inv py.rt calls s) {entry : Nat × Row} (committed : entry ∈ s.history)
    (readable : Readable py.floatOf py.rt py.jsonDepth (calls entry.1).payload) :
    recordOf py loadsBytes entry.2 = .ok (returnedRecord py.rt entry.2 (arranged true (calls entry.1).payload)) := by
  obtain ⟨t,encoded,holds⟩ := inv.carried entry committed
  have inside : entry.2 ∈ s.table.rows := by
    rw [inv.rows]
    exact List.mem_map_of_mem committed
  exact recordOf_row (written_row inv.log _ inside).1 encoded holds readable

/-- On a log whose newest payload can be read, `create_checkpoint` is the checkpoint of its
    newest row. -/
theorem createCheckpoint_eq {table : AuditTable} {record : AuditRecord} {row : Row} (last : table.last = some row)
    (read : recordOf py loadsBytes row = .ok record) (createdAt : UtcTime) :
    createCheckpoint py loadsBytes table createdAt = .ok (AuditLog.createCheckpoint py.rt table createdAt) := by
  have fields : record.id = row.id ∧ record.recordMac = row.recordMac.pyStr py.rt := by
    obtain ⟨version,_,read⟩ := bind_eq_ok.mp read
    obtain ⟨payload,_,read⟩ := bind_eq_ok.mp read
    cases read
    exact ⟨rfl,rfl⟩
  simp only [createCheckpoint,latest,last,read,map_ok,AuditLog.createCheckpoint,Option.map_some,checkpointOf,fields]

/-- What the call that committed a row returns, as it is read back. -/
def readBack (rt : Runtime) (calls : Nat → AppendCall) (entry : Nat × Row) : AuditRecord :=
  returnedRecord rt entry.2 (arranged true (calls entry.1).payload)

/-- A page of the table is the page of what the calls have committed. -/
theorem entries_page (inv : Inv py.rt calls s)
    (readable : ∀ entry ∈ s.history, Readable py.floatOf py.rt py.jsonDepth (calls entry.1).payload) (limit : Option Int)
    (offset : Int) : entries py loadsBytes s.table limit offset =
      (page limit offset s.history).map (List.map (readBack py.rt calls)) := by
  rw [entries,inv.rows,page_map,map_bind]
  cases paged : page limit offset s.history with
  | error e => rfl
  | ok found =>
    have each : ∀ entry ∈ found, (recordOf py loadsBytes ∘ Prod.snd) entry = .ok (readBack py.rt calls entry) := by
      intro entry inside
      have committed := page_subset paged entry inside
      exact recordOf_committed inv committed (readable entry committed)
    rw [ok_bind,List.mapM_map]
    exact mapM_ok each

end

/-- Whatever calls have written the log and however they were interleaved, every page holds
    the records that are committed, in the order of their commits, `latest` is the newest of
    them, and the id that a call has returned leads to its record. -/
theorem entries_returned (py : Interpreter) (loadsBytes : List UInt8 → Except PyException Json) (calls : Nat → AppendCall)
    (s : State) (reached : Reachable (step py.rt calls) .start s)
    (readable : ∀ entry ∈ s.history, Readable py.floatOf py.rt py.jsonDepth (calls entry.1).payload) :
    (∀ limit offset, entries py loadsBytes s.table limit offset =
      (page limit offset s.history).map (List.map (readBack py.rt calls))) ∧
    latest py loadsBytes s.table = .ok (s.history.getLast?.map (readBack py.rt calls)) ∧
    ∀ w row, s.writers w = .returned row →
      entries py loadsBytes s.table (some 1) (row.id - 1) = .ok [readBack py.rt calls (w,row)] := by
  have inv := reachable_inv reached
  refine ⟨entries_page inv readable,?_,fun w row phase => ?_⟩
  · rw [latest,AuditTable.last,inv.rows,List.getLast?_map]
    cases newest : s.history.getLast? with
    | none => rfl
    | some entry =>
      have committed := List.mem_of_getLast? newest
      simp only [Option.map_some,recordOf_committed inv committed (readable entry committed),map_ok]
      rfl
  · have ok := inv.writers w
    rw [phase] at ok
    obtain ⟨i,found⟩ := List.getElem?_of_mem ok.1
    have listed : s.table.rows[i]? = some row := by rw [inv.rows,List.getElem?_map,found]; rfl
    have position := inv.valid.id_getElem listed
    have bound := (written_row inv.log row (List.mem_of_getElem? listed)).2
    have one : page (some 1) (row.id - 1) s.history = .ok [(w,row)] := by
      have fits : (bindable 1 && bindable (row.id - 1)) = true := by
        simp only [bindable,Bool.and_eq_true,decide_eq_true_eq]
        unfold maxRowId at bound ⊢
        omega
      have offset : (row.id - 1).toNat = i := by omega
      rw [page]
      simp only [fits,↓reduceIte,offset]
      obtain ⟨inside,here⟩ := List.getElem?_eq_some_iff.mp found
      rw [List.drop_eq_getElem_cons inside,here]
      rfl
    rw [entries_page inv readable,one]
    rfl

/-- The second call has a payload that is not empty. -/
def pairedCalls : Nat → AppendCall := fun w => ⟨if w = 1 then .obj [field "a" (.int 1)] else .obj [],false⟩

/-- The second call commits before the first one has returned. -/
theorem entries_returned_paired :
    ∃ s row, run (step sampleRuntime pairedCalls) .start (committing 0 ++ committing 1 ++ [.finish 0,.finish 1]) = some s ∧
      row.recordMac = .text otherMac.text ∧
      entries sampleInterpreter (fun _ => .error .valueError) s.table (some 1) 1 =
        .ok [returnedRecord sampleRuntime row (.obj [field "a" (.int 1)])] := by
  have seen : (run (step sampleRuntime pairedCalls) .start (committing 0 ++ committing 1 ++ [.finish 0,.finish 1])).map
      (fun s => (s.history,s.writers 1)) =
        some ([(0,firstRow),(1,nextRow sampleRuntime (some firstRow) sampleTime.isoformat otherPayload)],
          .returned (nextRow sampleRuntime (some firstRow) sampleTime.isoformat otherPayload)) := by decide +kernel
  obtain ⟨s,ran,held⟩ := Option.map_eq_some_iff.mp seen
  obtain ⟨history,returned⟩ := Prod.mk.inj held
  have readable : ∀ entry ∈ s.history, Readable sampleInterpreter.floatOf sampleInterpreter.rt sampleInterpreter.jsonDepth
      (pairedCalls entry.1).payload := by
    have key : Utf8Encodable (lit "a") := encodable_lit _
    rw [history]
    intro entry inside
    simp only [List.mem_cons,List.not_mem_nil,or_false] at inside
    rcases inside with rfl | rfl
    · exact ⟨List.nodup_nil,fun _ inside => absurd inside List.not_mem_nil⟩
    · refine ⟨List.nodup_singleton _,fun entry inside => ?_⟩
      rw [List.mem_singleton.mp inside]
      exact ⟨key,readable_int.mpr (by decide)⟩
  obtain ⟨_,_,found⟩ := entries_returned sampleInterpreter (fun _ => .error .valueError) pairedCalls s ⟨_,ran⟩ readable
  exact ⟨s,_,ran,by decide +kernel,found 1 _ returned⟩

end PrivacyGateway.ReadLog
