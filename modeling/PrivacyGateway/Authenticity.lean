import PrivacyGateway.Tampering

/-!
Append calls interleaved with edits of the table by an attacker without the key. The
hashed text joins its fields with `|` and escapes nothing. As long as no written payload
and no copied hash holds a `|`, every row of a log that verifies carries the timestamp
and the payload that an append wrote under its id (`content_authentic`). A payload
that holds one can be moved across the field boundary unseen (`boundary_moved`).
-/
namespace PrivacyGateway.Authenticity
open PrivacyGateway.Strings PrivacyGateway.Errors PrivacyGateway.StdLib PrivacyGateway.SqlValues
open PrivacyGateway.Separated PrivacyGateway.HashChain PrivacyGateway.JsonText PrivacyGateway.AuditLog
open PrivacyGateway.Verification PrivacyGateway.Tampering PrivacyGateway.Runs

/-- The record of an append call, and the payload that the call was given. -/
structure Wrote where
  payload : Json
  row : Row

/-- The table, the content of the store and what the append calls have written. -/
structure Ledger where
  table : AuditTable
  store : Option (Option AuditCheckpoint)
  history : List Wrote

def Ledger.start (store : Option (Option AuditCheckpoint)) : Ledger := ⟨.empty,store,[]⟩

/-- An append call with a dict as its payload, or an edit. -/
inductive Move where
  | append (conditions : Conditions) (fields : List (PyStr × Json))
  | edit (table : AuditTable)

/-- An edit leaves any table whose valid pairs of hash and MAC an append has written. -/
def step (rt : Runtime) (ledger : Ledger) : Move → Option Ledger
  | .append conditions fields =>
    let done := append rt ledger.table ledger.store conditions (.obj fields)
    let added := done.table.rows.drop ledger.table.rows.length
    some ⟨done.table,done.store,ledger.history ++ added.map (Wrote.mk (.obj fields))⟩
  | .edit table =>
    if Unforged rt (ledger.history.map Wrote.row) table.rows then some { ledger with table } else none

/-- Every row carries the timestamp and the canonical payload that an append wrote under
    its id, and those of any written record whose hash it has. -/
def Authentic (rt : Runtime) (ledger : Ledger) : Prop :=
  ∀ r ∈ ledger.table.rows,
    (∃ w ∈ ledger.history, w.row.id = r.id ∧ w.row.timestamp = r.timestamp ∧
      ∃ t, canonicalJson rt w.payload = str t ∧ r.payload = .text t) ∧
    ∀ w ∈ ledger.history, w.row.recordHash = r.recordHash →
      w.row.timestamp = r.timestamp ∧ w.row.payload = r.payload

/-- At an append that writes its record, neither the canonical payload nor the hash of the
    newest row, which the record copies, holds a separator. -/
def BarFree (rt : Runtime) (ledger : Ledger) (move : Move) (next : Ledger) : Prop :=
  match move with
  | .append _ fields => next.history ≠ ledger.history →
      .scalar '|' ∉ canonicalJson rt (.obj fields) ∧ '|' ∉ prevHash rt ledger.table.last
  | .edit _ => True

/-- The record is one that an append makes, with no separator in its fields. -/
def Clean (rt : Runtime) (w : Wrote) : Prop :=
  ∃ (timestamp : UtcTime) (fields : List (PyStr × Json)) (payload : Text) (last : Option Row),
    w.payload = .obj fields ∧ canonicalJson rt (.obj fields) = str payload ∧ '|' ∉ payload ∧ '|' ∉ prevHash rt last ∧
      w.row = nextRow rt last timestamp.isoformat payload

structure Kept (rt : Runtime) (ledger : Ledger) : Prop where
  unforged : Unforged rt (ledger.history.map Wrote.row) ledger.table.rows
  clean : ∀ w ∈ ledger.history, Clean rt w

/-- A row from no append adds nothing to the history; a row from one is added to it. -/
theorem append_added (rt : Runtime) (table : AuditTable) (store : Option (Option AuditCheckpoint)) (conditions : Conditions)
    (payload : Json) :
    let done := append rt table store conditions payload
    done.table = table ∨ ∃ timestamp text, canonicalJson rt payload = str text ∧
      done.table.rows = table.rows ++ [nextRow rt table.last (UtcTime.isoformat timestamp) text] := by
  rcases append_spec rt table store conditions payload with ⟨timestamp,row,appended,_⟩ | ⟨_,same,_⟩
  · obtain ⟨text,encoded,rfl,_,rows⟩ := appendOnce_ok appended
    exact .inr ⟨timestamp,text,encoded,rows⟩
  · exact .inl same

theorem kept_start (rt : Runtime) (store : Option (Option AuditCheckpoint)) : Kept rt (.start store) where
  unforged := fun _ member => absurd member List.not_mem_nil
  clean := fun _ member => absurd member List.not_mem_nil

theorem kept_step {rt : Runtime} {ledger next : Ledger} {move : Move} (kept : Kept rt ledger)
    (stepped : step rt ledger move = some next) (barFree : BarFree rt ledger move next) : Kept rt next := by
  cases move with
  | append conditions fields =>
    cases stepped
    rcases append_added rt ledger.table ledger.store conditions (.obj fields) with same | ⟨timestamp,text,encoded,rows⟩
    · rw [same,List.drop_length,List.map_nil,List.append_nil]
      exact ⟨kept.unforged,kept.clean⟩
    · have written : ledger.history ++ ((append rt ledger.table ledger.store conditions (.obj fields)).table.rows.drop
          ledger.table.rows.length).map (Wrote.mk (.obj fields)) ≠ ledger.history := by simp [rows]
      have barFree := barFree written
      rw [encoded,mem_str] at barFree
      rw [rows,List.drop_left]
      constructor
      · intro r member signed
        simp only [rows,List.mem_append,List.mem_singleton] at member
        rcases member with earlier | rfl
        · refine (kept.unforged.mono fun w inHistory => ?_) r earlier signed
          rw [List.map_append]
          exact List.mem_append_left _ inHistory
        · exact ⟨_,by simp,rfl,rfl⟩
      · intro w member
        rcases List.mem_append.mp member with earlier | added
        · exact kept.clean w earlier
        · rw [List.map_singleton,List.mem_singleton] at added
          subst added
          exact ⟨timestamp,fields,text,ledger.table.last,rfl,encoded,barFree.1,barFree.2,rfl⟩
  | edit table =>
    rw [step] at stepped
    split_ifs at stepped with unforged
    cases stepped
    exact ⟨unforged,kept.clean⟩

theorem isoformat_head (t : UtcTime) : t.isoformat.head? ≠ some 'b' := by
  intro head
  have member : 'b' ∈ padded 4 t.year := by
    have first : (padded 4 t.year).head? = some 'b' := by
      rw [← head,UtcTime.isoformat]
      simp only [List.cons_append,List.append_assoc]
      cases year : padded 4 t.year with
      | nil => exact absurd (List.append_eq_nil_iff.mp year).2 (decimal_ne_nil _)
      | cons c rest => rfl
    exact List.mem_of_mem_head? first
  exact absurd (padded_chars member) (by decide)

/-- An intact row with the hash of a clean record has its timestamp and payload. -/
theorem content_of_hash {rt : Runtime} (collisionFree : CollisionFree rt) {w : Wrote} {r : Row} (clean : Clean rt w)
    (intact : Intact rt r) (same : w.row.recordHash = r.recordHash) :
    w.row.id = r.id ∧ w.row.timestamp = r.timestamp ∧ w.row.payload = r.payload ∧
      ∃ t, canonicalJson rt w.payload = str t ∧ r.payload = .text t := by
  obtain ⟨timestamp,fields,payload,last,isDict,encoded,payloadFree,prevFree,made⟩ := clean
  obtain ⟨version,_,hashed,_⟩ := intact
  rw [made,hashed] at same
  obtain ⟨ids,_,tails⟩ := material_split (collisionFree (HexText.ext (SqlValue.text.inj same)))
  have free : ∀ field ∈ [timestamp.isoformat,payload,prevHash rt last], '|' ∉ field := by
    simp [isoformat_bar_free,payloadFree,prevFree]
  have fieldsSame : [r.timestamp.pyStr rt,r.payload.pyStr rt,r.prevHash.pyStr rt] =
      [timestamp.isoformat,payload,prevHash rt last] := joined_unique rfl free tails.symm
  simp only [List.cons.injEq,and_true] at fieldsSame
  obtain ⟨timestampSame,payloadSame,_⟩ := fieldsSame
  have colon : ':' ∈ timestamp.isoformat := by simp [UtcTime.isoformat]
  have timestampIs := text_of_pyStr timestampSame (isoformat_head timestamp) colon (by decide)
  obtain ⟨rest,opened⟩ := dumps_obj_head rt true fields
  have braced : payload.head? = some '\x7b' := by
    rw [canonicalJson,opened] at encoded
    cases payload with
    | nil => cases encoded
    | cons c payload => exact congrArg some (PyChar.scalar.inj (List.cons.inj encoded).1).symm
  have payloadIs := text_of_pyStr payloadSame (by rw [braced]; decide) (List.mem_of_mem_head? braced) (by decide)
  rw [made,isDict]
  exact ⟨ids,timestampIs.symm,payloadIs.symm,payload,encoded,payloadIs⟩

/-- In every run without separators in the written fields, a log that verifies is
    authentic. -/
theorem content_authentic (rt : Runtime) (collisionFree : CollisionFree rt) (store : Option (Option AuditCheckpoint))
    (moves : List Move) (ledger : Ledger) (ran : run (step rt) (.start store) moves = some ledger)
    (barFree : Along (step rt) (BarFree rt) (.start store) moves) (result : Verification)
    (verified : verifyChain rt ledger.table none = .ok result) (status : result.status = .valid) :
    Authentic rt ledger := by
  have kept : Kept rt ledger := invariant_along kept_step (kept_start rt store) barFree ran
  have valid := validChain_of_valid verified status
  intro r member
  have intact := valid.2 r member
  refine ⟨?_,fun w inHistory same => ?_⟩
  · obtain ⟨version,_,hashed,macIs⟩ := intact
    obtain ⟨row,inRows,sameHash,_⟩ := kept.unforged r member ⟨_,hashed,macIs⟩
    obtain ⟨w,inHistory,rfl⟩ := List.mem_map.mp inRows
    obtain ⟨ids,timestamps,_,payload⟩ :=
      content_of_hash collisionFree (kept.clean w inHistory) (valid.2 r member) sameHash
    exact ⟨w,inHistory,ids,timestamps,payload⟩
  · obtain ⟨_,timestamps,payloads,_⟩ := content_of_hash collisionFree (kept.clean w inHistory) intact same
    exact ⟨timestamps,payloads⟩

def sampleConditions : Conditions := ⟨fun _ => sampleTime,fun _ => none,sampleTime,none⟩

/-- The database is locked at every attempt. -/
def lockedConditions : Conditions := { sampleConditions with fault := fun _ => some (.sqlite .operational) }

/-- A request for the model `a|b`. -/
def barFields : List (PyStr × Json) := [field "model" (.str (lit "a|b"))]

/-- The first record alone, with a schema version that `int` truncates to its own. -/
def strippedTable : AuditTable := ⟨[{ firstRow with schemaVersion := .real (.finite (5 / 2)) }],List.pairwise_singleton ..⟩

/-- Two appends, one with a separator that writes nothing, and an attacker who deletes the
    newest record and changes the other one: what verifies is authentic. -/
theorem content_authentic_stripped :
    Authentic sampleRuntime ⟨strippedTable,none,[⟨.obj [],firstRow⟩,⟨.obj [],secondRow⟩]⟩ := by
  have encoded : canonicalJson sampleRuntime (.obj []) = str emptyPayload := by decide +kernel
  have first : append sampleRuntime .empty none sampleConditions (.obj []) = ⟨.ok firstRow,oneRecord,none⟩ := by
    have tried : attempts sampleRuntime .empty sampleConditions (canonicalJson sampleRuntime (.obj []))
        appendRetries = .ok (firstRow,oneRecord) := by decide +kernel
    simp only [append,tried]
  have second : append sampleRuntime oneRecord none sampleConditions (.obj []) = ⟨.ok secondRow,twoRecords,none⟩ := by
    have tried : attempts sampleRuntime oneRecord sampleConditions (canonicalJson sampleRuntime (.obj []))
        appendRetries = .ok (secondRow,twoRecords) := by decide +kernel
    simp only [append,tried]
  have locked : append sampleRuntime twoRecords none lockedConditions (.obj barFields) =
      ⟨.error (.gateway auditWriteError),twoRecords,none⟩ := rfl
  have unforged : Unforged sampleRuntime [firstRow,secondRow] strippedTable.rows := by
    intro row member _
    rw [List.mem_singleton.mp member]
    exact ⟨firstRow,List.mem_cons_self,rfl,rfl⟩
  refine content_authentic sampleRuntime sampleRuntime_collisionFree none
    [.append sampleConditions [],.append sampleConditions [],.append lockedConditions barFields,.edit strippedTable] _ ?_ ?_
    ⟨.valid,1,none,none,false⟩ (by decide +kernel) rfl
  · simp only [run,step,Ledger.start,first,second,locked,Option.bind_some]
    exact Option.bind_eq_some_iff.mpr ⟨_,if_pos unforged,rfl⟩
  · have empty : .scalar '|' ∉ canonicalJson sampleRuntime (.obj []) := by
      rw [encoded]
      decide
    intro one made
    cases made
    refine ⟨fun _ => ⟨empty,by decide⟩,fun two made => ?_⟩
    simp only [step,Ledger.start,first] at made
    cases made
    refine ⟨fun _ => ⟨empty,by decide +kernel⟩,fun three made => ?_⟩
    simp only [step,second] at made
    cases made
    refine ⟨fun written => absurd ?_ written,fun four made => ⟨trivial,trivial⟩⟩
    rw [locked]
    rfl

/-- The row with its content cut at another separator. -/
def recut (row : Row) (timestamp payload : Text) : Row :=
  { row with timestamp := .text timestamp, payload := .text payload }

theorem recut_intact (rt : Runtime) (last : Option Row) {timestamp payload front back : Text}
    (same : front ++ '|' :: back = timestamp ++ '|' :: payload) :
    Intact rt (recut (nextRow rt last timestamp payload) front back) := by
  have moved : material (nextId last) auditSchemaVersion front back (prevHash rt last) =
      material (nextId last) auditSchemaVersion timestamp payload (prevHash rt last) := by
    have tails : joined '|' [front,back,prevHash rt last] = joined '|' [timestamp,payload,prevHash rt last] := by
      have regrouped := congrArg (fun text => text ++ '|' :: prevHash rt last) same
      simpa [joined] using regrouped
    simp only [material,joined] at tails ⊢
    rw [tails]
  refine ⟨auditSchemaVersion,rfl,?_,?_⟩
  all_goals simp only [recut,contentHash,computeRecordHash,SqlValue.pyStr,nextRow,moved]

/-- An append whose canonical payload holds a separator leaves a record that the
    attacker can change unseen, when the log before it was valid. -/
theorem boundary_moved (rt : Runtime) (ledger next : Ledger) (conditions : Conditions) (fields : List (PyStr × Json))
    (stepped : step rt ledger (.append conditions fields) = some next) (added : next.table ≠ ledger.table)
    (valid : ValidChain rt ledger.table.rows) (unforged : Unforged rt (ledger.history.map Wrote.row) ledger.table.rows)
    (held : .scalar '|' ∈ canonicalJson rt (.obj fields)) :
    ∃ edited after result, step rt next (.edit edited) = some after ∧ verifyChain rt after.table none = .ok result ∧
      result.status = .valid ∧ ¬ Authentic rt after := by
  cases stepped
  rcases append_added rt ledger.table ledger.store conditions (.obj fields) with same | ⟨timestamp,text,encoded,rows⟩
  · exact absurd same added
  · rw [encoded,mem_str] at held
    obtain ⟨front,back,other,same⟩ := exists_other_split timestamp.isoformat held
    let row := nextRow rt ledger.table.last timestamp.isoformat text
    let forged := recut row front back
    have sameIds : (ledger.table.rows ++ [forged]).map Row.id = (ledger.table.rows ++ [row]).map Row.id := by
      simp [forged,recut]
    have sorted : (ledger.table.rows ++ [forged]).Pairwise (fun a b => a.id < b.id) := by
      have before := (append rt ledger.table ledger.store conditions (.obj fields)).table.sorted
      rw [rows] at before
      exact List.pairwise_map.mp (sameIds ▸ List.pairwise_map.mpr before)
    have passes : ValidChain rt (ledger.table.rows ++ [forged]) := by
      have sameSeals : (ledger.table.rows ++ [forged]).map sealOf = (ledger.table.rows ++ [row]).map sealOf := by
        simp [forged,recut,sealOf]
      refine ⟨sameSeals ▸ (valid.next timestamp.isoformat text).1,fun r member => ?_⟩
      rcases List.mem_append.mp member with earlier | last
      · exact valid.2 r earlier
      · rw [List.mem_singleton.mp last]
        exact recut_intact rt _ same
    refine ⟨⟨_,sorted⟩,_,_,if_pos ?_,verify_valid passes (by simp),rfl,fun authentic => ?_⟩
    · intro r member signed
      simp only [rows,List.drop_left]
      rcases List.mem_append.mp member with earlier | last
      · refine (unforged.mono fun w inHistory => ?_) r earlier signed
        rw [List.map_append]
        exact List.mem_append_left _ inHistory
      · refine ⟨row,by simp [row],?_⟩
        rw [List.mem_singleton.mp last]
        exact ⟨rfl,rfl⟩
    · have written := (authentic forged (by simp)).2 ⟨.obj fields,row⟩ (by simp [rows,row]) rfl
      exact other (SqlValue.text.inj written.1).symm

def barRow : Row := nextRow sampleRuntime none sampleTime.isoformat barPayload

def barTable : AuditTable := ⟨[barRow],List.pairwise_singleton ..⟩

/-- The record with the payload's beginning moved into the timestamp. -/
def movedRow : Row := recut barRow (sampleTime.isoformat ++ "|\x7b\"model\":\"a".toList) "b\"\x7d".toList

def movedTable : AuditTable := ⟨[movedRow],List.pairwise_singleton ..⟩

/-- One append and one edit of two cells, and the log is VALID with a payload that no
    append wrote. -/
theorem moved_record_verifies :
    CollisionFree sampleRuntime ∧
    run (step sampleRuntime) (.start none) [.append sampleConditions barFields,.edit movedTable] =
      some ⟨movedTable,none,[⟨.obj barFields,barRow⟩]⟩ ∧
    verifyChain sampleRuntime movedTable none = .ok ⟨.valid,1,none,none,false⟩ ∧
    ¬ Authentic sampleRuntime ⟨movedTable,none,[⟨.obj barFields,barRow⟩]⟩ := by
  have appended : append sampleRuntime .empty none sampleConditions (.obj barFields) = ⟨.ok barRow,barTable,none⟩ := by
    have tried : attempts sampleRuntime .empty sampleConditions (canonicalJson sampleRuntime (.obj barFields))
        appendRetries = .ok (barRow,barTable) := by decide +kernel
    simp only [append,tried]
  have unforged : Unforged sampleRuntime [barRow] movedTable.rows := by
    intro row member _
    rw [List.mem_singleton.mp member]
    exact ⟨barRow,List.mem_singleton_self _,rfl,rfl⟩
  refine ⟨sampleRuntime_collisionFree,?_,by decide +kernel,fun authentic => ?_⟩
  · simp only [run,step,Ledger.start,appended,Option.bind_some]
    rw [Option.bind_eq_some_iff]
    exact ⟨_,if_pos unforged,rfl⟩
  · have written := (authentic movedRow (List.mem_singleton_self _)).2 _ (List.mem_singleton_self _) rfl
    exact absurd written.2 (by decide +kernel)

end PrivacyGateway.Authenticity
