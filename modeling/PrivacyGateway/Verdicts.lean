import PrivacyGateway.Tampering

/-!
Which tables the verifier reaches a verdict on. A database file can hold any value in any
cell, also a TEXT that is not UTF-8, which `fetchall` refuses; the walk raises where `int`
or `compare_digest` refuse a cell of a row that it has come to. An UPDATE converts its
value by the affinity of the column before it is stored. A single overwritten cell of a
written log is reported unless what is stored is one of those values, or a schema version
that `int` truncates to the right one (`verdict_reached_iff`).
-/
namespace PrivacyGateway.Verdicts
open PrivacyGateway.Strings PrivacyGateway.Errors PrivacyGateway.StdLib PrivacyGateway.SqlValues
open PrivacyGateway.HashChain PrivacyGateway.AuditLog PrivacyGateway.Verification PrivacyGateway.Tampering

/-- A cell: a value that `sqlite3` hands to Python, or a TEXT whose bytes are not UTF-8. -/
inductive StoredValue where
  | value (v : SqlValue)
  | undecodable (bytes : List UInt8)
  deriving DecidableEq

def StoredValue.decode : StoredValue → Option SqlValue
  | .value v => some v
  | .undecodable _ => none

structure StoredRow where
  id : Int
  schemaVersion : StoredValue
  timestamp : StoredValue
  payload : StoredValue
  prevHash : StoredValue
  recordHash : StoredValue
  recordMac : StoredValue
  deriving DecidableEq

def StoredRow.decode (row : StoredRow) : Option Row :=
  row.schemaVersion.decode.bind fun schemaVersion => row.timestamp.decode.bind fun timestamp =>
    row.payload.decode.bind fun payload => row.prevHash.decode.bind fun prevHash =>
      row.recordHash.decode.bind fun recordHash => row.recordMac.decode.map fun recordMac =>
        ⟨row.id,schemaVersion,timestamp,payload,prevHash,recordHash,recordMac⟩

/-- The rows, if every cell of them can be decoded. -/
def decodeAll : List StoredRow → Option (List Row)
  | [] => some []
  | row :: rest => row.decode.bind fun r => (decodeAll rest).map (r :: ·)

/-- `audit_log` as SQLite holds it. -/
structure StoredTable where
  rows : List StoredRow
  sorted : rows.Pairwise (fun a b => a.id < b.id)

theorem decode_id {row : StoredRow} {r : Row} (decoded : row.decode = some r) : r.id = row.id := by
  simp only [StoredRow.decode,Option.bind_eq_some_iff,Option.map_eq_some_iff] at decoded
  obtain ⟨_,_,_,_,_,_,_,_,_,_,_,_,rfl⟩ := decoded
  rfl

theorem decodeAll_ids {rows : List StoredRow} {decoded : List Row} (all : decodeAll rows = some decoded) :
    decoded.map Row.id = rows.map StoredRow.id := by
  induction rows generalizing decoded with
  | nil =>
    cases all
    rfl
  | cons row rest ih =>
    obtain ⟨r,here,all⟩ := Option.bind_eq_some_iff.mp all
    obtain ⟨more,others,rfl⟩ := Option.map_eq_some_iff.mp all
    rw [List.map_cons,List.map_cons,decode_id here,ih others]

theorem decodeAll_sorted {table : StoredTable} {decoded : List Row} (all : decodeAll table.rows = some decoded) :
    decoded.Pairwise (fun a b => a.id < b.id) := by
  have ids := List.pairwise_map.mpr table.sorted
  rw [← decodeAll_ids all] at ids
  exact List.pairwise_map.mp ids

/-- `fetchall()` -/
def StoredTable.fetch (table : StoredTable) : Except PyException AuditTable :=
  match all : decodeAll table.rows with
  | some rows => .ok ⟨rows,decodeAll_sorted all⟩
  | none => .error (.sqlite .operational)

/-- `verify_chain(checkpoint)` on what SQLite holds. -/
def verifyStored (rt : Runtime) (table : StoredTable) (checkpoint : Option AuditCheckpoint) :
    Except PyException Verification := table.fetch.bind fun fetched => verifyChain rt fetched checkpoint

/-! ### One overwritten cell -/

def StoredRow.of (row : Row) : StoredRow where
  id := row.id
  schemaVersion := .value row.schemaVersion
  timestamp := .value row.timestamp
  payload := .value row.payload
  prevHash := .value row.prevHash
  recordHash := .value row.recordHash
  recordMac := .value row.recordMac

/-- The rows with that of the given id as `edit` leaves it. -/
def edited (edit : StoredRow → StoredRow) (recordId : Int) (rows : List Row) : List StoredRow :=
  rows.map fun row => if row.id = recordId then edit (.of row) else .of row

theorem edited_sorted (edit : StoredRow → StoredRow) (keeps : ∀ row, (edit row).id = row.id) (recordId : Int)
    {rows : List Row} (sorted : rows.Pairwise (fun a b => a.id < b.id)) :
    (edited edit recordId rows).Pairwise (fun a b => a.id < b.id) := by
  refine List.pairwise_map.mpr (sorted.imp fun {a b} before => ?_)
  have same : ∀ row : Row, (if row.id = recordId then edit (.of row) else .of row).id = row.id := by
    intro row
    split_ifs
    · exact keeps _
    · rfl
  rw [same,same]
  exact before

def StoredRow.setSchemaVersion (v : StoredValue) (row : StoredRow) : StoredRow := { row with schemaVersion := v }
def StoredRow.setRecordMac (v : StoredValue) (row : StoredRow) : StoredRow := { row with recordMac := v }

/-- What the SQLite library makes of a REAL as TEXT, and of a TEXT that spells a number. -/
structure Conversions where
  realText : PyFloat → Text
  number : Text → Option SqlValue

section
variable (conversions : Conversions)

/-- What a `TEXT NOT NULL` column stores of a value: numbers are written out, and a NaN, which
    SQLite takes for NULL, is refused. -/
def textAffinity : StoredValue → Option StoredValue
  | .value (.int n) => some (.value (.text (decimalInt n)))
  | .value (.real .nan) => none
  | .value (.real x) => some (.value (.text (conversions.realText x)))
  | v => some v

/-- A REAL without a fraction becomes an INTEGER if it fits. -/
def wholeNumber : SqlValue → SqlValue
  | .real (.finite x) => if x.den = 1 ∧ -2 ^ 63 < x.num ∧ x.num < 2 ^ 63 - 1 then .int x.num else .real (.finite x)
  | v => v

/-- What an `INTEGER NOT NULL` column stores of a value: a text that spells a number becomes it. -/
def integerAffinity : StoredValue → Option StoredValue
  | .value (.real .nan) => none
  | .value (.text t) => some (.value (wholeNumber ((conversions.number t).getD (.text t))))
  | .value v => some (.value (wholeNumber v))
  | v => some v

/-- `UPDATE audit_log SET schema_version = ? WHERE id = ?`, or `none` where it is refused. -/
def overwriteSchemaVersion (table : AuditTable) (recordId : Int) (value : StoredValue) : Option StoredTable :=
  (integerAffinity conversions value).map fun v =>
    ⟨edited (.setSchemaVersion v) recordId table.rows,edited_sorted (.setSchemaVersion v) (fun _ => rfl) recordId table.sorted⟩

/-- `UPDATE audit_log SET record_mac = ? WHERE id = ?`, or `none` where it is refused. -/
def overwriteRecordMac (table : AuditTable) (recordId : Int) (value : StoredValue) : Option StoredTable :=
  (textAffinity conversions value).map fun v =>
    ⟨edited (.setRecordMac v) recordId table.rows,edited_sorted (.setRecordMac v) (fun _ => rfl) recordId table.sorted⟩

end

/-- Whatever the checkpoint, the verdict is INVALID and names the record. -/
def ReportedAt (rt : Runtime) (table : StoredTable) (recordId : Int) : Prop :=
  ∀ checkpoint, ∃ result, verifyStored rt table checkpoint = .ok result ∧ result.status = .invalid ∧
    result.firstInvalidId = some recordId

section
variable {rt : Runtime} {table : StoredTable} {checkpoint : Option AuditCheckpoint}

theorem decode_of (row : Row) : (StoredRow.of row).decode = some row := rfl

theorem decodeAll_append (first second : List StoredRow) :
    decodeAll (first ++ second) = (decodeAll first).bind fun rows => (decodeAll second).map (rows ++ ·) := by
  induction first with
  | nil =>
    rw [List.nil_append,decodeAll,Option.bind_some]
    exact Option.map_id'.symm ▸ rfl
  | cons row rest ih =>
    rw [List.cons_append,decodeAll,decodeAll,ih]
    cases row.decode with
    | none => rfl
    | some r =>
      cases decodeAll rest with
      | none => rfl
      | some more => cases decodeAll second <;> rfl

theorem decodeAll_of (rows : List Row) : decodeAll (rows.map StoredRow.of) = some rows := by
  induction rows with
  | nil => rfl
  | cons row rest ih => rw [List.map_cons,decodeAll,decode_of,ih]; rfl

theorem fetch_ok {rows : List Row} (all : decodeAll table.rows = some rows) :
    ∃ fetched, table.fetch = .ok fetched ∧ fetched.rows = rows := by
  unfold StoredTable.fetch
  split
  · rename_i found same
    rw [all,Option.some.injEq] at same
    exact ⟨_,rfl,same.symm⟩
  · rename_i missing
    rw [all] at missing
    cases missing

/-- Editing one record of a table leaves the rows around it. -/
theorem edited_split {edit : StoredRow → StoredRow} {front rest : List Row} {row : Row}
    (sorted : (front ++ row :: rest).Pairwise (fun a b => a.id < b.id)) :
    edited edit row.id (front ++ row :: rest) = front.map .of ++ edit (.of row) :: rest.map .of := by
  obtain ⟨_,inner,cross⟩ := List.pairwise_append.mp sorted
  have earlier : front.map (fun r => if r.id = row.id then edit (.of r) else .of r) = front.map StoredRow.of := by
    refine List.map_congr_left fun r member => if_neg ?_
    have := cross r member row List.mem_cons_self
    omega
  have later : rest.map (fun r => if r.id = row.id then edit (.of r) else .of r) = rest.map StoredRow.of := by
    refine List.map_congr_left fun r member => if_neg ?_
    have := (List.pairwise_cons.mp inner).1 r member
    omega
  rw [edited,List.map_append,List.map_cons,earlier,later,if_pos rfl]

theorem fetch_error (undecodable : decodeAll table.rows = none) : table.fetch = .error (.sqlite .operational) := by
  unfold StoredTable.fetch
  split
  · rename_i found same
    rw [undecodable] at same
    cases same
  · rfl

end

/-! ### The verdict -/

section
variable {rt : Runtime}

/-- A checkpoint that names a record of a valid log states an ASCII MAC. -/
def ComparableWith (rt : Runtime) (rows : List Row) (checkpoint : Option AuditCheckpoint) : Prop :=
  ∀ c, checkpoint = some c → ValidChain rt rows → (∃ row ∈ rows, row.id = c.lastRecordId) → isAscii c.lastRecordMac = true

/-- The comparison with the checkpoint raises just when the MAC it states is not ASCII. -/
theorem checkTail_ok_iff {table : AuditTable} (valid : ValidChain rt table.rows) (latestId : Int)
    (checkpoint : Option AuditCheckpoint) :
    (∃ result, checkTail (advanceAll .start table.rows) latestId checkpoint = .ok result) ↔
      ComparableWith rt table.rows checkpoint := by
  cases checkpoint with
  | none => exact iff_of_true ⟨_,rfl⟩ fun c same => by cases same
  | some c =>
    have comparable : ComparableWith rt table.rows (some c) ↔
        ((∃ row ∈ table.rows, row.id = c.lastRecordId) → isAscii c.lastRecordMac = true) := by
      simp [ComparableWith,valid]
    rw [comparable,checkTail]
    cases looked : (advanceAll .start table.rows).macsById.lookup c.lastRecordId with
    | none =>
      refine iff_of_true ⟨_,rfl⟩ ?_
      rintro ⟨row,member,same⟩
      obtain ⟨i,found⟩ := List.getElem?_of_mem member
      have position := valid.id_getElem found
      rw [lookup_macs valid,if_pos (by omega),show (c.lastRecordId - 1).toNat = i by omega,found] at looked
      cases looked
    | some expectedMac =>
      rw [lookup_macs valid] at looked
      split_ifs at looked with positive
      obtain ⟨row,found,rfl⟩ := Option.map_eq_some_iff.mp looked
      have member := List.mem_of_getElem? found
      have position := valid.id_getElem found
      obtain ⟨h,macIs,_⟩ := (valid.2 row member).mac_text
      have named : ∃ row ∈ table.rows, row.id = c.lastRecordId := ⟨row,member,by omega⟩
      rw [forall_prop_of_true named]
      simp only [macIs,SqlValue.digestArg,compareDigest,h.ascii,Bool.true_and]
      cases ascii : isAscii c.lastRecordMac with
      | false => simp
      | true =>
        simp only [if_true,iff_true]
        cases decide (str h.text = c.lastRecordMac) with
        | false => exact ⟨_,rfl⟩
        | true =>
          simp only
          split_ifs <;> exact ⟨_,rfl⟩

/-- `verify_chain` on a fetched table raises just where a row or the checkpoint cannot be read. -/
theorem verifyChain_ok_iff (table : AuditTable) (checkpoint : Option AuditCheckpoint) :
    (∃ result, verifyChain rt table checkpoint = .ok result) ↔
      Readable rt table.rows ∧ ComparableWith rt table.rows checkpoint := by
  by_cases valid : ValidChain rt table.rows
  · have readable : Readable rt table.rows := by
      intro front row rest split _ _
      exact (valid.2 row (by rw [split]; simp)).readable
    rw [and_iff_right readable]
    by_cases empty : table.rows = []
    · refine iff_of_true ?_ fun c _ _ named => ?_
      · simp only [verifyChain,last_eq_none.mpr empty]
        cases checkpoint <;> exact ⟨_,rfl⟩
      · obtain ⟨row,member,_⟩ := named
        rw [empty] at member
        cases member
    · rw [verifyChain_valid valid empty]
      exact checkTail_ok_iff valid _ checkpoint
  · have comparable : ComparableWith rt table.rows checkpoint := fun c _ isValid => absurd isValid valid
    rw [and_iff_left comparable]
    obtain ⟨front,row,rest,split,passes,fails,outcome⟩ := verifyChain_broken valid
    rcases outcome with ⟨_,reason,verdict⟩ | ⟨follows,unreadable,e,raised⟩
    · exact iff_of_true ⟨_,verdict checkpoint⟩ (readable_of_verdict (verdict checkpoint))
    · rw [raised]
      exact iff_of_false (by simp) fun readable => readable front row rest split passes follows unreadable

/-- What SQLite holds gets a verdict just where all of it can be decoded and the walk and the
    checkpoint can be read. -/
theorem verifyStored_ok_iff (table : StoredTable) (checkpoint : Option AuditCheckpoint) :
    (∃ result, verifyStored rt table checkpoint = .ok result) ↔
      ∃ rows, decodeAll table.rows = some rows ∧ Readable rt rows ∧ ComparableWith rt rows checkpoint := by
  rw [verifyStored]
  cases all : decodeAll table.rows with
  | none => simp [fetch_error all,Except.bind]
  | some rows =>
    obtain ⟨fetched,got,rfl⟩ := fetch_ok all
    simp only [got,Except.bind,verifyChain_ok_iff,Option.some.injEq,exists_eq_left']

/-- A record changed in place, with its seal as it was: the verdict is INVALID there just
    when the record is not intact any more and can be read. -/
theorem changed_reported_iff {table : AuditTable} {front rest : List Row} {row changed : Row}
    (valid : ValidChain rt (front ++ row :: rest)) (rows : table.rows = front ++ changed :: rest)
    (sealed : sealOf changed = sealOf row) :
    (∀ checkpoint, ∃ result, verifyChain rt table checkpoint = .ok result ∧ result.status = .invalid ∧
        result.firstInvalidId = some row.id) ↔ ¬ Intact rt changed ∧ ¬ Unreadable rt changed := by
  obtain ⟨passes,later⟩ := passes_append.mp valid
  obtain ⟨⟨⟨position,linked⟩,_⟩,others⟩ := passes_cons.mp later
  simp only [sealOf,Seal.mk.injEq] at sealed
  have follows : Follows (advanceAll .start front) changed := ⟨sealed.1.trans position,sealed.2.1.trans linked⟩
  obtain ⟨latest,found⟩ : ∃ latest, table.last = some latest := by
    rw [← Option.ne_none_iff_exists',ne_eq,last_eq_none,rows]
    simp
  have walked : walkRows rt .start table.rows = walkRows rt (advanceAll .start front) (changed :: rest) := by
    rw [rows]
    exact walkRows_append passes _
  rcases checkRow_spec rt (advanceAll .start front) changed with ⟨_,intact,_⟩ | ⟨fails,readable,reason,checked⟩ |
    ⟨_,unreadable,e,checked⟩
  · refine iff_of_false (fun reported => ?_) fun both => both.1 intact
    have chain : ValidChain rt table.rows := by
      rw [rows]
      refine passes_append.mpr ⟨passes,passes_cons.mpr ⟨⟨follows,intact⟩,?_⟩⟩
      simp only [Passes,advance,sealed.2.2] at others ⊢
      exact others
    obtain ⟨result,verified,status,_⟩ := reported none
    rw [verify_valid chain (by simp [rows])] at verified
    cases verified
    cases status
  · refine iff_of_true (fun checkpoint => ⟨rejected (advanceAll .start front) changed reason,?_,rfl,?_⟩)
      ⟨fun intact => fails ⟨follows,intact⟩,fun unreadable => readable ⟨follows,unreadable⟩⟩
    · simp only [verifyChain,found,walked,walkRows,checked]
    · rw [rejected,sealed.1]
  · refine iff_of_false (fun reported => ?_) fun both => both.2 unreadable
    obtain ⟨result,verified,_⟩ := reported none
    simp [verifyChain,found,walked,walkRows,checked] at verified

/-- The same for a record of a log that is edited in SQLite. -/
theorem edited_reported_iff {log : AuditTable} (valid : ValidChain rt log.rows) {row changed : Row} (member : row ∈ log.rows)
    {edit : StoredRow → StoredRow} (decoded : (edit (.of row)).decode = some changed) (sealed : sealOf changed = sealOf row)
    {table : StoredTable} (rows : table.rows = edited edit row.id log.rows) :
    ReportedAt rt table row.id ↔ ¬ Intact rt changed ∧ ¬ Unreadable rt changed := by
  obtain ⟨front,rest,split⟩ := List.append_of_mem member
  have sorted := log.sorted
  rw [split] at valid sorted rows
  rw [edited_split sorted] at rows
  have all : decodeAll table.rows = some (front ++ changed :: rest) := by
    rw [rows,decodeAll_append,decodeAll_of,decodeAll,decoded,decodeAll_of]
    rfl
  obtain ⟨fetched,got,fetchedRows⟩ := fetch_ok all
  rw [← changed_reported_iff valid fetchedRows sealed]
  simp only [ReportedAt,verifyStored,got,Except.bind]

/-- An edit that leaves a cell that cannot be decoded is not reported as a verdict. -/
theorem edited_undecodable {log : AuditTable} {row : Row} (member : row ∈ log.rows) {edit : StoredRow → StoredRow}
    (undecodable : (edit (.of row)).decode = none) {table : StoredTable} (rows : table.rows = edited edit row.id log.rows) :
    ¬ ReportedAt rt table row.id := by
  obtain ⟨front,rest,split⟩ := List.append_of_mem member
  have sorted := log.sorted
  rw [split] at sorted rows
  rw [edited_split sorted] at rows
  have none_ : decodeAll table.rows = none := by
    rw [rows,decodeAll_append,decodeAll_of,decodeAll,undecodable]
    rfl
  intro reported
  obtain ⟨result,verified,_⟩ := reported none
  rw [verifyStored,fetch_error none_] at verified
  cases verified

/-- Every record of a written log states the schema version. -/
theorem written_version {log : AuditTable} (written : Written rt log) :
    ∀ row ∈ log.rows, row.schemaVersion = .int auditSchemaVersion := by
  induction written with
  | empty => exact fun row member => absurd member List.not_mem_nil
  | append _ appended ih =>
    obtain ⟨payload,_,rfl,_,rows⟩ := appendOnce_ok appended
    rw [rows]
    intro row member
    rcases List.mem_append.mp member with earlier | here
    · exact ih row earlier
    · rw [List.mem_singleton.mp here]
      rfl

/-- A stored schema version that is read as another integer is reported, and nothing else is. -/
theorem version_reported_iff (collisionFree : CollisionFree rt) {log : AuditTable} (written : Written rt log) {row : Row}
    (member : row ∈ log.rows) (v : StoredValue) {table : StoredTable}
    (rows : table.rows = edited (.setSchemaVersion v) row.id log.rows) :
    ReportedAt rt table row.id ↔ ∃ x n, v = .value x ∧ x.pyInt rt = .ok n ∧ n ≠ auditSchemaVersion := by
  cases v with
  | undecodable bytes =>
    refine iff_of_false (edited_undecodable member ?_ rows) fun ⟨x,n,same,_⟩ => by cases same
    rfl
  | value x =>
    have valid := written.validChain
    obtain ⟨version,read,hashed,macIs⟩ := valid.2 row member
    rw [written_version written row member,SqlValue.pyInt,Except.ok.injEq] at read
    subst read
    have decoded : (StoredRow.setSchemaVersion (.value x) (.of row)).decode = some { row with schemaVersion := x } := rfl
    rw [edited_reported_iff valid member decoded rfl rows]
    cases readX : x.pyInt rt with
    | error e =>
      refine iff_of_false (fun both => both.2 (.inl ⟨e,readX⟩)) ?_
      rintro ⟨y,n,same,readY,_⟩
      cases same
      rw [readX] at readY
      cases readY
    | ok n =>
      have readX' : { row with schemaVersion := x }.schemaVersion.pyInt rt = .ok n := readX
      have content : row.recordHash = .text (contentHash rt { row with schemaVersion := x } n).text ↔ n = auditSchemaVersion := by
        rw [hashed,SqlValue.text.injEq]
        constructor
        · intro same
          exact (material_split (collisionFree (HexText.ext same))).2.1.symm
        · rintro rfl
          rfl
      rw [intact_iff readX',unreadable_iff readX']
      by_cases right : n = auditSchemaVersion
      · refine iff_of_false (fun both => both.1 ⟨content.mpr right,?_⟩) ?_
        · rw [right]
          exact macIs
        · rintro ⟨y,m,same,readY,wrong⟩
          cases same
          rw [readX,Except.ok.injEq] at readY
          exact wrong (readY ▸ right)
      · refine iff_of_true ⟨fun both => right (content.mp both.1),fun both => right (content.mp both.1)⟩ ?_
        exact ⟨x,n,rfl,readX,right⟩

/-- A different MAC is reported if an ASCII text is stored, and nothing else is. -/
theorem mac_reported_iff {log : AuditTable} (written : Written rt log) {row : Row} (member : row ∈ log.rows)
    {v : StoredValue} (different : v ≠ .value row.recordMac) {table : StoredTable}
    (rows : table.rows = edited (.setRecordMac v) row.id log.rows) :
    ReportedAt rt table row.id ↔ ∃ t, v = .value (.text t) ∧ isAscii (str t) = true := by
  cases v with
  | undecodable bytes =>
    refine iff_of_false (edited_undecodable member ?_ rows) fun ⟨t,same,_⟩ => by cases same
    rfl
  | value x =>
    have valid := written.validChain
    obtain ⟨version,read,hashed,macIs⟩ := valid.2 row member
    have decoded : (StoredRow.setRecordMac (.value x) (.of row)).decode = some { row with recordMac := x } := rfl
    have readX : { row with recordMac := x }.schemaVersion.pyInt rt = .ok version := read
    have other : x ≠ .text (mac rt (contentHash rt row version).text).text := fun same => different (by rw [same,macIs])
    have content : contentHash rt { row with recordMac := x } version = contentHash rt row version := rfl
    rw [edited_reported_iff valid member decoded rfl rows,intact_iff readX,unreadable_iff readX,content]
    have unmatched : ¬ (row.recordHash = .text (contentHash rt row version).text ∧
        x = .text (mac rt (contentHash rt row version).text).text) := fun both => other both.2
    rw [and_iff_right unmatched,and_iff_right hashed]
    cases x with
    | text t => cases ascii : isAscii (str t) <;> simp [SqlValue.digestArg,compareDigest,HexText.ascii,ascii]
    | int n => simp [SqlValue.digestArg,compareDigest]
    | real x => simp [SqlValue.digestArg,compareDigest]
    | blob bytes => simp [SqlValue.digestArg,compareDigest]

/-- Which tables get a verdict, and which overwritten cells of a written log one that
    names their record. -/
theorem verdict_reached_iff (rt : Runtime) (collisionFree : CollisionFree rt) (conversions : Conversions) :
    (∀ table checkpoint, (∃ result, verifyStored rt table checkpoint = .ok result) ↔
      ∃ rows, decodeAll table.rows = some rows ∧ Readable rt rows ∧ ComparableWith rt rows checkpoint) ∧
    ∀ log, Written rt log → ∀ row ∈ log.rows, ∀ value after,
      (overwriteSchemaVersion conversions log row.id value = some after →
        integerAffinity conversions value ≠ some (.value row.schemaVersion) → (ReportedAt rt after row.id ↔
          ∃ x n, integerAffinity conversions value = some (.value x) ∧ x.pyInt rt = .ok n ∧ n ≠ auditSchemaVersion)) ∧
      (overwriteRecordMac conversions log row.id value = some after →
        textAffinity conversions value ≠ some (.value row.recordMac) → (ReportedAt rt after row.id ↔
          ∃ t, textAffinity conversions value = some (.value (.text t)) ∧ isAscii (str t) = true)) := by
  refine ⟨verifyStored_ok_iff,fun log written row member value after => ⟨fun updated _ => ?_,fun updated different => ?_⟩⟩
  · obtain ⟨v,stored,rfl⟩ := Option.map_eq_some_iff.mp updated
    rw [stored,version_reported_iff collisionFree written member v rfl]
    simp only [Option.some.injEq]
  · obtain ⟨v,stored,rfl⟩ := Option.map_eq_some_iff.mp updated
    rw [stored,ne_eq,Option.some.injEq] at different
    rw [stored,mac_reported_iff written member different rfl]
    simp only [Option.some.injEq]

end

/-- Reals are written without their fraction, and no text but `3` is read as a number. -/
def sampleConversions : Conversions := ⟨plainFloatRepr,fun t => if t = ['3'] then some (.int 3) else none⟩

/-- Of two records the first gets the schema version `'3'`, and the second the MAC `5`. -/
theorem verdict_reached_iff_overwritten :
    (∃ after, overwriteSchemaVersion sampleConversions twoRecords 1 (.value (.text ['3'])) = some after ∧
      ReportedAt sampleRuntime after 1) ∧
    ∃ after, overwriteRecordMac sampleConversions twoRecords 2 (.value (.int 5)) = some after ∧
      ReportedAt sampleRuntime after 2 := by
  have first : firstRow ∈ twoRecords.rows := List.mem_cons_self
  have second : secondRow ∈ twoRecords.rows := List.mem_cons_of_mem _ List.mem_cons_self
  have reported := (verdict_reached_iff sampleRuntime sampleRuntime_collisionFree sampleConversions).2 twoRecords twoRecords_written
  constructor
  · refine ⟨_,rfl,((reported firstRow first (.value (.text ['3'])) _).1 rfl (by decide)).mpr ?_⟩
    exact ⟨.int 3,3,rfl,rfl,by decide⟩
  · refine ⟨_,rfl,((reported secondRow second (.value (.int 5)) _).2 rfl (by decide +kernel)).mpr ?_⟩
    exact ⟨['5'],rfl,rfl⟩

/-- A schema version of 2.5 is read as 2, and the log is VALID; a MAC that is not ASCII makes
    the verification raise, and so does one in the checkpoint. -/
theorem verdict_reached_fails :
    (CollisionFree sampleRuntime ∧ Written sampleRuntime oneRecord ∧
      integerAffinity sampleConversions (.value (.real (.finite (5 / 2)))) ≠ some (.value firstRow.schemaVersion)) ∧
    (overwriteSchemaVersion sampleConversions oneRecord 1 (.value (.real (.finite (5 / 2))))).map
      (fun after => verifyStored sampleRuntime after none) = some (.ok ⟨.valid,1,none,none,false⟩) ∧
    (overwriteRecordMac sampleConversions oneRecord 1 (.value (.text ['é']))).map
      (fun after => verifyStored sampleRuntime after none) = some (.error .typeError) ∧
    (overwriteRecordMac sampleConversions oneRecord 1 (.undecodable [255])).map
      (fun after => verifyStored sampleRuntime after none) = some (.error (.sqlite .operational)) ∧
    verifyChain sampleRuntime oneRecord (some ⟨1,str ['é'],lit "",checkpointVersion⟩) = .error .typeError := by
  refine ⟨⟨sampleRuntime_collisionFree,oneRecord_written,by decide +kernel⟩,?_,?_,?_,by decide +kernel⟩
  · decide +kernel
  · decide +kernel
  · decide +kernel

end PrivacyGateway.Verdicts
