import PrivacyGateway.AuditLog

/-!
What `verify_chain` establishes. The loop passes exactly the chains whose rows are
all intact (`ValidChain`), and stops at the first row that is not: with a verdict,
or with an exception where the row's cells cannot be read or compared
(`walkRows_spec`). A log written by appends alone passes (`Written.validChain`).
-/
namespace PrivacyGateway.Verification
open PrivacyGateway.Strings PrivacyGateway.Errors PrivacyGateway.StdLib PrivacyGateway.SqlValues
open PrivacyGateway.HashChain PrivacyGateway.JsonText PrivacyGateway.AuditLog

/-- What a row states about its place in the log. -/
def sealOf (row : Row) : Seal SqlValue := ⟨row.id,row.prevHash,row.recordHash⟩

/-- The hash of a row's content under a schema version. -/
def contentHash (rt : Runtime) (row : Row) (schemaVersion : Int) : HexText :=
  computeRecordHash rt row.id schemaVersion (row.timestamp.pyStr rt) (row.payload.pyStr rt) (row.prevHash.pyStr rt)

/-- The row's hash is that of its content, and its MAC that of its hash. -/
def Intact (rt : Runtime) (row : Row) : Prop :=
  ∃ schemaVersion, row.schemaVersion.pyInt rt = .ok schemaVersion ∧
    row.recordHash = .text (contentHash rt row schemaVersion).text ∧
    row.recordMac = .text (mac rt (contentHash rt row schemaVersion).text).text

/-- The check of the row raises: its schema version is no integer, or its hash is
    right and its MAC is not a string that can be compared. -/
def Unreadable (rt : Runtime) (row : Row) : Prop :=
  (∃ e, row.schemaVersion.pyInt rt = .error e) ∨
    ∃ schemaVersion, row.schemaVersion.pyInt rt = .ok schemaVersion ∧
      row.recordHash = .text (contentHash rt row schemaVersion).text ∧
      ∃ e, compareDigest (.str (str (mac rt (contentHash rt row schemaVersion).text).text)) row.recordMac.digestArg = .error e

/-- The row is the one the walk expects next. -/
def Follows (walk : Walk) (row : Row) : Prop := row.id = walk.expectedId ∧ row.prevHash = walk.expectedPrev

/-- The walk after a row that passes. -/
def advance (walk : Walk) (row : Row) : Walk :=
  ⟨walk.checked + 1,row.recordHash,walk.expectedId + 1,walk.macsById.insert row.id row.recordMac⟩

def advanceAll (walk : Walk) (rows : List Row) : Walk := rows.foldl advance walk

/-- The verdict on a row that does not pass. -/
def rejected (walk : Walk) (row : Row) (reason : Text) : Verification :=
  ⟨.invalid,walk.checked + 1,some row.id,some reason,false⟩

section
variable {rt : Runtime} {walk : Walk} {rows : List Row} {row : Row} {table : AuditTable} {checkpoint : AuditCheckpoint}

theorem intact_iff {version : Int} (read : row.schemaVersion.pyInt rt = .ok version) :
    Intact rt row ↔ row.recordHash = .text (contentHash rt row version).text ∧
      row.recordMac = .text (mac rt (contentHash rt row version).text).text := by
  simp [Intact,read]

theorem unreadable_iff {version : Int} (read : row.schemaVersion.pyInt rt = .ok version) :
    Unreadable rt row ↔ row.recordHash = .text (contentHash rt row version).text ∧
      ∃ e, compareDigest (.str (str (mac rt (contentHash rt row version).text).text)) row.recordMac.digestArg = .error e := by
  simp [Unreadable,read]

theorem Intact.readable (intact : Intact rt row) : ¬ Unreadable rt row := by
  obtain ⟨version,read,_,macIs⟩ := intact
  rw [unreadable_iff read,macIs,SqlValue.digestArg,compareDigest_self (HexText.ascii _)]
  simp

/-- One turn of the loop: the row passes, or it is rejected, or the check raises. -/
theorem checkRow_spec (rt : Runtime) (walk : Walk) (row : Row) :
    (Follows walk row ∧ Intact rt row ∧ checkRow rt walk row = .ok (.inr (advance walk row))) ∨
      (¬ (Follows walk row ∧ Intact rt row) ∧ ¬ (Follows walk row ∧ Unreadable rt row) ∧
        ∃ reason, checkRow rt walk row = .ok (.inl (rejected walk row reason))) ∨
      (Follows walk row ∧ Unreadable rt row ∧ ∃ e, checkRow rt walk row = .error e) := by
  unfold checkRow
  by_cases position : row.id = walk.expectedId
  · by_cases linked : row.prevHash = walk.expectedPrev
    · have follows : Follows walk row := ⟨position,linked⟩
      simp only [ne_eq,position,linked,not_true_eq_false,↓reduceIte]
      cases read : row.schemaVersion.pyInt rt with
      | error e => exact .inr (.inr ⟨follows,.inl ⟨e,read⟩,e,rfl⟩)
      | ok version =>
        have content : computeRecordHash rt walk.expectedId version (row.timestamp.pyStr rt) (row.payload.pyStr rt)
            (walk.expectedPrev.pyStr rt) = contentHash rt row version := by rw [contentHash,position,linked]
        simp only [content]
        rw [intact_iff read,unreadable_iff read]
        by_cases hashed : row.recordHash = .text (contentHash rt row version).text
        · rw [if_neg (by simp [hashed])]
          cases compared : compareDigest (.str (str (mac rt (contentHash rt row version).text).text))
              row.recordMac.digestArg with
          | error e => exact .inr (.inr ⟨follows,⟨hashed,e,rfl⟩,e,rfl⟩)
          | ok same =>
            cases same with
            | true =>
              refine .inl ⟨follows,⟨hashed,digestArg_str (compareDigest_true compared)⟩,?_⟩
              rw [advance,position]
            | false =>
              refine .inr (.inl ⟨?_,by simp,macReason,by rw [rejected,position]⟩)
              rintro ⟨_,_,macIs⟩
              rw [macIs,SqlValue.digestArg,compareDigest_self (HexText.ascii _)] at compared
              cases compared
        · rw [if_pos (fun same => hashed same.symm)]
          exact .inr (.inl ⟨fun both => hashed both.2.1,fun both => hashed both.2.1,contentReason,by rw [rejected,position]⟩)
    · simp only [ne_eq,position,linked,not_true_eq_false,not_false_eq_true,↓reduceIte]
      exact .inr (.inl ⟨fun both => linked both.1.2,fun both => linked both.1.2,linkageReason,by rw [rejected,position]⟩)
  · simp only [ne_eq,position,not_false_eq_true,↓reduceIte]
    exact .inr (.inl ⟨fun both => position both.1.1,fun both => position both.1.1,_,rfl⟩)

/-! ### The loop -/

/-- The rows continue the walk and are intact. -/
def Passes (rt : Runtime) (walk : Walk) (rows : List Row) : Prop :=
  Chained walk.expectedId walk.expectedPrev (rows.map sealOf) ∧ ∀ row ∈ rows, Intact rt row

/-- The log passes from its first row to its last. -/
def ValidChain (rt : Runtime) (rows : List Row) : Prop := Passes rt .start rows

theorem passes_cons {rest : List Row} :
    Passes rt walk (row :: rest) ↔ (Follows walk row ∧ Intact rt row) ∧ Passes rt (advance walk row) rest := by
  simp only [Passes,List.map_cons,Chained,sealOf,Follows,advance,List.forall_mem_cons]
  tauto

/-- The loop passes every row, or it stops at the first one that does not pass. -/
theorem walkRows_spec (rt : Runtime) (walk : Walk) (rows : List Row) :
    (Passes rt walk rows ∧ walkRows rt walk rows = .ok (.inr (advanceAll walk rows))) ∨
      ∃ front row rest, rows = front ++ row :: rest ∧ Passes rt walk front ∧
        ¬ (Follows (advanceAll walk front) row ∧ Intact rt row) ∧
        ((¬ (Follows (advanceAll walk front) row ∧ Unreadable rt row) ∧
            ∃ reason, walkRows rt walk rows = .ok (.inl (rejected (advanceAll walk front) row reason))) ∨
          (Follows (advanceAll walk front) row ∧ Unreadable rt row ∧ ∃ e, walkRows rt walk rows = .error e)) := by
  induction rows generalizing walk with
  | nil => exact .inl ⟨⟨trivial,fun row member => absurd member List.not_mem_nil⟩,rfl⟩
  | cons row rest ih =>
    rw [walkRows]
    rcases checkRow_spec rt walk row with ⟨follows,intact,checked⟩ | ⟨fails,readable,reason,checked⟩ |
      ⟨follows,unreadable,e,checked⟩
    · simp only [checked]
      rcases ih (advance walk row) with ⟨passes,walked⟩ | ⟨front,bad,tail,rfl,passes,fails,outcome⟩
      · exact .inl ⟨passes_cons.mpr ⟨⟨follows,intact⟩,passes⟩,walked⟩
      · exact .inr ⟨row :: front,bad,tail,rfl,passes_cons.mpr ⟨⟨follows,intact⟩,passes⟩,fails,outcome⟩
    · refine .inr ⟨[],row,rest,rfl,⟨trivial,by simp⟩,fails,.inl ⟨readable,reason,?_⟩⟩
      simp only [checked]
      rfl
    · refine .inr ⟨[],row,rest,rfl,⟨trivial,by simp⟩,fun both => both.2.readable unreadable,
        .inr ⟨follows,unreadable,e,?_⟩⟩
      simp only [checked]

theorem advanceAll_snoc (walk : Walk) (rows : List Row) (row : Row) :
    advanceAll walk (rows ++ [row]) = advance (advanceAll walk rows) row := by
  simp [advanceAll]

@[simp] theorem advanceAll_checked (walk : Walk) (rows : List Row) :
    (advanceAll walk rows).checked = walk.checked + rows.length := by
  induction rows using List.reverseRecOn with
  | nil => rfl
  | append_singleton front row ih =>
    rw [advanceAll_snoc,advance,ih,List.length_append]
    rfl

@[simp] theorem advanceAll_expectedId (walk : Walk) (rows : List Row) :
    (advanceAll walk rows).expectedId = walk.expectedId + rows.length := by
  induction rows using List.reverseRecOn with
  | nil => simp [advanceAll]
  | append_singleton front row ih =>
    rw [advanceAll_snoc,advance,ih]
    simp [Int.add_assoc]

@[simp] theorem advanceAll_expectedPrev (walk : Walk) (rows : List Row) :
    (advanceAll walk rows).expectedPrev = lastDigest walk.expectedPrev (rows.map sealOf) := by
  induction rows using List.reverseRecOn with
  | nil => rfl
  | append_singleton front row ih =>
    rw [advanceAll_snoc,advance]
    simp [lastDigest,sealOf]

theorem passes_append {rows more : List Row} :
    Passes rt walk (rows ++ more) ↔ Passes rt walk rows ∧ Passes rt (advanceAll walk rows) more := by
  simp only [Passes,List.map_append,chained_append,List.length_map,advanceAll_expectedId,advanceAll_expectedPrev,
    List.forall_mem_append]
  tauto

/-- The ids of a valid log count up from 1. -/
theorem ValidChain.ids (valid : ValidChain rt rows) :
    rows.map Row.id = (List.range rows.length).map (fun k : Nat => 1 + (k : Int)) := by
  have positions := valid.1.positions
  rw [List.map_map,List.length_map] at positions
  exact positions

theorem ValidChain.id_getElem (valid : ValidChain rt rows) {i : Nat} (found : rows[i]? = some row) :
    row.id = 1 + i := by
  have ids := congrArg (fun list => list[i]?) valid.ids
  have inside := (List.getElem?_eq_some_iff.mp found).1
  rw [List.getElem?_map,List.getElem?_map,found,List.getElem?_range inside] at ids
  exact Option.some.inj ids

/-- The last id is the number of records. -/
theorem ValidChain.last_id (valid : ValidChain rt rows) (latest : rows.getLast? = some row) :
    row.id = rows.length := by
  have records := List.length_pos_of_mem (List.mem_of_getLast? latest)
  rw [List.getLast?_eq_getElem?] at latest
  have := valid.id_getElem latest
  omega

theorem ValidChain.ids_nodup (valid : ValidChain rt rows) : (rows.map Row.id).Nodup := by
  rw [valid.ids]
  exact List.nodup_range.map fun a b same => by omega

theorem ValidChain.take (valid : ValidChain rt rows) (count : Nat) : ValidChain rt (rows.take count) := by
  unfold ValidChain at valid
  rw [← List.take_append_drop count rows,passes_append] at valid
  exact valid.1

/-- After a valid log the dictionary holds the MAC of each record under its id. -/
theorem lookup_macs (valid : ValidChain rt rows) (recordId : Int) :
    (advanceAll .start rows).macsById.lookup recordId =
      if 1 ≤ recordId then (rows[(recordId - 1).toNat]?).map Row.recordMac else none := by
  induction rows using List.reverseRecOn with
  | nil => simp [advanceAll,Walk.start]
  | append_singleton front row ih =>
    unfold ValidChain at valid
    rw [passes_append] at valid
    have position : row.id = 1 + front.length := by
      have follows := (passes_cons.mp valid.2).1.1.1
      rwa [advanceAll_expectedId] at follows
    rw [advanceAll_snoc,advance]
    by_cases here : recordId = row.id
    · subst here
      rw [AList.lookup_insert,position,if_pos (by omega)]
      simp
    · rw [AList.lookup_insert_ne here,ih valid.1]
      split_ifs with positive
      · rcases Nat.lt_trichotomy (recordId - 1).toNat front.length with inside | atEnd | outside
        · rw [List.getElem?_append_left inside]
        · omega
        · rw [List.getElem?_eq_none (by omega),List.getElem?_eq_none (by simp; omega)]
      · rfl

theorem walkRows_append (passes : Passes rt walk rows) (more : List Row) :
    walkRows rt walk (rows ++ more) = walkRows rt (advanceAll walk rows) more := by
  induction rows generalizing walk with
  | nil => rfl
  | cons row rest ih =>
    obtain ⟨here,later⟩ := passes_cons.mp passes
    rcases checkRow_spec rt walk row with ⟨_,_,checked⟩ | ⟨fails,_⟩ | ⟨_,unreadable,_⟩
    · simp only [List.cons_append,walkRows,checked]
      exact ih later
    · exact absurd here fails
    · exact absurd unreadable here.2.readable

/-- Rows that continue the walk and cannot be read end it with an exception. -/
theorem walkRows_raises {front : List Row} (passes : Passes rt walk front)
    (follows : Follows (advanceAll walk front) row) (unreadable : Unreadable rt row) (rest : List Row) :
    ∃ e, walkRows rt walk (front ++ row :: rest) = .error e := by
  rw [walkRows_append passes]
  rcases checkRow_spec rt (advanceAll walk front) row with ⟨_,intact,_⟩ | ⟨_,readable,_⟩ | ⟨_,_,e,checked⟩
  · exact absurd unreadable intact.readable
  · exact absurd ⟨follows,unreadable⟩ readable
  · exact ⟨e,by simp only [walkRows,checked]⟩

/-! ### The verdict -/

theorem last_eq_none : table.last = none ↔ table.rows = [] := List.getLast?_eq_none_iff

/-- On a valid log that is not empty the verdict is left to the checkpoint. -/
theorem verifyChain_valid (valid : ValidChain rt table.rows) (records : table.rows ≠ [])
    (checkpoint : Option AuditCheckpoint) :
    verifyChain rt table checkpoint = checkTail (advanceAll .start table.rows) table.rows.length checkpoint := by
  unfold verifyChain
  cases latest : table.last with
  | none => exact absurd (last_eq_none.mp latest) records
  | some row =>
    have position := valid.last_id latest
    rcases walkRows_spec rt .start table.rows with ⟨_,walked⟩ | ⟨front,bad,rest,split,_,fails,_⟩
    · simp only [walked,position]
    · unfold ValidChain at valid
      rw [split,passes_append] at valid
      exact absurd (passes_cons.mp valid.2).1 fails

/-- On any other log the first row that does not pass decides, whatever the checkpoint. -/
theorem verifyChain_broken (broken : ¬ ValidChain rt table.rows) :
    ∃ front row rest, table.rows = front ++ row :: rest ∧ ValidChain rt front ∧
      ¬ (Follows (advanceAll .start front) row ∧ Intact rt row) ∧
      ((¬ (Follows (advanceAll .start front) row ∧ Unreadable rt row) ∧ ∃ reason, ∀ checkpoint,
          verifyChain rt table checkpoint = .ok (rejected (advanceAll .start front) row reason)) ∨
        (Follows (advanceAll .start front) row ∧ Unreadable rt row ∧ ∃ e, ∀ checkpoint,
          verifyChain rt table checkpoint = .error e)) := by
  rcases walkRows_spec rt .start table.rows with ⟨passes,_⟩ | ⟨front,row,rest,split,passes,fails,outcome⟩
  · exact absurd passes broken
  · obtain ⟨latest,found⟩ : ∃ latest, table.last = some latest := by
      rw [← Option.ne_none_iff_exists',ne_eq,last_eq_none,split]
      simp
    refine ⟨front,row,rest,split,passes,fails,?_⟩
    rcases outcome with ⟨readable,reason,walked⟩ | ⟨follows,unreadable,e,walked⟩
    · exact .inl ⟨readable,reason,fun checkpoint => by simp only [verifyChain,found,walked]⟩
    · exact .inr ⟨follows,unreadable,e,fun checkpoint => by simp only [verifyChain,found,walked]⟩

/-- Only a valid log is VALID. -/
theorem validChain_of_valid {checkpoint : Option AuditCheckpoint} {result : Verification}
    (verified : verifyChain rt table checkpoint = .ok result) (status : result.status = .valid) :
    ValidChain rt table.rows := by
  by_contra broken
  obtain ⟨_,_,_,_,_,_,⟨_,_,verdict⟩ | ⟨_,_,_,raised⟩⟩ := verifyChain_broken broken
  · rw [verdict] at verified
    cases verified
    cases status
  · rw [raised] at verified
    cases verified

theorem verifyChain_empty (empty : table.rows = []) :
    verifyChain rt table none = .ok ⟨.empty,0,none,none,false⟩ := by
  simp only [verifyChain,last_eq_none.mpr empty]

/-- Without a checkpoint a valid log is VALID, and its tail is not verified. -/
theorem verify_valid (valid : ValidChain rt table.rows) (records : table.rows ≠ []) :
    verifyChain rt table none = .ok ⟨.valid,table.rows.length,none,none,false⟩ := by
  rw [verifyChain_valid valid records]
  simp [checkTail]

/-- The checkpoint states the id and the MAC of the row. -/
def Names (rt : Runtime) (checkpoint : AuditCheckpoint) (row : Row) : Prop :=
  checkpoint.lastRecordId = row.id ∧ checkpoint.lastRecordMac = str (row.recordMac.pyStr rt)

theorem checkpointOf_names (rt : Runtime) (row : Row) (createdAt : UtcTime) :
    Names rt (checkpointOf rt row createdAt) row := ⟨rfl,rfl⟩

theorem Intact.mac_text (intact : Intact rt row) :
    ∃ h : HexText, row.recordMac = .text h.text ∧ row.recordMac.pyStr rt = h.text := by
  obtain ⟨version,_,_,macIs⟩ := intact
  exact ⟨_,macIs,by rw [macIs]; rfl⟩

theorem Intact.hash_text (intact : Intact rt row) : .text (row.recordHash.pyStr rt) = row.recordHash := by
  obtain ⟨version,_,hashed,_⟩ := intact
  rw [hashed]
  rfl

/-- A checkpoint of a record of the log verifies it, and the tail if it is the last one's. -/
theorem verify_named (valid : ValidChain rt table.rows) (member : row ∈ table.rows) (named : Names rt checkpoint row) :
    verifyChain rt table (some checkpoint) = .ok
      (if row.id = table.rows.length then ⟨.valid,table.rows.length,none,none,true⟩
      else ⟨.valid,table.rows.length,none,some (staleReason row.id table.rows.length),false⟩) := by
  obtain ⟨i,found⟩ := List.getElem?_of_mem member
  have position := valid.id_getElem found
  obtain ⟨h,macIs,macText⟩ := (valid.2 row member).mac_text
  have looked : (advanceAll .start table.rows).macsById.lookup checkpoint.lastRecordId = some row.recordMac := by
    rw [lookup_macs valid,named.1,position,if_pos (by omega),show (1 + (i : Int) - 1).toNat = i by omega,found]
    rfl
  have compared : compareDigest row.recordMac.digestArg (.str checkpoint.lastRecordMac) = .ok true := by
    rw [named.2,macText,macIs,SqlValue.digestArg]
    exact compareDigest_self h.ascii
  rw [verifyChain_valid valid (List.ne_nil_of_mem member)]
  simp only [checkTail,looked,compared,advanceAll_checked,start_checked,Nat.zero_add]
  rw [named.1]
  by_cases latest : row.id = table.rows.length
  · simp [latest]
  · simp [latest]

/-- The checkpoint that a log makes of itself verifies its tail. -/
theorem createCheckpoint_verifies (valid : ValidChain rt table.rows) {createdAt : UtcTime}
    (created : createCheckpoint rt table createdAt = some checkpoint) :
    verifyChain rt table (some checkpoint) = .ok ⟨.valid,table.rows.length,none,none,true⟩ := by
  obtain ⟨row,latest,rfl⟩ := Option.map_eq_some_iff.mp created
  have member := List.mem_of_getLast? latest
  rw [verify_named valid member (checkpointOf_names ..),if_pos (valid.last_id latest)]

/-- On a valid log a checkpoint is answered with INVALID exactly when no record has its id
    and MAC. -/
theorem verify_invalid_iff (valid : ValidChain rt table.rows) (ascii : isAscii checkpoint.lastRecordMac = true) :
    (∃ result, verifyChain rt table (some checkpoint) = .ok result ∧ result.status = .invalid) ↔
      ∀ row ∈ table.rows, ¬ Names rt checkpoint row := by
  constructor
  · rintro ⟨result,verified,status⟩ row member named
    rw [verify_named valid member named] at verified
    cases verified
    split_ifs at status
  · intro unnamed
    by_cases records : table.rows = []
    · simp only [verifyChain,last_eq_none.mpr records]
      exact ⟨_,rfl,rfl⟩
    · rw [verifyChain_valid valid records,checkTail]
      cases looked : (advanceAll .start table.rows).macsById.lookup checkpoint.lastRecordId with
      | none => exact ⟨_,rfl,rfl⟩
      | some expectedMac =>
        rw [lookup_macs valid] at looked
        split_ifs at looked with positive
        obtain ⟨row,found,rfl⟩ := Option.map_eq_some_iff.mp looked
        have member := List.mem_of_getElem? found
        have position := valid.id_getElem found
        obtain ⟨h,macIs,macText⟩ := (valid.2 row member).mac_text
        have differs : str h.text ≠ checkpoint.lastRecordMac := by
          intro same
          exact unnamed row member ⟨by omega,by rw [macText,same]⟩
        simp only [macIs,SqlValue.digestArg,compareDigest,h.ascii,ascii,Bool.and_self,↓reduceIte,differs,decide_false]
        exact ⟨_,rfl,rfl⟩

/-- On a valid log, with a loaded checkpoint that names one of its records or none at all,
    the verification never says INVALID, and verifies the tail just when the checkpoint
    names the newest record. -/
theorem verifyWithStore_consistent (valid : ValidChain rt table.rows) {loaded : Option AuditCheckpoint}
    (named : ∀ c, loaded = some c → ∃ row ∈ table.rows, Names rt c row) :
    ∃ result, verifyWithStore rt table (some loaded) = .ok result ∧ result.status ≠ .invalid ∧
      (result.tailVerified = true ↔
        ∃ checkpoint row, loaded = some checkpoint ∧ table.last = some row ∧ Names rt checkpoint row) := by
  cases loaded with
  | none =>
    by_cases records : table.rows = []
    · simp only [verifyWithStore,verifyChain_empty records,reduceCtorEq,↓reduceIte]
      exact ⟨_,rfl,by simp,by simp⟩
    · simp only [verifyWithStore,verify_valid valid records,↓reduceIte]
      exact ⟨_,rfl,by simp,by simp⟩
  | some checkpoint =>
    obtain ⟨row,member,names⟩ := named checkpoint rfl
    refine ⟨_,verify_named valid member names,by split_ifs <;> simp,?_⟩
    obtain ⟨i,found⟩ := List.getElem?_of_mem member
    have position := valid.id_getElem found
    have inside := (List.getElem?_eq_some_iff.mp found).1
    split_ifs with latest
    · refine iff_of_true rfl ⟨checkpoint,row,rfl,?_,names⟩
      rw [AuditTable.last,List.getLast?_eq_getElem?,← found]
      exact congrArg _ (by omega)
    · refine iff_of_false (by simp) ?_
      rintro ⟨other,last,same,isLast,names'⟩
      cases same
      have := valid.last_id isLast
      have := names.1.symm.trans names'.1
      omega

/-! ### Written logs -/

/-- A table that successful appends alone have made from the empty one. -/
inductive Written (rt : Runtime) : AuditTable → Prop
  | empty : Written rt .empty
  | append {table after : AuditTable} {timestamp : UtcTime} {payloadJson : PyStr} {row : Row} :
      Written rt table → appendOnce rt table timestamp payloadJson = .ok (row,after) → Written rt after

theorem nextRow_intact (rt : Runtime) (last : Option Row) (timestamp payloadJson : Text) :
    Intact rt (nextRow rt last timestamp payloadJson) := ⟨auditSchemaVersion,rfl,rfl,rfl⟩

/-- The next row continues a valid log. -/
theorem ValidChain.next (valid : ValidChain rt table.rows) (timestamp payloadJson : Text) :
    ValidChain rt (table.rows ++ [nextRow rt table.last timestamp payloadJson]) := by
  unfold ValidChain at valid ⊢
  refine passes_append.mpr ⟨valid,passes_cons.mpr ⟨⟨⟨?_,?_⟩,nextRow_intact ..⟩,trivial,by simp⟩⟩
  · rw [advanceAll_expectedId,AuditTable.last]
    cases latest : table.rows.getLast? with
    | none =>
      rw [List.getLast?_eq_none_iff.mp latest]
      rfl
    | some row =>
      have := ValidChain.last_id valid latest
      simp only [nextRow,nextId,start_expectedId]
      omega
  · rw [advanceAll_expectedPrev,lastDigest,List.getLast?_map,AuditTable.last]
    cases latest : table.rows.getLast? with
    | none => rfl
    | some row => exact (valid.2 row (List.mem_of_getLast? latest)).hash_text

theorem Written.validChain (log : Written rt table) : ValidChain rt table.rows := by
  induction log with
  | empty => exact ⟨trivial,fun row member => absurd member List.not_mem_nil⟩
  | append _ appended ih =>
    obtain ⟨payload,_,rfl,_,rows⟩ := appendOnce_ok appended
    rw [rows]
    exact ih.next _ _

/-- However a call of `append` ends, it leaves a written log. -/
theorem Written.append_call (log : Written rt table) (store : Option (Option AuditCheckpoint)) (conditions : Conditions)
    (payload : Json) :
    Written rt (AuditLog.append rt table store conditions payload).table := by
  rcases append_spec rt table store conditions payload with ⟨_,_,appended,_⟩ | ⟨_,same,_⟩
  · exact .append log appended
  · rw [same]
    exact log

end

/-! ### A log of two records

The digests are SHA-256 and, under a key of 32 letters `k`, HMAC-SHA-256. -/

def sampleTime : UtcTime := ⟨2026,1,2,3,4,5,6,by decide⟩

def emptyPayload : Text := "\x7b\x7d".toList
def otherPayload : Text := "\x7b\"a\":1\x7d".toList
def barPayload : Text := "\x7b\"model\":\"a|b\"\x7d".toList

def firstHash : HexText := digest "f3b64b19472d3c1fb8c20558be7f743f35f9ac8e5d245eb02bf0a812a7d81939" (by decide +kernel)
def firstMac : HexText := digest "b04418d134e1d71ae6ed61f4d7e47c5d640b17935c7c0353cde16b4d4e7dfd38" (by decide +kernel)
def secondHash : HexText := digest "f64832286fd758b206f2443dc64ec06bde5a2f659c1de1c3639fdf0d2c0f24b4" (by decide +kernel)
def secondMac : HexText := digest "f2cc45a3fc8806242eb4de9c87325382447c5df4119f13351462bc9569a8e8b3" (by decide +kernel)
def otherHash : HexText := digest "fc5aac75de41a9b6ab3aede3d488bb69e712bd88f82bcff3173fab3ad7bedb8d" (by decide +kernel)
def otherMac : HexText := digest "33d50936c88cedb5bfef54a2d2dedc43af71af3b1b466faaab0bfb6e33df882d" (by decide +kernel)
def barHash : HexText := digest "6cf0cd2896397a10315d60766662394065ec2775fefcc11456fe11c096a872b1" (by decide +kernel)
def barMac : HexText := digest "d389dcd6397e206ca3a98d3ebec71fc747656c926dfa5f982c32655d2ed4c861" (by decide +kernel)

def sampleRuntime : Runtime :=
  plainRuntime
    [(material 1 2 sampleTime.isoformat emptyPayload genesisHash,firstHash),
      (material 2 2 sampleTime.isoformat emptyPayload firstHash.text,secondHash),
      (material 2 2 sampleTime.isoformat otherPayload firstHash.text,otherHash),
      (material 1 2 sampleTime.isoformat barPayload genesisHash,barHash)]
    [(firstHash.text,firstMac),(secondHash.text,secondMac),(otherHash.text,otherMac),(barHash.text,barMac)]

theorem sampleRuntime_collisionFree : CollisionFree sampleRuntime :=
  plainRuntime_collisionFree (by decide +kernel) (by decide +kernel)

def firstRow : Row := nextRow sampleRuntime none sampleTime.isoformat emptyPayload
def secondRow : Row := nextRow sampleRuntime (some firstRow) sampleTime.isoformat emptyPayload

def oneRecord : AuditTable := ⟨[firstRow],List.pairwise_singleton ..⟩
def twoRecords : AuditTable := ⟨[firstRow,secondRow],by decide +kernel⟩

theorem oneRecord_written : Written sampleRuntime oneRecord := by
  have appended : appendOnce sampleRuntime .empty sampleTime (str emptyPayload) = .ok (firstRow,oneRecord) := by
    decide +kernel
  exact .append .empty appended

theorem twoRecords_written : Written sampleRuntime twoRecords := by
  have appended : appendOnce sampleRuntime oneRecord sampleTime (str emptyPayload) = .ok (secondRow,twoRecords) := by
    decide +kernel
  exact .append oneRecord_written appended

example : secondRow.recordMac = .text secondMac.text := by decide +kernel

end PrivacyGateway.Verification
