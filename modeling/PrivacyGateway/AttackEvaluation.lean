import PrivacyGateway.Tampering

/-!
The attacks that the audit-attack evaluation replays. Each is a few SQL statements on the
table, or another file in its place (`Attack.run`). On a log of any length, at any record,
each of them leads `verify_chain` to one verdict: the tampered record and what is wrong
with it, or a shorter log that is valid in itself, which only the checkpoint made before
the attack gives away (`attack_reported`).
-/
namespace PrivacyGateway.AttackEvaluation
open PrivacyGateway.Strings PrivacyGateway.Errors PrivacyGateway.StdLib PrivacyGateway.SqlValues PrivacyGateway.Separated
open PrivacyGateway.AuditLog PrivacyGateway.Verification PrivacyGateway.Tampering

/-- `UPDATE audit_log SET … WHERE id = ?` of columns other than the id. -/
def update (table : AuditTable) (recordId : Int) (set : Row → Row) : AuditTable where
  rows := table.rows.map fun row => if row.id = recordId then { set row with id := row.id } else row
  sorted := by
    refine List.pairwise_map.mpr (table.sorted.imp fun {a b} before => ?_)
    split_ifs <;> exact before

/-- `DELETE FROM audit_log WHERE …` -/
def delete (table : AuditTable) (dropped : Row → Bool) : AuditTable :=
  ⟨table.rows.filter fun row => !dropped row,table.sorted.filter _⟩

/-- `SELECT … FROM audit_log WHERE id = ?` -/
def select (table : AuditTable) (recordId : Int) : Option Row := table.rows.find? fun row => row.id = recordId

/-- `UPDATE audit_log SET id = ? WHERE id = ?`: `none` where the new id is taken. -/
def renumber (table : AuditTable) (recordId newId : Int) : Option AuditTable :=
  match select table recordId with
  | none => some table
  | some row => (delete table fun r => r.id = recordId).insert { row with id := newId }

/-! ### Attacks -/

/-- What an attacker without the key does to the database. -/
inductive Attack where
  | modifyRecordContent (recordId : Int) (payload : Text)
  | modifyTimestamp (recordId : Int) (timestamp : Text)
  | modifyPrevHash (recordId : Int) (prevHash : Text)
  | deleteRecord (recordId : Int)
  | reorder (first second spare : Int)
  | duplicate (recordId newId : Int)
  | rehashWithoutKey (recordId : Int) (payload : Text)
  | deleteFrom (recordId : Int)
  | deleteDatabase
  | rollback (snapshot : AuditTable)

def Attack.run (rt : Runtime) (table : AuditTable) : Attack → Option AuditTable
  | .modifyRecordContent recordId payload => some (update table recordId fun row => { row with payload := .text payload })
  | .modifyTimestamp recordId timestamp => some (update table recordId fun row => { row with timestamp := .text timestamp })
  | .modifyPrevHash recordId prevHash => some (update table recordId fun row => { row with prevHash := .text prevHash })
  | .deleteRecord recordId => some (delete table fun row => row.id = recordId)
  | .reorder first second spare => do
    let moved ← renumber table first spare
    let swapped ← renumber moved second first
    renumber swapped spare second
  | .duplicate recordId newId => do
    let row ← select table recordId
    table.insert { row with id := newId }
  | .rehashWithoutKey recordId payload => do
    let row ← select table recordId
    let forged := computeRecordHash rt recordId auditSchemaVersion (row.timestamp.pyStr rt) payload (row.prevHash.pyStr rt)
    let changed := update table recordId fun r => { r with payload := .text payload, recordHash := .text forged.text }
    some (update changed (recordId + 1) fun r => { r with prevHash := .text forged.text })
  | .deleteFrom recordId => some (delete table fun row => recordId ≤ row.id)
  | .deleteDatabase => some .empty
  | .rollback snapshot => some snapshot

/-- The attack meets records of the log and changes something. -/
def Attack.Applies (log : AuditTable) : Attack → Prop
  | .modifyRecordContent recordId payload => ∃ row ∈ log.rows, row.id = recordId ∧ row.payload ≠ .text payload
  | .modifyTimestamp recordId timestamp => ∃ row ∈ log.rows, row.id = recordId ∧ row.timestamp ≠ .text timestamp
  | .modifyPrevHash recordId prevHash => ∃ row ∈ log.rows, row.id = recordId ∧ row.prevHash ≠ .text prevHash
  | .deleteRecord recordId => 1 ≤ recordId ∧ recordId ≤ log.count
  | .reorder first second spare => 1 ≤ first ∧ first < second ∧ second ≤ log.count ∧ log.count < spare
  | .duplicate recordId newId => 1 ≤ recordId ∧ recordId ≤ log.count ∧ newId = log.count + 1
  | .rehashWithoutKey recordId payload => ∃ row ∈ log.rows, row.id = recordId ∧ row.payload ≠ .text payload
  | .deleteFrom recordId => 1 ≤ recordId ∧ recordId ≤ log.count
  | .deleteDatabase => log.rows ≠ []
  | .rollback snapshot => ∃ later, later ≠ [] ∧ log.rows = snapshot.rows ++ later

/-- The verdict on a log that is valid in itself and has lost its records from `kept + 1` on,
    of `count`: without a checkpoint, or with the one made before. -/
def lost (count kept : Nat) (checkpointed : Bool) : Verification :=
  if checkpointed then
    if kept = 0 then ⟨.invalid,0,none,some emptyReason,false⟩ else ⟨.invalid,kept,none,some (missingReason count),false⟩
  else if kept = 0 then ⟨.empty,0,none,none,false⟩ else ⟨.valid,kept,none,none,false⟩

/-- The verdict on a record that is found tampered. -/
def tampered (recordId : Int) (reason : Text) : Verification := ⟨.invalid,recordId.toNat,some recordId,some reason,false⟩

/-- What the attack leads to on a log of `count` records. -/
def Attack.report (count : Nat) (checkpointed : Bool) : Attack → Verification
  | .modifyRecordContent recordId _ => tampered recordId contentReason
  | .modifyTimestamp recordId _ => tampered recordId contentReason
  | .modifyPrevHash recordId _ => tampered recordId linkageReason
  | .deleteRecord recordId =>
    if recordId < count then ⟨.invalid,recordId.toNat,some (recordId + 1),some (sequenceReason (recordId + 1) recordId),false⟩
    else lost count (count - 1) checkpointed
  | .reorder first _ _ => tampered first linkageReason
  | .duplicate _ newId => tampered newId linkageReason
  | .rehashWithoutKey recordId _ => tampered recordId macReason
  | .deleteFrom recordId => lost count (recordId - 1).toNat checkpointed
  | .deleteDatabase => lost count 0 checkpointed
  | .rollback snapshot => lost count snapshot.count checkpointed

/-! ### Where the loop stops -/

section
variable {rt : Runtime} {log table : AuditTable} {front rest : List Row} {row : Row}

theorem verify_stops (rows : table.rows = front ++ row :: rest) (passes : ValidChain rt front) {verdict : Verification}
    (stops : checkRow rt (advanceAll .start front) row = .ok (.inl verdict)) (checkpoint : Option AuditCheckpoint) :
    verifyChain rt table checkpoint = .ok verdict := by
  obtain ⟨latest,last⟩ : ∃ latest, table.last = some latest := by
    rw [← Option.ne_none_iff_exists',ne_eq,last_eq_none,rows]
    simp
  simp only [verifyChain,last,rows,walkRows_append passes,walkRows,stops]

theorem stops_sequence (rt : Runtime) (skipped : row.id ≠ front.length + 1) :
    checkRow rt (advanceAll .start front) row =
      .ok (.inl ⟨.invalid,front.length + 1,some row.id,some (sequenceReason row.id (front.length + 1)),false⟩) := by
  have expected : (advanceAll .start front).expectedId = front.length + 1 := by simp [Int.add_comm]
  rw [checkRow,if_pos (by rwa [expected]),expected]
  simp

theorem stops_linkage (rt : Runtime) (position : row.id = front.length + 1)
    (unlinked : row.prevHash ≠ (advanceAll .start front).expectedPrev) :
    checkRow rt (advanceAll .start front) row = .ok (.inl (tampered row.id linkageReason)) := by
  have expected : (advanceAll .start front).expectedId = row.id := by simp [position,Int.add_comm]
  rw [checkRow,if_neg (not_not.mpr expected.symm),if_pos unlinked,tampered]
  simp [position]

theorem stops_content (position : row.id = front.length + 1) (linked : row.prevHash = (advanceAll .start front).expectedPrev)
    {version : Int} (read : row.schemaVersion.pyInt rt = .ok version)
    (differs : .text (contentHash rt row version).text ≠ row.recordHash) :
    checkRow rt (advanceAll .start front) row = .ok (.inl (tampered row.id contentReason)) := by
  have expected : (advanceAll .start front).expectedId = row.id := by simp [position,Int.add_comm]
  rw [contentHash] at differs
  rw [checkRow,if_neg (not_not.mpr expected.symm),if_neg (not_not.mpr linked),read]
  simp only [if_pos differs,tampered]
  simp [position]

theorem stops_mac (position : row.id = front.length + 1) (linked : row.prevHash = (advanceAll .start front).expectedPrev)
    {version : Int} (read : row.schemaVersion.pyInt rt = .ok version)
    (hashed : row.recordHash = .text (contentHash rt row version).text) {held : HexText} (stored : row.recordMac = .text held.text)
    (differs : mac rt (contentHash rt row version).text ≠ held) :
    checkRow rt (advanceAll .start front) row = .ok (.inl (tampered row.id macReason)) := by
  have expected : (advanceAll .start front).expectedId = row.id := by simp [position,Int.add_comm]
  have other : str (mac rt (contentHash rt row version).text).text ≠ str held.text :=
    fun same => differs (HexText.ext (str_inj.mp same))
  have compared : compareDigest (.str (str (mac rt (contentHash rt row version).text).text)) row.recordMac.digestArg =
      .ok false := by
    rw [stored]
    simp [SqlValue.digestArg,compareDigest,HexText.ascii,other]
  rw [contentHash] at hashed compared
  rw [checkRow,if_neg (not_not.mpr expected.symm),if_neg (not_not.mpr linked),read]
  simp only [hashed,ne_eq,not_true_eq_false,↓reduceIte,compared,tampered]
  simp [position]

/-- The record with the id, what stands before it and what behind. -/
structure At (rt : Runtime) (log : AuditTable) (front : List Row) (row : Row) (rest : List Row) : Prop where
  rows : log.rows = front ++ row :: rest
  valid : ValidChain rt front
  position : row.id = front.length + 1
  linked : row.prevHash = (advanceAll .start front).expectedPrev
  intact : Intact rt row
  before : ∀ r ∈ front, r.id < row.id
  behind : ∀ r ∈ rest, row.id < r.id

theorem at_of_split (valid : ValidChain rt log.rows) (rows : log.rows = front ++ row :: rest) : At rt log front row rest := by
  have sorted := log.sorted
  rw [rows,List.pairwise_append,List.pairwise_cons] at sorted
  unfold ValidChain at valid
  rw [rows,passes_append] at valid
  obtain ⟨⟨follows,intact⟩,_⟩ := passes_cons.mp valid.2
  refine ⟨rows,valid.1,?_,follows.2,intact,fun r member => ?_,sorted.2.1.1⟩
  · rw [follows.1]
    simp [Int.add_comm]
  · exact sorted.2.2 r member row List.mem_cons_self

theorem exists_at (valid : ValidChain rt log.rows) {recordId : Int} (positive : 1 ≤ recordId) (within : recordId ≤ log.count) :
    ∃ front row rest, At rt log front row rest ∧ row.id = recordId := by
  have inside : (recordId - 1).toNat < log.rows.length := by
    rw [AuditTable.count] at within
    omega
  have split := List.take_append_drop (recordId - 1).toNat log.rows
  rw [← List.getElem_cons_drop inside] at split
  have here := at_of_split valid split.symm
  refine ⟨_,_,_,here,?_⟩
  rw [here.position,List.length_take]
  omega

theorem at_of_mem (valid : ValidChain rt log.rows) (member : row ∈ log.rows) : ∃ front rest, At rt log front row rest := by
  obtain ⟨front,rest,split⟩ := List.append_of_mem member
  exact ⟨front,rest,at_of_split valid split⟩

theorem At.update (at_ : At rt log front row rest) (set : Row → Row) :
    (update log row.id set).rows = front ++ { set row with id := row.id } :: rest := by
  have kept : ∀ rows : List Row, (∀ r ∈ rows, r.id ≠ row.id) →
      rows.map (fun r => if r.id = row.id then { set r with id := r.id } else r) = rows := by
    intro rows other
    exact (List.map_congr_left fun r member => if_neg (other r member)).trans (List.map_id' rows)
  simp only [AttackEvaluation.update,at_.rows,List.map_append,List.map_cons,↓reduceIte]
  rw [kept front fun r member => Int.ne_of_lt (at_.before r member),kept rest fun r member => Int.ne_of_gt (at_.behind r member)]

/-- An update of a later row leaves the rows before it. -/
theorem update_behind (split : table.rows = front ++ row :: rest) (recordId : Int) (before : ∀ r ∈ front, r.id ≠ recordId)
    (here : row.id ≠ recordId) (set : Row → Row) : ∃ rest', (update table recordId set).rows = front ++ row :: rest' := by
  have kept : front.map (fun r => if r.id = recordId then { set r with id := r.id } else r) = front :=
    (List.map_congr_left fun r member => if_neg (before r member)).trans (List.map_id' front)
  exact ⟨_,by simp only [AttackEvaluation.update,split,List.map_append,List.map_cons,kept,if_neg here]; rfl⟩

theorem At.delete (at_ : At rt log front row rest) : (delete log fun r => r.id = row.id).rows = front ++ rest := by
  have others : ∀ rows : List Row, (∀ r ∈ rows, r.id ≠ row.id) → rows.filter (fun r => !decide (r.id = row.id)) = rows :=
    fun rows other => List.filter_eq_self.mpr fun r member => by simp [other r member]
  simp only [AttackEvaluation.delete,at_.rows,List.filter_append,List.filter_cons,decide_true,Bool.not_true]
  rw [others front fun r member => Int.ne_of_lt (at_.before r member),others rest fun r member => Int.ne_of_gt (at_.behind r member)]
  rfl

theorem At.deleteFrom (at_ : At rt log front row rest) : (AttackEvaluation.delete log fun r => row.id ≤ r.id).rows = front := by
  have kept : front.filter (fun r => !decide (row.id ≤ r.id)) = front :=
    List.filter_eq_self.mpr fun r member => by simp [at_.before r member]
  have gone : rest.filter (fun r => !decide (row.id ≤ r.id)) = [] :=
    List.filter_eq_nil_iff.mpr fun r member => by simp [Int.le_of_lt (at_.behind r member)]
  simp only [AttackEvaluation.delete,at_.rows,List.filter_append,List.filter_cons,le_refl,decide_true,Bool.not_true,kept,gone]
  simp

theorem select_of_mem (member : row ∈ table.rows) : select table row.id = some row := by
  obtain ⟨front,rest,split⟩ := List.append_of_mem member
  have sorted := table.sorted
  rw [split,List.pairwise_append] at sorted
  have missed : front.find? (fun r => r.id = row.id) = none :=
    List.find?_eq_none.mpr fun r earlier => by simpa using Int.ne_of_lt (sorted.2.2 r earlier row List.mem_cons_self)
  simp [select,split,List.find?_append,missed]

/-- Renumbering a row to an id above the front keeps the front. -/
theorem renumber_front {others : List Row} (split : table.rows = front ++ others) (member : row ∈ others) {newId : Int}
    (low : ∀ r ∈ front, r.id < newId ∧ r.id ≠ row.id) (free : ∀ r ∈ others, r.id ≠ row.id → r.id ≠ newId) :
    ∃ after others', renumber table row.id newId = some after ∧ after.rows = front ++ others' ∧
      ∀ r, r ∈ others' ↔ r = { row with id := newId } ∨ r ∈ others ∧ r.id ≠ row.id := by
  let kept := others.filter fun r => !decide (r.id = row.id)
  have mem_kept : ∀ r, r ∈ kept ↔ r ∈ others ∧ r.id ≠ row.id := by simp [kept]
  have deleted : (delete table fun r => r.id = row.id).rows = front ++ kept := by
    have all : front.filter (fun r => !decide (r.id = row.id)) = front :=
      List.filter_eq_self.mpr fun r inFront => by simp [(low r inFront).2]
    simp only [AttackEvaluation.delete,split,List.filter_append,all,kept]
  have open_ : newId ∉ (delete table fun r => r.id = row.id).rows.map Row.id := by
    rw [deleted]
    intro taken
    obtain ⟨r,inside,same⟩ := List.mem_map.mp taken
    rcases List.mem_append.mp inside with inFront | inKept
    · exact Int.ne_of_lt (low r inFront).1 same
    · obtain ⟨inOthers,differs⟩ := (mem_kept r).mp inKept
      exact free r inOthers differs same
  have selected : renumber table row.id newId = (delete table fun r => r.id = row.id).insert { row with id := newId } := by
    rw [renumber,select_of_mem (split ▸ List.mem_append_right front member)]
  refine ⟨_,kept.filter (fun r => r.id < newId) ++ { row with id := newId } :: kept.filter (fun r => newId < r.id),
    by rw [selected]; exact if_neg open_,?_,fun r => ?_⟩
  · have below : front.filter (fun r => r.id < newId) = front :=
      List.filter_eq_self.mpr fun r inFront => by simp [(low r inFront).1]
    have above : front.filter (fun r => newId < r.id) = [] :=
      List.filter_eq_nil_iff.mpr fun r inFront => by simp [Int.le_of_lt (low r inFront).1]
    simp only [inPlace,deleted,List.filter_append,below,above,List.append_assoc,List.nil_append]
  · simp only [List.mem_append,List.mem_cons,List.mem_filter,mem_kept,decide_eq_true_eq]
    constructor
    · rintro (⟨inKept,_⟩ | rfl | ⟨inKept,_⟩)
      · exact .inr inKept
      · exact .inl rfl
      · exact .inr inKept
    · rintro (rfl | inKept)
      · exact .inr (.inl rfl)
      · rcases Int.lt_or_gt_of_ne (free r inKept.1 inKept.2) with less | more
        · exact .inl ⟨inKept,less⟩
        · exact .inr (.inr ⟨inKept,more⟩)

/-- Exchanging two ids puts the later row where the earlier one was. -/
theorem reorder_rows {other : Row} {spare : Int} (at_ : At rt log front row rest) (member : other ∈ rest)
    (beyond : ∀ r ∈ log.rows, r.id < spare) :
    ∃ after more, (Attack.reorder row.id other.id spare).run rt log = some after ∧
      after.rows = front ++ { other with id := row.id } :: more := by
  have later := at_.behind other member
  have spareRow : row.id < spare := beyond row (by rw [at_.rows]; simp)
  have spareOther : other.id < spare := beyond other (by rw [at_.rows]; simp [member])
  -- The earlier row moves out of the way.
  obtain ⟨moved,others,first,movedRows,mem_others⟩ := renumber_front at_.rows List.mem_cons_self
    (fun r inFront => ⟨(at_.before r inFront).trans spareRow,Int.ne_of_lt (at_.before r inFront)⟩)
    (fun r inside _ => Int.ne_of_lt (beyond r (at_.rows ▸ List.mem_append_right front inside)))
  have above : ∀ r ∈ others, row.id < r.id := by
    intro r inside
    rcases (mem_others r).mp inside with rfl | ⟨inRest,differs⟩
    · exact spareRow
    · rcases List.mem_cons.mp inRest with rfl | inRest
      · exact absurd rfl differs
      · exact at_.behind r inRest
  have here : other ∈ others := (mem_others other).mpr (.inr ⟨List.mem_cons_of_mem _ member,Int.ne_of_gt later⟩)
  -- The later one takes its id.
  obtain ⟨swapped,placed,second,swappedRows,mem_placed⟩ := @renumber_front moved front other others movedRows here row.id
    (fun r inFront => ⟨at_.before r inFront,Int.ne_of_lt ((at_.before r inFront).trans later)⟩)
    (fun r inside _ => Int.ne_of_gt (above r inside))
  obtain ⟨more,rfl⟩ : ∃ more, placed = { other with id := row.id } :: more := by
    have inPlaced := (mem_placed { other with id := row.id }).mpr (.inl rfl)
    have sorted := swapped.sorted
    rw [swappedRows,List.pairwise_append] at sorted
    cases placed with
    | nil => cases inPlaced
    | cons c more =>
      rcases List.mem_cons.mp inPlaced with rfl | behind
      · exact ⟨more,rfl⟩
      · have order := (List.pairwise_cons.mp sorted.2.1).1 _ behind
        rcases (mem_placed c).mp List.mem_cons_self with rfl | ⟨inOthers,_⟩
        · exact absurd order (Int.lt_irrefl _)
        · exact absurd (above c inOthers) (Int.not_lt.mpr (Int.le_of_lt order))
  -- The earlier one takes the id that is free now.
  have spareMore : { row with id := spare } ∈ more := by
    have inOthers := (mem_others { row with id := spare }).mpr (.inl rfl)
    have inPlaced := (mem_placed { row with id := spare }).mpr (.inr ⟨inOthers,Int.ne_of_gt spareOther⟩)
    rcases List.mem_cons.mp inPlaced with same | behind
    · exact absurd (congrArg Row.id same) (Int.ne_of_gt spareRow)
    · exact behind
  have split : swapped.rows = (front ++ [{ other with id := row.id }]) ++ more := by simp [swappedRows]
  obtain ⟨after,rest',third,afterRows,_⟩ := @renumber_front swapped _ { row with id := spare } more split spareMore other.id
    (fun r inFront => by
      rcases List.mem_append.mp inFront with inFront | last
      · have := at_.before r inFront
        exact ⟨by omega,by simp; omega⟩
      · rw [List.mem_singleton.mp last]
        exact ⟨later,Int.ne_of_lt spareRow⟩)
    (fun r inside _ => by
      rcases (mem_placed r).mp (List.mem_cons_of_mem _ inside) with rfl | ⟨_,differs⟩
      · exact Int.ne_of_lt later
      · exact differs)
  exact ⟨after,rest',by simp [Attack.run,first,second,third],by simp [afterRows]⟩

/-! ### Verdicts -/

theorem written_row (written : Written rt log) :
    ∀ row ∈ log.rows, ∃ last timestamp payload, row = nextRow rt last timestamp payload := by
  induction written with
  | empty => exact fun row member => absurd member List.not_mem_nil
  | append _ appended ih =>
    obtain ⟨payload,_,rfl,_,rows⟩ := appendOnce_ok appended
    rw [rows]
    intro row member
    rcases List.mem_append.mp member with earlier | here
    · exact ih row earlier
    · exact ⟨_,_,_,List.mem_singleton.mp here⟩

theorem payload_of_joined {timestamp payload payload' prev : Text}
    (same : joined '|' [timestamp,payload',prev] = joined '|' [timestamp,payload,prev]) : payload' = payload :=
  List.append_cancel_right (List.cons.inj (List.append_cancel_left same)).2

theorem timestamp_of_joined {timestamp timestamp' payload prev : Text}
    (same : joined '|' [timestamp',payload,prev] = joined '|' [timestamp,payload,prev]) : timestamp' = timestamp :=
  List.append_cancel_right same

/-- A written record whose hashed texts have changed is found, unless its hash has, too. -/
theorem content_reported (collisionFree : CollisionFree rt) {last : Option Row} {timestamp payload : Text}
    (at_ : At rt log front (nextRow rt last timestamp payload) rest) {timestamp' payload' : Text}
    (differs : joined '|' [timestamp',payload',prevHash rt last] ≠ joined '|' [timestamp,payload,prevHash rt last])
    {set : Row → Row} (sets : set (nextRow rt last timestamp payload) =
      { nextRow rt last timestamp payload with timestamp := .text timestamp', payload := .text payload' })
    (checkpoint : Option AuditCheckpoint) :
    verifyChain rt (update log (nextId last) set) checkpoint = .ok (tampered (nextId last) contentReason) := by
  refine verify_stops (at_.update set) at_.valid ?_ checkpoint
  rw [sets]
  refine stops_content at_.position at_.linked
    (show SqlValue.pyInt rt (.int auditSchemaVersion) = .ok auditSchemaVersion from rfl) fun same => differs ?_
  exact (material_split (collisionFree (HexText.ext (SqlValue.text.inj same)))).2.2

/-- A record that states the hash of what it holds, but the MAC of what it held, is found. -/
theorem rehash_reported (macFree : Function.Injective rt.hmac) (collisionFree : CollisionFree rt) {last : Option Row}
    {timestamp payload : Text} (at_ : At rt log front (nextRow rt last timestamp payload) rest) {payload' : Text}
    (differs : payload' ≠ payload) :
    ∃ after, (Attack.rehashWithoutKey (nextId last) payload').run rt log = some after ∧
      ∀ checkpoint, verifyChain rt after checkpoint = .ok (tampered (nextId last) macReason) := by
  have member : nextRow rt last timestamp payload ∈ log.rows := by
    rw [at_.rows]
    simp
  have selected : select log (nextId last) = some (nextRow rt last timestamp payload) := select_of_mem member
  let forged := computeRecordHash rt (nextId last) auditSchemaVersion timestamp payload' (prevHash rt last)
  have changed := at_.update fun r => { r with payload := .text payload', recordHash := .text forged.text }
  obtain ⟨rest',rows⟩ := update_behind changed (nextId last + 1)
    (fun r inFront => by have := at_.before r inFront; simp only [nextRow] at this; omega) (by simp [nextRow])
    fun r => { r with prevHash := .text forged.text }
  refine ⟨_,by rw [Attack.run,selected]; rfl,fun checkpoint => verify_stops rows at_.valid ?_ checkpoint⟩
  refine stops_mac at_.position at_.linked (show SqlValue.pyInt rt (.int auditSchemaVersion) = .ok auditSchemaVersion from rfl)
    rfl rfl fun same => differs ?_
  have hashes := collisionFree (HexText.ext (macFree same))
  have texts := (material_split hashes).2.2
  exact payload_of_joined texts

/-- A record that states another predecessor than the one before it is found. -/
theorem linkage_reported (at_ : At rt log front row rest) {prevHash : Text} (differs : row.prevHash ≠ .text prevHash)
    (checkpoint : Option AuditCheckpoint) :
    verifyChain rt (update log row.id fun r => { r with prevHash := .text prevHash }) checkpoint =
      .ok (tampered row.id linkageReason) := by
  refine verify_stops (at_.update _) at_.valid (stops_linkage rt at_.position ?_) checkpoint
  rw [← at_.linked]
  exact differs.symm

/-- Where a record is missing, the one behind it is found. -/
theorem delete_reported (at_ : At rt log front row rest) (valid : ValidChain rt log.rows) (more : rest ≠ [])
    (checkpoint : Option AuditCheckpoint) :
    verifyChain rt (delete log fun r => r.id = row.id) checkpoint =
      .ok ⟨.invalid,row.id.toNat,some (row.id + 1),some (sequenceReason (row.id + 1) row.id),false⟩ := by
  obtain ⟨next,rest,rfl⟩ := List.exists_cons_of_ne_nil more
  have split : log.rows = (front ++ [row]) ++ next :: rest := by simp [at_.rows]
  have number : next.id = row.id + 1 := by
    rw [(at_of_split valid split).position,at_.position]
    simp
  have skipped := @stops_sequence front next rt (by have := at_.position; omega)
  rw [verify_stops at_.delete at_.valid skipped checkpoint,number,← at_.position,at_.position]
  rfl

section
variable (collisionFree : CollisionFree rt) (fresh : ∀ t, (rt.sha256 t).text ≠ genesisHash)
include collisionFree fresh

/-- Another record in the place of a record states another predecessor. -/
theorem reorder_reported (valid : ValidChain rt log.rows) {other : Row} {spare : Int} (at_ : At rt log front row rest)
    (member : other ∈ rest) (beyond : ∀ r ∈ log.rows, r.id < spare) :
    ∃ after, (Attack.reorder row.id other.id spare).run rt log = some after ∧
      ∀ checkpoint, verifyChain rt after checkpoint = .ok (tampered row.id linkageReason) := by
  obtain ⟨after,more,ran,rows⟩ := reorder_rows at_ member beyond
  refine ⟨after,ran,fun checkpoint => verify_stops rows at_.valid (stops_linkage rt at_.position ?_) checkpoint⟩
  rw [← at_.linked]
  intro same
  have distinct := prevs_nodup collisionFree fresh valid
  rw [at_.rows,List.map_append,List.map_cons,List.nodup_append] at distinct
  have listed : other.prevHash ∈ rest.map Row.prevHash := List.mem_map_of_mem member
  exact (List.nodup_cons.mp distinct.2.1).1 (same ▸ listed)

/-- A copy behind the last record does not state it as its predecessor. -/
theorem duplicate_reported (valid : ValidChain rt log.rows) (member : row ∈ log.rows) :
    ∃ after, (Attack.duplicate row.id (log.count + 1)).run rt log = some after ∧
      ∀ checkpoint, verifyChain rt after checkpoint = .ok (tampered (log.count + 1) linkageReason) := by
  have below : ∀ r ∈ log.rows, r.id < ({ row with id := log.count + 1 } : Row).id := by
    intro r inLog
    obtain ⟨i,place⟩ := List.getElem?_of_mem inLog
    have inside := (List.getElem?_eq_some_iff.mp place).1
    have := valid.id_getElem place
    simp only [AuditTable.count]
    omega
  obtain ⟨after,inserted,rows⟩ := insert_after below
  refine ⟨after,by simp [Attack.run,select_of_mem member,inserted],fun checkpoint => ?_⟩
  refine verify_stops rows valid (stops_linkage rt rfl ?_) checkpoint
  -- The predecessor that a next record would state is no other record's.
  have next := valid.next [] []
  have distinct := prevs_nodup collisionFree fresh next
  unfold ValidChain at next
  obtain ⟨⟨⟨_,linked⟩,_⟩,_⟩ := passes_cons.mp (passes_append.mp next).2
  rw [← linked]
  intro same
  rw [List.map_append,List.nodup_append] at distinct
  exact distinct.2.2 _ (List.mem_map_of_mem member) _ (List.mem_singleton.mpr rfl) same

end

/-- The beginning of a log is valid in itself, and misses what the checkpoint names. -/
theorem lost_reported (valid : ValidChain rt table.rows) {count : Nat} (fewer : table.count < count) :
    verifyChain rt table none = .ok (lost count table.count false) ∧
      ∀ checkpoint : AuditCheckpoint, checkpoint.lastRecordId = count →
        verifyChain rt table (some checkpoint) = .ok (lost count table.count true) := by
  by_cases records : table.rows = []
  · have none_ : table.count = 0 := by simp [AuditTable.count,records]
    refine ⟨by rw [verifyChain_empty records,none_]; rfl,fun checkpoint _ => ?_⟩
    simp only [verifyChain,last_eq_none.mpr records,none_]
    rfl
  · have some_ : table.count ≠ 0 := by simpa [AuditTable.count] using records
    refine ⟨by rw [verify_valid valid records,lost,if_neg (by simp),if_neg some_]; rfl,fun checkpoint names => ?_⟩
    have missed : (advanceAll .start table.rows).macsById.lookup checkpoint.lastRecordId = none := by
      rw [lookup_macs valid,names,if_pos (by omega),List.getElem?_eq_none (by simp only [AuditTable.count] at fewer; omega)]
      rfl
    rw [verifyChain_valid valid records,lost,if_pos rfl,if_neg some_]
    simp only [checkTail,missed,names]
    simp [AuditTable.count]

end

/-- What each attack on a written log leads `verify_chain` to, without a checkpoint and with
    one of the log as it was before. -/
theorem attack_reported (rt : Runtime) (collisionFree : CollisionFree rt) (macFree : Function.Injective rt.hmac)
    (fresh : ∀ t, (rt.sha256 t).text ≠ genesisHash) (log : AuditTable) (written : Written rt log) (attack : Attack)
    (applies : attack.Applies log) :
    ∃ after, attack.run rt log = some after ∧ verifyChain rt after none = .ok (attack.report log.count false) ∧
      ∀ createdAt checkpoint, createCheckpoint rt log createdAt = some checkpoint →
        verifyChain rt after (some checkpoint) = .ok (attack.report log.count true) := by
  have valid := written.validChain
  have named : ∀ createdAt checkpoint, createCheckpoint rt log createdAt = some checkpoint →
      checkpoint.lastRecordId = log.count := by
    rintro createdAt checkpoint created
    obtain ⟨row,latest,rfl⟩ := Option.map_eq_some_iff.mp created
    exact valid.last_id latest
  -- A record that is found is found with a checkpoint, too.
  have either : ∀ {after : AuditTable} {verdict : Verification}, (∀ checkpoint, verifyChain rt after checkpoint = .ok verdict) →
      verifyChain rt after none = .ok verdict ∧
        ∀ createdAt checkpoint, createCheckpoint rt log createdAt = some checkpoint →
          verifyChain rt after (some checkpoint) = .ok verdict :=
    fun reported => ⟨reported none,fun _ checkpoint _ => reported (some checkpoint)⟩
  -- What is left of the log is valid, and shorter than the checkpoint says.
  have shorter : ∀ {after : AuditTable} {kept : Nat}, ValidChain rt after.rows → after.count = kept → kept < log.count →
      verifyChain rt after none = .ok (lost log.count kept false) ∧
        ∀ createdAt checkpoint, createCheckpoint rt log createdAt = some checkpoint →
          verifyChain rt after (some checkpoint) = .ok (lost log.count kept true) := by
    rintro after kept remains rfl fewer
    obtain ⟨internal,external⟩ := lost_reported remains fewer
    exact ⟨internal,fun createdAt checkpoint created => external checkpoint (named createdAt checkpoint created)⟩
  cases attack with
  | modifyRecordContent recordId payload =>
    obtain ⟨row,member,rfl,differs⟩ := applies
    obtain ⟨last,timestamp,stored,rfl⟩ := written_row written row member
    obtain ⟨front,rest,at_⟩ := at_of_mem valid member
    refine ⟨_,rfl,either fun checkpoint => content_reported collisionFree at_ (fun same => ?_) rfl checkpoint⟩
    exact differs (congrArg SqlValue.text (payload_of_joined same).symm)
  | modifyTimestamp recordId timestamp' =>
    obtain ⟨row,member,rfl,differs⟩ := applies
    obtain ⟨last,timestamp,stored,rfl⟩ := written_row written row member
    obtain ⟨front,rest,at_⟩ := at_of_mem valid member
    refine ⟨_,rfl,either fun checkpoint => content_reported collisionFree at_ (fun same => ?_) rfl checkpoint⟩
    exact differs (congrArg SqlValue.text (timestamp_of_joined same).symm)
  | modifyPrevHash recordId prevHash =>
    obtain ⟨row,member,rfl,differs⟩ := applies
    obtain ⟨front,rest,at_⟩ := at_of_mem valid member
    exact ⟨_,rfl,either (linkage_reported at_ differs)⟩
  | deleteRecord recordId =>
    obtain ⟨positive,within⟩ := applies
    obtain ⟨front,row,rest,at_,rfl⟩ := exists_at valid positive within
    have size : log.count = front.length + 1 + rest.length := by
      simp only [AuditTable.count,at_.rows,List.length_append,List.length_cons]
      omega
    refine ⟨_,rfl,?_⟩
    by_cases more : rest = []
    · have last : ¬ row.id < log.count := by
        rw [size,at_.position,more]
        simp
      have kept : (delete log fun r => r.id = row.id).rows = front := by rw [at_.delete,more,List.append_nil]
      rw [more] at size
      simp only [Attack.report,if_neg last]
      exact shorter (kept.symm ▸ at_.valid) (by rw [AuditTable.count,kept,size]; rfl) (by omega)
    · have later : row.id < log.count := by
        have := List.length_pos_iff.mpr more
        rw [size,at_.position]
        omega
      simp only [Attack.report,if_pos later]
      exact either (delete_reported at_ valid more)
  | reorder first second spare =>
    obtain ⟨positive,order,within,beyond⟩ := applies
    obtain ⟨front,row,rest,at_,rfl⟩ := exists_at valid positive (Int.le_of_lt (Int.lt_of_lt_of_le order within))
    obtain ⟨_,other,_,at',rfl⟩ := exists_at valid (Int.le_trans positive (Int.le_of_lt order)) within
    have member : other ∈ rest := by
      have inLog : other ∈ front ++ row :: rest := by
        rw [← at_.rows,at'.rows]
        simp
      rcases List.mem_append.mp inLog with inFront | inRest
      · exact absurd (at_.before other inFront) (Int.not_lt.mpr (Int.le_of_lt order))
      · rcases List.mem_cons.mp inRest with rfl | inRest
        · exact absurd order (Int.lt_irrefl _)
        · exact inRest
    have below : ∀ r ∈ log.rows, r.id < spare := by
      intro r inLog
      obtain ⟨i,place⟩ := List.getElem?_of_mem inLog
      have inside := (List.getElem?_eq_some_iff.mp place).1
      have := valid.id_getElem place
      simp only [AuditTable.count] at beyond
      omega
    obtain ⟨after,ran,reported⟩ := reorder_reported collisionFree fresh valid at_ member below
    exact ⟨after,ran,either reported⟩
  | duplicate recordId newId =>
    obtain ⟨positive,within,rfl⟩ := applies
    obtain ⟨front,row,rest,at_,rfl⟩ := exists_at valid positive within
    obtain ⟨after,ran,reported⟩ := duplicate_reported collisionFree fresh valid
      (show row ∈ log.rows by rw [at_.rows]; simp)
    exact ⟨after,ran,either reported⟩
  | rehashWithoutKey recordId payload =>
    obtain ⟨row,member,rfl,differs⟩ := applies
    obtain ⟨last,timestamp,stored,rfl⟩ := written_row written row member
    obtain ⟨front,rest,at_⟩ := at_of_mem valid member
    obtain ⟨after,ran,reported⟩ := rehash_reported macFree collisionFree at_ fun same => differs (congrArg SqlValue.text same.symm)
    exact ⟨after,ran,either reported⟩
  | deleteFrom recordId =>
    obtain ⟨positive,within⟩ := applies
    obtain ⟨front,row,rest,at_,rfl⟩ := exists_at valid positive within
    have kept := at_.deleteFrom
    refine ⟨_,rfl,shorter (kept.symm ▸ at_.valid) ?_ ?_⟩
    · rw [AuditTable.count,kept,at_.position]
      simp
    · have := at_.position
      omega
  | deleteDatabase =>
    have records : 0 < log.count := List.length_pos_iff.mpr applies
    exact ⟨_,rfl,shorter Written.empty.validChain rfl records⟩
  | rollback snapshot =>
    obtain ⟨later,some_,grown⟩ := applies
    have front : ValidChain rt snapshot.rows := by
      unfold ValidChain at valid ⊢
      rw [grown,passes_append] at valid
      exact valid.1
    refine ⟨_,rfl,shorter front rfl ?_⟩
    have := List.length_pos_iff.mpr some_
    simp only [AuditTable.count,grown,List.length_append]
    omega

theorem sampleRuntime_macFree : Function.Injective sampleRuntime.hmac :=
  (plainRuntime_collisionFree (by decide +kernel) (by decide +kernel) : CollisionFree
    (plainRuntime [(firstHash.text,firstMac),(secondHash.text,secondMac),(otherHash.text,otherMac),(barHash.text,barMac)] []))

theorem sampleRuntime_fresh (t : Text) : (sampleRuntime.sha256 t).text ≠ genesisHash := by
  simp only [sampleRuntime,plainRuntime,listedDigest]
  split
  · next digest listed =>
    obtain ⟨front,back,split,_⟩ := List.lookup_eq_some_iff.mp listed
    have differ : ∀ d ∈ [firstHash,secondHash,otherHash,barHash], d.text ≠ genesisHash := by decide +kernel
    refine differ digest ?_
    have inside := congrArg (List.map Prod.snd) split
    simp only [List.map_cons,List.map_nil,List.map_append] at inside
    rw [inside]
    simp
  · intro same
    have size := congrArg List.length same
    simp only [spelledOut,genesisHash,List.length_append,List.length_replicate] at size
    omega

theorem attack_reported_reordered :
    ∃ after, (Attack.reorder 1 2 99).run sampleRuntime twoRecords = some after ∧
      verifyChain sampleRuntime after none = .ok ⟨.invalid,1,some 1,some linkageReason,false⟩ := by
  obtain ⟨after,ran,reported,_⟩ := attack_reported sampleRuntime sampleRuntime_collisionFree sampleRuntime_macFree
    sampleRuntime_fresh twoRecords twoRecords_written (.reorder 1 2 99) (by unfold Attack.Applies; decide)
  exact ⟨after,ran,reported⟩

end PrivacyGateway.AttackEvaluation
