import PrivacyGateway.AttackEvaluation

/-!
Logs and the audit key. Loggers that were given different keys may write to one database:
the key was changed, or a development gateway shared it with a production one. The chain of
hashes does not depend on the key, but a verifier finds the first record whose MAC is not
the one of its own key; a log without such a record is one written under that key
(`verified_under_key`).
-/
namespace PrivacyGateway.AuditKeys
open PrivacyGateway.Strings PrivacyGateway.StdLib PrivacyGateway.SqlValues PrivacyGateway.HashChain
open PrivacyGateway.AuditLog PrivacyGateway.Verification PrivacyGateway.AttackEvaluation

/-- `AuditLogger(db_path, hmac_key)`: the same library with MACs under the key. -/
def keyed (rt : Runtime) (hmac : List UInt8 → Text → HexText) (key : List UInt8) : Runtime := { rt with hmac := hmac key }

section
variable (rt : Runtime) (hmac : List UInt8 → Text → HexText)

/-- A table that appends alone have made, with the key that each record was written under. -/
inductive WrittenUnder : AuditTable → List (List UInt8) → Prop
  | empty : WrittenUnder .empty []
  | append {table after : AuditTable} {keys : List (List UInt8)} {timestamp : UtcTime} {payloadJson : PyStr} {row : Row}
      (key : List UInt8) : WrittenUnder table keys →
      appendOnce (keyed rt hmac key) table timestamp payloadJson = .ok (row,after) → WrittenUnder after (keys ++ [key])

/-- Both keys give the record the same MAC. -/
def Agree (key verifier : List UInt8) (row : Row) : Prop :=
  hmac key (row.recordHash.pyStr rt) = hmac verifier (row.recordHash.pyStr rt)

instance (key verifier : List UInt8) (row : Row) : Decidable (Agree rt hmac key verifier row) :=
  inferInstanceAs (Decidable (_ = _))

/-- The id of the first record whose MAC is not the verifier's. -/
def firstForeign (verifier : List UInt8) : List (Row × List UInt8) → Option Int
  | [] => none
  | (row,key) :: rest => if Agree rt hmac key verifier row then firstForeign verifier rest else some row.id

end

section
variable {rt : Runtime} {hmac : List UInt8 → Text → HexText} {table : AuditTable} {keys : List (List UInt8)}
variable {verifier : List UInt8} {row : Row}

theorem firstForeign_none {signed : List (Row × List UInt8)} (none : firstForeign rt hmac verifier signed = none) :
    ∀ p ∈ signed, Agree rt hmac p.2 verifier p.1 := by
  induction signed with
  | nil => exact fun p member => absurd member List.not_mem_nil
  | cons p rest ih =>
    obtain ⟨row,key⟩ := p
    rw [firstForeign] at none
    split_ifs at none with agree
    exact List.forall_mem_cons.mpr ⟨agree,ih none⟩

theorem firstForeign_some {signed : List (Row × List UInt8)} {recordId : Int}
    (found : firstForeign rt hmac verifier signed = some recordId) :
    ∃ front row key rest, signed = front ++ (row,key) :: rest ∧ (∀ p ∈ front, Agree rt hmac p.2 verifier p.1) ∧
      ¬ Agree rt hmac key verifier row ∧ row.id = recordId := by
  induction signed with
  | nil => cases found
  | cons p rest ih =>
    obtain ⟨row,key⟩ := p
    rw [firstForeign] at found
    split_ifs at found with agree
    · obtain ⟨front,bad,other,behind,rfl,agrees,foreign,position⟩ := ih found
      exact ⟨(row,key) :: front,bad,other,behind,rfl,List.forall_mem_cons.mpr ⟨agree,agrees⟩,foreign,position⟩
    · exact ⟨[],row,key,rest,rfl,by simp,agree,Option.some.inj found⟩

/-- An intact record is intact under every key that gives it the same MAC. -/
theorem intact_under {key : List UInt8} (intact : Intact (keyed rt hmac key) row) (agree : Agree rt hmac key verifier row) :
    Intact (keyed rt hmac verifier) row := by
  obtain ⟨version,read,hashed,macIs⟩ := intact
  refine ⟨version,read,hashed,macIs.trans (congrArg (fun m : HexText => SqlValue.text m.text) ?_)⟩
  rw [Agree,hashed] at agree
  exact agree

/-- The records form one chain, each intact under its own key. -/
structure SignedChain (rt : Runtime) (hmac : List UInt8 → Text → HexText) (rows : List Row) (keys : List (List UInt8)) :
    Prop where
  chained : Chained 1 (.text genesisHash) (rows.map sealOf)
  intact : List.Forall₂ (fun row key => Intact (keyed rt hmac key) row) rows keys

/-- The next record continues a chain, whatever key it is written under. -/
theorem chained_next (chained : Chained 1 (.text genesisHash) (table.rows.map sealOf))
    (texts : ∀ r ∈ table.rows, ∃ key, Intact (keyed rt hmac key) r) (key : List UInt8) (timestamp payload : Text) :
    Chained 1 (.text genesisHash)
      ((table.rows ++ [nextRow (keyed rt hmac key) table.last timestamp payload]).map sealOf) := by
  rw [List.map_append,chained_append]
  refine ⟨chained,?_,?_,trivial⟩
  · cases latest : table.last with
    | none =>
      rw [last_eq_none.mp latest]
      rfl
    | some row =>
      obtain ⟨front,split⟩ := List.getLast?_eq_some_iff.mp latest
      rw [split,List.map_append,chained_append,List.length_map] at chained
      have position : row.id = 1 + front.length := chained.2.1
      simp only [sealOf,nextRow,nextId,position,split,List.length_map,List.length_append,List.length_singleton]
      omega
  · cases latest : table.last with
    | none =>
      rw [last_eq_none.mp latest]
      rfl
    | some row =>
      obtain ⟨own,intact⟩ := texts row (List.mem_of_getLast? latest)
      rw [lastDigest,List.getLast?_map,show table.rows.getLast? = some row from latest]
      exact intact.hash_text

theorem SignedChain.signed {rows : List Row} (chain : SignedChain rt hmac rows keys) :
    ∀ p ∈ rows.zip keys, Intact (keyed rt hmac p.2) p.1 := fun _ member => List.forall₂_zip chain.intact member

theorem SignedChain.rows_zip {rows : List Row} (chain : SignedChain rt hmac rows keys) : (rows.zip keys).map Prod.fst = rows :=
  List.map_fst_zip (Nat.le_of_eq chain.intact.length_eq)

theorem WrittenUnder.signedChain (written : WrittenUnder rt hmac table keys) : SignedChain rt hmac table.rows keys := by
  induction written with
  | empty => exact ⟨trivial,.nil⟩
  | @append table after keys timestamp payloadJson row key _ appended ih =>
    obtain ⟨payload,_,rfl,_,rows⟩ := appendOnce_ok appended
    rw [rows]
    refine ⟨chained_next ih.chained (fun r member => ?_) key _ _,List.rel_append ih.intact (.cons (nextRow_intact ..) .nil)⟩
    rw [← ih.rows_zip] at member
    obtain ⟨p,inZip,rfl⟩ := List.mem_map.mp member
    exact ⟨p.2,ih.signed p inZip⟩

/-- Records with the verifier's MACs are a valid chain to it. -/
theorem SignedChain.valid_front {rows : List Row} (chain : SignedChain rt hmac rows keys) {front rest : List (Row × List UInt8)}
    (split : rows.zip keys = front ++ rest) (agrees : ∀ p ∈ front, Agree rt hmac p.2 verifier p.1) :
    ValidChain (keyed rt hmac verifier) (front.map Prod.fst) := by
  have chained := chain.chained
  rw [← chain.rows_zip,split,List.map_append,List.map_append,chained_append] at chained
  refine ⟨chained.1,fun row member => ?_⟩
  obtain ⟨p,inFront,rfl⟩ := List.mem_map.mp member
  exact intact_under (chain.signed p (split ▸ List.mem_append_left rest inFront)) (agrees p inFront)

/-- A record with another MAC stops the verifier. -/
theorem foreign_stops {front : List Row} {key : List UInt8} (position : row.id = front.length + 1)
    (linked : row.prevHash = (advanceAll .start front).expectedPrev) (intact : Intact (keyed rt hmac key) row)
    (foreign : ¬ Agree rt hmac key verifier row) :
    checkRow (keyed rt hmac verifier) (advanceAll .start front) row = .ok (.inl (tampered row.id macReason)) := by
  obtain ⟨version,read,hashed,macIs⟩ := intact
  refine stops_mac position linked read hashed macIs fun same => foreign ?_
  rw [Agree,hashed]
  exact same.symm

/-- An append under a key that gives its record the verifier's MAC is one under the verifier's key. -/
theorem appendOnce_keyed {after : AuditTable} {key : List UInt8} {timestamp : UtcTime} {payloadJson : PyStr}
    (appended : appendOnce (keyed rt hmac key) table timestamp payloadJson = .ok (row,after))
    (agree : Agree rt hmac key verifier row) :
    appendOnce (keyed rt hmac verifier) table timestamp payloadJson = .ok (row,after) := by
  obtain ⟨payload,rfl,rfl,_,_⟩ := appendOnce_ok appended
  have same : nextRow (keyed rt hmac key) table.last timestamp.isoformat payload =
      nextRow (keyed rt hmac verifier) table.last timestamp.isoformat payload :=
    congrArg (fun m : HexText => { nextRow (keyed rt hmac verifier) table.last timestamp.isoformat payload with
      recordMac := .text m.text }) agree
  rw [← appended]
  simp only [appendOnce,insertNext,encodeUtf8_str,same]

/-- Appends under keys that give the records the verifier's MACs are appends under its key. -/
theorem WrittenUnder.agreed (written : WrittenUnder rt hmac table keys)
    (agrees : ∀ p ∈ table.rows.zip keys, Agree rt hmac p.2 verifier p.1) : Written (keyed rt hmac verifier) table := by
  induction written with
  | empty => exact .empty
  | @append table after keys timestamp payloadJson row key earlier appended ih =>
    obtain ⟨_,_,_,_,rows⟩ := appendOnce_ok appended
    have length : table.rows.length = keys.length := earlier.signedChain.intact.length_eq
    rw [rows,List.zip_append length] at agrees
    have last : Agree rt hmac key verifier row := agrees (row,key) (List.mem_append_right _ List.mem_cons_self)
    exact .append (ih fun p member => agrees p (List.mem_append_left _ member)) (appendOnce_keyed appended last)

/-- A verifier passes a log exactly as far as the records have the MACs of its own key: it
    finds the first one that has another key's, whatever the checkpoint, and a log without
    one is a log that appends under the verifier's key alone have written. -/
theorem verified_under_key (rt : Runtime) (hmac : List UInt8 → Text → HexText) (table : AuditTable) (keys : List (List UInt8))
    (written : WrittenUnder rt hmac table keys) (verifier : List UInt8) :
    (∀ recordId, firstForeign rt hmac verifier (table.rows.zip keys) = some recordId → ∀ checkpoint,
      verifyChain (keyed rt hmac verifier) table checkpoint = .ok (tampered recordId macReason)) ∧
    (firstForeign rt hmac verifier (table.rows.zip keys) = none →
      Written (keyed rt hmac verifier) table ∧
      ValidChain (keyed rt hmac verifier) table.rows ∧
      verifyChain (keyed rt hmac verifier) table none =
        .ok (if table.rows = [] then ⟨.empty,0,none,none,false⟩ else ⟨.valid,table.count,none,none,false⟩)) := by
  have chain := written.signedChain
  refine ⟨fun recordId found checkpoint => ?_,fun none => ?_⟩
  · obtain ⟨front,row,key,rest,split,agrees,foreign,rfl⟩ := firstForeign_some found
    have rows : table.rows = front.map Prod.fst ++ row :: rest.map Prod.fst := by
      rw [← chain.rows_zip,split]
      simp
    have chained := chain.chained
    rw [rows,List.map_append,chained_append,List.length_map] at chained
    have position : row.id = (front.map Prod.fst).length + 1 := chained.2.1.trans (Int.add_comm ..)
    have linked : row.prevHash = (advanceAll .start (front.map Prod.fst)).expectedPrev := by
      rw [advanceAll_expectedPrev]
      exact chained.2.2.1
    have intact := chain.signed (row,key) (split ▸ List.mem_append_right front List.mem_cons_self)
    exact verify_stops rows (chain.valid_front split agrees) (foreign_stops position linked intact foreign) checkpoint
  · have own := written.agreed (firstForeign_none none)
    refine ⟨own,own.validChain,?_⟩
    split_ifs with records
    · exact verifyChain_empty records
    · exact verify_valid own.validChain records

end

/-- `INSECURE_DEV_KEY` as bytes. -/
def developmentKey : List UInt8 := "insecure-dev-key-set-GATEWAY_AUDIT_HMAC_KEY".toList.map fun c => c.toNat.toUInt8

def productionKey : List UInt8 := List.replicate 32 107

def devFirstMac : HexText := digest "0c86a1ade8007824493617266008132ae89e024a144df313caf5beca2d78d381" (by decide +kernel)
def devSecondMac : HexText := digest "39edbabdaccfe94ca7b357e685e085599f86003f37e995cf156c8f05fd3a965d" (by decide +kernel)

/-- HMAC-SHA-256 of two hashes under both keys. -/
def twoKeys (key : List UInt8) : Text → HexText :=
  listedDigest (if key = developmentKey then [(firstHash.text,devFirstMac),(secondHash.text,devSecondMac)]
    else [(firstHash.text,firstMac),(secondHash.text,secondMac)])

def developmentRow : Row := { secondRow with recordMac := .text devSecondMac.text }

/-- A record of each gateway. -/
def sharedTable : AuditTable := ⟨[firstRow,developmentRow],by decide +kernel⟩

theorem sharedTable_written : WrittenUnder sampleRuntime twoKeys sharedTable [productionKey,developmentKey] := by
  have first : appendOnce (keyed sampleRuntime twoKeys productionKey) .empty sampleTime (str emptyPayload) =
      .ok (firstRow,oneRecord) := by
    decide +kernel
  have second : appendOnce (keyed sampleRuntime twoKeys developmentKey) oneRecord sampleTime (str emptyPayload) =
      .ok (developmentRow,sharedTable) := by
    decide +kernel
  exact .append developmentKey (.append productionKey .empty first) second

theorem verified_under_key_shared :
    verifyChain (keyed sampleRuntime twoKeys productionKey) sharedTable none = .ok (tampered 2 macReason) :=
  (verified_under_key sampleRuntime twoKeys sharedTable _ sharedTable_written productionKey).1 2 (by decide +kernel) none

end PrivacyGateway.AuditKeys
