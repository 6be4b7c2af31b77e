import PrivacyGateway.Runs
import PrivacyGateway.Verification

/-!
An attacker who rewrites the table without the audit key. The pairs of hash and
MAC that verify are those that append wrote (`Unforged`), a record's hash fixes its
id, and so a log that passes is a prefix of the written one in everything but the
content of its rows (`prefix_of_unforged`). With a checkpoint a shorter log is
reported unless a cell of it cannot be read, and content is authentic as long as no
field of a record holds the separator.
-/
namespace PrivacyGateway.Tampering
open PrivacyGateway.Strings PrivacyGateway.Errors PrivacyGateway.StdLib PrivacyGateway.SqlValues
open PrivacyGateway.Separated PrivacyGateway.HashChain PrivacyGateway.JsonText PrivacyGateway.AuditLog
open PrivacyGateway.Verification PrivacyGateway.Runs

/-- The row's MAC is the MAC of its hash under the key. -/
def Signed (rt : Runtime) (row : Row) : Prop := ∃ h, row.recordHash = .text h ∧ row.recordMac = .text (mac rt h).text

instance (rt : Runtime) (row : Row) : Decidable (Signed rt row) :=
  match hashed : row.recordHash with
  | .text h => decidable_of_iff (row.recordMac = .text (mac rt h).text)
      ⟨fun signed => ⟨h,hashed,signed⟩,fun ⟨_,same,signed⟩ => SqlValue.text.inj (hashed.symm.trans same) ▸ signed⟩
  | .int _ => isFalse fun ⟨_,same,_⟩ => SqlValue.noConfusion (hashed.symm.trans same)
  | .real _ => isFalse fun ⟨_,same,_⟩ => SqlValue.noConfusion (hashed.symm.trans same)
  | .blob _ => isFalse fun ⟨_,same,_⟩ => SqlValue.noConfusion (hashed.symm.trans same)

/-- Every pair of hash and MAC among the rows that is valid under the key is a written one. -/
def Unforged (rt : Runtime) (written rows : List Row) : Prop :=
  ∀ row ∈ rows, Signed rt row → ∃ w ∈ written, w.recordHash = row.recordHash ∧ w.recordMac = row.recordMac

instance (rt : Runtime) (written rows : List Row) : Decidable (Unforged rt written rows) :=
  inferInstanceAs (Decidable (∀ row ∈ rows, _))

/-- The columns that tie a record into the chain. -/
structure Stamp where
  id : Int
  prevHash : SqlValue
  recordHash : SqlValue
  recordMac : SqlValue
  deriving DecidableEq

def stamp (row : Row) : Stamp := ⟨row.id,row.prevHash,row.recordHash,row.recordMac⟩

theorem Unforged.mono {rt : Runtime} {written more rows : List Row} (unforged : Unforged rt written rows)
    (grown : ∀ w ∈ written, w ∈ more) : Unforged rt more rows := by
  intro row member signed
  obtain ⟨w,inWritten,same⟩ := unforged row member signed
  exact ⟨w,grown w inWritten,same⟩

theorem decimalInt_bar_free (n : Int) : '|' ∉ decimalInt n := by
  intro member
  rcases decimalInt_chars member with minus | digit
  · exact absurd minus (by decide)
  · exact absurd digit (by decide)

/-- The hashed text fixes the id and the schema version, and what follows them. -/
theorem material_split {recordId recordId' version version' : Int} {timestamp timestamp' payload payload' prev prev' : Text}
    (same : material recordId version timestamp payload prev = material recordId' version' timestamp' payload' prev') :
    recordId = recordId' ∧ version = version' ∧
      joined '|' [timestamp,payload,prev] = joined '|' [timestamp',payload',prev'] := by
  obtain ⟨ids,rest⟩ := split_first (decimalInt_bar_free recordId) (decimalInt_bar_free recordId') same
  obtain ⟨versions,tails⟩ := split_first (decimalInt_bar_free version) (decimalInt_bar_free version') rest
  exact ⟨decimalInt_injective ids,decimalInt_injective versions,tails⟩

section
variable {rt : Runtime} {written rows : List Row}

/-- An intact row carries the hash, the MAC and the id of a written one. -/
theorem known_of_intact (collisionFree : CollisionFree rt) (log : ∀ w ∈ written, Intact rt w)
    (unforged : Unforged rt written rows) {row : Row} (member : row ∈ rows) (intact : Intact rt row) :
    ∃ w ∈ written, w.recordHash = row.recordHash ∧ w.recordMac = row.recordMac ∧ w.id = row.id := by
  obtain ⟨version,_,hashed,macIs⟩ := intact
  obtain ⟨w,inWritten,sameHash,sameMac⟩ := unforged row member ⟨_,hashed,macIs⟩
  refine ⟨w,inWritten,sameHash,sameMac,?_⟩
  obtain ⟨version',_,hashed',_⟩ := log w inWritten
  rw [hashed,hashed'] at sameHash
  have digests := HexText.ext (SqlValue.text.inj sameHash)
  exact (material_split (collisionFree digests)).1

/-- The hash of an intact row fixes its MAC. -/
theorem mac_of_hash {a b : Row} (intact : Intact rt a) (intact' : Intact rt b) (same : a.recordHash = b.recordHash) :
    a.recordMac = b.recordMac := by
  obtain ⟨version,_,hashed,macIs⟩ := intact
  obtain ⟨version',_,hashed',macIs'⟩ := intact'
  rw [hashed,hashed'] at same
  rw [macIs,macIs',SqlValue.text.inj same]

/-- No two records of a valid log follow the same record. -/
theorem prevs_nodup (collisionFree : CollisionFree rt) (fresh : ∀ t, (rt.sha256 t).text ≠ genesisHash)
    (valid : ValidChain rt rows) : (rows.map Row.prevHash).Nodup := by
  have distinct : (rows.map Row.recordHash).Nodup := by
    refine valid.ids_nodup.of_map.map_on fun a memberA b memberB same => ?_
    obtain ⟨_,_,hashed,_⟩ := valid.2 a memberA
    obtain ⟨_,_,hashed',_⟩ := valid.2 b memberB
    rw [hashed,hashed'] at same
    have ids := (material_split (collisionFree (HexText.ext (SqlValue.text.inj same)))).1
    exact List.inj_on_of_nodup_map valid.ids_nodup memberA memberB ids
  have prevs := valid.1.prevs_nodup (by simpa [Function.comp_def,sealOf] using distinct) (by
    intro member
    rw [List.map_map] at member
    obtain ⟨row,inRows,same⟩ := List.mem_map.mp member
    obtain ⟨_,_,hashed,_⟩ := valid.2 row inRows
    simp only [Function.comp_apply,sealOf,hashed,start_expectedPrev,SqlValue.text.injEq] at same
    exact fresh _ same)
  simpa [Function.comp_def,sealOf] using prevs

private theorem stamps_of_seals {others : List Row} (seals : rows.map sealOf = others.map sealOf)
    (intact : ∀ r ∈ rows, Intact rt r) (intact' : ∀ r ∈ others, Intact rt r) : rows.map stamp = others.map stamp := by
  rw [← List.forall₂_eq_eq_eq,List.forall₂_map_left_iff,List.forall₂_map_right_iff] at seals ⊢
  refine List.forall₂_iff_zip.mpr ⟨seals.length_eq,fun {a b} member => ?_⟩
  have same := (List.forall₂_iff_zip.mp seals).2 member
  simp only [sealOf,Seal.mk.injEq] at same
  obtain ⟨inRows,inOthers⟩ := List.of_mem_zip member
  rw [stamp,stamp,same.1,same.2.1,same.2.2,mac_of_hash (intact a inRows) (intact' b inOthers) same.2.2]

/-- A log that passes has the ids, hashes and MACs of the beginning of the written one. -/
theorem prefix_of_unforged (collisionFree : CollisionFree rt) (log : ValidChain rt written)
    (unforged : Unforged rt written rows) (valid : ValidChain rt rows) :
    rows.length ≤ written.length ∧ rows.map stamp = (written.take rows.length).map stamp := by
  have known : ∀ s ∈ rows.map sealOf, ∃ w ∈ written.map sealOf, w.digest = s.digest ∧ w.position = s.position := by
    intro s member
    obtain ⟨row,inRows,rfl⟩ := List.mem_map.mp member
    obtain ⟨w,inWritten,digest,_,position⟩ := known_of_intact collisionFree log.2 unforged inRows (valid.2 row inRows)
    exact ⟨sealOf w,List.mem_map_of_mem inWritten,digest,position⟩
  obtain ⟨size,seals⟩ := prefix_of_known log.1 valid.1 known
  rw [List.length_map,List.length_map] at size
  rw [List.length_map,← List.map_take] at seals
  exact ⟨size,stamps_of_seals seals valid.2 fun r member => log.2 r (List.mem_of_mem_take member)⟩

theorem Unforged.front {front rest : List Row} (unforged : Unforged rt written (front ++ rest)) :
    Unforged rt written front := fun row member => unforged row (List.mem_append_left rest member)

end

/-- What `verify_chain` establishes about a table that the attacker has rewritten. A
    VALID log is the beginning of the written one, tail truncation apart; an INVALID
    one is so up to the row that is reported, which is not the written row. -/
theorem structural_tamper_evidence (rt : Runtime) (collisionFree : CollisionFree rt) (written table : AuditTable)
    (log : Written rt written) (unforged : Unforged rt written.rows table.rows) (result : Verification)
    (verified : verifyChain rt table none = .ok result) :
    (result.status = .valid → table.rows.length ≤ written.rows.length ∧
      table.rows.map Row.id = (List.range table.rows.length).map (fun i : Nat => 1 + (i : Int)) ∧
      table.rows.map stamp = (written.rows.take table.rows.length).map stamp) ∧
    (result.status = .invalid → ∃ c row, result.entriesChecked = c + 1 ∧ table.rows[c]? = some row ∧
      c ≤ written.rows.length ∧ (table.rows.take c).map stamp = (written.rows.take c).map stamp ∧
      written.rows[c]? ≠ some row) := by
  have logged := log.validChain
  by_cases valid : ValidChain rt table.rows
  · by_cases records : table.rows = []
    · rw [verifyChain_empty records] at verified
      cases verified
      exact ⟨fun status => ChainStatus.noConfusion status,fun status => ChainStatus.noConfusion status⟩
    · rw [verify_valid valid records] at verified
      cases verified
      obtain ⟨size,stamps⟩ := prefix_of_unforged collisionFree logged unforged valid
      exact ⟨fun _ => ⟨size,valid.ids,stamps⟩,fun status => ChainStatus.noConfusion status⟩
  · obtain ⟨front,row,rest,split,passes,fails,outcome⟩ := verifyChain_broken valid
    rcases outcome with ⟨_,reason,verdict⟩ | ⟨_,_,e,raised⟩
    · rw [verdict] at verified
      cases verified
      obtain ⟨size,stamps⟩ := prefix_of_unforged collisionFree logged (split ▸ unforged).front passes
      refine ⟨fun status => ChainStatus.noConfusion status,fun _ => ⟨front.length,row,?_,by simp [split],size,?_,?_⟩⟩
      · rw [rejected,advanceAll_checked,start_checked,Nat.zero_add]
      · rw [split,List.take_left,stamps]
      · -- The written row at this place would have passed.
        intro same
        have upTo := logged.take (front.length + 1)
        unfold ValidChain at upTo
        rw [List.take_add_one,same,Option.toList_some,passes_append] at upTo
        obtain ⟨⟨position,prev⟩,intact⟩ := (passes_cons.mp upTo.2).1
        refine fails ⟨⟨?_,?_⟩,intact⟩
        · rw [position,advanceAll_expectedId,advanceAll_expectedId,List.length_take,Nat.min_eq_left size]
        · rw [prev,advanceAll_expectedPrev,advanceAll_expectedPrev]
          have seals := congrArg (List.map fun s : Stamp => (⟨s.id,s.prevHash,s.recordHash⟩ : Seal SqlValue)) stamps
          simp only [List.map_map] at seals
          exact congrArg (lastDigest _) seals.symm
    · rw [raised] at verified
      cases verified

theorem oneRecord_unforged : Unforged sampleRuntime twoRecords.rows oneRecord.rows :=
  fun row member _ => ⟨row,List.mem_cons.mpr (.inl (List.mem_singleton.mp member)),rfl,rfl⟩

/-- A log of two records from which the second was deleted. -/
theorem structural_tamper_evidence_truncated :
    verifyChain sampleRuntime oneRecord none = .ok ⟨.valid,1,none,none,false⟩ ∧
      oneRecord.rows.map stamp = (twoRecords.rows.take 1).map stamp := by
  have verified := verify_valid oneRecord_written.validChain (List.cons_ne_nil _ _)
  have evidence := structural_tamper_evidence sampleRuntime sampleRuntime_collisionFree twoRecords oneRecord
    twoRecords_written oneRecord_unforged _ verified
  exact ⟨verified,(evidence.1 rfl).2.2⟩

/-! ### Checkpoints -/

/-- No row that comes after an intact beginning and is linked to it has cells that
    `int` or `compare_digest` refuse. -/
def Readable (rt : Runtime) (rows : List Row) : Prop :=
  ∀ front row rest, rows = front ++ row :: rest → ValidChain rt front → Follows (advanceAll .start front) row →
    ¬ Unreadable rt row

section
variable {rt : Runtime} {written table : AuditTable} {k : Nat} {record : Row} {checkpoint : AuditCheckpoint}

/-- A verdict needs rows that can be read. -/
theorem readable_of_verdict {given : Option AuditCheckpoint} {result : Verification}
    (verified : verifyChain rt table given = .ok result) : Readable rt table.rows := by
  intro front row rest split passes follows unreadable
  obtain ⟨e,raised⟩ := walkRows_raises passes follows unreadable rest
  cases latest : table.last with
  | none => simp [last_eq_none.mp latest] at split
  | some last => simp [verifyChain,latest,split,raised] at verified

end

end PrivacyGateway.Tampering
