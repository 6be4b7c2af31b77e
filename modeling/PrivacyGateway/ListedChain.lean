import PrivacyGateway.AttackEvaluation
import PrivacyGateway.AuditEndpoints

/-!
What a client can check of the records that `/v1/audit/entries` shows. A record is shown
with everything that its hash covers but the redacted messages, and the hash itself as the
`prev_hash` of the next record. Whoever holds the audit key can verify a listing by itself
just when no record in it has redacted messages (`fetched_vouched_iff`).
-/
namespace PrivacyGateway.ListedChain
open PrivacyGateway.Strings PrivacyGateway.Errors PrivacyGateway.StdLib PrivacyGateway.JsonText PrivacyGateway.JsonAccess
open PrivacyGateway.Raising PrivacyGateway.SqlValues PrivacyGateway.HashChain PrivacyGateway.AuditLog
open PrivacyGateway.Verification PrivacyGateway.Tampering PrivacyGateway.CheckpointFile PrivacyGateway.JsonCompact
open PrivacyGateway.Runs PrivacyGateway.ReadLog PrivacyGateway.AuditEndpoints
open PrivacyGateway.Writers (AppendCall reachable_inv committing)

section
variable (rt : Runtime)

/-- The seal of a record with the hash of what is shown of it. -/
def shownSeal (body : Json) : Option (Seal SqlValue) :=
  match subscript body "id",subscript body "schema_version",subscript body "timestamp",subscript body "payload",
    subscript body "prev_hash" with
  | .ok (.int recordId),.ok (.int schemaVersion),.ok (.str timestamp),.ok payload,.ok (.str prevHash) => do
    let timestamp ← encodeUtf8 timestamp
    let payloadJson ← encodeUtf8 (canonicalJson rt payload)
    let prevHash ← encodeUtf8 prevHash
    return ⟨recordId,.text prevHash,.text (computeRecordHash rt recordId schemaVersion timestamp payloadJson prevHash).text⟩
  | _,_,_,_,_ => none

/-- The record is shown with the MAC of the hash of what is shown. -/
def Vouches (body : Json) (s : Seal SqlValue) : Prop :=
  shownSeal rt body = some s ∧
    ∃ hash, s.digest = .text hash ∧ subscript body "record_mac" = .ok (.str (str (mac rt hash).text))

/-- The listing is a chain from the beginning of the log, each record with its MAC. -/
def Vouched (bodies : List Json) : Prop :=
  ∃ seals, List.Forall₂ (Vouches rt) bodies seals ∧ Chained 1 (.text genesisHash) seals

/-- The payload has no redacted messages. -/
def Plain (payload : Json) : Prop := ∀ fields, payload = .obj fields → lit "redacted_messages" ∉ fields.map Prod.fst

end

section
variable {py : Interpreter} {floatOf : Text → PyFloat} {rt : Runtime} {depth : Nat}

/-- What is read back can be written again. -/
theorem readable_arranged {value : Json} (readable : Readable floatOf rt depth value) :
    Readable floatOf rt depth (arranged true value) := by
  induction depth generalizing value with
  | zero =>
    cases value with
    | arr items => exact readable.elim
    | obj fields => exact readable.elim
    | _ => exact readable
  | succ depth ih =>
    cases value with
    | arr items =>
      rw [arranged,arrangedItems_eq_map,readable_arr]
      intro item inside
      obtain ⟨source,member,rfl⟩ := List.mem_map.mp inside
      exact ih (readable source member)
    | obj fields =>
      obtain ⟨distinct,each⟩ := readable
      rw [arranged_obj,readable_obj,List.map_map]
      refine ⟨((order_perm true fields).map Prod.fst).nodup_iff.mpr distinct,fun entry inside => ?_⟩
      obtain ⟨source,member,rfl⟩ := List.mem_map.mp inside
      obtain ⟨name,value⟩ := each source ((order_perm true fields).mem_iff.mp member)
      exact ⟨name,ih value⟩
    | _ => exact readable

theorem readable_filter {fields : List (PyStr × Json)} (readable : Readable floatOf rt depth (.obj fields))
    (keep : PyStr × Json → Bool) : Readable floatOf rt depth (.obj (fields.filter keep)) := by
  cases depth with
  | zero => exact readable.elim
  | succ depth =>
    obtain ⟨distinct,each⟩ := readable
    exact ⟨distinct.sublist (List.filter_sublist.map _),fun entry inside => each entry (List.mem_filter.mp inside).1⟩

/-- Ordering a dict keeps its keys. -/
theorem mem_keys_arranged {fields : List (PyStr × Json)} {ordered : List (PyStr × Json)}
    (same : arranged true (.obj fields) = .obj ordered) (key : PyStr) :
    key ∈ ordered.map Prod.fst ↔ key ∈ fields.map Prod.fst := by
  rw [arranged_obj] at same
  cases same
  rw [List.map_map]
  exact ((order_perm true fields).map Prod.fst).mem_iff

/-- What is shown of a written record, and the hash and the MAC that the log has of it. -/
theorem shown_seal {row : Row} {last : Option Row} {timestamp stored shownText : Text} {fields : List (PyStr × Json)}
    {body : Json} (made : row = nextRow rt last timestamp stored)
    (encoded : canonicalJson rt (.obj (fields.filter fun entry => entry.1 ≠ lit "redacted_messages")) = str shownText)
    (shows : shown (returnedRecord rt row (.obj fields)) = .ok body) :
    shownSeal rt body = some ⟨row.id,row.prevHash,
      .text (computeRecordHash rt (nextId last) auditSchemaVersion timestamp shownText (prevHash rt last)).text⟩ ∧
    subscript body "record_mac" = .ok (.str (str (mac rt
      (computeRecordHash rt (nextId last) auditSchemaVersion timestamp stored (prevHash rt last)).text).text)) := by
  subst made
  cases shows
  refine ⟨?_,rfl⟩
  have read : shownSeal rt (.obj [
      field "id" (.int (nextId last)),
      field "schema_version" (.int auditSchemaVersion),
      field "timestamp" (.str (str timestamp)),
      field "payload" (.obj (fields.filter fun entry => entry.1 ≠ lit "redacted_messages")),
      field "prev_hash" (.str (str (prevHash rt last))),
      field "record_mac" (.str (str (mac rt
        (computeRecordHash rt (nextId last) auditSchemaVersion timestamp stored (prevHash rt last)).text).text))]) =
      (encodeUtf8 (str timestamp)).bind fun t =>
        (encodeUtf8 (canonicalJson rt (.obj (fields.filter fun entry => entry.1 ≠ lit "redacted_messages")))).bind fun u =>
          (encodeUtf8 (str (prevHash rt last))).bind fun prev =>
            some ⟨nextId last,.text prev,.text (computeRecordHash rt (nextId last) auditSchemaVersion t u prev).text⟩ := rfl
  refine read.trans ?_
  rw [encoded,encodeUtf8_str,encodeUtf8_str,encodeUtf8_str]
  rfl

end

section
variable {py : Interpreter} {calls : Nat → AppendCall} {log : Writers.State}

/-- A listed record vouches for a seal just when nothing of its payload is left out, and then
    for that of its row. -/
theorem vouches_iff (collisionFree : CollisionFree py.rt) (macFree : Function.Injective py.rt.hmac)
    (reached : Reachable (Writers.step py.rt calls) .start log) {entry : Nat × Row} (committed : entry ∈ log.history)
    (hands : HandsDict py (calls entry.1)) {body : Json} (shows : shown (readBack py.rt calls entry) = .ok body)
    (s : Seal SqlValue) : Vouches py.rt body s ↔ Plain (calls entry.1).payload ∧ s = sealOf entry.2 := by
  have inv := reachable_inv reached
  have inside : entry.2 ∈ log.table.rows := by
    rw [inv.rows]
    exact List.mem_map_of_mem committed
  obtain ⟨last,timestamp,stored,made⟩ := AttackEvaluation.written_row inv.log entry.2 inside
  obtain ⟨t,encoded,holds⟩ := inv.carried entry committed
  obtain rfl : stored = t := by
    rw [made] at holds
    exact SqlValue.text.inj holds
  obtain ⟨fields,payload,readable⟩ := hands
  rw [payload] at encoded
  obtain ⟨ordered,same⟩ : ∃ ordered, arranged true (.obj fields) = .obj ordered := ⟨_,arranged_obj true fields⟩
  rw [readBack,payload,same] at shows
  have ordering := readable_arranged readable
  rw [same] at ordering
  have kept := readable_filter ordering fun entry => entry.1 ≠ lit "redacted_messages"
  obtain ⟨u,written,_⟩ := loads_dumps true kept
  obtain ⟨sealed,macked⟩ := shown_seal made written shows
  constructor
  · rintro ⟨shownIs,hash,digestIs,macIs⟩
    obtain rfl := Option.some.inj (sealed.symm.trans shownIs)
    obtain rfl := SqlValue.text.inj digestIs
    have macs := Json.str.inj (Except.ok.inj (macked.symm.trans macIs))
    -- The MAC fixes the hash, and the hash the payload that was hashed.
    have hashes := collisionFree (HexText.ext (macFree (HexText.ext (str_inj.mp macs))))
    obtain rfl := AttackEvaluation.payload_of_joined (material_split hashes).2.2
    refine ⟨?_,by rw [made]; rfl⟩
    rw [payload]
    rintro _ ⟨⟩ present
    have alike := (canonicalJson_eq_iff kept readable).mp (written.trans encoded.symm)
    rw [same] at alike
    have left := (mem_keys_arranged alike _).mp ((mem_keys_arranged same _).mpr present)
    obtain ⟨entry,inKept,named⟩ := List.mem_map.mp left
    exact of_decide_eq_true (List.mem_filter.mp inKept).2 named
  · rintro ⟨plain,rfl⟩
    have whole : (ordered.filter fun entry => entry.1 ≠ lit "redacted_messages") = ordered := by
      refine List.filter_eq_self.mpr fun entry inside => decide_eq_true fun named => ?_
      exact plain fields payload ((mem_keys_arranged same _).mp (named ▸ List.mem_map_of_mem inside))
    rw [whole,← same] at written
    have again : canonicalJson py.rt (arranged true (.obj fields)) = canonicalJson py.rt (.obj fields) := dumps_arranged ..
    obtain rfl : stored = u := str_inj.mp (encoded.symm.trans (again.symm.trans written))
    refine ⟨sealed.trans ?_,_,?_,macked⟩
    · rw [made]
      rfl
    · rw [made]
      rfl

/-- A listing vouches for seals just when its payloads are whole, and then for those of its rows. -/
theorem listing_vouches (collisionFree : CollisionFree py.rt) (macFree : Function.Injective py.rt.hmac)
    (reached : Reachable (Writers.step py.rt calls) .start log) (dicts : Dicts py calls) {listed : List (Nat × Row)}
    {bodies : List Json} (among : ∀ entry ∈ listed, entry ∈ log.history)
    (shows : List.Forall₂ (fun entry body => shown (readBack py.rt calls entry) = .ok body) listed bodies)
    (seals : List (Seal SqlValue)) : List.Forall₂ (Vouches py.rt) bodies seals ↔
      (∀ entry ∈ listed, Plain (calls entry.1).payload) ∧ seals = listed.map fun entry => sealOf entry.2 := by
  induction shows generalizing seals with
  | nil => simp
  | @cons entry body rest others head _ ih =>
    obtain ⟨committed,among⟩ := List.forall_mem_cons.mp among
    have here := vouches_iff collisionFree macFree reached committed (dicts entry.1) head
    rw [List.forall₂_cons_left_iff,List.forall_mem_cons]
    constructor
    · rintro ⟨s,more,first,later,rfl⟩
      obtain ⟨plain,rfl⟩ := (here s).mp first
      obtain ⟨plains,rfl⟩ := (ih among more).mp later
      exact ⟨⟨plain,plains⟩,rfl⟩
    · rintro ⟨⟨plain,plains⟩,rfl⟩
      exact ⟨_,_,(here _).mpr ⟨plain,rfl⟩,(ih among _).mpr ⟨plains,rfl⟩,rfl⟩

end

/-- Whatever is appended between the pages, what a client has fetched can be verified by
    itself, with the audit key, just when no record in it has redacted messages. -/
theorem fetched_vouched_iff (py : Interpreter) (loadsBytes : List UInt8 → Except PyException Json) (configured : PyStr)
    (collisionFree : CollisionFree py.rt) (macFree : Function.Injective py.rt.hmac) (calls : Nat → AppendCall)
    (dicts : Dicts py calls) (events : List Event) (s : State)
    (ran : run (step py loadsBytes configured calls) .start events = some s) :
    Vouched py.rt s.fetched ↔ ∀ entry ∈ s.log.history.take s.fetched.length, Plain (calls entry.1).payload := by
  have reached : Reachable (step py loadsBytes configured calls) .start s := ⟨events,ran⟩
  have paged : Paged py calls s := reached.invariant paged_start (paged_step dicts)
  have inv := reachable_inv paged.reached
  have shows := mapM_eq_ok_iff.mp paged.fetched
  rw [List.forall₂_map_left_iff] at shows
  have vouches := listing_vouches collisionFree macFree paged.reached dicts
    (fun entry inside => List.mem_of_mem_take inside) shows
  constructor
  · rintro ⟨seals,each,_⟩
    exact ((vouches seals).mp each).1
  · intro plain
    refine ⟨_,(vouches _).mpr ⟨plain,rfl⟩,?_⟩
    have chained : Chained 1 (.text genesisHash) (s.log.table.rows.map sealOf) := inv.valid.1
    rw [inv.rows,List.map_map] at chained
    have front := chained.take s.fetched.length
    rw [← List.map_take] at front
    exact front

/-- The second call has redacted messages to store. -/
def redactingCalls : Nat → AppendCall := fun w => ⟨if w = 1 then .obj [field "redacted_messages" .null] else .obj [],false⟩

def firstPage : List Event := (committing 0).map .log ++ [.fetch (some (lit "k")) 1 .empty]

def secondPage : List Event := (committing 1).map .log ++ [.fetch (some (lit "k")) 1 .empty]

/-- The listing of the first record proves it, and with the second it proves nothing. -/
theorem fetched_vouched_iff_redacting :
    ∃ s t, run (step sampleInterpreter (fun _ => .error .valueError) (lit "k") redactingCalls) .start firstPage = some s ∧
      run (step sampleInterpreter (fun _ => .error .valueError) (lit "k") redactingCalls) .start (firstPage ++ secondPage) =
        some t ∧
      s.fetched.length = 1 ∧ Vouched sampleInterpreter.rt s.fetched ∧
      t.fetched.length = 2 ∧ ¬ Vouched sampleInterpreter.rt t.fetched := by
  have first : (run (step sampleInterpreter (fun _ => .error .valueError) (lit "k") redactingCalls) .start firstPage).map
      (fun s => (s.fetched.length,s.log.history.map Prod.fst)) = some (1,[0]) := by decide +kernel
  have both : (run (step sampleInterpreter (fun _ => .error .valueError) (lit "k") redactingCalls) .start
      (firstPage ++ secondPage)).map (fun s => (s.fetched.length,s.log.history.map Prod.fst)) = some (2,[0,1]) := by
    decide +kernel
  obtain ⟨s,ran,seen⟩ := Option.map_eq_some_iff.mp first
  obtain ⟨t,ran',seen'⟩ := Option.map_eq_some_iff.mp both
  obtain ⟨one,author⟩ := Prod.mk.inj seen
  obtain ⟨two,authors⟩ := Prod.mk.inj seen'
  have dicts : Dicts sampleInterpreter redactingCalls := by
    intro w
    by_cases second : w = 1
    · refine ⟨[field "redacted_messages" .null],by rw [redactingCalls,if_pos second],List.nodup_singleton _,fun entry inside => ?_⟩
      rw [List.mem_singleton.mp inside]
      exact ⟨encodable_lit _,readable_null⟩
    · exact ⟨[],by rw [redactingCalls,if_neg second],List.nodup_nil,fun _ inside => absurd inside List.not_mem_nil⟩
  have proves := fetched_vouched_iff sampleInterpreter (fun _ => .error .valueError) (lit "k") sampleRuntime_collisionFree
    AttackEvaluation.sampleRuntime_macFree redactingCalls dicts
  refine ⟨s,t,ran,ran',one,(proves _ s ran).mpr fun entry inside => ?_,two,fun vouched => ?_⟩
  · have from0 := List.mem_map_of_mem (f := Prod.fst) (List.mem_of_mem_take inside)
    rw [author,List.mem_singleton] at from0
    rintro fields payload present
    rw [from0] at payload
    cases payload
    cases present
  · have from1 : 1 ∈ (t.log.history.take t.fetched.length).map Prod.fst := by
      rw [List.map_take,authors,two]
      decide
    obtain ⟨entry,inside,same⟩ := List.mem_map.mp from1
    refine (proves _ t ran').mp vouched entry inside [field "redacted_messages" .null] ?_ List.mem_cons_self
    rw [same]
    rfl

end PrivacyGateway.ListedChain
