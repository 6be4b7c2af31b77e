import PrivacyGateway.ReadLog

/-!
The audit endpoints and a client that pages through `/v1/audit/entries` while calls go on
writing the log. The pages it has fetched are the beginning of the log, no record missing
or repeated, and one more page reaches as far as its limit or to the end of the log
(`pages_in_order`); without the administrative key nothing is fetched at all, and what is
shown of a payload never includes the redacted messages.
-/
namespace PrivacyGateway.AuditEndpoints
open PrivacyGateway.Strings PrivacyGateway.Errors PrivacyGateway.StdLib PrivacyGateway.JsonText
open PrivacyGateway.JsonAccess PrivacyGateway.Raising PrivacyGateway.AuditLog PrivacyGateway.Verification
open PrivacyGateway.CheckpointFile PrivacyGateway.JsonCompact PrivacyGateway.Runs PrivacyGateway.ReadLog
open PrivacyGateway.Writers (AppendCall reachable_inv committing)

def adminDisabledError : GatewayError :=
  ⟨.configInvalid,403,lit "Audit endpoints are disabled (no administrative API key is configured).",none⟩
def adminUnauthorizedError : GatewayError :=
  ⟨.configInvalid,401,lit "Invalid or missing administrative credential.",none⟩

/-- `require_admin(request)`, given the configured key and the header of the request. -/
def requireAdmin (configured : PyStr) (header : Option PyStr) : Except PyException Unit :=
  if configured = [] then .error (.gateway adminDisabledError)
  else
    match encodeUtf8 (header.getD []),encodeUtf8 configured with
    | some supplied,some key => if supplied = key then .ok () else .error (.gateway adminUnauthorizedError)
    | _,_ => .error .unicodeEncodeError

/-- Only the configured key opens the gate. -/
theorem requireAdmin_eq_ok {configured : PyStr} {header : Option PyStr} :
    requireAdmin configured header = .ok () ↔
      configured ≠ [] ∧ Utf8Encodable configured ∧ header.getD [] = configured := by
  unfold requireAdmin
  by_cases disabled : configured = []
  · simp [disabled]
  · rw [if_neg disabled,and_iff_right disabled]
    cases supplied : encodeUtf8 (header.getD []) with
    | none =>
      refine iff_of_false (by simp) ?_
      rintro ⟨encodable,same⟩
      rw [Utf8Encodable,← same,supplied] at encodable
      cases encodable
    | some s =>
      cases key : encodeUtf8 configured with
      | none => simp [Utf8Encodable,key]
      | some k =>
        have encodable : Utf8Encodable configured := by simp [Utf8Encodable,key]
        rw [encodeUtf8_eq_some] at supplied key
        rw [supplied,key,and_iff_right (by simp),str_inj]
        simp

/-- What is shown of a record: no field of the payload but the redacted messages is left out. -/
def shown (record : AuditRecord) : Except PyException Json :=
  match record.payload with
  | .obj fields => .ok (.obj [
      field "id" (.int record.id),
      field "schema_version" (.int record.schemaVersion),
      field "timestamp" (.str (str record.timestamp)),
      field "payload" (.obj (fields.filter fun entry => entry.1 ≠ lit "redacted_messages")),
      field "prev_hash" (.str (str record.prevHash)),
      field "record_mac" (.str (str record.recordMac))])
  | _ => .error .attributeError

/-- The body of a page. -/
def entriesBody (total limit offset : Int) (records : List Json) : Json :=
  .obj [field "total" (.int total),field "limit" (.int limit),field "offset" (.int offset),field "records" (.arr records)]

/-- FastAPI's answer to a query that is out of range. -/
def requestValidationError : PyException := .other (lit "RequestValidationError")

section
variable (py : Interpreter) (loadsBytes : List UInt8 → Except PyException Json) (configured : PyStr)

/-- `GET /v1/audit/entries`: the gate, the bounds of the query, the page and, from a second
    connection, the count. -/
def auditEntries (header : Option PyStr) (limit offset : Int) (table counted : AuditTable) : Except PyException Json := do
  requireAdmin configured header
  if 1 ≤ limit ∧ limit ≤ 200 ∧ 0 ≤ offset then
    let records ← entries py loadsBytes table (some limit) offset
    let bodies ← records.mapM shown
    return entriesBody counted.count limit offset bodies
  else .error requestValidationError

/-- `ChainStatus` -/
def statusValue : ChainStatus → PyStr
  | .valid => lit "valid"
  | .invalid => lit "invalid"
  | .empty => lit "empty"
  | .unverifiable => lit "unverifiable_against_external_checkpoint"

def orNull {α : Type} (value : Option α) (write : α → Json) : Json :=
  match value with
  | some a => write a
  | none => .null

/-- The body of a verdict. -/
def verdictBody (result : Verification) : Json := .obj [
  field "status" (.str (statusValue result.status)),
  field "entries_checked" (.int result.entriesChecked),
  field "first_invalid_id" (orNull result.firstInvalidId .int),
  field "reason" (orNull result.reason fun text => .str (str text)),
  field "tail_verified" (.bool result.tailVerified)]

/-- `GET /v1/audit/verify`; the store is `none` where no checkpoint path is configured. -/
def auditVerify (header : Option PyStr) (table : AuditTable) (store : Option StoredFile) : Except PyException Json := do
  requireAdmin configured header
  let result ← match store with
    | none => verifyWithStore py.rt table none
    | some file => verifyWithFile py table file
  return verdictBody result

/-- The log with its calls, and the records that the client has been given so far. -/
structure State where
  log : Writers.State
  fetched : List Json

def State.start : State := ⟨.start,[]⟩

inductive Event where
  | log (e : Writers.Event)
  /-- The client asks for the page behind what it has, with the given header; the count is
      that of a table of its own. -/
  | fetch (header : Option PyStr) (limit : Int) (counted : AuditTable)

/-- `response["records"]` -/
def recordsOf (body : Json) : List Json :=
  match subscript body "records" with
  | .ok (.arr bodies) => bodies
  | _ => []

/-- One step; a refused request leaves the client with what it has. -/
def step (calls : Nat → AppendCall) (s : State) : Event → Option State
  | .log e => (Writers.step py.rt calls s.log e).map fun log => { s with log := log }
  | .fetch header limit counted =>
    match auditEntries py loadsBytes configured header limit s.fetched.length s.log.table counted with
    | .ok body => some { s with fetched := s.fetched ++ recordsOf body }
    | .error _ => some s

/-- The query is answered with a page. -/
def Answered (header : Option PyStr) (limit : Int) : Prop :=
  requireAdmin configured header = .ok () ∧ 1 ≤ limit ∧ limit ≤ 200

end

section
variable {py : Interpreter} {loadsBytes : List UInt8 → Except PyException Json} {configured : PyStr}
  {calls : Nat → AppendCall} {s t : State} {e : Event}

theorem shown_eq_ok {record : AuditRecord} {body : Json} (made : shown record = .ok body) :
    ∃ fields, record.payload = .obj fields ∧ subscript body "id" = .ok (.int record.id) ∧
      subscript body "payload" = .ok (.obj (fields.filter fun entry => entry.1 ≠ lit "redacted_messages")) := by
  unfold shown at made
  split at made
  · next fields same =>
    cases made
    exact ⟨fields,same,rfl,rfl⟩
  · cases made

theorem shown_unredacted {record : AuditRecord} {body : Json} (made : shown record = .ok body) :
    ∃ payload, subscript body "payload" = .ok (.obj payload) ∧ lit "redacted_messages" ∉ payload.map Prod.fst := by
  obtain ⟨fields,_,_,payload⟩ := shown_eq_ok made
  refine ⟨_,payload,fun inside => ?_⟩
  obtain ⟨entry,kept,same⟩ := List.mem_map.mp inside
  exact of_decide_eq_true (List.mem_filter.mp kept).2 same

/-- The call hands over a dict that can be written and read. -/
def HandsDict (py : Interpreter) (call : AppendCall) : Prop :=
  ∃ fields, call.payload = .obj fields ∧ Readable py.floatOf py.rt py.jsonDepth (.obj fields)

/-- Every call does. -/
def Dicts (py : Interpreter) (calls : Nat → AppendCall) : Prop := ∀ w, HandsDict py (calls w)

theorem HandsDict.readable {call : AppendCall} (hands : HandsDict py call) :
    Readable py.floatOf py.rt py.jsonDepth call.payload := by
  obtain ⟨fields,same,readable⟩ := hands
  rw [same]
  exact readable

/-- The records of the calls, as they are shown. -/
def shownAll (py : Interpreter) (calls : Nat → AppendCall) (history : List (Nat × Row)) : Except PyException (List Json) :=
  (history.map (readBack py.rt calls)).mapM shown

theorem shownAll_ok {history : List (Nat × Row)} (dicts : ∀ entry ∈ history, HandsDict py (calls entry.1)) :
    ∃ bodies, shownAll py calls history = .ok bodies ∧ bodies.length = history.length := by
  have each : ∀ record ∈ history.map (readBack py.rt calls), ∃ body, shown record = .ok body := by
    intro record inside
    obtain ⟨entry,committed,rfl⟩ := List.mem_map.mp inside
    obtain ⟨fields,same,_⟩ := dicts entry committed
    rw [shown,readBack,returnedRecord,same,arranged]
    exact ⟨_,rfl⟩
  obtain ⟨bodies,made,length⟩ := mapM_eq_ok each
  exact ⟨bodies,made,by rw [length,List.length_map]⟩

theorem Dicts.shown_ok (dicts : Dicts py calls) (history : List (Nat × Row)) :
    ∃ bodies, shownAll py calls history = .ok bodies ∧ bodies.length = history.length :=
  shownAll_ok fun entry _ => dicts entry.1

/-- There are no more records than ids. -/
theorem history_bound {log : Writers.State} (reached : Reachable (Writers.step py.rt calls) .start log) :
    (log.history.length : Int) ≤ maxRowId := by
  have inv := reachable_inv reached
  cases last : log.table.rows.getLast? with
  | none =>
    have none : log.history = [] := by
      rw [inv.rows,List.getLast?_map,Option.map_eq_none_iff] at last
      exact List.getLast?_eq_none_iff.mp last
    rw [none]
    decide
  | some row =>
    have position := inv.valid.last_id last
    have bound := (written_row inv.log row (List.mem_of_getLast? last)).2
    have same : log.table.rows.length = log.history.length := by rw [inv.rows,List.length_map]
    omega

/-- A page that is answered holds the next records. -/
theorem auditEntries_page {log : Writers.State} (reached : Reachable (Writers.step py.rt calls) .start log)
    (dicts : ∀ entry ∈ log.history, HandsDict py (calls entry.1)) {header : Option PyStr} {limit : Int} {n : Nat}
    (inside : n ≤ log.history.length) (answered : Answered configured header limit) (counted : AuditTable) :
    ∃ body bodies, auditEntries py loadsBytes configured header limit n log.table counted = .ok body ∧
      recordsOf body = bodies ∧ shownAll py calls ((log.history.drop n).take limit.toNat) = .ok bodies := by
  obtain ⟨opened,low,high⟩ := answered
  have bound := history_bound reached
  have paged : page (some limit) n log.history = .ok ((log.history.drop n).take limit.toNat) := by
    have fits : (bindable limit && bindable n) = true := by
      simp only [bindable,Bool.and_eq_true,decide_eq_true_eq]
      unfold maxRowId at bound ⊢
      omega
    rw [page]
    simp only [fits,↓reduceIte,Int.toNat_natCast,show ¬ limit < 0 by omega]
  have pages : ∀ limit offset, entries py loadsBytes log.table limit offset =
      (page limit offset log.history).map (List.map (readBack py.rt calls)) :=
    entries_page (reachable_inv reached) fun entry committed => (dicts entry committed).readable
  have shown : ∀ entry ∈ (log.history.drop n).take limit.toNat, HandsDict py (calls entry.1) := fun entry inside =>
    dicts entry (List.mem_of_mem_drop (List.mem_of_mem_take inside))
  obtain ⟨bodies,made,_⟩ := shownAll_ok shown
  refine ⟨entriesBody counted.count limit n bodies,bodies,?_,rfl,made⟩
  rw [auditEntries,opened,ok_bind,if_pos ⟨low,high,by omega⟩,pages,paged,map_ok,ok_bind]
  unfold shownAll at made
  rw [made]
  rfl

/-- A step of the log commits one row or none. -/
theorem history_step {rt : Runtime} {s t : Writers.State} {e : Writers.Event} (stepped : Writers.step rt calls s e = some t) :
    s.history <+: t.history := by
  cases Writers.step_cases stepped with
  | commit _ => exact List.prefix_append _ _
  | _ => exact List.prefix_rfl

/-- What is committed stays. -/
theorem history_grows {rt : Runtime} {s t : Writers.State} (reached : Reachable (Writers.step rt calls) s t) :
    s.history <+: t.history := by
  have keeps : ∀ {u v : Writers.State} {e : Writers.Event}, s.history <+: u.history →
      Writers.step rt calls u e = some v → s.history <+: v.history := fun grown stepped => grown.trans (history_step stepped)
  exact @Reachable.invariant _ _ _ (fun u => s.history <+: u.history) _ _ reached List.prefix_rfl keeps

/-- What has been fetched is the beginning of the log. -/
structure Paged (py : Interpreter) (calls : Nat → AppendCall) (s : State) : Prop where
  reached : Reachable (Writers.step py.rt calls) .start s.log
  inside : s.fetched.length ≤ s.log.history.length
  fetched : shownAll py calls (s.log.history.take s.fetched.length) = .ok s.fetched

theorem paged_start : Paged py calls .start := ⟨⟨[],rfl⟩,Nat.le_refl _,rfl⟩

/-- A page that is answered is added, a refused request changes nothing. -/
theorem fetch_cases (dicts : Dicts py calls) (paged : Paged py calls s) {header : Option PyStr} {limit : Int}
    {counted : AuditTable} (stepped : step py loadsBytes configured calls s (.fetch header limit counted) = some t) :
    (Answered configured header limit ∧ t.log = s.log ∧ ∃ bodies, t.fetched = s.fetched ++ bodies ∧
        shownAll py calls ((s.log.history.drop s.fetched.length).take limit.toNat) = .ok bodies) ∨
      ¬ Answered configured header limit ∧ t = s := by
  rw [step] at stepped
  by_cases answered : Answered configured header limit
  · obtain ⟨body,bodies,made,same,all⟩ : ∃ body bodies,
        auditEntries py loadsBytes configured header limit s.fetched.length s.log.table counted = .ok body ∧
          recordsOf body = bodies ∧
          shownAll py calls ((s.log.history.drop s.fetched.length).take limit.toNat) = .ok bodies :=
      auditEntries_page paged.reached (fun entry _ => dicts entry.1) paged.inside answered counted
    rw [made] at stepped
    cases stepped
    exact .inl ⟨answered,rfl,bodies,by rw [same],all⟩
  · refine .inr ⟨answered,?_⟩
    have refused : ∃ e, auditEntries py loadsBytes configured header limit s.fetched.length s.log.table counted = .error e := by
      rw [auditEntries]
      cases opened : requireAdmin configured header with
      | error e => exact ⟨e,rfl⟩
      | ok _ =>
        rw [ok_bind,if_neg fun bounds => answered ⟨opened,bounds.1,bounds.2.1⟩]
        exact ⟨_,rfl⟩
    obtain ⟨e,refused⟩ := refused
    rw [refused] at stepped
    cases stepped
    rfl

theorem paged_step (dicts : Dicts py calls) (paged : Paged py calls s)
    (stepped : step py loadsBytes configured calls s e = some t) : Paged py calls t := by
  cases e with
  | log e =>
    obtain ⟨log,made,rfl⟩ := Option.map_eq_some_iff.mp stepped
    obtain ⟨before,ran⟩ := paged.reached
    obtain ⟨more,grown⟩ := history_step made
    refine ⟨⟨before ++ [e],run_snoc.mpr ⟨_,ran,made⟩⟩,?_,?_⟩
    · have longer := congrArg List.length grown
      rw [List.length_append] at longer
      have := paged.inside
      simp only
      omega
    · simp only
      rw [← grown,List.take_append_of_le_length paged.inside]
      exact paged.fetched
  | fetch header limit counted =>
    rcases fetch_cases dicts paged stepped with ⟨_,same,bodies,added,all⟩ | ⟨_,rfl⟩
    · obtain ⟨found,made,length⟩ := dicts.shown_ok ((s.log.history.drop s.fetched.length).take limit.toNat)
      have count := length
      rw [all] at made
      cases made
      rw [List.length_take,List.length_drop] at count
      have inside := paged.inside
      refine ⟨same ▸ paged.reached,?_,?_⟩
      · rw [added,same,List.length_append]
        omega
      · have taken : s.log.history.take (s.fetched ++ bodies).length =
            s.log.history.take s.fetched.length ++ (s.log.history.drop s.fetched.length).take limit.toNat := by
          rw [List.length_append,List.take_add,length]
          congr 1
          exact List.take_eq_take_iff.mpr (by rw [List.length_take]; omega)
        have before := paged.fetched
        rw [added,same,taken,shownAll,List.map_append,List.mapM_append]
        rw [shownAll] at before all
        rw [before,ok_bind,all]
        rfl
    · exact paged

end

/-- Whatever is appended between the pages, what a client has fetched is the beginning of the
    log; another page reaches as far as its limit, or to the end of the log; the redacted
    messages are never shown, and without the key nothing is. -/
theorem pages_in_order (py : Interpreter) (loadsBytes : List UInt8 → Except PyException Json) (configured : PyStr)
    (calls : Nat → AppendCall) (dicts : Dicts py calls) (events : List Event) (s : State)
    (ran : run (step py loadsBytes configured calls) .start events = some s) :
    shownAll py calls (s.log.history.take s.fetched.length) = .ok s.fetched ∧
      (∀ header limit counted t, step py loadsBytes configured calls s (.fetch header limit counted) = some t →
        (Answered configured header limit →
          t.fetched.length = min (s.fetched.length + limit.toNat) s.log.history.length) ∧
        (¬ Answered configured header limit → t = s)) ∧
      (∀ body ∈ s.fetched, ∃ payload, subscript body "payload" = .ok (.obj payload) ∧
        lit "redacted_messages" ∉ payload.map Prod.fst) ∧
      ((configured = [] ∨ ∀ header limit counted, .fetch header limit counted ∈ events → header.getD [] ≠ configured) →
        s.fetched = []) := by
  have reached : Reachable (step py loadsBytes configured calls) .start s := ⟨events,ran⟩
  have paged : Paged py calls s := reached.invariant paged_start (paged_step dicts)
  refine ⟨paged.fetched,fun header limit counted t stepped => ?_,fun body inside => ?_,fun closed => ?_⟩
  · rcases fetch_cases dicts paged stepped with ⟨answered,_,bodies,added,all⟩ | ⟨refused,same⟩
    · refine ⟨fun _ => ?_,fun refused => absurd answered refused⟩
      obtain ⟨found,made,length⟩ := dicts.shown_ok ((s.log.history.drop s.fetched.length).take limit.toNat)
      rw [all] at made
      cases made
      have inside := paged.inside
      rw [added,List.length_append,length,List.length_take,List.length_drop]
      omega
    · exact ⟨fun answered => absurd answered refused,fun _ => same⟩
  · obtain ⟨record,_,made⟩ := mem_mapM paged.fetched body inside
    exact shown_unredacted made
  · have refused : ∀ e ∈ events, ∀ header limit counted, e = .fetch header limit counted →
        requireAdmin configured header ≠ .ok () := by
      rintro e made header limit counted rfl opened
      obtain ⟨enabled,_,same⟩ := requireAdmin_eq_ok.mp opened
      rcases closed with disabled | others
      · exact enabled disabled
      · exact others header limit counted made same
    have along : Along (step py loadsBytes configured calls) (fun _ e _ => ∀ header limit counted,
        e = .fetch header limit counted → requireAdmin configured header ≠ .ok ()) .start events := along_of_forall refused
    have keeps : ∀ {s e t}, (Paged py calls s ∧ s.fetched = []) → step py loadsBytes configured calls s e = some t →
        (∀ header limit counted, e = .fetch header limit counted → requireAdmin configured header ≠ .ok ()) →
          Paged py calls t ∧ t.fetched = [] := by
      rintro s e t ⟨paged,nothing⟩ stepped shut
      refine ⟨paged_step dicts paged stepped,?_⟩
      cases e with
      | log e =>
        obtain ⟨log,_,rfl⟩ := Option.map_eq_some_iff.mp stepped
        exact nothing
      | fetch header limit counted =>
        rcases fetch_cases dicts paged stepped with ⟨answered,_⟩ | ⟨_,rfl⟩
        · exact absurd answered.1 (shut header limit counted rfl)
        · exact nothing
    exact (@invariant_along _ _ _ _ (fun s => Paged py calls s ∧ s.fetched = []) keeps _ _ _ ⟨paged_start,rfl⟩ along ran).2

/-- The second record is committed between two pages of one record each. -/
theorem pages_in_order_between :
    ∃ s, run (step sampleInterpreter (fun _ => .error .valueError) (lit "k") pairedCalls) .start
        ((committing 0).map .log ++ [.fetch (some (lit "k")) 1 .empty,.fetch (some (lit "no")) 200 .empty] ++
          (committing 1).map .log ++ [.fetch (some (lit "k")) 1 .empty]) = some s ∧
      s.fetched.length = 2 ∧ shownAll sampleInterpreter pairedCalls (s.log.history.take 2) = .ok s.fetched := by
  have seen : (run (step sampleInterpreter (fun _ => .error .valueError) (lit "k") pairedCalls) .start
      ((committing 0).map .log ++ [.fetch (some (lit "k")) 1 .empty,.fetch (some (lit "no")) 200 .empty] ++
        (committing 1).map .log ++ [.fetch (some (lit "k")) 1 .empty])).map (fun s => s.fetched.length) = some 2 := by
    decide +kernel
  obtain ⟨s,ran,two⟩ := Option.map_eq_some_iff.mp seen
  have dicts : Dicts sampleInterpreter pairedCalls := by
    intro w
    by_cases second : w = 1
    · refine ⟨[field "a" (.int 1)],by rw [pairedCalls,if_pos second],List.nodup_singleton _,fun entry inside => ?_⟩
      rw [List.mem_singleton.mp inside]
      exact ⟨encodable_lit _,readable_int.mpr (by decide)⟩
    · exact ⟨[],by rw [pairedCalls,if_neg second],List.nodup_nil,fun _ inside => absurd inside List.not_mem_nil⟩
  obtain ⟨pages,_⟩ := pages_in_order sampleInterpreter _ (lit "k") pairedCalls dicts _ s ran
  rw [two] at pages
  exact ⟨s,ran,two,pages⟩

end PrivacyGateway.AuditEndpoints
