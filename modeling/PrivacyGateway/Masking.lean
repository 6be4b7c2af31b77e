import PrivacyGateway.Paths
import PrivacyGateway.Statements

/-!
Audit writes that fail, as the client sees them. `append` turns the `OperationalError`s
of its attempts and an `OSError` of the checkpoint store into `AuditWriteError`, which
`_audit_safe` swallows. Any other exception that ends an attempt (`Escapes`) goes through
both, and the client receives the server's own error in place of the one of the path
(`unmasked_iff`).
-/
namespace PrivacyGateway.Masking
open PrivacyGateway.Strings PrivacyGateway.Errors PrivacyGateway.StdLib PrivacyGateway.JsonText PrivacyGateway.Decisions
open PrivacyGateway.Tokenization PrivacyGateway.Mediator PrivacyGateway.Handler PrivacyGateway.Outcomes PrivacyGateway.Paths
open PrivacyGateway.AuditLog PrivacyGateway.Statements PrivacyGateway.Verification

/-- The logger on a table and a store, as the handler sees it: the id of the record. -/
def logged (rt : Runtime) (table : AuditTable) (store : Option (Option AuditCheckpoint)) (around : Around)
    (payload : Json) : Except PyException Int :=
  (appendStatements rt table store around payload).result.map Row.id

/-- The exchange when the audit write goes through. -/
def intended (rt : Runtime) (gateway : Gateway) (chance : Chance) (body : ChatCompletionRequest) : Exchange :=
  serve rt (auditing gateway fun _ => .ok 0) chance body

/-- Beside the exchange that was intended: a failed audit write does not show on an error
    path, and shows as `AuditWriteError` on the success path. -/
structure Unmasked (rt : Runtime) (append : Json → Except PyException Int) (own actual : Exchange) : Prop where
  errorPath : ∀ payload ∈ own.appends, ¬ Completes payload → receive rt actual.result = receive rt own.result
  successPath : ∀ payload ∈ own.appends, Completes payload → (∃ e, append payload = .error e) →
    receive rt actual.result = receive rt (.error (.gateway auditWriteError))

/-- One of the attempts is ended by another exception than an `OperationalError`, and the
    ones before it by `OperationalError`s. -/
def Escapes (table : AuditTable) (around : Around) (payloadJson : PyStr) : Prop :=
  ∃ i < appendRetries, (∀ j < i, attemptFault (around.faults j) table payloadJson = some (.sqlite .operational)) ∧
    ∃ e, attemptFault (around.faults i) table payloadJson = some e ∧ e ≠ .sqlite .operational

/-- The response of the error cannot be rendered. -/
def Unrendered (result : Except PyException Response) : Prop :=
  ∃ error, result = .error (.gateway error) ∧ ¬ ∀ s ∈ shownStrings error, Utf8Encodable s

theorem unwritable_plain {table : AuditTable} {payloadJson : PyStr} {e : PyException}
    (raised : unwritable table payloadJson = some e) (error : GatewayError) : e ≠ .gateway error := by
  unfold unwritable at raised
  split_ifs at raised <;> cases raised <;> simp

/-- No attempt is ended by an error of the gateway's own. -/
theorem attemptFault_plain {faults : Statement → Option SqliteError} {table : AuditTable} {payloadJson : PyStr}
    {e : PyException} (ended : attemptFault faults table payloadJson = some e) (error : GatewayError) :
    e ≠ .gateway error := by
  unfold attemptFault at ended
  split at ended
  · cases ended
    simp
  · obtain ⟨raised,first,rfl⟩ := Option.map_eq_some_iff.mp ended
    cases faults .rollback with
    | some kind => simp
    | none =>
      rw [Option.map_none,Option.getD_none]
      simp only [transactionFault,Option.or_eq_some_iff,Option.map_eq_some_iff] at first
      rcases first with ⟨kind,_,rfl⟩ | ⟨_,unwritten | ⟨_,kind,_,rfl⟩⟩
      · simp
      · exact unwritable_plain unwritten error
      · simp

/-- The loop lets an exception through just when one escapes; otherwise it returns or gives up. -/
theorem attempts_escape (rt : Runtime) (table : AuditTable) (around : Around) (payloadJson : PyStr) :
    let tried := attempts rt table (conditionsOf around table payloadJson) payloadJson appendRetries
    Escapes table around payloadJson ∧ (∃ e, tried = .error e ∧ ∀ error, e ≠ .gateway error) ∨
      ¬ Escapes table around payloadJson ∧ ((∃ made, tried = .ok made) ∨ tried = .error (.gateway auditWriteError)) := by
  rcases attempts_spec rt table (conditionsOf around table payloadJson) payloadJson le_rfl with
    ⟨all,gaveUp⟩ | ⟨i,_,high,before,other,ended⟩
  · refine .inr ⟨?_,.inr gaveUp⟩
    rintro ⟨i,high,_,e,raised,escapes⟩
    have busy : attemptFault (around.faults i) table payloadJson = some (.sqlite .operational) := all i (by omega) high
    rw [raised] at busy
    exact escapes (Option.some.inj busy)
  · simp only [conditionsOf] at before other ended ⊢
    rw [ended]
    cases raised : attemptFault (around.faults i) table payloadJson with
    | none =>
      refine .inr ⟨?_,.inl ?_⟩
      · -- The attempt that goes through is the last one.
        rintro ⟨k,_,earlier,e,fault,escapes⟩
        rcases Nat.lt_trichotomy k i with below | rfl | above
        · rw [before k (by omega) below] at fault
          exact escapes (Option.some.inj fault).symm
        · simp [raised] at fault
        · exact other (earlier i above)
      · obtain ⟨_,fault,_⟩ | ⟨row,after,_,appended,_⟩ := attempt_spec rt (around.faults i) table (around.now i) payloadJson
        · simp [raised] at fault
        · exact ⟨_,appended⟩
    | some e =>
      refine .inl ⟨⟨i,high,fun j below => before j (by omega) below,e,raised,?_⟩,e,rfl,attemptFault_plain raised⟩
      rintro rfl
      exact other raised

/-- The append returns, gives up with its own error, or lets an exception through. -/
theorem logged_outcome (rt : Runtime) (table : AuditTable) (store : Option (Option AuditCheckpoint)) (around : Around)
    (payload : Json) :
    Escapes table around (canonicalJson rt payload) ∧
        (∃ e, logged rt table store around payload = .error e ∧ ∀ error, e ≠ .gateway error) ∨
      ¬ Escapes table around (canonicalJson rt payload) ∧ ((∃ id, logged rt table store around payload = .ok id) ∨
        logged rt table store around payload = .error (.gateway auditWriteError)) := by
  unfold logged appendStatements
  rw [attemptLoop_attempts]
  rcases attempts_escape rt table around (canonicalJson rt payload) with
    ⟨escapes,e,tried,plain⟩ | ⟨stays,⟨⟨row,after⟩,tried⟩ | tried⟩
  · refine .inl ⟨escapes,e,?_,plain⟩
    rw [tried]
    rfl
  · refine .inr ⟨stays,?_⟩
    rw [tried]
    cases store with
    | none => exact .inl ⟨row.id,rfl⟩
    | some held =>
      cases around.saveFails with
      | false => exact .inl ⟨row.id,rfl⟩
      | true => exact .inr rfl
  · refine .inr ⟨stays,.inr ?_⟩
    rw [tried]
    rfl

/-- The response of an error is the server's own just when it cannot be rendered. -/
theorem receive_unrendered (rt : Runtime) (error : GatewayError) :
    receive rt (.error (.gateway error)) = internalServerError ↔ Unrendered (.error (.gateway error)) := by
  have here : Unrendered (.error (.gateway error)) ↔ ¬ ∀ s ∈ shownStrings error, Utf8Encodable s := by
    refine ⟨?_,fun lone => ⟨error,rfl,lone⟩⟩
    rintro ⟨_,⟨⟩,lone⟩
    exact lone
  rw [here,← encodable_errorBody,receive]
  by_cases encodable : ∀ s ∈ strings (errorBody error), Utf8Encodable s
  · refine iff_of_false (fun same => ?_) (not_not.mpr encodable)
    obtain ⟨text,encoded⟩ := Option.isSome_iff_exists.mp ((encodable_dumps rt false (errorBody error)).mpr encodable)
    simp only [jsonResponse,encoded] at same
    -- The body of a rendered response is a JSON object.
    have opens : ∃ rest, dumps rt false (errorBody error) = .scalar '\x7b' :: rest := by
      unfold errorBody
      split <;> exact dumps_obj_head ..
    obtain ⟨rest,begins⟩ := opens
    have shown : text = "Internal Server Error".toList := congrArg Response.body same
    rw [encodeUtf8_eq_some.mp encoded,shown] at begins
    have first : some (PyChar.scalar 'I') = some (.scalar '\x7b') := congrArg List.head? begins
    exact absurd first (by decide)
  · rw [jsonResponse_error rt encodable]
    exact iff_of_true rfl encodable

theorem receive_plain (rt : Runtime) {e : PyException} (plain : ∀ error, e ≠ .gateway error) :
    receive rt (.error e) = internalServerError := by
  cases e with
  | gateway error => exact absurd rfl (plain error)
  | _ => rfl

theorem auditWriteError_rendered : ¬ Unrendered (.error (.gateway auditWriteError)) := by
  rintro ⟨_,⟨⟩,lone⟩
  exact lone (by simp [shownStrings,auditWriteError])

/-- An error path ends with the exception that escapes from the audit write, or with its own. -/
theorem refuse_result {gateway : Gateway} {payload : Json} (calls : List ProviderCall) (context : Option TokenizationContext)
    (error : GatewayError) :
    (∀ e, gateway.append payload = .error e → (∀ error, e ≠ .gateway error) →
      (refuse gateway calls context payload error).result = .error e) ∧
    (((∃ id, gateway.append payload = .ok id) ∨ gateway.append payload = .error (.gateway auditWriteError)) →
      (refuse gateway calls context payload error).result = .error (.gateway error)) := by
  simp only [refuse,auditSafe]
  constructor
  · intro e failed plain
    rw [failed]
    cases e with
    | gateway other => exact absurd rfl (plain other)
    | _ => rfl
  · rintro (⟨id,written⟩ | gaveUp)
    · rw [written]
    · rw [gaveUp]

theorem unmasked_single {rt : Runtime} {append : Json → Except PyException Int} {own actual : Exchange} {payload : Json}
    (only : own.appends = [payload]) :
    Unmasked rt append own actual ↔
      (¬ Completes payload → receive rt actual.result = receive rt own.result) ∧
      (Completes payload → (∃ e, append payload = .error e) →
        receive rt actual.result = receive rt (.error (.gateway auditWriteError))) := by
  have every : ∀ P : Json → Prop, (∀ p ∈ own.appends, P p) ↔ P payload := by simp [only]
  exact ⟨fun ⟨errorPath,successPath⟩ => ⟨(every _).mp errorPath,(every _).mp successPath⟩,
    fun ⟨errorPath,successPath⟩ => ⟨(every _).mpr errorPath,(every _).mpr successPath⟩⟩

/-- A failed audit write is masked nowhere and masks nothing just when no exception escapes,
    or on an error path whose own error shows as the server's anyway. -/
theorem unmasked_iff (rt : Runtime) (gateway : Gateway) (table : AuditTable) (store : Option (Option AuditCheckpoint))
    (around : Around) (chance : Chance) (body : ChatCompletionRequest) :
    Unmasked rt (logged rt table store around) (intended rt gateway chance body)
        (serve rt (auditing gateway (logged rt table store around)) chance body) ↔
      ∀ payload ∈ (intended rt gateway chance body).appends, Escapes table around (canonicalJson rt payload) →
        ¬ Completes payload ∧ Unrendered (intended rt gateway chance body).result := by
  obtain ⟨path,named,_,goes⟩ := chat_path rt gateway chance body
  rw [intended,serve,serve,goes,goes]
  cases path with
  | unrecorded calls context result =>
    exact iff_of_true ⟨fun _ member => absurd member List.not_mem_nil,fun _ member => absurd member List.not_mem_nil⟩
      fun _ member => absurd member List.not_mem_nil
  | refused calls context payload error =>
    obtain ⟨lets,swallows⟩ := @refuse_result (auditing gateway (logged rt table store around)) payload calls context error
    rw [unmasked_single rfl]
    simp only [clearRequestTokenContext,Path.exchange]
    rcases logged_outcome rt table store around payload with ⟨escapes,e,failed,plain⟩ | ⟨stays,outcome⟩
    · rw [lets e failed plain,receive_plain rt plain]
      constructor
      · rintro ⟨shows,_⟩ other member _
        rw [List.mem_singleton.mp member]
        exact ⟨named.1,(receive_unrendered rt error).mp (shows named.1).symm⟩
      · intro bare
        have unrendered := (bare payload (List.mem_singleton_self _) escapes).2
        exact ⟨fun _ => ((receive_unrendered rt error).mpr unrendered).symm,fun completes => absurd completes named.1⟩
    · rw [swallows outcome]
      refine iff_of_true ⟨fun _ => rfl,fun completes => absurd completes named.1⟩ fun other member escapes => ?_
      rw [List.mem_singleton.mp member] at escapes
      exact absurd escapes stays
  | completed call context payload response =>
    rw [unmasked_single rfl]
    simp only [clearRequestTokenContext,Path.exchange,auditing_append]
    rcases logged_outcome rt table store around payload with ⟨escapes,e,failed,plain⟩ | ⟨stays,outcome⟩
    · refine iff_of_false (fun both => ?_) fun bare => (bare payload (List.mem_singleton_self _) escapes).1 named
      have shows := both.2 named ⟨e,failed⟩
      rw [failed,receive_plain rt plain] at shows
      exact auditWriteError_rendered ((receive_unrendered rt auditWriteError).mp shows.symm)
    · refine iff_of_true ⟨fun other => absurd named other,fun _ failed => ?_⟩ fun other member escapes => ?_
      · rcases outcome with ⟨id,written⟩ | gaveUp
        · obtain ⟨e,failed⟩ := failed
          rw [written] at failed
          cases failed
        · rw [gaveUp]
      · rw [List.mem_singleton.mp member] at escapes
        exact absurd escapes stays

/-- A gateway whose detector fails. -/
def failingGateway : Gateway :=
  createApp ⟨lit "openai",false,false⟩ ⟨defaultPolicy,fun _ _ => .error .runtimeError,plainAnonymizer⟩ (fun _ => .ok 1)
    fun _ => .error .runtimeError

/-- The first statement that reads the file raises a `DatabaseError`. -/
def garbled : Around :=
  ⟨fun _ => sampleTime,fun _ s => if s = .createTable then some .database else none,sampleTime,false⟩

/-- The detector fails, and the client receives the error of the audit write. -/
theorem garbled_file_masks :
    let own := intended sampleRuntime failingGateway plainChance greeting
    let actual := serve sampleRuntime (auditing failingGateway (logged sampleRuntime .empty none garbled)) plainChance greeting
    own.result = .error (.gateway detectorFailureError) ∧ actual.result = .error (.sqlite .database) ∧
    receive sampleRuntime actual.result = internalServerError ∧
    ¬ Unmasked sampleRuntime (logged sampleRuntime .empty none garbled) own actual := by
  intro own actual
  have intends : own.result = .error (.gateway detectorFailureError) := rfl
  have raised : actual.result = .error (.sqlite .database) := rfl
  have bare : receive sampleRuntime actual.result = internalServerError := by
    rw [raised]
    rfl
  refine ⟨intends,raised,bare,fun unmasked => ?_⟩
  have shows := unmasked.errorPath _ (List.mem_singleton_self _)
    (StoppedBefore.not_completes (.inl rfl))
  rw [bare,intends] at shows
  obtain ⟨_,⟨⟩,lone⟩ := (receive_unrendered sampleRuntime detectorFailureError).mp shows.symm
  exact lone (by simp [shownStrings,detectorFailureError])

end PrivacyGateway.Masking
