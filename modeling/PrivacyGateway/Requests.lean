import PrivacyGateway.JsonCompact
import PrivacyGateway.Paths

/-!
What a request hands the audit logger. Whatever mediator and provider do, the handler
either raises without a record, or hands over one payload of a fixed shape and then
refuses or answers (`chat_wayOut`). Every payload names its request and its event, and
when it can be written at all it can be read again (`handed_readable`).
-/
namespace PrivacyGateway.Requests
open PrivacyGateway.Strings PrivacyGateway.Errors PrivacyGateway.StdLib PrivacyGateway.JsonText
open PrivacyGateway.Decisions PrivacyGateway.Tokenization PrivacyGateway.Mediator PrivacyGateway.Handler
open PrivacyGateway.Outcomes PrivacyGateway.Paths PrivacyGateway.JsonCompact

section
variable (rt : Runtime) (gateway : Gateway) (chance : Chance) (body : ChatCompletionRequest)

/-- The payloads of the error paths. -/
inductive Refusal : Json → Prop
  | detectorFailure : Refusal (detectorFailurePayload gateway chance body)
  | policyBlocked (decisions : List PolicyDecision) (blocked : List PyStr) :
      Refusal (policyBlockedPayload gateway chance body decisions blocked)
  | sanitizationFailure (decisions : List PolicyDecision) :
      Refusal (sanitizationFailurePayload gateway chance body decisions)
  | providerError (status : Nat) (code : ErrorCode) (decisions : List PolicyDecision) (promptHash : HexText) :
      Refusal (providerErrorPayload gateway chance body status code decisions promptHash)
  | responseScanFailure (decisions : List PolicyDecision) (promptHash responseHash : HexText) :
      Refusal (responseScanFailurePayload gateway chance body decisions promptHash responseHash)

/-- The payloads that the handler has for the audit logger. -/
inductive Handed : Json → Prop
  | refusal {payload : Json} : Refusal gateway chance body payload → Handed payload
  | chatCompletion (decisions : List PolicyDecision) (promptHash responseHash : HexText) (responseScanned : Bool)
      (redacted : Option (List ChatMessage)) :
      Handed (chatCompletionPayload gateway chance body decisions promptHash responseHash responseScanned redacted)

/-- What each way out of the handler leaves behind. -/
inductive WayOut : Exchange → Prop
  | raised (calls : List ProviderCall) (context : Option TokenizationContext) (e : PyException) :
      WayOut ⟨calls,[],context,.error e⟩
  | refused (calls : List ProviderCall) (context : Option TokenizationContext) {payload : Json} (error : GatewayError) :
      Refusal gateway chance body payload → WayOut (refuse gateway calls context payload error)
  | completed {ctx : TokenizationContext} {perMessage : List (List RecognizerResult)} {decisions : List PolicyDecision}
      {contents : List PyStr} {context : Option TokenizationContext} (promptHash responseHash : HexText)
      (redacted : Option (List ChatMessage)) {reply response : ProviderResponse} {responseScanned : Bool} :
      Mediation gateway chance body ctx perMessage decisions contents context →
      gateway.chat (callOf body contents) = .ok reply → scanned gateway reply = .ok (response,responseScanned) →
      WayOut (finish rt gateway chance body (callOf body contents) context decisions promptHash responseHash (.ok redacted)
        response responseScanned)

theorem respond_wayOut {ctx : TokenizationContext} {perMessage : List (List RecognizerResult)}
    {decisions : List PolicyDecision} {contents : List PyStr} {context : Option TokenizationContext}
    (mediation : Mediation gateway chance body ctx perMessage decisions contents context) (promptHash : HexText)
    (redacted : Except PyException (Option (List ChatMessage))) {response : ProviderResponse}
    (replied : gateway.chat (callOf body contents) = .ok response) :
    WayOut rt gateway chance body
      (respond rt gateway chance body (callOf body contents) context decisions promptHash redacted response) := by
  unfold respond
  cases sha256Canonical rt _ with
  | error e => exact .raised ..
  | ok responseHash =>
    simp only
    cases scans : scanned gateway response with
    | error e => exact .refused _ _ _ (.responseScanFailure ..)
    | ok result =>
      cases redacted with
      | error e => exact .raised ..
      | ok messages => exact .completed _ _ _ mediation replied scans

theorem contact_wayOut {ctx : TokenizationContext} {perMessage : List (List RecognizerResult)}
    {decisions : List PolicyDecision} {contents : List PyStr} {context : Option TokenizationContext}
    (mediation : Mediation gateway chance body ctx perMessage decisions contents context)
    (redacted : Except PyException (Option (List ChatMessage))) :
    WayOut rt gateway chance body (contact rt gateway chance body context decisions
      (List.zipWith (fun message content => ⟨message.role,content⟩) body.messages contents) redacted) := by
  unfold contact
  cases sha256Canonical rt _ with
  | error e => exact .raised ..
  | ok promptHash =>
    simp only
    cases replied : gateway.chat _ with
    | ok response => exact respond_wayOut _ _ _ _ mediation _ _ replied
    | error e =>
      cases e with
      | gateway error => exact .refused _ _ _ (.providerError ..)
      | _ => exact .refused _ _ _ (.providerError ..)

/-- The handler leaves nothing else behind, whatever mediator, provider and logger do. -/
theorem chat_wayOut : WayOut rt gateway chance body (chatCompletions rt gateway chance body) := by
  unfold chatCompletions
  simp only
  cases created : TokenizationContext.create chance.draws _ with
  | error e => exact .refused _ _ _ .detectorFailure
  | ok ctx =>
    simp only
    cases detected : detect gateway _ with
    | error e => exact .refused _ _ _ .detectorFailure
    | ok found =>
      obtain ⟨perMessage,decisions⟩ := found
      simp only [mediate]
      split_ifs with blocked
      · exact .refused _ _ _ (.policyBlocked ..)
      · cases applied : applyAll gateway.mediator.apply 0 _ _ with
        | mk outcome context =>
          cases outcome with
          | error e => exact .refused _ _ _ (.sanitizationFailure _)
          | ok contents => exact contact_wayOut _ _ _ _ ⟨created,detected,not_not.mp blocked,applied⟩ _

end

/-! ### What a payload holds -/

theorem messages_nested (messages : List ChatMessage) : WellNested 2 (messagesJson messages) := by
  intro item inside
  obtain ⟨message,_,rfl⟩ := List.mem_map.mp inside
  refine ⟨?_,by simp [field]⟩
  change (["role","content"].map lit).Nodup
  decide

section
variable {gateway : Gateway} {chance : Chance} {body : ChatCompletionRequest} {payload : Json}

/-- Every payload is a dict. -/
theorem Handed.dict (handed : Handed gateway chance body payload) : ∃ fields, payload = .obj fields := by
  cases handed with
  | refusal refusal => cases refusal <;> exact ⟨_,rfl⟩
  | chatCompletion => exact ⟨_,rfl⟩

/-- The record of an error path is no completion. -/
theorem Refusal.not_completes (refusal : Refusal gateway chance body payload) : ¬ Completes payload := by
  have other : ∀ event : String, recorded "event" payload = some (.str (lit event)) → lit event ≠ lit "chat_completion" →
      ¬ Completes payload := by
    intro event states differ completes
    rw [Completes,states,Option.some_inj,Json.str.injEq] at completes
    exact differ completes
  cases refusal with
  | detectorFailure => exact other "detector_failure" rfl (by decide)
  | policyBlocked => exact other "policy_blocked" rfl (by decide)
  | sanitizationFailure => exact other "detector_failure" rfl (by decide)
  | providerError => exact other "provider_error" rfl (by decide)
  | responseScanFailure => exact other "response_scan_failure" rfl (by decide)

end

/-- A request with its gateway: mediator and provider may answer every request in their own way. -/
structure Request where
  gateway : Gateway
  chance : Chance
  body : ChatCompletionRequest

/-- What the request leaves behind when `append` ends in the given way. -/
def Request.exchange (rt : Runtime) (r : Request) (result : Except PyException Int) : Exchange :=
  serve rt (auditing r.gateway fun _ => result) r.chance r.body

/-- What the client receives then. -/
def Request.answer (rt : Runtime) (r : Request) (result : Except PyException Int) : Response :=
  receive rt (r.exchange rt result).result

/-- The payload that the request hands the logger. -/
def Request.handed (rt : Runtime) (r : Request) : Option Json := (r.exchange rt (.ok 0)).appends.head?

/-- The headers of a completed cycle. -/
def completedHeaders (chance : Chance) (recordId : Int) : List (PyStr × PyStr) := [
  (lit "X-Gateway-Request-Id",chance.requestId),
  (lit "X-Audit-Entry-Id",str (decimalInt recordId))]

/-- The response of the completed cycle, whose record has the given id, cannot be rendered. -/
def Request.Unrendered (rt : Runtime) (r : Request) (recordId : Int) : Prop :=
  ∃ context response, (r.exchange rt (.ok recordId)).result =
      jsonResponse rt 200 (delivered r.body context response).body (completedHeaders r.chance recordId) ∧
    jsonResponse rt 200 (delivered r.body context response).body (completedHeaders r.chance recordId) =
      .error .unicodeEncodeError

section
variable {rt : Runtime} {r : Request} {payload : Json}

/-- What is handed over does not depend on what becomes of it. -/
theorem exchange_appends (result : Except PyException Int) : (r.exchange rt result).appends = (r.handed rt).toList := by
  obtain ⟨path,_,_,goes⟩ := chat_path rt r.gateway r.chance r.body
  have appends : ∀ result : Except PyException Int, (r.exchange rt result).appends =
      (path.exchange (auditing r.gateway fun _ => result)).appends := by
    intro result
    rw [← goes]
    rfl
  rw [Request.handed,appends,appends]
  cases path with
  | unrecorded => rfl
  | refused => rfl
  | completed => cases result <;> rfl

/-- Rendering keeps status and headers, or raises. -/
theorem jsonResponse_cases (rt : Runtime) (status : Nat) (content : Json) (headers : List (PyStr × PyStr)) :
    (∃ text, jsonResponse rt status content headers = .ok ⟨status,text,headers⟩) ∨
      jsonResponse rt status content headers = .error .unicodeEncodeError := by
  unfold jsonResponse
  cases encodeUtf8 (dumps rt false content) with
  | none => exact .inr rfl
  | some text => exact .inl ⟨text,rfl⟩

/-- A raised exception is answered without headers. -/
theorem receive_raised (e : PyException) : (receive rt (.error e)).headers = [] := by
  cases e with
  | gateway error =>
    rcases jsonResponse_cases rt error.httpStatus (errorBody error) [] with ⟨text,rendered⟩ | lost
    · rw [receive,rendered]
    · rw [receive,lost]
      rfl
  | _ => rfl

theorem refuse_raises (gateway : Gateway) (calls : List ProviderCall) (context : Option TokenizationContext) (payload : Json)
    (error : GatewayError) : ∃ e, (refuse gateway calls context payload error).result = .error e := by
  simp only [refuse]
  split
  · exact ⟨_,rfl⟩
  · exact ⟨_,rfl⟩

/-- A request is answered with the id of its record when it has completed, its record is
    written and the response can be rendered, and without headers otherwise. -/
theorem answer_cases (result : Except PyException Int) :
    ((r.answer rt result).headers = [] ∧ ∀ payload id, r.handed rt = some payload → Completes payload →
        result = .ok id → r.Unrendered rt id) ∨
      ∃ payload id, r.handed rt = some payload ∧ Completes payload ∧ result = .ok id ∧
        (r.answer rt result).status = 200 ∧ (r.answer rt result).headers = completedHeaders r.chance id := by
  have appends : (r.exchange rt result).appends = (r.handed rt).toList := exchange_appends result
  unfold Request.answer Request.Unrendered
  have out : WayOut rt (auditing r.gateway fun _ => result) r.chance r.body
      (chatCompletions rt (auditing r.gateway fun _ => result) r.chance r.body) := chat_wayOut ..
  have ended : (r.exchange rt result).result =
      (chatCompletions rt (auditing r.gateway fun _ => result) r.chance r.body).result := rfl
  have written : (r.exchange rt result).appends =
      (chatCompletions rt (auditing r.gateway fun _ => result) r.chance r.body).appends := rfl
  rw [written] at appends
  rw [ended]
  generalize chatCompletions rt (auditing r.gateway fun _ => result) r.chance r.body = exchange at out appends ended ⊢
  cases out with
  | raised calls context e =>
    refine .inl ⟨receive_raised e,fun payload id handed => ?_⟩
    rw [handed] at appends
    cases appends
  | refused calls context error refusal =>
    obtain ⟨e,raised⟩ := refuse_raises (auditing r.gateway fun _ => result) calls context _ error
    refine .inl ⟨?_,fun payload id handed completes => ?_⟩
    · rw [← show (receive rt (.error e)).headers = [] from receive_raised e,← raised]
    · rw [handed,refuse] at appends
      cases appends
      exact absurd completes refusal.not_completes
  | @completed ctx perMessage decisions contents context promptHash responseHash redacted reply response responseScanned =>
    cases result with
    | error e => exact .inl ⟨receive_raised e,fun _ _ _ _ same => by cases same⟩
    | ok id =>
      simp only [finish,auditing_append] at appends ⊢
      have handed : r.handed rt = some (chatCompletionPayload r.gateway r.chance r.body decisions promptHash responseHash
          responseScanned redacted) := by
        cases held : r.handed rt with
        | none => simp [held] at appends
        | some payload =>
          rw [held] at appends
          exact congrArg some (List.cons.inj appends).1.symm
      rcases jsonResponse_cases rt 200 (delivered r.body context response).body (completedHeaders r.chance id) with
        ⟨text,rendered⟩ | lost
      · rw [completedHeaders] at rendered
        rw [rendered]
        exact .inr ⟨_,id,handed,rfl,rfl,rfl,rfl⟩
      · refine .inl ⟨?_,fun _ _ _ _ same => ?_⟩
        · rw [completedHeaders] at lost
          rw [lost]
          rfl
        · cases same
          exact ⟨context,response,ended,lost⟩

/-- What a request is answered with when the endpoint returns: the provider's reply to the
    mediated messages, scanned and delivered. -/
theorem serve_delivered {gateway : Gateway} {chance : Chance} {body : ChatCompletionRequest} {answer : Response}
    (served : (serve rt gateway chance body).result = .ok answer) :
    ∃ ctx perMessage decisions contents context reply response responseScanned,
      Mediation gateway chance body ctx perMessage decisions contents context ∧
      gateway.chat (callOf body contents) = .ok reply ∧ scanned gateway reply = .ok (response,responseScanned) ∧
      answer.status = 200 ∧ dumps rt false (delivered body context response).body = str answer.body := by
  have out : WayOut rt gateway chance body (chatCompletions rt gateway chance body) := chat_wayOut ..
  unfold serve clearRequestTokenContext at served
  generalize chatCompletions rt gateway chance body = exchange at out served
  cases out with
  | raised => cases served
  | refused calls context error refusal =>
    obtain ⟨e,raised⟩ := refuse_raises gateway calls context _ error
    cases raised.symm.trans served
  | @completed ctx perMessage decisions contents context promptHash responseHash redacted reply response responseScanned
      mediation replied scans =>
    refine ⟨ctx,perMessage,decisions,contents,context,reply,response,responseScanned,mediation,replied,scans,?_⟩
    simp only [finish] at served
    cases appended : gateway.append (chatCompletionPayload gateway chance body decisions promptHash responseHash
        responseScanned redacted) with
    | error e =>
      rw [appended] at served
      cases served
    | ok recordId =>
      simp only [appended,jsonResponse] at served
      split at served
      · next text encoded =>
        cases served
        exact ⟨rfl,encodeUtf8_eq_some.mp encoded⟩
      · cases served

end

def promptText : Text := "[\x7b\"content\":\"hi\",\"role\":\"user\"\x7d]".toList
def replyText : Text := "[\"hello\"]".toList

def promptDigest : HexText := digest "4e79873118cd9be7a1f0308b9cd772950c5410c74ca3fe1ba2626cba009a9237" (by decide +kernel)
def replyDigest : HexText := digest "c7a0f7154e64cd96c617f251dc12c4396b7234c2856ccf4860ab7af537dfcdd9" (by decide +kernel)

end PrivacyGateway.Requests
