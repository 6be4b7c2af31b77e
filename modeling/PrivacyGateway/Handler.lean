import PrivacyGateway.Mediator

/-!
The chat endpoint: detection, the BLOCK check, sanitizing, the provider call, the
optional response scan, the audit record and rehydration, with each way out of the
handler (`chatCompletions`). Mediator, provider and audit logger are what the
gateway is created from and may answer each call in any way; `createApp` builds
the gateway from a PII mediator. An exchange is what one request leaves behind:
the provider calls, the payloads handed to the audit logger, and the value or
exception of the endpoint, which `receive` turns into the client's answer.
-/
namespace PrivacyGateway.Handler
open PrivacyGateway.Strings PrivacyGateway.Errors PrivacyGateway.StdLib PrivacyGateway.JsonText
open PrivacyGateway.Separated PrivacyGateway.Decisions PrivacyGateway.Tokenization PrivacyGateway.Mediator

/-! ### Requests and responses -/

inductive Role where
  | system | user | assistant
  deriving DecidableEq, Repr

def Role.value : Role → PyStr
  | .system => lit "system"
  | .user => lit "user"
  | .assistant => lit "assistant"

structure ChatMessage where
  role : Role
  content : PyStr
  deriving DecidableEq

structure ChatCompletionRequest where
  model : PyStr
  messages : List ChatMessage
  temperature : Option PyFloat
  maxTokens : Option Int
  metadata : AList fun _ : PyStr => PyStr
  rehydrate : Bool

def maxMessages : Nat := 50
def maxContentChars : Nat := 20000
def maxTotalChars : Nat := 60000
def maxMetadataItems : Nat := 16
def maxMetadataValueChars : Nat := 256

/-- `ge=0.0, le=2.0` -/
def temperatureAccepted : PyFloat → Bool
  | .finite value => 0 ≤ value && value ≤ 2
  | _ => false

/-- The field constraints and `_enforce_size_limits`; a string with a constraint on its length
    has to be one that can be encoded. -/
def ChatCompletionRequest.accepted (body : ChatCompletionRequest) : Bool :=
  1 ≤ body.model.length && body.model.length ≤ 128 && (encodeUtf8 body.model).isSome &&
  1 ≤ body.messages.length && body.messages.length ≤ maxMessages &&
  body.messages.all (fun m => m.content.length ≤ maxContentChars && (encodeUtf8 m.content).isSome) &&
  body.temperature.all temperatureAccepted &&
  body.maxTokens.all (fun n => 1 ≤ n && n ≤ 32768) &&
  (body.messages.map fun m => m.content.length).sum ≤ maxTotalChars &&
  body.metadata.entries.length ≤ maxMetadataItems &&
  body.metadata.entries.all (fun entry => entry.1.length ≤ 64 && entry.2.length ≤ maxMetadataValueChars)

/-- What crosses the provider boundary: `chat(model, messages, **params)`. -/
structure ProviderCall where
  model : PyStr
  messages : List ChatMessage
  temperature : Option PyFloat
  maxTokens : Option Int
  deriving DecidableEq

/-- One of the adapters' `choices`; its message has the role `assistant`. -/
structure Choice where
  index : Int
  content : PyStr
  finishReason : PyStr
  deriving DecidableEq

/-- The fixed response shape of the adapters. -/
structure ProviderResponse where
  id : PyStr
  model : PyStr
  choices : List Choice
  promptTokens : Int
  completionTokens : Int
  deriving DecidableEq

def Choice.body (choice : Choice) : Json := .obj [
  field "index" (.int choice.index),
  field "message" (.obj [field "role" (.str Role.assistant.value),field "content" (.str choice.content)]),
  field "finish_reason" (.str choice.finishReason)]

def ProviderResponse.body (response : ProviderResponse) : Json := .obj [
  field "id" (.str response.id),
  field "object" (.str (lit "chat.completion")),
  field "model" (.str response.model),
  field "choices" (.arr (response.choices.map Choice.body)),
  field "usage" (.obj [
    field "prompt_tokens" (.int response.promptTokens),
    field "completion_tokens" (.int response.completionTokens)])]

/-- An HTTP response. -/
structure Response where
  status : Nat
  body : Text
  headers : List (PyStr × PyStr)

/-- `JSONResponse(status_code=status, content=content)`: rendering encodes the body as UTF-8. -/
def jsonResponse (rt : Runtime) (status : Nat) (content : Json) (headers : List (PyStr × PyStr)) :
    Except PyException Response :=
  match encodeUtf8 (dumps rt false content) with
  | some body => .ok ⟨status,body,headers⟩
  | none => .error .unicodeEncodeError

/-- The body of a `GatewayError`'s response. -/
def errorBody (error : GatewayError) : Json :=
  match error.blockedEntityTypes with
  | some types => .obj [field "error" (.obj [
      field "code" (.str (lit "privacy_policy_blocked")),
      field "message" (.str error.safeMessage),
      field "blocked_entity_types" (.arr (types.map .str))])]
  | none => .obj [field "error" (.obj [
      field "code" (.str error.code.value),
      field "message" (.str error.safeMessage)])]

/-- The server's answer to an exception that no handler takes. -/
def internalServerError : Response := ⟨500,"Internal Server Error".toList,[]⟩

/-- What the client receives: the endpoint's response, `_gateway_error_handler`'s, or
    the server's own where rendering that one raises too. -/
def receive (rt : Runtime) : Except PyException Response → Response
  | .ok response => response
  | .error (.gateway error) =>
    match jsonResponse rt error.httpStatus (errorBody error) [] with
    | .ok response => response
    | .error _ => internalServerError
  | .error _ => internalServerError

/-! ### The gateway -/

/-- A mediator as the handler sees it: each call, told its number, returns or raises. -/
structure MediatorCalls where
  policy : Policy
  analyze : Nat → PyStr → Except PyException (List RecognizerResult)
  apply : Nat → PyStr → List RecognizerResult → Option TokenizationContext →
    Except PyException PyStr × Option TokenizationContext
  redactAll : Nat → PyStr → List RecognizerResult → Except PyException PyStr

/-- `app.state` with the functions the endpoint calls; `append` returns the id of the record. -/
structure Gateway where
  provider : PyStr
  auditStoreRedactedContent : Bool
  mediator : MediatorCalls
  responseMediator : Option MediatorCalls
  buildDecisions : List (PyStr × Rat) → Policy → Except PyException (List PolicyDecision)
  chat : ProviderCall → Except PyException ProviderResponse
  append : Json → Except PyException Int

/-- What one run of the handler draws or measures. -/
structure Chance where
  requestId : PyStr
  durationMs : PyFloat
  providerDurationMs : PyFloat
  draws : Nat → Namespace

/-- What a request leaves behind. -/
structure Exchange where
  calls : List ProviderCall
  appends : List Json
  context : Option TokenizationContext
  result : Except PyException Response

/-- What `sha256_canonical` hashes: a string as it is, any other value in its canonical encoding. -/
def hashedText (rt : Runtime) : Json → PyStr
  | .str s => s
  | payload => canonicalJson rt payload

/-- `sha256_canonical(payload)` -/
def sha256Canonical (rt : Runtime) (payload : Json) : Except PyException HexText :=
  match encodeUtf8 (hashedText rt payload) with
  | some bytes => .ok (rt.sha256 bytes)
  | none => .error .unicodeEncodeError

/-- `_base_payload()` -/
def basePayload (gateway : Gateway) (chance : Chance) (body : ChatCompletionRequest) : List (PyStr × Json) := [
  field "schema" (.str (lit "privacy_gateway_audit")),
  field "request_id" (.str chance.requestId),
  field "provider" (.str gateway.provider),
  field "model" (.str body.model),
  field "duration_ms" (.float chance.durationMs)]

/-- The fields every record states beside `_base_payload`. -/
def outcomeFields (event status : String) (blocked : Bool) (responseStatus : Nat) (errorCode : Json) :
    List (PyStr × Json) := [
  field "event" (.str (lit event)),
  field "status" (.str (lit status)),
  field "request_blocked" (.bool blocked),
  field "response_status" (.int responseStatus),
  field "error_code" errorCode]

def decisionsField (decisions : List PolicyDecision) : PyStr × Json :=
  field "policy_decisions" (.arr (decisions.map PolicyDecision.modelDump))

def hashField (key : String) (hash : HexText) : PyStr × Json := field key (.str (Strings.str hash.text))

/-- `_audit_safe(audit, payload)`: a `GatewayError` of the append is swallowed. -/
def auditSafe (gateway : Gateway) (payload : Json) : Except PyException Unit :=
  match gateway.append payload with
  | .ok _ => .ok ()
  | .error (.gateway _) => .ok ()
  | .error e => .error e

/-- An error path: the safe audit write, then the error. -/
def refuse (gateway : Gateway) (calls : List ProviderCall) (context : Option TokenizationContext) (payload : Json)
    (error : GatewayError) : Exchange where
  calls := calls
  appends := [payload]
  context := context
  result := match auditSafe gateway payload with
    | .ok () => .error (.gateway error)
    | .error e => .error e

/-- The comprehension `[mediator.analyze(text) for text in texts]`. -/
def analyzeAll (mediator : MediatorCalls) : Nat → List PyStr → Except PyException (List (List RecognizerResult))
  | _, [] => .ok []
  | i, text :: rest =>
    (mediator.analyze i text).bind fun results =>
      (analyzeAll mediator (i + 1) rest).map (results :: ·)

/-- A comprehension that returns has analyzed its first text and the others. -/
theorem analyzeAll_cons {mediator : MediatorCalls} {i : Nat} {text : PyStr} {rest : List PyStr}
    {perMessage : List (List RecognizerResult)} (analyzed : analyzeAll mediator i (text :: rest) = .ok perMessage) :
    ∃ results more, perMessage = results :: more ∧ mediator.analyze i text = .ok results ∧
      analyzeAll mediator (i + 1) rest = .ok more := by
  rw [analyzeAll] at analyzed
  cases found : mediator.analyze i text with
  | error e => simp [found,Except.bind] at analyzed
  | ok results =>
    cases others : analyzeAll mediator (i + 1) rest with
    | error e => simp [found,others,Except.bind,Except.map] at analyzed
    | ok more =>
      simp only [found,others,Except.bind,Except.map,Except.ok.injEq] at analyzed
      exact ⟨results,more,analyzed.symm,rfl,rfl⟩

/-- The detections that `build_decisions` is given. -/
def detections (perMessage : List (List RecognizerResult)) : List (PyStr × Rat) :=
  perMessage.flatten.map fun r => (r.entityType,r.score)

/-- The first `try` block: detections of each message and the decisions on them. -/
def detect (gateway : Gateway) (texts : List PyStr) :
    Except PyException (List (List RecognizerResult) × List PolicyDecision) :=
  (analyzeAll gateway.mediator 0 texts).bind fun perMessage =>
    (gateway.buildDecisions (detections perMessage) gateway.mediator.policy).map (perMessage,·)

/-- The comprehension that stores redacted content: `redact_all` of every message. -/
def redactAllMessages (mediator : MediatorCalls) : Nat → List (ChatMessage × List RecognizerResult) →
    Except PyException (List ChatMessage)
  | _, [] => .ok []
  | i, (message,results) :: rest =>
    (mediator.redactAll i message.content results).bind fun content =>
      (redactAllMessages mediator (i + 1) rest).map (⟨message.role,content⟩ :: ·)

def messagesJson (messages : List ChatMessage) : Json :=
  .arr (messages.map fun m => .obj [field "role" (.str m.role.value),field "content" (.str m.content)])

/-- The response scan: every choice analyzed and redacted. -/
def scanChoices (mediator : MediatorCalls) : Nat → List Choice → Except PyException (List Choice)
  | _, [] => .ok []
  | i, choice :: rest =>
    (mediator.analyze i choice.content).bind fun results =>
      (mediator.apply i choice.content results none).1.bind fun content =>
        (scanChoices mediator (i + 1) rest).map ({ choice with content := content } :: ·)

/-- The scan as the handler makes it, with `response_scanned`. -/
def scanned (gateway : Gateway) (response : ProviderResponse) : Except PyException (ProviderResponse × Bool) :=
  match gateway.responseMediator with
  | none => .ok (response,false)
  | some mediator => (scanChoices mediator 0 response.choices).map fun choices => ({ response with choices := choices },true)

/-- The last step: rehydration for the calling application. -/
def delivered (body : ChatCompletionRequest) (context : Option TokenizationContext) (response : ProviderResponse) :
    ProviderResponse :=
  match context with
  | some ctx =>
    if body.rehydrate && ctx.length ≠ 0 then
      { response with choices := response.choices.map fun c => { c with content := ctx.rehydrate c.content } }
    else response
  | none => response

section
variable (gateway : Gateway) (chance : Chance) (body : ChatCompletionRequest)

def detectorFailurePayload : Json := .obj (basePayload gateway chance body ++
  outcomeFields "detector_failure" "error" false 500 (.str ErrorCode.detectorFailure.value))

def policyBlockedPayload (decisions : List PolicyDecision) (blocked : List PyStr) : Json :=
  .obj (basePayload gateway chance body ++
    outcomeFields "policy_blocked" "blocked" true 400 (.str ErrorCode.policyBlocked.value) ++
    [decisionsField decisions,field "blocked_entity_types" (.arr (blocked.map .str))])

def sanitizationFailurePayload (decisions : List PolicyDecision) : Json :=
  .obj (basePayload gateway chance body ++
    outcomeFields "detector_failure" "error" false 500 (.str ErrorCode.detectorFailure.value) ++
    [decisionsField decisions])

def providerErrorPayload (status : Nat) (code : ErrorCode) (decisions : List PolicyDecision) (promptHash : HexText) :
    Json :=
  .obj (basePayload gateway chance body ++
    outcomeFields "provider_error" "error" false status (.str code.value) ++
    [decisionsField decisions,hashField "prompt_hash" promptHash])

def responseScanFailurePayload (decisions : List PolicyDecision) (promptHash responseHash : HexText) : Json :=
  .obj (basePayload gateway chance body ++
    outcomeFields "response_scan_failure" "error" false 500 (.str ErrorCode.responseScanFailure.value) ++
    [decisionsField decisions,hashField "prompt_hash" promptHash,hashField "response_hash" responseHash,
      field "provider_duration_ms" (.float chance.providerDurationMs),field "response_scanned" (.bool false),
      field "provider_contacted" (.bool true),field "response_returned_to_client" (.bool false)])

/-- The success record; `redacted` holds the redacted messages where they are stored. -/
def chatCompletionPayload (decisions : List PolicyDecision) (promptHash responseHash : HexText) (responseScanned : Bool)
    (redacted : Option (List ChatMessage)) : Json :=
  .obj (basePayload gateway chance body ++
    outcomeFields "chat_completion" "ok" false 200 .null ++
    [decisionsField decisions,hashField "prompt_hash" promptHash,hashField "response_hash" responseHash,
      field "provider_duration_ms" (.float chance.providerDurationMs),field "response_scanned" (.bool responseScanned),
      field "rehydrated_for_client" (.bool body.rehydrate),field "contains_redacted_content" (.bool redacted.isSome)] ++
    (redacted.map fun messages => field "redacted_messages" (messagesJson messages)).toList)

end

/-! ### The endpoint -/

section
variable (rt : Runtime) (gateway : Gateway) (chance : Chance) (body : ChatCompletionRequest)

/-- The redacted messages, where the settings ask for them. -/
def redactedContent (perMessage : List (List RecognizerResult)) : Except PyException (Option (List ChatMessage)) :=
  if gateway.auditStoreRedactedContent then
    (redactAllMessages gateway.mediator 0 (body.messages.zip perMessage)).map some
  else .ok none

/-- After the scan: the mandatory audit record, rehydration and the response. -/
def finish (call : ProviderCall) (context : Option TokenizationContext) (decisions : List PolicyDecision)
    (promptHash responseHash : HexText) (redacted : Except PyException (Option (List ChatMessage)))
    (response : ProviderResponse) (responseScanned : Bool) : Exchange :=
  match redacted with
  | .error e => ⟨[call],[],context,.error e⟩
  | .ok redacted =>
    let payload := chatCompletionPayload gateway chance body decisions promptHash responseHash responseScanned redacted
    match gateway.append payload with
    | .error e => ⟨[call],[payload],context,.error e⟩
    | .ok recordId => ⟨[call],[payload],context,
        jsonResponse rt 200 (delivered body context response).body [
          (lit "X-Gateway-Request-Id",chance.requestId),
          (lit "X-Audit-Entry-Id",Strings.str (decimalInt recordId))]⟩

/-- From the provider's response on. -/
def respond (call : ProviderCall) (context : Option TokenizationContext) (decisions : List PolicyDecision)
    (promptHash : HexText) (redacted : Except PyException (Option (List ChatMessage))) (response : ProviderResponse) :
    Exchange :=
  match sha256Canonical rt (.arr (response.choices.map fun c => .str c.content)) with
  | .error e => ⟨[call],[],context,.error e⟩
  | .ok responseHash =>
    match scanned gateway response with
    | .error _ => refuse gateway [call] context
        (responseScanFailurePayload gateway chance body decisions promptHash responseHash) responseScanFailureError
    | .ok (response,responseScanned) =>
      finish rt gateway chance body call context decisions promptHash responseHash redacted response responseScanned

/-- From the sanitized messages on. -/
def contact (context : Option TokenizationContext) (decisions : List PolicyDecision) (sanitized : List ChatMessage)
    (redacted : Except PyException (Option (List ChatMessage))) : Exchange :=
  match sha256Canonical rt (messagesJson sanitized) with
  | .error e => ⟨[],[],context,.error e⟩
  | .ok promptHash =>
    let call : ProviderCall := ⟨body.model,sanitized,body.temperature,body.maxTokens⟩
    match gateway.chat call with
    | .error (.gateway error) => refuse gateway [call] context
        (providerErrorPayload gateway chance body error.httpStatus error.code decisions promptHash) error
    | .error _ => refuse gateway [call] context
        (providerErrorPayload gateway chance body 502 .providerResponse decisions promptHash) providerResponseError
    | .ok response => respond rt gateway chance body call context decisions promptHash redacted response

/-- From the decisions on: the BLOCK check and sanitizing. -/
def mediate (ctx : TokenizationContext) (perMessage : List (List RecognizerResult)) (decisions : List PolicyDecision) :
    Exchange :=
  let blocked := blockedEntityTypes decisions
  if blocked ≠ [] then
    refuse gateway [] (some ctx) (policyBlockedPayload gateway chance body decisions blocked) (policyBlockedError blocked)
  else
    match applyAll gateway.mediator.apply 0 ((body.messages.map ChatMessage.content).zip perMessage) (some ctx) with
    | (.error _,context) => refuse gateway [] context
        (sanitizationFailurePayload gateway chance body decisions) detectorFailureError
    | (.ok contents,context) =>
      contact rt gateway chance body context decisions
        (List.zipWith (fun message content => ⟨message.role,content⟩) body.messages contents)
        (redactedContent gateway body perMessage)

/-- `chat_completions(body, request)` -/
def chatCompletions : Exchange :=
  let texts := body.messages.map ChatMessage.content
  let failure := fun context =>
    refuse gateway [] context (detectorFailurePayload gateway chance body) detectorFailureError
  match TokenizationContext.create chance.draws (joined (.scalar '\n') texts) with
  | .error _ => failure none
  | .ok ctx =>
    match detect gateway texts with
    | .error _ => failure (some ctx)
    | .ok (perMessage,decisions) => mediate rt gateway chance body ctx perMessage decisions

/-- `_clear_request_token_context`: the registered context is cleared on every way out. -/
def clearRequestTokenContext (exchange : Exchange) : Exchange :=
  { exchange with context := exchange.context.map TokenizationContext.clear }

/-- `POST /v1/chat/completions` as the application serves it. -/
def serve : Exchange := clearRequestTokenContext (chatCompletions rt gateway chance body)

/-- No mapping outlives its request. -/
theorem serve_forgets {ctx : TokenizationContext} (kept : (serve rt gateway chance body).context = some ctx) :
    ctx.length = 0 := by
  obtain ⟨before,_,rfl⟩ := Option.map_eq_some_iff.mp kept
  rfl

end

/-- Every action but ALLOW becomes REDACT. -/
def responsePolicy (policy : Policy) : Policy :=
  List.toAList (policy.entries.map fun entry =>
    ⟨entry.1,if entry.2 = .allow then .allow else .redact⟩)

theorem lookup_responsePolicy (policy : Policy) (entityType : PyStr) :
    (responsePolicy policy).lookup entityType =
      (policy.lookup entityType).map fun action => if action = .allow then .allow else .redact := by
  rw [responsePolicy,AList.lookup_to_alist]
  let change : PyStr → PolicyAction → PolicyAction := fun _ action => if action = .allow then .allow else .redact
  exact List.dlookup_map₂ (f := change) entityType

/-- Every action of the response policy lets a response through. -/
theorem responsePolicy_unblocked (policy : Policy) (entityType : PyStr) :
    (responsePolicy policy).lookup entityType ≠ some .block := by
  rw [lookup_responsePolicy]
  rcases policy.lookup entityType with _ | _ | _ | _ | _ <;> simp

/-- `clone_with_policy(policy)` -/
def cloneWithPolicy (mediator : PIIMediator) (policy : Policy) : PIIMediator := { mediator with policy := policy }

def mediatorCalls (mediator : PIIMediator) : MediatorCalls where
  policy := mediator.policy
  analyze _ := mediator.analyze
  apply _ := mediator.apply
  redactAll _ := mediator.redactAll

/-- The settings the endpoint depends on. -/
structure Settings where
  provider : PyStr
  auditStoreRedactedContent : Bool
  responseScanEnabled : Bool

/-- `create_app(settings, mediator, audit_logger, llm_client)` -/
def createApp (settings : Settings) (mediator : PIIMediator) (append : Json → Except PyException Int)
    (chat : ProviderCall → Except PyException ProviderResponse) : Gateway where
  provider := settings.provider
  auditStoreRedactedContent := settings.auditStoreRedactedContent
  mediator := mediatorCalls mediator
  responseMediator :=
    if settings.responseScanEnabled then
      some (mediatorCalls (cloneWithPolicy mediator (responsePolicy mediator.policy)))
    else none
  buildDecisions detections policy := .ok (buildDecisions detections policy)
  chat := chat
  append := append

end PrivacyGateway.Handler
