import PrivacyGateway.Handler

/-!
What the audit log says about a request and what the client sees. A way out of the
handler that goes through `refuse` or `finish` leaves one record whose status is
the client's, as long as the response can be rendered; a string that UTF-8 cannot
encode, met outside the handler's `try` blocks, or a failing `redact_all` leaves
no record at all. `Reportable` says when neither happens (`one_truthful_record_iff`).
-/
namespace PrivacyGateway.Outcomes
open PrivacyGateway.Strings PrivacyGateway.Errors PrivacyGateway.StdLib PrivacyGateway.JsonText
open PrivacyGateway.Separated PrivacyGateway.Decisions PrivacyGateway.Tokenization PrivacyGateway.Mediator
open PrivacyGateway.Handler

/-- `payload[key]` -/
def recorded (key : String) : Json → Option Json
  | .obj fields => (fields.find? fun entry => entry.1 = lit key).map Prod.snd
  | _ => none

/-- Exactly one record, and it states the status the client receives. -/
def OneTruthfulRecord (rt : Runtime) (exchange : Exchange) : Prop :=
  ∃ payload, exchange.appends = [payload] ∧
    recorded "response_status" payload = some (.int (receive rt exchange.result).status)

theorem recorded_status (gateway : Gateway) (chance : Chance) (body : ChatCompletionRequest) (event status : String)
    (blocked : Bool) (responseStatus : Nat) (errorCode : Json) (more : List (PyStr × Json)) :
    recorded "response_status"
        (.obj (basePayload gateway chance body ++ outcomeFields event status blocked responseStatus errorCode ++ more)) =
      some (.int responseStatus) := rfl

theorem jsonResponse_ok (rt : Runtime) {content : Json} (encodable : ∀ s ∈ strings content, Utf8Encodable s)
    (status : Nat) (headers : List (PyStr × PyStr)) :
    ∃ response, jsonResponse rt status content headers = .ok response ∧ response.status = status := by
  obtain ⟨text,encoded⟩ := Option.isSome_iff_exists.mp ((encodable_dumps rt false content).mpr encodable)
  exact ⟨⟨status,text,headers⟩,by rw [jsonResponse,encoded],rfl⟩

theorem jsonResponse_error (rt : Runtime) {content : Json} (lone : ¬ ∀ s ∈ strings content, Utf8Encodable s)
    (status : Nat) (headers : List (PyStr × PyStr)) :
    jsonResponse rt status content headers = .error .unicodeEncodeError := by
  rw [← encodable_dumps rt false content,Utf8Encodable,Option.not_isSome_iff_eq_none] at lone
  rw [jsonResponse,lone]

theorem encodable_hashedText (rt : Runtime) (payload : Json) :
    Utf8Encodable (hashedText rt payload) ↔ ∀ s ∈ strings payload, Utf8Encodable s := by
  cases payload with
  | str s => simp [hashedText,strings]
  | _ => exact encodable_dumps rt true _

theorem sha256Canonical_ok (rt : Runtime) {payload : Json} (encodable : ∀ s ∈ strings payload, Utf8Encodable s) :
    ∃ hash, sha256Canonical rt payload = .ok hash := by
  obtain ⟨text,encoded⟩ := Option.isSome_iff_exists.mp ((encodable_hashedText rt payload).mpr encodable)
  exact ⟨rt.sha256 text,by rw [sha256Canonical,encoded]⟩

theorem sha256Canonical_error (rt : Runtime) {payload : Json} (lone : ¬ ∀ s ∈ strings payload, Utf8Encodable s) :
    sha256Canonical rt payload = .error .unicodeEncodeError := by
  rw [← encodable_hashedText rt payload,Utf8Encodable,Option.not_isSome_iff_eq_none] at lone
  rw [sha256Canonical,lone]

private theorem strings_str (items : List PyStr) : stringsItems (items.map .str) = items := by
  induction items with
  | nil => rfl
  | cons s rest ih => rw [List.map_cons,stringsItems,strings,ih]; rfl

/-- The strings of an error that its response shows. -/
def shownStrings (error : GatewayError) : List PyStr := error.safeMessage :: error.blockedEntityTypes.getD []

/-- The error's response can be rendered, or the server answers with the error's status anyway. -/
def Shown (error : GatewayError) : Prop := error.httpStatus = 500 ∨ ∀ s ∈ shownStrings error, Utf8Encodable s

private theorem encodable_code (code : ErrorCode) : Utf8Encodable code.value := by
  cases code <;> exact encodable_lit _

theorem encodable_errorBody (error : GatewayError) :
    (∀ s ∈ strings (errorBody error), Utf8Encodable s) ↔ ∀ s ∈ shownStrings error, Utf8Encodable s := by
  cases types : error.blockedEntityTypes with
  | none => simp [errorBody,shownStrings,types,field,strings,stringsFields,encodable_code]
  | some blocked => simp [errorBody,shownStrings,types,field,strings,stringsFields,strings_str]

/-- The fields of a response that the gateway did not write itself can be encoded. -/
structure Renderable (response : ProviderResponse) : Prop where
  id : Utf8Encodable response.id
  model : Utf8Encodable response.model
  choices : ∀ choice ∈ response.choices, Utf8Encodable choice.content ∧ Utf8Encodable choice.finishReason

private theorem encodable_choices (choices : List Choice) :
    (∀ s ∈ stringsItems (choices.map Choice.body), Utf8Encodable s) ↔
      ∀ choice ∈ choices, Utf8Encodable choice.content ∧ Utf8Encodable choice.finishReason := by
  induction choices with
  | nil => simp [stringsItems]
  | cons choice rest ih =>
    have head : (∀ s ∈ strings choice.body, Utf8Encodable s) ↔
        Utf8Encodable choice.content ∧ Utf8Encodable choice.finishReason := by
      simp [Choice.body,field,strings,stringsFields,Role.value]
    rw [List.map_cons,stringsItems,List.forall_mem_append,head,ih,List.forall_mem_cons]

theorem encodable_body (response : ProviderResponse) :
    (∀ s ∈ strings response.body, Utf8Encodable s) ↔ Renderable response := by
  have fields : (∀ s ∈ strings response.body, Utf8Encodable s) ↔
      Utf8Encodable response.id ∧ Utf8Encodable response.model ∧
        ∀ s ∈ stringsItems (response.choices.map Choice.body), Utf8Encodable s := by
    simp [ProviderResponse.body,field,strings,stringsFields,or_imp,forall_and]
  rw [fields,encodable_choices]
  exact ⟨fun all => ⟨all.1,all.2.1,all.2.2⟩,fun r => ⟨r.id,r.model,r.choices⟩⟩

theorem encodable_messages (messages : List ChatMessage) :
    (∀ s ∈ strings (messagesJson messages), Utf8Encodable s) ↔ ∀ m ∈ messages, Utf8Encodable m.content := by
  rw [messagesJson,strings]
  induction messages with
  | nil => simp [stringsItems]
  | cons m rest ih =>
    have role : Utf8Encodable m.role.value := by cases m.role <;> exact encodable_lit _
    have head : (∀ s ∈ strings (.obj [field "role" (.str m.role.value),field "content" (.str m.content)]),
        Utf8Encodable s) ↔ Utf8Encodable m.content := by simp [field,strings,stringsFields,role]
    rw [List.map_cons,stringsItems,List.forall_mem_append,head,ih,List.forall_mem_cons]

section
variable {rt : Runtime} {gateway : Gateway} {chance : Chance} {body : ChatCompletionRequest}

theorem receive_error (error : GatewayError) :
    (receive rt (.error (.gateway error))).status = error.httpStatus ↔ Shown error := by
  unfold Shown
  rw [← encodable_errorBody,receive]
  by_cases encodable : ∀ s ∈ strings (errorBody error), Utf8Encodable s
  · obtain ⟨response,rendered,status⟩ := jsonResponse_ok rt encodable error.httpStatus []
    rw [rendered]
    exact iff_of_true status (.inr encodable)
  · rw [jsonResponse_error rt encodable]
    simp only [internalServerError]
    exact ⟨fun same => .inl same.symm,fun shown => (shown.resolve_right encodable).symm⟩

/-- An error path whose record states the error's status. -/
theorem refuse_truthful (succeeds : ∀ payload, ∃ id, gateway.append payload = .ok id) (calls : List ProviderCall)
    (context : Option TokenizationContext) {payload : Json} {error : GatewayError}
    (states : recorded "response_status" payload = some (.int error.httpStatus)) :
    OneTruthfulRecord rt (refuse gateway calls context payload error) ↔ Shown error := by
  obtain ⟨id,appended⟩ := succeeds payload
  have raised : (refuse gateway calls context payload error).result = .error (.gateway error) := by
    simp only [refuse,auditSafe,appended]
  rw [← receive_error,OneTruthfulRecord,raised]
  constructor
  · rintro ⟨only,same,status⟩
    cases same
    rw [states,Option.some.injEq,Json.int.injEq] at status
    exact_mod_cast status.symm
  · intro status
    exact ⟨payload,rfl,by rw [states,status]⟩

/-- The gateway's own messages can always be shown. -/
theorem shown_of_fixed {error : GatewayError} (message : Utf8Encodable error.safeMessage)
    (plain : error.blockedEntityTypes = none) : Shown error := by
  refine .inr fun s member => ?_
  rw [shownStrings,plain] at member
  rw [List.mem_singleton.mp member]
  exact message

theorem unrecorded {calls : List ProviderCall} {context : Option TokenizationContext}
    {result : Except PyException Response} : ¬ OneTruthfulRecord rt ⟨calls,[],context,result⟩ := by
  rintro ⟨payload,same,_⟩
  cases same

end

section
variable (rt : Runtime) (gateway : Gateway) (chance : Chance) (body : ChatCompletionRequest)

/-- The provider's reply can be hashed and then withheld, or stored and rendered. -/
def ReplyReportable (context : Option TokenizationContext)
    (redacted : Except PyException (Option (List ChatMessage))) (response : ProviderResponse) : Prop :=
  (∀ choice ∈ response.choices, Utf8Encodable choice.content) ∧
    match scanned gateway response with
    | .error _ => True
    | .ok (response,_) => (∃ messages, redacted = .ok messages) ∧ Renderable (delivered body context response)

/-- The sanitized messages can be hashed and the provider's answer reported. -/
def ContactReportable (context : Option TokenizationContext) (sanitized : List ChatMessage)
    (redacted : Except PyException (Option (List ChatMessage))) : Prop :=
  (∀ message ∈ sanitized, Utf8Encodable message.content) ∧
    match gateway.chat ⟨body.model,sanitized,body.temperature,body.maxTokens⟩ with
    | .error (.gateway error) => Shown error
    | .error _ => True
    | .ok response => ReplyReportable gateway body context redacted response

/-- The blocked types can be shown, or what the messages are sanitized to be reported. -/
def MediationReportable (ctx : TokenizationContext) (perMessage : List (List RecognizerResult))
    (decisions : List PolicyDecision) : Prop :=
  if blockedEntityTypes decisions ≠ [] then ∀ type ∈ blockedEntityTypes decisions, Utf8Encodable type
  else
    match applyAll gateway.mediator.apply 0 ((body.messages.map ChatMessage.content).zip perMessage) (some ctx) with
    | (.error _,_) => True
    | (.ok contents,context) => ContactReportable gateway body context
        (List.zipWith (fun message content => ⟨message.role,content⟩) body.messages contents)
        (redactedContent gateway body perMessage)

/-- Outside the `try` blocks nothing raises: what is hashed or rendered holds no lone
    surrogate, and the messages to store can be redacted. -/
def Reportable : Prop :=
  match TokenizationContext.create chance.draws (joined (.scalar '\n') (body.messages.map ChatMessage.content)) with
  | .error _ => True
  | .ok ctx =>
    match detect gateway (body.messages.map ChatMessage.content) with
    | .error _ => True
    | .ok (perMessage,decisions) => MediationReportable gateway body ctx perMessage decisions

end

section
variable {rt : Runtime} {gateway : Gateway} {chance : Chance} {body : ChatCompletionRequest}

private theorem finish_truthful (succeeds : ∀ payload, ∃ id, gateway.append payload = .ok id) (call : ProviderCall)
    (context : Option TokenizationContext) (decisions : List PolicyDecision) (promptHash responseHash : HexText)
    (redacted : Except PyException (Option (List ChatMessage))) (response : ProviderResponse) (flag : Bool) :
    OneTruthfulRecord rt
        (finish rt gateway chance body call context decisions promptHash responseHash redacted response flag) ↔
      (∃ messages, redacted = .ok messages) ∧ Renderable (delivered body context response) := by
  cases redacted with
  | error e => exact iff_of_false unrecorded (by simp)
  | ok messages =>
    obtain ⟨id,appended⟩ := succeeds
      (chatCompletionPayload gateway chance body decisions promptHash responseHash flag messages)
    simp only [finish,appended]
    rw [← encodable_body]
    by_cases encodable : ∀ s ∈ strings (delivered body context response).body, Utf8Encodable s
    · refine iff_of_true ⟨_,rfl,?_⟩ ⟨⟨messages,rfl⟩,encodable⟩
      obtain ⟨shown,rendered,status⟩ := jsonResponse_ok rt encodable 200 _
      rw [rendered,receive,status,chatCompletionPayload,List.append_assoc]
      exact recorded_status gateway chance body _ _ _ _ _ _
    · refine iff_of_false ?_ (fun both => encodable both.2)
      rintro ⟨payload,same,status⟩
      cases same
      have lost : (receive rt (.error .unicodeEncodeError)).status = 500 := rfl
      rw [jsonResponse_error rt encodable,lost,chatCompletionPayload,List.append_assoc,recorded_status] at status
      simp at status

private theorem respond_truthful (succeeds : ∀ payload, ∃ id, gateway.append payload = .ok id) (call : ProviderCall)
    (context : Option TokenizationContext) (decisions : List PolicyDecision) (promptHash : HexText)
    (redacted : Except PyException (Option (List ChatMessage))) (response : ProviderResponse) :
    OneTruthfulRecord rt (respond rt gateway chance body call context decisions promptHash redacted response) ↔
      ReplyReportable gateway body context redacted response := by
  have hashed : (∀ s ∈ strings (.arr (response.choices.map fun c => .str c.content)), Utf8Encodable s) ↔
      ∀ choice ∈ response.choices, Utf8Encodable choice.content := by
    rw [strings,show (response.choices.map fun c => Json.str c.content) =
      (response.choices.map Choice.content).map .str by simp,strings_str]
    simp
  unfold respond ReplyReportable
  by_cases encodable : ∀ choice ∈ response.choices, Utf8Encodable choice.content
  · obtain ⟨hash,value⟩ := sha256Canonical_ok rt (hashed.mpr encodable)
    rw [and_iff_right encodable]
    simp only [value]
    cases scanned gateway response with
    | error e =>
      refine iff_of_true ((refuse_truthful succeeds _ _ ?_).mpr (shown_of_fixed (encodable_lit _) rfl)) trivial
      exact recorded_status ..
    | ok result => exact finish_truthful succeeds ..
  · rw [sha256Canonical_error rt (mt hashed.mp encodable)]
    exact iff_of_false unrecorded (fun both => encodable both.1)

private theorem contact_truthful (succeeds : ∀ payload, ∃ id, gateway.append payload = .ok id)
    (context : Option TokenizationContext) (decisions : List PolicyDecision) (sanitized : List ChatMessage)
    (redacted : Except PyException (Option (List ChatMessage))) :
    OneTruthfulRecord rt (contact rt gateway chance body context decisions sanitized redacted) ↔
      ContactReportable gateway body context sanitized redacted := by
  unfold contact ContactReportable
  by_cases encodable : ∀ message ∈ sanitized, Utf8Encodable message.content
  · obtain ⟨hash,value⟩ := sha256Canonical_ok rt ((encodable_messages sanitized).mpr encodable)
    rw [and_iff_right encodable]
    simp only [value]
    generalize gateway.chat _ = reply
    cases reply with
    | ok response => exact respond_truthful succeeds ..
    | error e =>
      cases e with
      | gateway error => exact refuse_truthful succeeds _ _ (recorded_status ..)
      | _ =>
        refine iff_of_true ((refuse_truthful succeeds _ _ ?_).mpr (shown_of_fixed (encodable_lit _) rfl)) trivial
        exact recorded_status ..
  · rw [sha256Canonical_error rt (mt (encodable_messages sanitized).mp encodable)]
    exact iff_of_false unrecorded (fun both => encodable both.1)

private theorem mediate_truthful (succeeds : ∀ payload, ∃ id, gateway.append payload = .ok id)
    (ctx : TokenizationContext) (perMessage : List (List RecognizerResult)) (decisions : List PolicyDecision) :
    OneTruthfulRecord rt (mediate rt gateway chance body ctx perMessage decisions) ↔
      MediationReportable gateway body ctx perMessage decisions := by
  unfold mediate MediationReportable
  by_cases blocked : blockedEntityTypes decisions ≠ []
  · simp only [if_pos blocked]
    have types : Shown (policyBlockedError (blockedEntityTypes decisions)) ↔
        ∀ type ∈ blockedEntityTypes decisions, Utf8Encodable type := by
      simp [Shown,shownStrings,policyBlockedError,sortedSet,List.mem_insertionSort]
    exact (refuse_truthful succeeds _ _ (recorded_status ..)).trans types
  · simp only [if_neg blocked]
    generalize applyAll gateway.mediator.apply 0 _ _ = sanitizing
    obtain ⟨outcome,context⟩ := sanitizing
    cases outcome with
    | ok contents => exact contact_truthful succeeds ..
    | error e =>
      refine iff_of_true ((refuse_truthful succeeds _ _ ?_).mpr (shown_of_fixed (encodable_lit _) rfl)) trivial
      exact recorded_status ..

end

/-- As long as every append succeeds, a request leaves exactly one record with the
    status of the client's response just when nothing raises outside the `try` blocks. -/
theorem one_truthful_record_iff (rt : Runtime) (gateway : Gateway) (chance : Chance) (body : ChatCompletionRequest)
    (succeeds : ∀ payload, ∃ id, gateway.append payload = .ok id) :
    OneTruthfulRecord rt (serve rt gateway chance body) ↔ Reportable gateway chance body := by
  have cleared : OneTruthfulRecord rt (serve rt gateway chance body) ↔
      OneTruthfulRecord rt (chatCompletions rt gateway chance body) := Iff.rfl
  have failure : ∀ context, OneTruthfulRecord rt
      (refuse gateway [] context (detectorFailurePayload gateway chance body) detectorFailureError) := by
    intro context
    refine (refuse_truthful succeeds _ _ ?_).mpr (shown_of_fixed (encodable_lit _) rfl)
    rw [detectorFailurePayload,← List.append_nil (basePayload gateway chance body ++ _)]
    exact recorded_status ..
  rw [cleared]
  unfold chatCompletions Reportable
  simp only
  cases TokenizationContext.create chance.draws _ with
  | error e => exact iff_of_true (failure none) trivial
  | ok ctx =>
    simp only
    cases detect gateway _ with
    | error e => exact iff_of_true (failure _) trivial
    | ok found => exact mediate_truthful succeeds ..

/-- One user message, without parameters. -/
def greeting : ChatCompletionRequest := ⟨lit "m",[⟨.user,lit "hi"⟩],none,none,∅,true⟩

/-- A gateway whose mediator finds nothing and whose provider replies with the given content. -/
def replyingGateway (content : PyStr) : Gateway :=
  createApp ⟨lit "openai",false,false⟩ ⟨defaultPolicy,fun _ _ => .ok [],plainAnonymizer⟩ (fun _ => .ok 1)
    fun call => .ok ⟨lit "r",call.model,[⟨0,content,lit "stop"⟩],0,0⟩

def plainChance : Chance := ⟨lit "q",.finite 0,.finite 0,fun _ => sampleNamespace⟩

theorem one_truthful_record_iff_greeting :
    OneTruthfulRecord (plainRuntime [] []) (serve (plainRuntime [] []) (replyingGateway (lit "hello")) plainChance greeting) :=
  (one_truthful_record_iff _ (replyingGateway (lit "hello")) plainChance greeting fun _ => ⟨1,rfl⟩).mpr
    ⟨by decide,by decide,⟨none,rfl⟩,⟨by decide,by decide,by decide⟩⟩

/-- The provider's reply is `"\ud800"`: hashing it raises and no record is appended. -/
theorem lone_surrogate_unrecorded :
    ¬ ∀ (rt : Runtime) (gateway : Gateway) (chance : Chance) (body : ChatCompletionRequest), body.accepted = true →
      (∀ payload, ∃ id, gateway.append payload = .ok id) → OneTruthfulRecord rt (serve rt gateway chance body) := by
  intro always
  obtain ⟨payload,appended,_⟩ := always (plainRuntime [] []) (replyingGateway [.surrogate 0]) plainChance greeting
    (by decide) (fun _ => ⟨1,rfl⟩)
  have nothing : (serve (plainRuntime [] []) (replyingGateway [.surrogate 0]) plainChance greeting).appends = [] := rfl
  rw [nothing] at appended
  cases appended

end PrivacyGateway.Outcomes
