import PrivacyGateway.Outcomes

/-!
The ways of a request through the handler. A path is what the handler has done and has at hand
when it comes to its audit write, if it does; the rest is up to the audit logger. `chat_path`
says in one place which paths there are, which event each records, and that the provider is
contacted only with what mediation made of the messages.
-/
namespace PrivacyGateway.Paths
open PrivacyGateway.Strings PrivacyGateway.Errors PrivacyGateway.StdLib PrivacyGateway.JsonText
open PrivacyGateway.Separated PrivacyGateway.Decisions PrivacyGateway.Tokenization PrivacyGateway.Mediator
open PrivacyGateway.Handler PrivacyGateway.Outcomes

/-- The gateway with another audit logger. -/
def auditing (gateway : Gateway) (append : Json → Except PyException Int) : Gateway := { gateway with append := append }

/-- The record of a request that was given up before the provider was contacted. -/
def StoppedBefore (payload : Json) : Prop :=
  recorded "event" payload = some (.str (lit "detector_failure")) ∨
    recorded "event" payload = some (.str (lit "policy_blocked"))

/-- The record of a completed cycle. -/
def Completes (payload : Json) : Prop := recorded "event" payload = some (.str (lit "chat_completion"))

theorem recorded_event (gateway : Gateway) (chance : Chance) (body : ChatCompletionRequest) (event status : String)
    (blocked : Bool) (responseStatus : Nat) (errorCode : Json) (more : List (PyStr × Json)) :
    recorded "event"
        (.obj (basePayload gateway chance body ++ outcomeFields event status blocked responseStatus errorCode ++ more)) =
      some (.str (lit event)) := rfl

theorem StoppedBefore.not_completes {payload : Json} (stopped : StoppedBefore payload) : ¬ Completes payload := by
  unfold Completes
  rcases stopped with states | states
  all_goals
    rw [states,Option.some_inj,Json.str.injEq]
    decide

/-- A way through the handler as far as its audit write. -/
inductive Path where
  | unrecorded (calls : List ProviderCall) (context : Option TokenizationContext) (result : Except PyException Response)
  | refused (calls : List ProviderCall) (context : Option TokenizationContext) (payload : Json) (error : GatewayError)
  | completed (call : ProviderCall) (context : Option TokenizationContext) (payload : Json)
      (response : Int → Except PyException Response)

def Path.calls : Path → List ProviderCall
  | .unrecorded calls .. => calls
  | .refused calls .. => calls
  | .completed call .. => [call]

/-- What the path leaves behind with the given gateway's logger. -/
def Path.exchange (gateway : Gateway) : Path → Exchange
  | .unrecorded calls context result => ⟨calls,[],context,result⟩
  | .refused calls context payload error => refuse gateway calls context payload error
  | .completed call context payload response =>
    match gateway.append payload with
    | .error e => ⟨[call],[payload],context,.error e⟩
    | .ok recordId => ⟨[call],[payload],context,response recordId⟩

/-- The event of the record tells the paths apart, and says whether the provider was contacted. -/
def Path.Named : Path → Prop
  | .unrecorded .. => True
  | .refused calls _ payload _ => ¬ Completes payload ∧ (StoppedBefore payload ↔ calls = [])
  | .completed _ _ payload _ => Completes payload

theorem exchange_calls (gateway : Gateway) (path : Path) : (path.exchange gateway).calls = path.calls := by
  cases path with
  | completed call context payload response =>
    simp only [Path.exchange]
    split <;> rfl
  | _ => rfl

theorem exchange_appends (gateway : Gateway) {path : Path} (named : path.Named) :
    ∀ payload ∈ (path.exchange gateway).appends, StoppedBefore payload ↔ path.calls = [] := by
  intro payload member
  cases path with
  | unrecorded calls context result => cases member
  | refused calls context payload error =>
    rw [List.mem_singleton.mp member]
    exact named.2
  | completed call context payload response =>
    have only : ((Path.completed call context payload response).exchange gateway).appends = [payload] := by
      simp only [Path.exchange]
      split <;> rfl
    rw [only] at member
    rw [List.mem_singleton.mp member]
    exact iff_of_false (fun stopped => stopped.not_completes named) (by simp [Path.calls])

private theorem stopped_named {payload : Json} (stopped : StoppedBefore payload) (context : Option TokenizationContext)
    (error : GatewayError) : (Path.refused [] context payload error).Named :=
  ⟨stopped.not_completes,iff_of_true stopped rfl⟩

private theorem later_named {event : String} {payload : Json} (states : recorded "event" payload = some (.str (lit event)))
    (later : lit event ≠ lit "detector_failure" ∧ lit event ≠ lit "policy_blocked" ∧ lit event ≠ lit "chat_completion")
    (call : ProviderCall) (context : Option TokenizationContext) (error : GatewayError) :
    (Path.refused [call] context payload error).Named := by
  obtain ⟨noFailure,noBlock,noCompletion⟩ := later
  simp only [Path.Named,Completes,StoppedBefore,states,Option.some.injEq,Json.str.injEq]
  exact ⟨noCompletion,iff_of_false (not_or.mpr ⟨noFailure,noBlock⟩) (by simp)⟩

section
variable (rt : Runtime) (gateway : Gateway) (chance : Chance) (body : ChatCompletionRequest)

/-- What the handler has at hand when it contacts the provider. -/
structure Mediation (ctx : TokenizationContext) (perMessage : List (List RecognizerResult))
    (decisions : List PolicyDecision) (contents : List PyStr) (context : Option TokenizationContext) : Prop where
  created : TokenizationContext.create chance.draws (joined (.scalar '\n') (body.messages.map ChatMessage.content)) = .ok ctx
  detected : detect gateway (body.messages.map ChatMessage.content) = .ok (perMessage,decisions)
  unblocked : blockedEntityTypes decisions = []
  applied : applyAll gateway.mediator.apply 0 ((body.messages.map ChatMessage.content).zip perMessage) (some ctx) =
    (.ok contents,context)

/-- The call with what was made of the messages. -/
def callOf (contents : List PyStr) : ProviderCall :=
  ⟨body.model,List.zipWith (fun message content => ⟨message.role,content⟩) body.messages contents,body.temperature,
    body.maxTokens⟩

theorem auditing_mediator (append : Json → Except PyException Int) :
    (auditing gateway append).mediator = gateway.mediator := rfl
theorem auditing_chat (append : Json → Except PyException Int) : (auditing gateway append).chat = gateway.chat := rfl
theorem auditing_append (append : Json → Except PyException Int) : (auditing gateway append).append = append := rfl
theorem detect_auditing (append : Json → Except PyException Int) (texts : List PyStr) :
    detect (auditing gateway append) texts = detect gateway texts := rfl
theorem scanned_auditing (append : Json → Except PyException Int) (response : ProviderResponse) :
    scanned (auditing gateway append) response = scanned gateway response := rfl
theorem redactedContent_auditing (append : Json → Except PyException Int) (perMessage : List (List RecognizerResult)) :
    redactedContent (auditing gateway append) body perMessage = redactedContent gateway body perMessage := rfl

/-- From the provider's response on. -/
theorem respond_path (call : ProviderCall) (context : Option TokenizationContext) (decisions : List PolicyDecision)
    (promptHash : HexText) (redacted : Except PyException (Option (List ChatMessage))) (response : ProviderResponse) :
    ∃ path : Path, path.Named ∧ path.calls = [call] ∧ ∀ append,
      respond rt (auditing gateway append) chance body call context decisions promptHash redacted response =
        path.exchange (auditing gateway append) := by
  simp only [respond,scanned_auditing]
  cases sha256Canonical rt (.arr (response.choices.map fun c => .str c.content)) with
  | error e => exact ⟨.unrecorded [call] context (.error e),trivial,rfl,fun _ => rfl⟩
  | ok responseHash =>
    simp only
    cases scanned gateway response with
    | error e =>
      exact ⟨.refused [call] context (responseScanFailurePayload gateway chance body decisions promptHash responseHash)
        responseScanFailureError,later_named (recorded_event ..) (by decide) ..,rfl,fun _ => rfl⟩
    | ok result =>
      cases redacted with
      | error e => exact ⟨.unrecorded [call] context (.error e),trivial,rfl,fun _ => rfl⟩
      | ok messages =>
        exact ⟨.completed call context
          (chatCompletionPayload gateway chance body decisions promptHash responseHash result.2 messages)
          fun recordId => jsonResponse rt 200 (delivered body context result.1).body [
            (lit "X-Gateway-Request-Id",chance.requestId),
            (lit "X-Audit-Entry-Id",Strings.str (decimalInt recordId))],rfl,rfl,fun _ => rfl⟩

/-- From the sanitized messages on. -/
theorem contact_path (context : Option TokenizationContext) (decisions : List PolicyDecision) (contents : List PyStr)
    (redacted : Except PyException (Option (List ChatMessage))) :
    ∃ path : Path, path.Named ∧ (path.calls = [] ∨ path.calls = [callOf body contents]) ∧ ∀ append,
      contact rt (auditing gateway append) chance body context decisions
          (List.zipWith (fun message content => ⟨message.role,content⟩) body.messages contents) redacted =
        path.exchange (auditing gateway append) := by
  simp only [contact,auditing_chat]
  cases sha256Canonical rt _ with
  | error e => exact ⟨.unrecorded [] context (.error e),trivial,.inl rfl,fun _ => rfl⟩
  | ok promptHash =>
    simp only
    have refused : ∀ (status : Nat) (code : ErrorCode) (error : GatewayError), ∃ path : Path, path.Named ∧
        (path.calls = [] ∨ path.calls = [callOf body contents]) ∧ ∀ append,
          refuse (auditing gateway append) [callOf body contents] context
              (providerErrorPayload (auditing gateway append) chance body status code decisions promptHash) error =
            path.exchange (auditing gateway append) := fun status code error =>
      ⟨.refused [callOf body contents] context
        (providerErrorPayload gateway chance body status code decisions promptHash) error,
        later_named (recorded_event ..) (by decide) ..,.inr rfl,fun _ => rfl⟩
    cases gateway.chat _ with
    | error e =>
      cases e with
      | gateway error => exact refused _ _ _
      | _ => exact refused _ _ _
    | ok response =>
      obtain ⟨path,named,called,goes⟩ := respond_path rt gateway chance body (callOf body contents) context decisions
        promptHash redacted response
      exact ⟨path,named,.inr called,goes⟩

/-- The path of a request does not depend on the logger, and leads to the provider only
    through mediation. -/
theorem chat_path :
    ∃ path : Path, path.Named ∧
      (path.calls = [] ∨ ∃ ctx perMessage decisions contents context,
        Mediation gateway chance body ctx perMessage decisions contents context ∧ path.calls = [callOf body contents]) ∧
      ∀ append, chatCompletions rt (auditing gateway append) chance body = path.exchange (auditing gateway append) := by
  simp only [chatCompletions,detect_auditing]
  cases created : TokenizationContext.create chance.draws _ with
  | error e => exact ⟨.refused [] none (detectorFailurePayload gateway chance body) detectorFailureError,
      stopped_named (.inl rfl) ..,.inl rfl,fun _ => rfl⟩
  | ok ctx =>
    simp only
    cases detected : detect gateway _ with
    | error e => exact ⟨.refused [] (some ctx) (detectorFailurePayload gateway chance body) detectorFailureError,
        stopped_named (.inl rfl) ..,.inl rfl,fun _ => rfl⟩
    | ok found =>
      obtain ⟨perMessage,decisions⟩ := found
      simp only [mediate,auditing_mediator,redactedContent_auditing]
      by_cases unblocked : blockedEntityTypes decisions = []
      · simp only [ne_eq,unblocked,not_true_eq_false,↓reduceIte]
        cases applied : applyAll gateway.mediator.apply 0 _ _ with
        | mk outcome context =>
          cases outcome with
          | error e => exact ⟨.refused [] context (sanitizationFailurePayload gateway chance body decisions)
              detectorFailureError,stopped_named (.inl rfl) ..,.inl rfl,fun _ => rfl⟩
          | ok contents =>
            obtain ⟨path,named,called,goes⟩ := contact_path rt gateway chance body context decisions contents
              (redactedContent gateway body perMessage)
            refine ⟨path,named,called.imp_right fun same => ?_,goes⟩
            exact ⟨ctx,perMessage,decisions,contents,context,⟨created,detected,unblocked,applied⟩,same⟩
      · simp only [ne_eq,unblocked,not_false_eq_true,↓reduceIte]
        exact ⟨.refused [] (some ctx) (policyBlockedPayload gateway chance body decisions (blockedEntityTypes decisions))
          (policyBlockedError (blockedEntityTypes decisions)),stopped_named (.inr rfl) ..,.inl rfl,fun _ => rfl⟩

end

end PrivacyGateway.Paths
