import PrivacyGateway.Application
import PrivacyGateway.FailClosed
import PrivacyGateway.Noninterference

/-!
Any number of requests at once before a provider that answers as it likes: when it likes, and
with whatever it has seen of the other requests. If two runs go through the same steps and some
of their requests differ in the values that the policy mediates or blocks, the audit log, the
provider and the callers of all other requests see the same (`observers_alike`).
-/
namespace PrivacyGateway.Observers
open PrivacyGateway.Strings PrivacyGateway.Errors PrivacyGateway.StdLib PrivacyGateway.JsonText PrivacyGateway.Separated
open PrivacyGateway.Decisions PrivacyGateway.Tokenization PrivacyGateway.Mediator PrivacyGateway.Handler
open PrivacyGateway.Paths PrivacyGateway.FailClosed PrivacyGateway.Runs PrivacyGateway.Requests PrivacyGateway.Noninterference

/-! ### A request up to the provider and from there on -/

/-- What the handler has at hand when it comes to the provider, or what it stops with. -/
inductive Prepared where
  | stopped (context : Option TokenizationContext) (payload : Json) (error : GatewayError)
  | ready (context : Option TokenizationContext) (decisions : List PolicyDecision) (sanitized : List ChatMessage)
      (redacted : Except PyException (Option (List ChatMessage)))

section
variable (rt : Runtime) (gateway : Gateway) (chance : Chance) (body : ChatCompletionRequest)

/-- `chat_completions` up to the provider. -/
def prepare : Prepared :=
  let texts := body.messages.map ChatMessage.content
  match TokenizationContext.create chance.draws (joined (.scalar '\n') texts) with
  | .error _ => .stopped none (detectorFailurePayload gateway chance body) detectorFailureError
  | .ok ctx =>
    match detect gateway texts with
    | .error _ => .stopped (some ctx) (detectorFailurePayload gateway chance body) detectorFailureError
    | .ok (perMessage,decisions) =>
      if blockedEntityTypes decisions ≠ [] then
        .stopped (some ctx) (policyBlockedPayload gateway chance body decisions (blockedEntityTypes decisions))
          (policyBlockedError (blockedEntityTypes decisions))
      else
        match applyAll gateway.mediator.apply 0 (texts.zip perMessage) (some ctx) with
        | (.error _,context) => .stopped context (sanitizationFailurePayload gateway chance body decisions) detectorFailureError
        | (.ok contents,context) => .ready context decisions
            (List.zipWith (fun message content => ⟨message.role,content⟩) body.messages contents)
            (redactedContent gateway body perMessage)

/-- The rest of the handler. -/
def Prepared.exchange : Prepared → Exchange
  | .stopped context payload error => refuse gateway [] context payload error
  | .ready context decisions sanitized redacted => contact rt gateway chance body context decisions sanitized redacted

theorem chat_prepared : chatCompletions rt gateway chance body = (prepare gateway chance body).exchange rt gateway chance body := by
  unfold chatCompletions prepare
  simp only
  cases TokenizationContext.create chance.draws _ with
  | error e => rfl
  | ok ctx =>
    simp only
    cases detect gateway _ with
    | error e => rfl
    | ok found =>
      obtain ⟨perMessage,decisions⟩ := found
      simp only [mediate]
      split_ifs
      · rfl
      · cases applyAll gateway.mediator.apply 0 _ _ with
        | mk outcome context => cases outcome <;> rfl

/-- What is sent is settled before the provider answers. -/
theorem contact_calls (context : Option TokenizationContext) (decisions : List PolicyDecision) (sanitized : List ChatMessage)
    (redacted : Except PyException (Option (List ChatMessage))) :
    (contact rt gateway chance body context decisions sanitized redacted).calls =
      match sha256Canonical rt (messagesJson sanitized) with
      | .error _ => []
      | .ok _ => [⟨body.model,sanitized,body.temperature,body.maxTokens⟩] := by
  unfold contact
  cases sha256Canonical rt (messagesJson sanitized) with
  | error e => rfl
  | ok promptHash =>
    simp only
    cases gateway.chat _ with
    | error e => cases e <;> rfl
    | ok response =>
      simp only [respond]
      cases sha256Canonical rt _ with
      | error e => rfl
      | ok responseHash =>
        simp only
        cases scanned gateway response with
        | error e => rfl
        | ok result =>
          cases redacted with
          | error e => rfl
          | ok messages =>
            simp only [finish]
            split <;> rfl

end

/-- A request as it comes in, with what is drawn and measured for it. -/
structure Session where
  chance : Chance
  body : ChatCompletionRequest

/-- The sessions differ in nothing but the values inside sensitive spans. -/
structure Disguised (mediator : PIIMediator) (a b : Session) : Prop where
  requestId : a.chance.requestId = b.chance.requestId
  durationMs : a.chance.durationMs = b.chance.durationMs
  providerDurationMs : a.chance.providerDurationMs = b.chance.providerDurationMs
  same : SameRequest mediator a.body b.body a.chance.draws b.chance.draws

/-- Stopped with the same record, or ready with the same for the provider. -/
inductive SamePrepared : Prepared → Prepared → Prop
  | stopped (context context' : Option TokenizationContext) (payload : Json) (error error' : GatewayError) :
      SamePrepared (.stopped context payload error) (.stopped context' payload error')
  | ready (context context' : Option TokenizationContext) (decisions : List PolicyDecision) (sanitized : List ChatMessage)
      (redacted : Except PyException (Option (List ChatMessage))) :
      SamePrepared (.ready context decisions sanitized redacted) (.ready context' decisions sanitized redacted)

/-- What the provider and the audit logger get of a request. -/
def outward (exchange : Exchange) : List ProviderCall × List Json := (exchange.calls,exchange.appends)

section
variable {rt : Runtime} {settings : Settings} {mediator : PIIMediator} {append : Json → Except PyException Int}
variable {chat : ProviderCall → Except PyException ProviderResponse} {a b : Session}

theorem Disguised.base (disguised : Disguised mediator a b) (gateway : Gateway) :
    basePayload gateway a.chance a.body = basePayload gateway b.chance b.body := by
  unfold basePayload
  rw [disguised.requestId,disguised.durationMs,disguised.same.model]

/-- Messages that agree and are not blocked are sanitized to the same texts, and stored the same. -/
theorem sanitized_same (rightToLeft : ReplacesRightToLeft mediator.anonymizer) {messages messages' : List ChatMessage}
    {found found' : List (List RecognizerResult)} (size : found.length = messages.length)
    (size' : found'.length = messages'.length)
    (agree : List.Forall₂ (SameMessage mediator.policy) (messages.zip found) (messages'.zip found'))
    (pattern : SamePattern ((messages.zip found).flatMap (tokenKeys mediator.policy))
      ((messages'.zip found').flatMap (tokenKeys mediator.policy)))
    (unblocked : ∀ results ∈ found, Unblocked mediator.policy results)
    (unblocked' : ∀ results ∈ found', Unblocked mediator.policy results) (ns : Namespace) :
    ∃ contents last last',
      applyAll (mediatorCalls mediator).apply 0 ((messages.map ChatMessage.content).zip found) (some (.fresh ns)) =
        (.ok contents,some last) ∧
      applyAll (mediatorCalls mediator).apply 0 ((messages'.map ChatMessage.content).zip found') (some (.fresh ns)) =
        (.ok contents,some last') ∧
      List.zipWith (fun message content => (⟨message.role,content⟩ : ChatMessage)) messages contents =
        List.zipWith (fun message content => ⟨message.role,content⟩) messages' contents := by
  have paired : Paired (((messages.zip found).flatMap (tokenKeys mediator.policy)).zip
      ((messages'.zip found').flatMap (tokenKeys mediator.policy))) (.fresh ns) (.fresh ns) := ⟨rfl,rfl,fun _ _ => rfl⟩
  obtain ⟨contents,last,last',ran,ran'⟩ := applyAll_same rightToLeft pattern agree
    (fun m member => unblocked m.2 (List.of_mem_zip member).2) (fun m member => unblocked' m.2 (List.of_mem_zip member).2)
    (fun p member => member) 0 paired
  refine ⟨contents,last,last',?_,?_,?_⟩
  · rw [sources_zip]
    exact ran
  · rw [sources_zip]
    exact ran'
  · have byRole : ∀ messages : List ChatMessage,
        List.zipWith (fun message content => (⟨message.role,content⟩ : ChatMessage)) messages contents =
          List.zipWith ChatMessage.mk (messages.map ChatMessage.role) contents :=
      fun messages => List.zipWith_map_left.symm
    rw [byRole,byRole,roles_same size size' agree]

/-- Both requests come to the provider with the same sanitized messages, or both stop. -/
theorem prepare_same (rightToLeft : ReplacesRightToLeft mediator.anonymizer) (disguised : Disguised mediator a b) :
    SamePrepared (prepare (createApp settings mediator append chat) a.chance a.body)
      (prepare (createApp settings mediator append chat) b.chance b.body) := by
  have base := disguised.base (createApp settings mediator append chat)
  have findings := disguised.same.findings
  have calls : (createApp settings mediator append chat).mediator = mediatorCalls mediator := rfl
  unfold prepare
  simp only
  rw [← disguised.same.ns]
  have failed : ∀ context context', SamePrepared
      (.stopped context (detectorFailurePayload (createApp settings mediator append chat) a.chance a.body) detectorFailureError)
      (.stopped context' (detectorFailurePayload (createApp settings mediator append chat) b.chance b.body)
        detectorFailureError) := by
    intro context context'
    rw [detectorFailurePayload,detectorFailurePayload,base]
    exact .stopped ..
  cases created : TokenizationContext.create a.chance.draws _ with
  | error e => exact failed none none
  | ok ctx =>
    simp only [detect]
    rw [calls]
    cases analyzed : analyzeAll (mediatorCalls mediator) 0 (a.body.messages.map ChatMessage.content) with
    | error e =>
      cases analyzed' : analyzeAll (mediatorCalls mediator) 0 (b.body.messages.map ChatMessage.content) with
      | error e' => exact failed ..
      | ok found' => simp [SameFindings,analyzed,analyzed'] at findings
    | ok found =>
      cases analyzed' : analyzeAll (mediatorCalls mediator) 0 (b.body.messages.map ChatMessage.content) with
      | error e' => simp [SameFindings,analyzed,analyzed'] at findings
      | ok found' =>
        simp only [SameFindings,analyzed,analyzed'] at findings
        obtain ⟨agree,pattern⟩ := findings
        have size := analyzeAll_length analyzed
        have size' := analyzeAll_length analyzed'
        rw [List.length_map] at size size'
        have decided : buildDecisions (detections found') mediator.policy = buildDecisions (detections found) mediator.policy := by
          have perm := detections_same agree
          rw [List.map_snd_zip size.le,List.map_snd_zip size'.le] at perm
          exact (buildDecisions_perm perm mediator.policy).symm
        have built : ∀ ds, (createApp settings mediator append chat).buildDecisions ds (mediatorCalls mediator).policy =
            .ok (buildDecisions ds mediator.policy) := fun _ => rfl
        simp only [Except.bind,built,Except.map,decided]
        by_cases blocked : blockedEntityTypes (buildDecisions (detections found) mediator.policy) = []
        · simp only [blocked,ne_eq,not_true_eq_false,if_false]
          have blocked' := blocked
          rw [← decided] at blocked'
          obtain ⟨contents,last,last',ran,ran',sanitized⟩ := sanitized_same rightToLeft size size' agree pattern
            (unblocked_of_decisions blocked) (unblocked_of_decisions blocked') ctx.ns
          have stored : redactedContent (createApp settings mediator append chat) a.body found =
              redactedContent (createApp settings mediator append chat) b.body found' := by
            unfold redactedContent
            exact congrArg (fun messages => if settings.auditStoreRedactedContent then messages.map some else .ok none)
              (redactAllMessages_same rightToLeft agree 0)
          rw [(create_fresh created).1,ran,ran']
          simp only [sanitized,stored]
          exact .ready ..
        · simp only [blocked,ne_eq,not_false_eq_true,if_true]
          rw [policyBlockedPayload,policyBlockedPayload,base]
          exact .stopped ..

theorem contact_outward (disguised : Disguised mediator a b) (gateway : Gateway) (context context' : Option TokenizationContext)
    (decisions : List PolicyDecision) (sanitized : List ChatMessage)
    (redacted : Except PyException (Option (List ChatMessage))) :
    outward (contact rt gateway a.chance a.body context decisions sanitized redacted) =
      outward (contact rt gateway b.chance b.body context' decisions sanitized redacted) := by
  have base := disguised.base gateway
  unfold contact
  rw [disguised.same.model,disguised.same.temperature,disguised.same.maxTokens]
  cases sha256Canonical rt (messagesJson sanitized) with
  | error e => rfl
  | ok promptHash =>
    have refused : ∀ status code error error' call, outward (refuse gateway [call] context
        (providerErrorPayload gateway a.chance a.body status code decisions promptHash) error) =
          outward (refuse gateway [call] context'
            (providerErrorPayload gateway b.chance b.body status code decisions promptHash) error') := by
      intro status code error error' call
      rw [providerErrorPayload,providerErrorPayload,base]
      rfl
    simp only
    cases gateway.chat _ with
    | error e =>
      cases e with
      | gateway error => exact refused ..
      | _ => exact refused ..
    | ok response =>
      simp only [respond]
      cases sha256Canonical rt _ with
      | error e => rfl
      | ok responseHash =>
        simp only
        cases scanned gateway response with
        | error e =>
          simp only
          rw [responseScanFailurePayload,responseScanFailurePayload,base,disguised.providerDurationMs]
          rfl
        | ok result =>
          cases redacted with
          | error e => rfl
          | ok messages =>
            simp only [finish]
            rw [chatCompletionPayload,chatCompletionPayload,base,disguised.providerDurationMs,disguised.same.rehydrate]
            cases gateway.append _ <;> rfl

/-- Neither the provider nor the logger can tell the requests apart. -/
theorem chat_outward (rightToLeft : ReplacesRightToLeft mediator.anonymizer) (disguised : Disguised mediator a b) :
    outward (serve rt (createApp settings mediator append chat) a.chance a.body) =
      outward (serve rt (createApp settings mediator append chat) b.chance b.body) := by
  have cleared : ∀ exchange, outward (clearRequestTokenContext exchange) = outward exchange := fun _ => rfl
  rw [serve,serve,cleared,cleared,chat_prepared,chat_prepared]
  have prepared : SamePrepared (prepare (createApp settings mediator append chat) a.chance a.body)
    (prepare (createApp settings mediator append chat) b.chance b.body) := prepare_same rightToLeft disguised
  generalize prepare (createApp settings mediator append chat) a.chance a.body = first at prepared
  generalize prepare (createApp settings mediator append chat) b.chance b.body = second at prepared
  cases prepared with
  | stopped => rfl
  | ready context context' => exact contact_outward disguised _ context context' _ _ _

end

/-! ### The system -/

/-- The requests on their log, what the provider has been sent, in order, and what it has
    answered. -/
structure State where
  app : Application.State
  seen : List (Nat × ProviderCall)
  replies : Nat → Option (Except PyException ProviderResponse)

def State.start : State := ⟨.start,[],fun _ => none⟩

inductive Event where
  | send (w : Nat)
  /-- The provider answers a request with anything. -/
  | reply (w : Nat) (outcome : Except PyException ProviderResponse)
  | app (e : Application.Event)

/-- The request that the step takes on from the provider. -/
def resumes : Application.Event → Option Nat
  | .log (.call w) => some w
  | .answer w => some w
  | _ => none

/-- What becomes of a call that has no answer. -/
def unanswered : Except PyException ProviderResponse := .error (.gateway providerTimeoutError)

section
variable (rt : Runtime) (settings : Settings) (mediator : PIIMediator) (checkpointing : Bool)

/-- The request of a session that the provider answers so. -/
def requestOf (session : Session) (outcome : Except PyException ProviderResponse) : Request :=
  ⟨createApp settings mediator (fun _ => .ok 0) fun _ => outcome,session.chance,session.body⟩

/-- The call that a session makes, if it makes one. -/
def sent (session : Session) : Option ProviderCall :=
  ((requestOf settings mediator session unanswered).exchange rt (.ok 0)).calls.head?

variable (sessions : Nat → Session)

def State.request (s : State) (w : Nat) : Request := requestOf settings mediator (sessions w) ((s.replies w).getD unanswered)

/-- The handler of the request waits for the provider. -/
def State.waits (s : State) (w : Nat) : Bool := (sent rt settings mediator (sessions w)).isSome && (s.replies w).isNone

/-- One step, or `none` where the event cannot happen. -/
def step (s : State) : Event → Option State
  | .send w =>
    match sent rt settings mediator (sessions w) with
    | some call => if w ∈ s.seen.map Prod.fst then none else some { s with seen := s.seen ++ [(w,call)] }
    | none => none
  | .reply w outcome =>
    if w ∈ s.seen.map Prod.fst ∧ (s.replies w).isNone then
      some { s with replies := Function.update s.replies w (some outcome) }
    else none
  | .app e =>
    if (resumes e).any (s.waits rt settings mediator sessions) then none
    else (Application.step rt (s.request settings mediator sessions) checkpointing s.app e).map fun app => { s with app := app }

end

section
variable {rt : Runtime} {settings : Settings} {mediator : PIIMediator} {checkpointing : Bool}

/-- What a session sends does not depend on the answer, nor on what becomes of its record. -/
theorem sent_calls (session : Session) (outcome : Except PyException ProviderResponse) (result : Except PyException Int) :
    ((requestOf settings mediator session outcome).exchange rt result).calls = (sent rt settings mediator session).toList := by
  have calls : ∀ outcome result, ((requestOf settings mediator session outcome).exchange rt result).calls =
      match prepare (createApp settings mediator (fun _ => .ok 0) fun _ => unanswered) session.chance session.body with
      | .stopped .. => []
      | .ready _ _ sanitized _ =>
        match sha256Canonical rt (messagesJson sanitized) with
        | .error _ => []
        | .ok _ => [⟨session.body.model,sanitized,session.body.temperature,session.body.maxTokens⟩] := by
    intro outcome result
    have cleared : ∀ exchange, (clearRequestTokenContext exchange).calls = exchange.calls := fun _ => rfl
    have prepared : ∀ append chat, prepare (createApp settings mediator append chat) session.chance session.body =
      prepare (createApp settings mediator (fun _ => .ok 0) fun _ => unanswered) session.chance session.body := fun _ _ => rfl
    have gateway : auditing (createApp settings mediator (fun _ => .ok 0) fun _ => outcome) (fun _ => result) =
      createApp settings mediator (fun _ => result) fun _ => outcome := rfl
    rw [requestOf,Request.exchange,serve,cleared,gateway,chat_prepared,prepared]
    cases prepare (createApp settings mediator (fun _ => .ok 0) fun _ => unanswered) session.chance session.body with
    | stopped => rfl
    | ready => exact contact_calls ..
  rw [sent,calls outcome,calls unanswered]
  cases prepare _ session.chance session.body with
  | stopped => rfl
  | ready =>
    simp only
    cases sha256Canonical rt _ <;> rfl

/-- Sessions that are disguised send the same, and hand over the same whatever the answer. -/
theorem session_same (rightToLeft : ReplacesRightToLeft mediator.anonymizer) {a b : Session}
    (disguised : a = b ∨ Disguised mediator a b) : sent rt settings mediator b = sent rt settings mediator a ∧
      ∀ outcome, (requestOf settings mediator b outcome).handed rt = (requestOf settings mediator a outcome).handed rt := by
  rcases disguised with rfl | disguised
  · exact ⟨rfl,fun _ => rfl⟩
  · have same : ∀ outcome, outward ((requestOf settings mediator a outcome).exchange rt (.ok 0)) =
        outward ((requestOf settings mediator b outcome).exchange rt (.ok 0)) := by
      intro outcome
      have served : outward (serve rt (createApp settings mediator (fun _ => .ok 0) fun _ => outcome) a.chance a.body) =
        outward (serve rt (createApp settings mediator (fun _ => .ok 0) fun _ => outcome) b.chance b.body) :=
        chat_outward rightToLeft disguised
      exact served
    constructor
    · exact congrArg (fun seen : List ProviderCall × List Json => seen.1.head?) (same unanswered).symm
    · intro outcome
      exact congrArg (fun seen : List ProviderCall × List Json => seen.2.head?) (same outcome).symm

end

/-! ### Two runs of the same steps -/

/-- Log and provider are the same, and so is what everyone is answered whose session is. -/
structure Alike (first second : Nat → Session) (s s' : State) : Prop where
  log : s'.app.log = s.app.log
  seen : s'.seen = s.seen
  replies : s'.replies = s.replies
  answered : ∀ w, (s'.app.answers w).isSome = (s.app.answers w).isSome
  own : ∀ w, first w = second w → s'.app.answers w = s.app.answers w

section
variable {rt : Runtime} {settings : Settings} {mediator : PIIMediator} {checkpointing : Bool}

/-- Requests that hand over the same take the same steps on the log. -/
theorem application_matched {requests requests' : Nat → Request} {u v u' : Application.State} {e : Application.Event}
    (handed : ∀ w, (requests' w).handed rt = (requests w).handed rt) (log : u'.log = u.log)
    (answered : ∀ w, (u'.answers w).isSome = (u.answers w).isSome)
    (stepped : Application.step rt requests checkpointing u e = some v) :
    ∃ v', Application.step rt requests' checkpointing u' e = some v' ∧ v'.log = v.log ∧
      (∀ w, (v'.answers w).isSome = (v.answers w).isSome) ∧
      ∀ w, requests' w = requests w → u'.answers w = u.answers w → v'.answers w = v.answers w := by
  cases e with
  | log e =>
    have calls : Application.calls rt requests' checkpointing = Application.calls rt requests checkpointing := by
      funext w
      rw [Application.calls,Application.calls,handed]
    have admitted : Application.admitted rt requests' e = Application.admitted rt requests e := by
      cases e with
      | call w => rw [Application.admitted,Application.admitted,handed]
      | _ => rfl
    simp only [Application.step,calls,admitted,log] at stepped ⊢
    split_ifs at stepped ⊢
    obtain ⟨after,made,rfl⟩ := Option.map_eq_some_iff.mp stepped
    exact ⟨{ u' with log := after },by rw [made]; rfl,rfl,answered,fun w _ same => same⟩
  | answer w =>
    have resumed : Application.resumed rt (requests' w) (u'.log.writers w) =
        Application.resumed rt (requests w) (u.log.writers w) := by
      rw [Application.resumed,Application.resumed,handed,log]
    simp only [Application.step,resumed] at stepped ⊢
    split at stepped
    · next result unanswered outcome =>
      cases stepped
      have open' : u'.answers w = none := by
        have same := answered w
        rw [unanswered] at same
        exact Option.isNone_iff_eq_none.mp (by simpa using same)
      rw [open',outcome]
      refine ⟨_,rfl,log,fun other => ?_,fun other same kept => ?_⟩
      · by_cases here : other = w
        · subst here
          simp
        · simp only [Function.update_of_ne here]
          exact answered other
      · by_cases here : other = w
        · subst here
          simp only [Function.update_self,same]
        · simp only [Function.update_of_ne here]
          exact kept
    · cases stepped

variable {first second : Nat → Session}

theorem step_matched (rightToLeft : ReplacesRightToLeft mediator.anonymizer)
    (disguised : ∀ w, first w = second w ∨ Disguised mediator (first w) (second w)) {s t s' : State} {e : Event}
    (alike : Alike first second s s') (stepped : step rt settings mediator checkpointing first s e = some t) :
    ∃ t', step rt settings mediator checkpointing second s' e = some t' ∧ Alike first second t t' := by
  have same : ∀ w, sent rt settings mediator (second w) = sent rt settings mediator (first w) ∧
      ∀ outcome, (requestOf settings mediator (second w) outcome).handed rt =
        (requestOf settings mediator (first w) outcome).handed rt := fun w => session_same rightToLeft (disguised w)
  cases e with
  | send w =>
    simp only [step,(same w).1,alike.seen] at stepped ⊢
    split at stepped
    · split_ifs at stepped ⊢
      cases stepped
      exact ⟨_,rfl,alike.log,rfl,alike.replies,alike.answered,alike.own⟩
    · cases stepped
  | reply w outcome =>
    simp only [step,alike.seen,alike.replies] at stepped ⊢
    split_ifs at stepped ⊢
    cases stepped
    exact ⟨_,rfl,alike.log,rfl,rfl,alike.answered,alike.own⟩
  | app e =>
    have waits : s'.waits rt settings mediator second = s.waits rt settings mediator first := by
      funext w
      rw [State.waits,State.waits,(same w).1,alike.replies]
    simp only [step,waits] at stepped ⊢
    split_ifs at stepped ⊢
    obtain ⟨app,made,rfl⟩ := Option.map_eq_some_iff.mp stepped
    have handed : ∀ w, (s'.request settings mediator second w).handed rt = (s.request settings mediator first w).handed rt := by
      intro w
      rw [State.request,State.request,alike.replies]
      exact (same w).2 _
    obtain ⟨app',made',log,answered,own⟩ := application_matched handed alike.log alike.answered made
    refine ⟨{ s' with app := app' },by rw [made']; rfl,log,alike.seen,alike.replies,answered,fun w equal => ?_⟩
    refine own w ?_ (alike.own w equal)
    rw [State.request,State.request,alike.replies,equal]

end

/-- Whatever the provider answers, and however the requests are interleaved, fail or crash: if
    some of them had other values in their sensitive spans, the same run would leave the log,
    the provider and the callers of all other requests with the same. -/
theorem observers_alike (rt : Runtime) (settings : Settings) (mediator : PIIMediator)
    (rightToLeft : ReplacesRightToLeft mediator.anonymizer) (checkpointing : Bool) (first second : Nat → Session)
    (disguised : ∀ w, first w = second w ∨ Disguised mediator (first w) (second w)) (events : List Event) (s : State)
    (ran : run (step rt settings mediator checkpointing first) .start events = some s) :
    ∃ s', run (step rt settings mediator checkpointing second) .start events = some s' ∧ Alike first second s s' :=
  run_matched (step_matched rightToLeft disguised) (⟨rfl,rfl,rfl,fun _ => rfl,fun _ _ => rfl⟩ : Alike first second .start .start) ran

/-- The letter of the first session has one of two addresses. -/
def letters (address : String) (w : Nat) : Session :=
  if w = 0 then ⟨mailChance "q" 3,mail ("mail " ++ address)⟩ else ⟨mailChance "r" 5,mail "mail me@here.uk"⟩

/-- The provider answers the second session with what it was sent in the first. -/
def overheard : List Event :=
  [.send 0,.send 1,.reply 0 (.error .valueError),
    .reply 1 (.ok ⟨lit "r",lit "m",[⟨0,lit "mail [[PGW_0A1B2C3D_EMAIL_ADDRESS_1]]",lit "stop"⟩],0,0⟩)] ++
  ((Writers.committing 0 ++ Writers.committing 1 ++ [Writers.Event.finish 1]).map fun e => .app (.log e)) ++ [.app (.answer 1)]

theorem observers_alike_letters :
    ∃ s s', run (step (plainRuntime [] []) ⟨lit "mock",true,false⟩ mailMediator false (letters "a@b.c")) .start overheard = some s ∧
      run (step (plainRuntime [] []) ⟨lit "mock",true,false⟩ mailMediator false (letters "someone@example.org")) .start overheard =
        some s' ∧
      (s.app.answers 1).isSome = true ∧ s'.app.answers 1 = s.app.answers 1 ∧ s'.app.log = s.app.log ∧ s'.seen = s.seen := by
  have disguised : ∀ w, letters "a@b.c" w = letters "someone@example.org" w ∨
      Disguised mailMediator (letters "a@b.c" w) (letters "someone@example.org" w) := by
    intro w
    by_cases letter : w = 0
    · subst letter
      refine .inr ⟨rfl,rfl,rfl,rfl,rfl,rfl,rfl,rfl,?_⟩
      refine ⟨.cons ⟨rfl,⟨by decide,by decide⟩,⟨by decide,by decide⟩,?_,by decide⟩ .nil,?_⟩
      · exact .cons ⟨rfl,rfl,by decide⟩ .nil
      · unfold SamePattern
        decide
    · exact .inl (by rw [letters,letters,if_neg letter,if_neg letter])
  have first : (run (step (plainRuntime [] []) ⟨lit "mock",true,false⟩ mailMediator false (letters "a@b.c")) .start
      overheard).map (fun s => (s.app.answers 1).isSome) = some true := by decide +kernel
  obtain ⟨s,ran,answered⟩ := Option.map_eq_some_iff.mp first
  obtain ⟨s',ran',alike⟩ := observers_alike (plainRuntime [] []) ⟨lit "mock",true,false⟩ mailMediator
    plainAnonymizer_replaces false _ _ disguised overheard s ran
  exact ⟨s,s',ran,ran',answered,alike.own 1 rfl,alike.log,alike.seen⟩

end PrivacyGateway.Observers
