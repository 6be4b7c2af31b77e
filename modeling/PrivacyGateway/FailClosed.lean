import PrivacyGateway.Paths

/-!
Fail-closed mediation. Whatever the detector reports and whichever calls of
`analyze`, `build_decisions` and `apply` fail, the handler contacts the provider
only with what `apply` made of every message (`SanitizedAll`), and only if the
policy blocks nothing that was detected (`fail_closed`).
-/
namespace PrivacyGateway.FailClosed
open PrivacyGateway.Strings PrivacyGateway.Errors PrivacyGateway.StdLib PrivacyGateway.JsonText
open PrivacyGateway.Separated PrivacyGateway.Decisions PrivacyGateway.Tokenization PrivacyGateway.Mediator
open PrivacyGateway.Handler PrivacyGateway.Outcomes PrivacyGateway.Paths

/-- What happens to the calls of one request: what `analyze` answers or raises, the
    exception of `build_decisions` and those of `apply`, which may have changed the
    context before it raises. -/
structure Course where
  analyze : Nat → PyStr → Except PyException (List RecognizerResult)
  buildDecisionsFault : Option PyException
  applyFault : Nat → Option (PyException × Option TokenizationContext)

/-- The gateway whose calls go as given; a call without a fault does what the gateway's does. -/
def taking (gateway : Gateway) (course : Course) : Gateway := { gateway with
  mediator := { gateway.mediator with
    analyze := course.analyze
    apply := fun i text results context =>
      match course.applyFault i with
      | some (e,after) => (.error e,after)
      | none => gateway.mediator.apply i text results context }
  buildDecisions := fun detections policy =>
    match course.buildDecisionsFault with
    | some e => .error e
    | none => gateway.buildDecisions detections policy }

/-- The gateway with another `apply` of its request mediator. -/
def withApply (gateway : Gateway) (apply : Nat → PyStr → List RecognizerResult → Option TokenizationContext →
    Except PyException PyStr × Option TokenizationContext) : Gateway :=
  { gateway with mediator := { gateway.mediator with apply := apply } }

/-- No detection has an action that rejects the request. -/
def Unblocked (policy : Policy) (results : List RecognizerResult) : Prop :=
  ∀ r ∈ results, policy.lookup r.entityType ≠ some .block

/-- A message on its way to the provider: `analyze` and `apply` returned, nothing in it
    is blocked, and what is sent is the output of `apply` under the role of the message. -/
def Sanitized (mediator : MediatorCalls) (i : Nat) (message : ChatMessage) (context after : Option TokenizationContext)
    (sent : ChatMessage) : Prop :=
  ∃ results, mediator.analyze i message.content = .ok results ∧ Unblocked mediator.policy results ∧
    mediator.apply i message.content results context = (.ok sent.content,after) ∧ sent.role = message.role

/-- The messages in their order, each given the context that the one before it left. -/
def SanitizedAll (mediator : MediatorCalls) : Nat → Option TokenizationContext → List ChatMessage →
    List ChatMessage → Prop
  | _, _, [], [] => True
  | i, context, message :: rest, sent :: others =>
    ∃ after, Sanitized mediator i message context after sent ∧ SanitizedAll mediator (i + 1) after rest others
  | _, _, _, _ => False

theorem SanitizedAll.roles {mediator : MediatorCalls} {i : Nat} {context : Option TokenizationContext}
    {messages sent : List ChatMessage} (all : SanitizedAll mediator i context messages sent) :
    sent.map ChatMessage.role = messages.map ChatMessage.role := by
  induction messages generalizing i context sent with
  | nil =>
    cases sent with
    | nil => rfl
    | cons s others => exact all.elim
  | cons message rest ih =>
    cases sent with
    | nil => exact all.elim
    | cons s others =>
      obtain ⟨after,⟨_,_,_,_,role⟩,later⟩ := all
      rw [List.map_cons,List.map_cons,role,ih later]

theorem applyAll_cons {apply : Nat → PyStr → List RecognizerResult → Option TokenizationContext →
      Except PyException PyStr × Option TokenizationContext} {i : Nat} {text : PyStr} {results : List RecognizerResult}
    {rest : List (PyStr × List RecognizerResult)} {context last : Option TokenizationContext} {contents : List PyStr}
    (applied : applyAll apply i ((text,results) :: rest) context = (.ok contents,last)) :
    ∃ out outs after, contents = out :: outs ∧ apply i text results context = (.ok out,after) ∧
      applyAll apply (i + 1) rest after = (.ok outs,last) := by
  rw [applyAll] at applied
  split at applied
  · simp at applied
  · rename_i out after made
    split at applied
    · simp at applied
    · rename_i outs final others
      simp only [Prod.mk.injEq,Except.ok.injEq] at applied
      exact ⟨out,outs,after,applied.1.symm,made,by rw [others,applied.2]⟩

/-- `zip(messages, texts, per_message_results)` after a detection that returned, sanitized
    without an exception. -/
theorem sanitizedAll_of_ok {mediator : MediatorCalls} {messages : List ChatMessage} {i : Nat}
    {perMessage : List (List RecognizerResult)} {context last : Option TokenizationContext} {contents : List PyStr}
    (analyzed : analyzeAll mediator i (messages.map ChatMessage.content) = .ok perMessage)
    (unblocked : ∀ results ∈ perMessage, Unblocked mediator.policy results)
    (applied : applyAll mediator.apply i ((messages.map ChatMessage.content).zip perMessage) context =
      (.ok contents,last)) :
    SanitizedAll mediator i context messages
      (List.zipWith (fun message content => ⟨message.role,content⟩) messages contents) := by
  induction messages generalizing i perMessage context contents with
  | nil => trivial
  | cons message rest ih =>
    obtain ⟨results,more,rfl,found,analyzed⟩ := analyzeAll_cons analyzed
    obtain ⟨out,outs,after,rfl,made,applied⟩ := applyAll_cons applied
    refine ⟨after,⟨results,found,unblocked _ List.mem_cons_self,made,rfl⟩,?_⟩
    exact ih analyzed (fun r member => unblocked r (List.mem_cons_of_mem _ member)) applied

/-- What `build_decisions` does not block, no message holds. -/
theorem unblocked_of_decisions {policy : Policy} {perMessage : List (List RecognizerResult)}
    (none : blockedEntityTypes (buildDecisions (detections perMessage) policy) = []) :
    ∀ results ∈ perMessage, Unblocked policy results := by
  intro results inMessages r member blocks
  have blocked : r.entityType ∈ blockedEntityTypes (buildDecisions (detections perMessage) policy) := by
    refine mem_blockedEntityTypes.mpr ⟨blocks,r.score,?_⟩
    exact List.mem_map_of_mem (List.mem_flatten.mpr ⟨results,inMessages,member⟩)
  rw [none] at blocked
  cases blocked

theorem applyAll_congr {apply other : Nat → PyStr → List RecognizerResult → Option TokenizationContext →
      Except PyException PyStr × Option TokenizationContext} {messages : List (PyStr × List RecognizerResult)} {i : Nat}
    {context : Option TokenizationContext}
    (same : ∀ i, ∀ m ∈ messages, ∀ context, other i m.1 m.2 context = apply i m.1 m.2 context) :
    applyAll other i messages context = applyAll apply i messages context := by
  induction messages generalizing i context with
  | nil => rfl
  | cons m rest ih =>
    have tail := fun i context => @ih i context fun i m member => same i m (List.mem_cons_of_mem _ member)
    simp only [applyAll,same i m List.mem_cons_self,tail]

theorem analyzeAll_congr {mediator other : MediatorCalls} (same : other.analyze = mediator.analyze) (i : Nat)
    (texts : List PyStr) : analyzeAll other i texts = analyzeAll mediator i texts := by
  induction texts generalizing i with
  | nil => rfl
  | cons text rest ih => rw [analyzeAll,analyzeAll,same,ih]

theorem redactAllMessages_congr {mediator other : MediatorCalls} (same : other.redactAll = mediator.redactAll) (i : Nat)
    (messages : List (ChatMessage × List RecognizerResult)) :
    redactAllMessages other i messages = redactAllMessages mediator i messages := by
  induction messages generalizing i with
  | nil => rfl
  | cons m rest ih => rw [redactAllMessages,redactAllMessages,same,ih]

section
variable (gateway : Gateway) (other : Nat → PyStr → List RecognizerResult → Option TokenizationContext →
  Except PyException PyStr × Option TokenizationContext)

theorem detect_withApply (texts : List PyStr) : detect (withApply gateway other) texts = detect gateway texts := by
  have analyzes : analyzeAll (withApply gateway other).mediator 0 texts = analyzeAll gateway.mediator 0 texts := by
    refine analyzeAll_congr ?_ 0 texts
    rfl
  rw [detect,analyzes]
  rfl

theorem redactedContent_withApply (body : ChatCompletionRequest) (perMessage : List (List RecognizerResult)) :
    redactedContent (withApply gateway other) body perMessage = redactedContent gateway body perMessage := by
  have redacts : redactAllMessages (withApply gateway other).mediator 0 (body.messages.zip perMessage) =
      redactAllMessages gateway.mediator 0 (body.messages.zip perMessage) := by
    refine redactAllMessages_congr ?_ 0 _
    rfl
  rw [redactedContent,redacts]
  rfl

/-- Two gateways that differ in `apply` mediate alike where `apply` does the same. -/
theorem mediate_withApply (rt : Runtime) (chance : Chance) (body : ChatCompletionRequest) (ctx : TokenizationContext)
    (perMessage : List (List RecognizerResult)) (decisions : List PolicyDecision)
    (same : blockedEntityTypes decisions = [] → ∀ results ∈ perMessage, ∀ i text context,
      other i text results context = gateway.mediator.apply i text results context) :
    mediate rt (withApply gateway other) chance body ctx perMessage decisions =
      mediate rt gateway chance body ctx perMessage decisions := by
  simp only [mediate]
  by_cases unblocked : blockedEntityTypes decisions = []
  · rw [if_neg (by simpa using unblocked),if_neg (by simpa using unblocked),redactedContent_withApply]
    have applies := @applyAll_congr gateway.mediator.apply other
      ((body.messages.map ChatMessage.content).zip perMessage) 0 (some ctx)
      fun i m member context => same unblocked m.2 (List.of_mem_zip member).2 i m.1 context
    have replaced : (withApply gateway other).mediator.apply = other := rfl
    rw [replaced,applies]
    rfl
  · rw [if_pos (by simpa using unblocked),if_pos (by simpa using unblocked)]
    rfl

end

theorem detect_ok {gateway : Gateway} {texts : List PyStr} {perMessage : List (List RecognizerResult)}
    {decisions : List PolicyDecision} (detected : detect gateway texts = .ok (perMessage,decisions)) :
    analyzeAll gateway.mediator 0 texts = .ok perMessage ∧
      gateway.buildDecisions (detections perMessage) gateway.mediator.policy = .ok decisions := by
  rw [detect] at detected
  cases analyzed : analyzeAll gateway.mediator 0 texts with
  | error e => simp [analyzed,Except.bind] at detected
  | ok found =>
    cases summarized : gateway.buildDecisions (detections found) gateway.mediator.policy with
    | error e => simp [analyzed,summarized,Except.bind,Except.map] at detected
    | ok summary =>
      simp only [analyzed,summarized,Except.bind,Except.map,Except.ok.injEq,Prod.mk.injEq] at detected
      obtain ⟨rfl,rfl⟩ := detected
      exact ⟨rfl,summarized⟩

section
variable (rt : Runtime) (settings : Settings) (mediator : PIIMediator) (append : Json → Except PyException Int)
variable (chat : ProviderCall → Except PyException ProviderResponse) (course : Course) (chance : Chance)
variable (body : ChatCompletionRequest)

theorem detect_taking {perMessage : List (List RecognizerResult)} {decisions : List PolicyDecision} {texts : List PyStr}
    (detected : detect (taking (createApp settings mediator append chat) course) texts = .ok (perMessage,decisions)) :
    analyzeAll (taking (createApp settings mediator append chat) course).mediator 0 texts = .ok perMessage ∧
      decisions = buildDecisions (detections perMessage) mediator.policy := by
  obtain ⟨analyzed,summarized⟩ := detect_ok detected
  refine ⟨analyzed,?_⟩
  cases fault : course.buildDecisionsFault with
  | some e => simp [taking,fault] at summarized
  | none =>
    simp only [taking,fault,createApp,mediatorCalls,Except.ok.injEq] at summarized
    exact summarized.symm

/-- Whatever `apply` would do with a detection that the policy blocks, the request goes
    the same way. -/
theorem guard_unreached {other : Nat → PyStr → List RecognizerResult → Option TokenizationContext →
      Except PyException PyStr × Option TokenizationContext}
    (same : ∀ i text results context, Unblocked mediator.policy results →
      other i text results context =
        (taking (createApp settings mediator append chat) course).mediator.apply i text results context) :
    serve rt (withApply (taking (createApp settings mediator append chat) course) other) chance body =
      serve rt (taking (createApp settings mediator append chat) course) chance body := by
  refine congrArg clearRequestTokenContext ?_
  simp only [chatCompletions]
  cases TokenizationContext.create chance.draws _ with
  | error e => rfl
  | ok ctx =>
    simp only [detect_withApply]
    cases detected : detect (taking (createApp settings mediator append chat) course)
        (body.messages.map ChatMessage.content) with
    | error e => rfl
    | ok found =>
      obtain ⟨perMessage,decisions⟩ := found
      obtain ⟨_,rfl⟩ := detect_taking settings mediator append chat course detected
      refine mediate_withApply _ other rt chance body ctx perMessage _ fun unblocked results member i text context => ?_
      exact same i text results context (unblocked_of_decisions unblocked results member)

end

/-- The provider is called at most once, and only with what `apply` made of every message,
    none of which holds a blocked detection; the record says that the provider was not
    contacted just when it was not; and the guard of `apply` is never reached. -/
theorem fail_closed (rt : Runtime) (settings : Settings) (mediator : PIIMediator) (append : Json → Except PyException Int)
    (chat : ProviderCall → Except PyException ProviderResponse) (course : Course) (chance : Chance)
    (body : ChatCompletionRequest) :
    let gateway := taking (createApp settings mediator append chat) course
    let exchange := serve rt gateway chance body
    (exchange.calls = [] ∨ ∃ ctx call, exchange.calls = [call] ∧
      SanitizedAll gateway.mediator 0 (some ctx) body.messages call.messages ∧
      call.messages.map ChatMessage.role = body.messages.map ChatMessage.role) ∧
    (∀ payload ∈ exchange.appends, StoppedBefore payload ↔ exchange.calls = []) ∧
    (∀ other, (∀ i text results context, Unblocked mediator.policy results →
        other i text results context = gateway.mediator.apply i text results context) →
      serve rt (withApply gateway other) chance body = exchange) ∧
    ∀ scanner, gateway.responseMediator = some scanner → ∀ entityType, scanner.policy.lookup entityType ≠ some .block := by
  intro gateway exchange
  have scanners : ∀ scanner, gateway.responseMediator = some scanner →
      ∀ entityType, scanner.policy.lookup entityType ≠ some .block := by
    intro scanner scanning entityType
    have made : (if settings.responseScanEnabled then
        some (mediatorCalls (cloneWithPolicy mediator (responsePolicy mediator.policy))) else none) = some scanner := scanning
    split_ifs at made
    cases made
    exact responsePolicy_unblocked _ _
  have guarded := fun other same => @guard_unreached rt settings mediator append chat course chance body other same
  obtain ⟨path,named,way,goes⟩ := chat_path rt gateway chance body
  have went : exchange = clearRequestTokenContext (path.exchange gateway) := congrArg clearRequestTokenContext (goes gateway.append)
  have calls : exchange.calls = path.calls := by
    rw [went]
    exact exchange_calls gateway path
  have records : ∀ payload ∈ exchange.appends, StoppedBefore payload ↔ exchange.calls = [] := by
    rw [calls,went]
    exact exchange_appends gateway named
  refine ⟨?_,records,guarded,scanners⟩
  rw [calls]
  rcases way with uncalled | ⟨ctx,perMessage,decisions,contents,context,mediation,called⟩
  · exact .inl uncalled
  · obtain ⟨analyzed,rfl⟩ := detect_taking settings mediator append chat course mediation.detected
    have all := sanitizedAll_of_ok analyzed (unblocked_of_decisions mediation.unblocked) mediation.applied
    exact .inr ⟨ctx,_,called,all,all.roles⟩

end PrivacyGateway.FailClosed
