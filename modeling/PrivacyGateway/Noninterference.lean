import PrivacyGateway.Handler

/-!
Two requests that differ only inside the spans the policy mediates or blocks.
Their messages have the same gaps and, position by position, detections of the
same type and score; which TOKENIZE spans hold the same value is the same too.
Minting is then in step in the two contexts (`Paired`), both requests are sanitized
to the same text, and the provider and the audit log see the same of both
(`chat_noninterference`).
-/
namespace PrivacyGateway.Noninterference
open PrivacyGateway.Strings PrivacyGateway.Errors PrivacyGateway.StdLib PrivacyGateway.JsonText
open PrivacyGateway.Separated PrivacyGateway.Spans PrivacyGateway.Decisions PrivacyGateway.Tokenization
open PrivacyGateway.Mediator PrivacyGateway.Handler

/-- A message with its detections. -/
abbrev Finding := ChatMessage × List RecognizerResult

/-- The policy mediates or blocks the type. -/
def sensitive (policy : Policy) (r : RecognizerResult) : Bool :=
  mediated policy r || policy.lookup r.entityType = some .block

def tokenized (policy : Policy) (r : RecognizerResult) : Bool := policy.lookup r.entityType = some .tokenize

/-- Type, score and, unless the span is sensitive, content agree. -/
structure SameDetection (policy : Policy) (text other : PyStr) (a b : RecognizerResult) : Prop where
  type : a.entityType = b.entityType
  score : a.score = b.score
  plain : sensitive policy a = false → slice text a.start a.stop = slice other b.start b.stop

/-- The messages agree in everything but the content of sensitive spans. -/
structure SameMessage (policy : Policy) (m m' : Finding) : Prop where
  role : m.1.role = m'.1.role
  separate : Separate m.1.content.length m.2
  separate' : Separate m'.1.content.length m'.2
  detections : List.Forall₂ (SameDetection policy m.1.content m'.1.content) (arranged m.2) (arranged m'.2)
  outside : gaps m.1.content 0 (arranged m.2) = gaps m'.1.content 0 (arranged m'.2)

/-- A span as `token_for` is asked for it: its entity type and the text it covers. -/
def tokenKey (text : PyStr) (r : RecognizerResult) : PyStr × PyStr := (r.entityType,slice text r.start r.stop)

/-- The TOKENIZE spans of a message, in order of position. -/
def tokenKeys (policy : Policy) (m : Finding) : List (PyStr × PyStr) :=
  ((arranged m.2).filter (tokenized policy)).map (tokenKey m.1.content)

/-- The same positions of both lists hold equal entries. -/
def SamePattern (keys keys' : List (PyStr × PyStr)) : Prop :=
  ∀ p ∈ keys.zip keys', ∀ q ∈ keys.zip keys', p.1 = q.1 ↔ p.2 = q.2

/-- Both analyses raise, or they succeed on messages that agree. -/
def SameFindings (policy : Policy) (messages messages' : List ChatMessage)
    (analysis analysis' : Except PyException (List (List RecognizerResult))) : Prop :=
  match analysis,analysis' with
  | .ok found,.ok found' =>
    List.Forall₂ (SameMessage policy) (messages.zip found) (messages'.zip found') ∧
      SamePattern ((messages.zip found).flatMap (tokenKeys policy)) ((messages'.zip found').flatMap (tokenKeys policy))
  | .error _,.error _ => True
  | _,_ => False

/-- The requests agree in everything but the values inside their sensitive spans, and
    they draw the same namespace. -/
structure SameRequest (mediator : PIIMediator) (first second : ChatCompletionRequest) (draws draws' : Nat → Namespace) :
    Prop where
  model : first.model = second.model
  temperature : first.temperature = second.temperature
  maxTokens : first.maxTokens = second.maxTokens
  rehydrate : first.rehydrate = second.rehydrate
  ns : TokenizationContext.create draws (joined (.scalar '\n') (first.messages.map ChatMessage.content)) =
    TokenizationContext.create draws' (joined (.scalar '\n') (second.messages.map ChatMessage.content))
  findings : SameFindings mediator.policy first.messages second.messages
    (analyzeAll (mediatorCalls mediator) 0 (first.messages.map ChatMessage.content))
    (analyzeAll (mediatorCalls mediator) 0 (second.messages.map ChatMessage.content))

theorem tokenized_congr {policy : Policy} {a b : RecognizerResult} (type : a.entityType = b.entityType) :
    tokenized policy a = tokenized policy b := by
  rw [tokenized,tokenized,type]

theorem mediated_congr {policy : Policy} {a b : RecognizerResult} (type : a.entityType = b.entityType) :
    mediated policy a = mediated policy b := by
  rw [mediated,mediated,type]

/-! ### Minting in two contexts -/

/-- The contexts are in step on the paired keys. -/
structure Paired (pairs : List ((PyStr × PyStr) × (PyStr × PyStr))) (ctx ctx' : TokenizationContext) : Prop where
  ns : ctx.ns = ctx'.ns
  counters : ctx.counters = ctx'.counters
  tokens : ∀ p ∈ pairs, ctx.valueToToken.lookup p.1 = ctx'.valueToToken.lookup p.2

section
variable {policy : Policy} {pairs : List ((PyStr × PyStr) × (PyStr × PyStr))}

theorem tokenFor_paired (pattern : ∀ p ∈ pairs, ∀ q ∈ pairs, p.1 = q.1 ↔ p.2 = q.2) {ctx ctx' : TokenizationContext}
    (paired : Paired pairs ctx ctx') {type value value' : PyStr} (member : ((type,value),(type,value')) ∈ pairs) :
    (ctx.tokenFor type value).1 = (ctx'.tokenFor type value').1 ∧
      Paired pairs (ctx.tokenFor type value).2 (ctx'.tokenFor type value').2 := by
  have looked : ctx.valueToToken.lookup (type,value) = ctx'.valueToToken.lookup (type,value') :=
    paired.tokens _ member
  unfold TokenizationContext.tokenFor
  rw [← looked,← paired.ns,← paired.counters]
  cases ctx.valueToToken.lookup (type,value) with
  | some token => exact ⟨rfl,paired⟩
  | none =>
    refine ⟨rfl,Paired.mk (by rfl) (by rfl) ?_⟩
    intro p other
    simp only
    -- The new key is met in one context just when it is met in the other.
    by_cases same : p.1 = (type,value)
    · have same' : p.2 = (type,value') := (pattern p other _ member).mp same
      rw [same,same',AList.lookup_insert,AList.lookup_insert]
    · have same' : p.2 ≠ (type,value') := mt (pattern p other _ member).mpr same
      rw [AList.lookup_insert_ne same,AList.lookup_insert_ne same']
      exact paired.tokens p other

/-- Spans of one type whose keys are paired if they are tokenized. -/
def Keyed (policy : Policy) (pairs : List ((PyStr × PyStr) × (PyStr × PyStr))) (text other : PyStr)
    (a b : RecognizerResult) : Prop :=
  a.entityType = b.entityType ∧ (tokenized policy a = true → (tokenKey text a,tokenKey other b) ∈ pairs)

theorem keyed_of_same {text other : PyStr} {spans spans' : List RecognizerResult}
    (same : List.Forall₂ (SameDetection policy text other) spans spans')
    (inPairs : ∀ p ∈ ((spans.filter (tokenized policy)).map (tokenKey text)).zip
      ((spans'.filter (tokenized policy)).map (tokenKey other)), p ∈ pairs) :
    List.Forall₂ (Keyed policy pairs text other) spans spans' := by
  induction same with
  | nil => exact .nil
  | @cons a b rest rest' here _ ih =>
    have sameKind : tokenized policy a = tokenized policy b := tokenized_congr here.type
    by_cases token : tokenized policy a = true
    · rw [List.filter_cons_of_pos token,List.filter_cons_of_pos (sameKind ▸ token)] at inPairs
      exact .cons ⟨here.type,fun _ => inPairs _ List.mem_cons_self⟩
        (ih fun p member => inPairs p (List.mem_cons_of_mem _ member))
    · rw [List.filter_cons_of_neg token,List.filter_cons_of_neg (sameKind ▸ token)] at inPairs
      exact .cons ⟨here.type,fun yes => absurd yes token⟩ (ih inPairs)

theorem mint_paired (pattern : ∀ p ∈ pairs, ∀ q ∈ pairs, p.1 = q.1 ↔ p.2 = q.2) {text other : PyStr}
    {calls calls' : List RecognizerResult} (keyed : List.Forall₂ (Keyed policy pairs text other) calls calls')
    {ctx ctx' : TokenizationContext} (paired : Paired pairs ctx ctx') :
    (mint policy text calls ctx).1.map Prod.snd = (mint policy other calls' ctx').1.map Prod.snd ∧
      Paired pairs (mint policy text calls ctx).2 (mint policy other calls' ctx').2 := by
  induction keyed generalizing ctx ctx' with
  | nil => exact ⟨rfl,paired⟩
  | @cons a b rest rest' here _ ih =>
    obtain ⟨type,inPairs⟩ := here
    have step : (substitute policy a (slice text a.start a.stop) ctx).1 =
          (substitute policy b (slice other b.start b.stop) ctx').1 ∧
        Paired pairs (substitute policy a (slice text a.start a.stop) ctx).2
          (substitute policy b (slice other b.start b.stop) ctx').2 := by
      unfold substitute
      rw [← type]
      by_cases token : policy.lookup a.entityType = some .tokenize
      · have member := inPairs (decide_eq_true token)
        rw [tokenKey,tokenKey,← type] at member
        rw [if_pos token,if_pos token]
        exact tokenFor_paired pattern paired member
      · rw [if_neg token,if_neg token]
        exact ⟨rfl,paired⟩
    obtain ⟨outs,last⟩ := ih step.2
    exact ⟨by rw [mint,mint,List.map_cons,List.map_cons,outs,step.1],last⟩

theorem SameMessage.types {m m' : Finding} (same : SameMessage policy m m') :
    (arranged m.2).map (fun r => (r.entityType,r.score)) = (arranged m'.2).map fun r => (r.entityType,r.score) := by
  rw [← List.forall₂_eq_eq_eq,List.forall₂_map_left_iff,List.forall₂_map_right_iff]
  exact same.detections.imp fun _ _ here => by rw [here.type,here.score]

private theorem tokenKeys_length {m m' : Finding} (same : SameMessage policy m m') :
    (tokenKeys policy m).length = (tokenKeys policy m').length := by
  have kinds : List.Forall₂ (SameDetection policy m.1.content m'.1.content)
      ((arranged m.2).filter (tokenized policy)) ((arranged m'.2).filter (tokenized policy)) :=
    List.rel_filter (fun a b here => Bool.eq_iff_iff.mp (tokenized_congr here.type)) same.detections
  simpa [tokenKeys] using kinds.length_eq

/-- `apply` gives both messages the same text. -/
theorem apply_same {mediator : PIIMediator} (rightToLeft : ReplacesRightToLeft mediator.anonymizer)
    (pattern : ∀ p ∈ pairs, ∀ q ∈ pairs, p.1 = q.1 ↔ p.2 = q.2) {m m' : Finding}
    (same : SameMessage mediator.policy m m') (unblocked : ∀ r ∈ m.2, mediator.policy.lookup r.entityType ≠ some .block)
    (unblocked' : ∀ r ∈ m'.2, mediator.policy.lookup r.entityType ≠ some .block)
    (inPairs : ∀ p ∈ (tokenKeys mediator.policy m).zip (tokenKeys mediator.policy m'), p ∈ pairs)
    {ctx ctx' : TokenizationContext} (paired : Paired pairs ctx ctx') :
    ∃ out after after', mediator.apply m.1.content m.2 (some ctx) = (.ok out,some after) ∧
      mediator.apply m'.1.content m'.2 (some ctx') = (.ok out,some after') ∧ Paired pairs after after' := by
  have keyed := keyed_of_same same.detections inPairs
  have chosen : List.Forall₂ (Keyed mediator.policy pairs m.1.content m'.1.content)
      (arranged (m.2.filter (mediated mediator.policy))).reverse
      (arranged (m'.2.filter (mediated mediator.policy))).reverse := by
    rw [← filter_arranged,← filter_arranged]
    exact List.rel_reverse (List.rel_filter (fun a b here => Bool.eq_iff_iff.mp (mediated_congr here.1)) keyed)
  obtain ⟨outs,after⟩ := mint_paired pattern chosen paired
  have outside : gaps m.1.content 0 (arranged (m.2.filter (mediated mediator.policy))) =
      gaps m'.1.content 0 (arranged (m'.2.filter (mediated mediator.policy))) := by
    rw [← filter_arranged,← filter_arranged]
    refine gaps_filter_congr _ (ladder_arranged same.separate) (ladder_arranged same.separate') ?_ same.outside
    have open' : ∀ r ∈ arranged m.2, mediator.policy.lookup r.entityType ≠ some .block :=
      fun r member => unblocked r (mem_arranged.mp member)
    have both := (List.forall₂_and_left _ _).mpr ⟨open',same.detections⟩
    refine both.imp fun a b here => ⟨mediated_congr here.2.type,?_⟩
    intro kept
    exact here.2.plain (by simp [sensitive,kept,here.1])
  refine ⟨_,_,_,apply_rightToLeft rightToLeft same.separate unblocked ctx,?_,after⟩
  rw [apply_rightToLeft rightToLeft same.separate' unblocked' ctx',splice_eq_weave,splice_eq_weave,List.map_reverse,
    List.map_reverse,List.map_reverse,List.map_reverse,mint_labels,mint_labels,List.reverse_reverse,
    List.reverse_reverse,outside,outs]

/-- The text and detections of each message, as sanitizing is given them. -/
def sources (findings : List Finding) : List (PyStr × List RecognizerResult) :=
  findings.map fun m => (m.1.content,m.2)

/-- Sanitizing gives both requests the same contents. -/
theorem applyAll_same {mediator : PIIMediator} (rightToLeft : ReplacesRightToLeft mediator.anonymizer)
    (pattern : ∀ p ∈ pairs, ∀ q ∈ pairs, p.1 = q.1 ↔ p.2 = q.2) {found found' : List Finding}
    (same : List.Forall₂ (SameMessage mediator.policy) found found')
    (unblocked : ∀ m ∈ found, ∀ r ∈ m.2, mediator.policy.lookup r.entityType ≠ some .block)
    (unblocked' : ∀ m ∈ found', ∀ r ∈ m.2, mediator.policy.lookup r.entityType ≠ some .block)
    (inPairs : ∀ p ∈ (found.flatMap (tokenKeys mediator.policy)).zip (found'.flatMap (tokenKeys mediator.policy)),
      p ∈ pairs) (i : Nat) {ctx ctx' : TokenizationContext} (paired : Paired pairs ctx ctx') :
    ∃ contents last last', applyAll (fun _ => mediator.apply) i (sources found) (some ctx) = (.ok contents,some last) ∧
      applyAll (fun _ => mediator.apply) i (sources found') (some ctx') = (.ok contents,some last') := by
  induction same generalizing i ctx ctx' with
  | nil => exact ⟨[],ctx,ctx',rfl,rfl⟩
  | @cons m m' rest rest' here _ ih =>
    rw [List.flatMap_cons,List.flatMap_cons,List.zip_append (tokenKeys_length here)] at inPairs
    obtain ⟨out,after,after',applied,applied',stepped⟩ := apply_same rightToLeft pattern here
      (unblocked m List.mem_cons_self) (unblocked' m' List.mem_cons_self)
      (fun p member => inPairs p (List.mem_append_left _ member)) paired
    obtain ⟨outs,last,last',ran,ran'⟩ := ih (fun n member => unblocked n (List.mem_cons_of_mem m member))
      (fun n member => unblocked' n (List.mem_cons_of_mem m' member))
      (fun p member => inPairs p (List.mem_append_right _ member)) (i + 1) stepped
    refine ⟨out :: outs,last,last',?_,?_⟩
    · simp only [sources] at ran
      simp only [sources,List.map_cons,applyAll,applied,ran]
    · simp only [sources] at ran'
      simp only [sources,List.map_cons,applyAll,applied',ran']

/-- Redacting everything gives both requests the same messages. -/
theorem redactAllMessages_same {mediator : PIIMediator} (rightToLeft : ReplacesRightToLeft mediator.anonymizer)
    {found found' : List Finding} (same : List.Forall₂ (SameMessage mediator.policy) found found') (i : Nat) :
    redactAllMessages (mediatorCalls mediator) i found = redactAllMessages (mediatorCalls mediator) i found' := by
  induction same generalizing i with
  | nil => rfl
  | @cons m m' rest rest' here _ ih =>
    have types := congrArg (List.map fun t : PyStr × Rat => redactionMarker t.1) here.types
    simp only [List.map_map,Function.comp_def] at types
    have redacted : mediator.redactAll m.1.content m.2 = mediator.redactAll m'.1.content m'.2 := by
      rw [redactAll_separate rightToLeft here.separate,redactAll_separate rightToLeft here.separate',splice_eq_weave,
        splice_eq_weave]
      simp only [List.map_map,Function.comp_def,List.map_id',types,here.outside]
    simp only [redactAllMessages,mediatorCalls,redacted,here.role]
    congr 1
    funext content
    exact congrArg _ (ih (i + 1))

/-- The detections of both requests are the same up to their order. -/
theorem detections_same {found found' : List Finding} (same : List.Forall₂ (SameMessage policy) found found') :
    (detections (found.map Prod.snd)).Perm (detections (found'.map Prod.snd)) := by
  induction same with
  | nil => exact .nil
  | @cons m m' rest rest' here _ ih =>
    have rearranged : ∀ n : Finding, (n.2.map fun r => (r.entityType,r.score)).Perm
        ((arranged n.2).map fun r => (r.entityType,r.score)) := fun n => ((arranged_perm n.2).map _).symm
    simp only [detections,List.map_cons,List.flatten_cons,List.map_append]
    exact (((rearranged m).trans (.of_eq here.types)).trans (rearranged m').symm).append ih

end

/-! ### The handler -/

/-- A payload without what is drawn or measured anew in each run. -/
def withoutRunData : Json → Json
  | .obj fields => .obj (fields.filter fun entry =>
      entry.1 ∉ [lit "request_id",lit "duration_ms",lit "provider_duration_ms"])
  | payload => payload

/-- Provider and audit log see the same of both exchanges. -/
def SameTrace (a b : Exchange) : Prop :=
  a.calls = b.calls ∧ a.appends.map withoutRunData = b.appends.map withoutRunData

section
variable {rt : Runtime} {gateway : Gateway} {chance chance' : Chance} {first second : ChatCompletionRequest}

theorem refuse_same {calls : List ProviderCall} {context context' : Option TokenizationContext} {payload payload' : Json}
    {error error' : GatewayError} (same : withoutRunData payload = withoutRunData payload') :
    SameTrace (refuse gateway calls context payload error) (refuse gateway calls context' payload' error') :=
  ⟨rfl,by simp only [refuse,List.map_cons,List.map_nil,same]⟩

/-- The payloads of both runs, whatever further fields they share. -/
theorem payload_same (model : first.model = second.model) {more more' : List (PyStr × Json)}
    (others : withoutRunData (.obj more) = withoutRunData (.obj more')) :
    withoutRunData (.obj (basePayload gateway chance first ++ more)) =
      withoutRunData (.obj (basePayload gateway chance' second ++ more')) := by
  have base : ∀ (c : Chance) (b : ChatCompletionRequest), (basePayload gateway c b).filter (fun entry =>
      entry.1 ∉ [lit "request_id",lit "duration_ms",lit "provider_duration_ms"]) =
        [field "schema" (.str (lit "privacy_gateway_audit")),field "provider" (.str gateway.provider),
          field "model" (.str b.model)] := fun _ _ => rfl
  simp only [withoutRunData,Json.obj.injEq] at others ⊢
  rw [List.filter_append,List.filter_append,base,base,others,model]

private theorem finish_same (model : first.model = second.model) (rehydrate : first.rehydrate = second.rehydrate)
    (call : ProviderCall) (context context' : Option TokenizationContext) (decisions : List PolicyDecision)
    (promptHash responseHash : HexText) (redacted : Except PyException (Option (List ChatMessage)))
    (response : ProviderResponse) (responseScanned : Bool) :
    SameTrace
      (finish rt gateway chance first call context decisions promptHash responseHash redacted response responseScanned)
      (finish rt gateway chance' second call context' decisions promptHash responseHash redacted response
        responseScanned) := by
  cases redacted with
  | error e => exact ⟨rfl,rfl⟩
  | ok messages =>
    have payloads : withoutRunData (chatCompletionPayload gateway chance first decisions promptHash responseHash
          responseScanned messages) =
        withoutRunData (chatCompletionPayload gateway chance' second decisions promptHash responseHash
          responseScanned messages) := by
      rw [chatCompletionPayload,chatCompletionPayload,List.append_assoc,List.append_assoc,List.append_assoc,
        List.append_assoc,rehydrate]
      exact payload_same model rfl
    -- Both runs append one payload, whether the append succeeds or not.
    have shape : ∀ (c : Chance) (b : ChatCompletionRequest) (ctx : Option TokenizationContext),
        (finish rt gateway c b call ctx decisions promptHash responseHash (.ok messages) response
            responseScanned).calls = [call] ∧
          (finish rt gateway c b call ctx decisions promptHash responseHash (.ok messages) response
            responseScanned).appends =
              [chatCompletionPayload gateway c b decisions promptHash responseHash responseScanned messages] := by
      intro c b ctx
      simp only [finish]
      split <;> exact ⟨rfl,rfl⟩
    rw [SameTrace,(shape ..).1,(shape ..).1,(shape ..).2,(shape ..).2,List.map_singleton,List.map_singleton,payloads]
    exact ⟨rfl,rfl⟩

private theorem respond_same (model : first.model = second.model) (rehydrate : first.rehydrate = second.rehydrate)
    (call : ProviderCall) (context context' : Option TokenizationContext) (decisions : List PolicyDecision)
    (promptHash : HexText) (redacted : Except PyException (Option (List ChatMessage))) (response : ProviderResponse) :
    SameTrace (respond rt gateway chance first call context decisions promptHash redacted response)
      (respond rt gateway chance' second call context' decisions promptHash redacted response) := by
  unfold respond
  cases sha256Canonical rt (.arr (response.choices.map fun c => .str c.content)) with
  | error e => exact ⟨rfl,rfl⟩
  | ok responseHash =>
    simp only
    cases scanned gateway response with
    | ok result => exact finish_same model rehydrate ..
    | error e =>
      refine refuse_same ?_
      rw [responseScanFailurePayload,responseScanFailurePayload,List.append_assoc,List.append_assoc]
      exact payload_same model rfl

private theorem contact_same (model : first.model = second.model) (temperature : first.temperature = second.temperature)
    (maxTokens : first.maxTokens = second.maxTokens) (rehydrate : first.rehydrate = second.rehydrate)
    (context context' : Option TokenizationContext) (decisions : List PolicyDecision) (sanitized : List ChatMessage)
    (redacted : Except PyException (Option (List ChatMessage))) :
    SameTrace (contact rt gateway chance first context decisions sanitized redacted)
      (contact rt gateway chance' second context' decisions sanitized redacted) := by
  unfold contact
  rw [← model,← temperature,← maxTokens]
  cases sha256Canonical rt (messagesJson sanitized) with
  | error e => exact ⟨rfl,rfl⟩
  | ok promptHash =>
    have reported : ∀ status code, withoutRunData
          (providerErrorPayload gateway chance first status code decisions promptHash) =
        withoutRunData (providerErrorPayload gateway chance' second status code decisions promptHash) := by
      intro status code
      rw [providerErrorPayload,providerErrorPayload,List.append_assoc,List.append_assoc]
      exact payload_same model rfl
    simp only
    generalize gateway.chat _ = reply
    cases reply with
    | ok response => exact respond_same model rehydrate ..
    | error e =>
      cases e with
      | gateway error => exact refuse_same (reported _ _)
      | _ => exact refuse_same (reported _ _)

end

theorem analyzeAll_length {calls : MediatorCalls} {i : Nat} {texts : List PyStr} {found : List (List RecognizerResult)}
    (analyzed : analyzeAll calls i texts = .ok found) : found.length = texts.length := by
  induction texts generalizing i found with
  | nil => cases analyzed; rfl
  | cons text rest ih =>
    obtain ⟨results,more,rfl,_,others⟩ := analyzeAll_cons analyzed
    rw [List.length_cons,List.length_cons,ih others]

theorem sources_zip (messages : List ChatMessage) (found : List (List RecognizerResult)) :
    (messages.map ChatMessage.content).zip found = sources (messages.zip found) := by
  rw [List.zip_map_left]
  rfl

/-- The roles of the messages go with their detections. -/
theorem roles_same {policy : Policy} {messages messages' : List ChatMessage} {found found' : List (List RecognizerResult)}
    (size : found.length = messages.length) (size' : found'.length = messages'.length)
    (agree : List.Forall₂ (SameMessage policy) (messages.zip found) (messages'.zip found')) :
    messages.map ChatMessage.role = messages'.map ChatMessage.role := by
  have roles : ((messages.zip found).map Prod.fst).map ChatMessage.role =
      ((messages'.zip found').map Prod.fst).map ChatMessage.role := by
    rw [List.map_map,List.map_map,← List.forall₂_eq_eq_eq,List.forall₂_map_left_iff,List.forall₂_map_right_iff]
    exact agree.imp fun _ _ here => here.role
  rwa [List.map_fst_zip size.ge,List.map_fst_zip size'.ge] at roles

section
variable {rt : Runtime} {settings : Settings} {mediator : PIIMediator} {append : Json → Except PyException Int}
variable {chat : ProviderCall → Except PyException ProviderResponse} {chance chance' : Chance}
variable {first second : ChatCompletionRequest}

private theorem mediate_same (rightToLeft : ReplacesRightToLeft mediator.anonymizer)
    (same : SameRequest mediator first second chance.draws chance'.draws) (ns : Namespace)
    {found found' : List (List RecognizerResult)} (size : found.length = first.messages.length)
    (size' : found'.length = second.messages.length)
    (agree : List.Forall₂ (SameMessage mediator.policy) (first.messages.zip found) (second.messages.zip found'))
    (pattern : SamePattern ((first.messages.zip found).flatMap (tokenKeys mediator.policy))
      ((second.messages.zip found').flatMap (tokenKeys mediator.policy))) :
    SameTrace
      (mediate rt (createApp settings mediator append chat) chance first (.fresh ns) found
        (buildDecisions (detections found) mediator.policy))
      (mediate rt (createApp settings mediator append chat) chance' second (.fresh ns) found'
        (buildDecisions (detections found') mediator.policy)) := by
  have spans : (first.messages.zip found).map Prod.snd = found := List.map_snd_zip size.le
  have spans' : (second.messages.zip found').map Prod.snd = found' := List.map_snd_zip size'.le
  have perm := detections_same agree
  rw [spans,spans'] at perm
  rw [← buildDecisions_perm perm mediator.policy]
  generalize decided : buildDecisions (detections found) mediator.policy = decisions
  unfold mediate
  by_cases blocked : blockedEntityTypes decisions ≠ []
  · simp only [if_pos blocked]
    refine refuse_same ?_
    rw [policyBlockedPayload,policyBlockedPayload,List.append_assoc,List.append_assoc]
    exact payload_same same.model rfl
  · simp only [if_neg blocked]
    -- Nothing is blocked, so no detection of either request has the action BLOCK.
    have unblocked : ∀ ds, buildDecisions (detections ds) mediator.policy = decisions → ∀ results ∈ ds, ∀ r ∈ results,
        mediator.policy.lookup r.entityType ≠ some .block := by
      intro ds made results inDs r inResults block
      have listed : r.entityType ∈ blockedEntityTypes decisions := by
        rw [← made,mem_blockedEntityTypes]
        exact ⟨block,r.score,List.mem_map_of_mem (List.mem_flatten.mpr ⟨results,inDs,inResults⟩)⟩
      rw [not_not.mp blocked] at listed
      cases listed
    have open₁ : ∀ m ∈ first.messages.zip found, ∀ r ∈ m.2, mediator.policy.lookup r.entityType ≠ some .block :=
      fun m member => unblocked found decided m.2 (spans ▸ List.mem_map_of_mem member)
    have open₂ : ∀ m ∈ second.messages.zip found', ∀ r ∈ m.2, mediator.policy.lookup r.entityType ≠ some .block :=
      fun m member => unblocked found' ((buildDecisions_perm perm mediator.policy).symm.trans decided) m.2
        (spans' ▸ List.mem_map_of_mem member)
    have paired : Paired (((first.messages.zip found).flatMap (tokenKeys mediator.policy)).zip
        ((second.messages.zip found').flatMap (tokenKeys mediator.policy))) (.fresh ns) (.fresh ns) :=
      ⟨rfl,rfl,fun _ _ => rfl⟩
    obtain ⟨contents,last,last',ran,ran'⟩ :=
      applyAll_same rightToLeft pattern agree open₁ open₂ (fun p member => member) 0 paired
    rw [sources_zip,sources_zip]
    have sanitized : List.zipWith (fun message content => (⟨message.role,content⟩ : ChatMessage)) first.messages contents =
        List.zipWith (fun message content => ⟨message.role,content⟩) second.messages contents := by
      have byRole : ∀ messages : List ChatMessage,
          List.zipWith (fun message content => (⟨message.role,content⟩ : ChatMessage)) messages contents =
            List.zipWith ChatMessage.mk (messages.map ChatMessage.role) contents :=
        fun messages => List.zipWith_map_left.symm
      rw [byRole,byRole,roles_same size size' agree]
    have stored : redactedContent (createApp settings mediator append chat) first found =
        redactedContent (createApp settings mediator append chat) second found' := by
      unfold redactedContent
      exact congrArg (fun messages => if settings.auditStoreRedactedContent then messages.map some else .ok none)
        (redactAllMessages_same rightToLeft agree 0)
    have start : (createApp settings mediator append chat).mediator.apply = fun _ => mediator.apply := rfl
    rw [start,ran,ran']
    simp only [sanitized,stored]
    exact contact_same same.model same.temperature same.maxTokens same.rehydrate ..

end

/-- The provider is called with the same messages, or not at all, and the audit
    payloads differ in the request id and the durations only. -/
theorem chat_noninterference (rt : Runtime) (settings : Settings) (mediator : PIIMediator)
    (rightToLeft : ReplacesRightToLeft mediator.anonymizer) (append : Json → Except PyException Int)
    (chat : ProviderCall → Except PyException ProviderResponse) (chance chance' : Chance)
    (first second : ChatCompletionRequest) (same : SameRequest mediator first second chance.draws chance'.draws) :
    SameTrace (serve rt (createApp settings mediator append chat) chance first)
      (serve rt (createApp settings mediator append chat) chance' second) := by
  have failure : ∀ context context', SameTrace
      (refuse (createApp settings mediator append chat) [] context
        (detectorFailurePayload (createApp settings mediator append chat) chance first) detectorFailureError)
      (refuse (createApp settings mediator append chat) [] context'
        (detectorFailurePayload (createApp settings mediator append chat) chance' second) detectorFailureError) :=
    fun _ _ => refuse_same (payload_same same.model rfl)
  have cleared : ∀ {a b : Exchange}, SameTrace a b → SameTrace (clearRequestTokenContext a) (clearRequestTokenContext b) :=
    id
  refine cleared ?_
  unfold chatCompletions
  simp only
  rw [← same.ns]
  cases created : TokenizationContext.create chance.draws _ with
  | error e => exact failure none none
  | ok ctx =>
    simp only [detect]
    have findings := same.findings
    have calls : (createApp settings mediator append chat).mediator = mediatorCalls mediator := rfl
    rw [calls]
    cases analyzed : analyzeAll (mediatorCalls mediator) 0 (first.messages.map ChatMessage.content) with
    | error e =>
      cases analyzed' : analyzeAll (mediatorCalls mediator) 0 (second.messages.map ChatMessage.content) with
      | error e' => exact failure _ _
      | ok found' => simp [SameFindings,analyzed,analyzed'] at findings
    | ok found =>
      cases analyzed' : analyzeAll (mediatorCalls mediator) 0 (second.messages.map ChatMessage.content) with
      | error e' => simp [SameFindings,analyzed,analyzed'] at findings
      | ok found' =>
        simp only [SameFindings,analyzed,analyzed'] at findings
        have size := analyzeAll_length analyzed
        have size' := analyzeAll_length analyzed'
        rw [List.length_map] at size size'
        rw [(create_fresh created).1]
        exact mediate_same rightToLeft same ctx.ns size size' findings.1 findings.2

/-- One user message. -/
def mail (content : String) : ChatCompletionRequest := ⟨lit "m",[⟨.user,lit content⟩],none,none,∅,true⟩

/-- A mediator that finds the address after `mail `. -/
def mailMediator : PIIMediator where
  policy := defaultPolicy
  detect _ text := .ok [⟨lit "EMAIL_ADDRESS",5,text.length,1⟩]
  anonymizer := plainAnonymizer

def mailChance (requestId : String) (durationMs : Rat) : Chance :=
  ⟨lit requestId,.finite durationMs,.finite durationMs,fun _ => sampleNamespace⟩

/-- A provider that echoes the last message. -/
def echo (call : ProviderCall) : Except PyException ProviderResponse :=
  .ok ⟨lit "r",call.model,call.messages.getLast?.toList.map fun m => ⟨0,m.content,lit "stop"⟩,0,0⟩

theorem chat_noninterference_mail :
    SameTrace
      (serve (plainRuntime [] []) (createApp ⟨lit "mock",true,true⟩ mailMediator (fun _ => .ok 1) echo)
        (mailChance "q" 3) (mail "mail a@b.c"))
      (serve (plainRuntime [] []) (createApp ⟨lit "mock",true,true⟩ mailMediator (fun _ => .ok 1) echo)
        (mailChance "r" 5) (mail "mail someone@example.org")) := by
  refine chat_noninterference _ _ mailMediator plainAnonymizer_replaces _ echo _ _ _ _ ⟨rfl,rfl,rfl,rfl,rfl,?_⟩
  refine ⟨.cons ⟨rfl,⟨by decide,by decide⟩,⟨by decide,by decide⟩,?_,by decide⟩ .nil,?_⟩
  · exact .cons ⟨rfl,rfl,by decide⟩ .nil
  · unfold SamePattern
    decide

end PrivacyGateway.Noninterference
