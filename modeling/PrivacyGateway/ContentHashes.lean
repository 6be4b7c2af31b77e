import PrivacyGateway.Requests

/-!
The hashes in a record. A record of a request that has reached the provider names the
SHA-256 of the messages that were sent and, when the provider has replied, of the contents
of its reply. Under a hash without collisions the record of whatever outcome commits to
exactly these: nobody can claim that other messages were sent or other contents received
(`hashes_bind`).
-/
namespace PrivacyGateway.ContentHashes
open PrivacyGateway.Strings PrivacyGateway.Errors PrivacyGateway.StdLib PrivacyGateway.JsonText
open PrivacyGateway.Decisions PrivacyGateway.Tokenization PrivacyGateway.Mediator PrivacyGateway.Handler
open PrivacyGateway.Outcomes PrivacyGateway.JsonCompact PrivacyGateway.Requests

/-- `[c.get("message", {}).get("content", "") for c in choices]` -/
def contentsJson (contents : List PyStr) : Json := .arr (contents.map .str)

section
variable {rt : Runtime}

/-- The hash of an array is that of its canonical text. -/
theorem sha256Canonical_arr {items : List Json} {hash : HexText} (made : sha256Canonical rt (.arr items) = .ok hash) :
    ∃ t, canonicalJson rt (.arr items) = str t ∧ hash = rt.sha256 t := by
  unfold sha256Canonical at made
  split at made
  · next t encoded =>
    cases made
    exact ⟨t,encodeUtf8_eq_some.mp encoded,rfl⟩
  · cases made

theorem encodable_of_hashed {items : List Json} {hash : HexText} (made : sha256Canonical rt (.arr items) = .ok hash) :
    ∀ s ∈ strings (.arr items), Utf8Encodable s := by
  obtain ⟨t,encoded,_⟩ := sha256Canonical_arr made
  rw [← encodable_dumps rt true]
  change Utf8Encodable (canonicalJson rt (.arr items))
  rw [encoded]
  exact encodable_str t

/-- Equal hashes are those of values that differ in nothing but the order of fields. -/
theorem arranged_of_hash (collisionFree : CollisionFree rt) {a b : List Json} {hash : HexText}
    (first : sha256Canonical rt (.arr a) = .ok hash) (second : sha256Canonical rt (.arr b) = .ok hash)
    (nested : WellNested 2 (.arr a) ∧ WellNested 2 (.arr b)) (plain : numbers (.arr a) = [] ∧ numbers (.arr b) = []) :
    arranged true (.arr a) = arranged true (.arr b) := by
  obtain ⟨t,encoded,rfl⟩ := sha256Canonical_arr first
  obtain ⟨u,encoded',same⟩ := sha256Canonical_arr second
  obtain rfl : t = u := collisionFree same
  have reads : ∀ {items : List Json}, numbers (.arr items) = [] →
      ∀ n ∈ numbers (.arr items), Readable (fun _ => .nan) rt 0 n := by
    intro items none n inside
    rw [none] at inside
    cases inside
  exact (canonicalJson_eq_iff (readable_of nested.1 (encodable_of_hashed first) (reads plain.1))
    (readable_of nested.2 (encodable_of_hashed second) (reads plain.2))).mp (encoded.trans encoded'.symm)

theorem messages_plain (messages : List ChatMessage) : numbers (messagesJson messages) = [] := by
  rw [messagesJson,numbers]
  induction messages with
  | nil => rfl
  | cons m rest ih =>
    rw [List.map_cons,numbersItems,ih]
    rfl

theorem contents_plain (contents : List PyStr) : numbers (contentsJson contents) = [] := by
  rw [contentsJson,numbers]
  induction contents with
  | nil => rfl
  | cons s rest ih =>
    rw [List.map_cons,numbersItems,ih]
    rfl

theorem role_injective : Function.Injective Role.value := by
  intro a b same
  cases a <;> cases b <;> first | rfl | exact absurd same (by decide)

/-- The messages can be told from what their hash is made of. -/
theorem messages_of_arranged {messages others : List ChatMessage}
    (same : arranged true (messagesJson messages) = arranged true (messagesJson others)) : messages = others := by
  have form : ∀ messages, arranged true (messagesJson messages) = .arr (messages.map fun m =>
      .obj [field "content" (.str m.content),field "role" (.str m.role.value)]) := by
    intro messages
    rw [messagesJson,arranged,arrangedItems_eq_map,List.map_map]
    rfl
  rw [form,form,Json.arr.injEq] at same
  refine (List.map_injective_iff.mpr ?_) same
  intro m n equal
  simp only [field,Json.obj.injEq,List.cons.injEq,Prod.mk.injEq,Json.str.injEq,true_and,and_true] at equal
  cases m
  cases n
  exact (ChatMessage.mk.injEq ..).mpr ⟨role_injective equal.2,equal.1⟩

theorem contents_of_arranged {contents others : List PyStr}
    (same : arranged true (contentsJson contents) = arranged true (contentsJson others)) : contents = others := by
  have form : ∀ contents, arranged true (contentsJson contents) = contentsJson contents := by
    intro contents
    rw [contentsJson,arranged,arrangedItems_eq_map,List.map_map]
    rfl
  rw [form,form,contentsJson,contentsJson,Json.arr.injEq] at same
  exact (List.map_injective_iff.mpr fun _ _ equal => Json.str.inj equal) same

end

section
variable {rt : Runtime} {gateway : Gateway} {chance : Chance} {body : ChatCompletionRequest}

/-- Under the key the payload names the hash. -/
def Names (key : String) (payload : Json) (hash : HexText) : Prop := recorded key payload = some (.str (str hash.text))

/-- The payload names the hash of what the provider has answered to the call, if it has. -/
def NamesReply (rt : Runtime) (gateway : Gateway) (call : ProviderCall) (payload : Json) : Prop :=
  match gateway.chat call with
  | .ok response => ∃ hash, sha256Canonical rt (contentsJson (response.choices.map Choice.content)) = .ok hash ∧
      Names "response_hash" payload hash
  | .error _ => recorded "response_hash" payload = none

/-- Every record beside a call names the hashes of what was sent and of what came back. -/
def Hashed (rt : Runtime) (gateway : Gateway) (exchange : Exchange) : Prop :=
  ∀ call ∈ exchange.calls, ∀ payload ∈ exchange.appends,
    (∃ hash, sha256Canonical rt (messagesJson call.messages) = .ok hash ∧ Names "prompt_hash" payload hash) ∧
      NamesReply rt gateway call payload

theorem hashed_uncalled {exchange : Exchange} (none : exchange.calls = []) : Hashed rt gateway exchange := by
  intro call inside
  rw [none] at inside
  cases inside

theorem hashed_unrecorded {exchange : Exchange} (none : exchange.appends = []) : Hashed rt gateway exchange := by
  intro call _ payload inside
  rw [none] at inside
  cases inside

/-- An exchange of one call and one record. -/
theorem hashed_pair {exchange : Exchange} {call : ProviderCall} {payload : Json} {promptHash : HexText}
    (calls : exchange.calls = [call]) (appends : exchange.appends = [payload])
    (prompt : sha256Canonical rt (messagesJson call.messages) = .ok promptHash)
    (named : Names "prompt_hash" payload promptHash) (replied : NamesReply rt gateway call payload) :
    Hashed rt gateway exchange := by
  intro call' called payload' appended
  rw [calls] at called
  rw [appends] at appended
  rw [List.mem_singleton.mp called,List.mem_singleton.mp appended]
  exact ⟨⟨promptHash,prompt,named⟩,replied⟩

theorem respond_hashed {call : ProviderCall} (context : Option TokenizationContext) (decisions : List PolicyDecision)
    {promptHash : HexText} (prompt : sha256Canonical rt (messagesJson call.messages) = .ok promptHash)
    (redacted : Except PyException (Option (List ChatMessage))) {response : ProviderResponse}
    (replied : gateway.chat call = .ok response) :
    Hashed rt gateway (respond rt gateway chance body call context decisions promptHash redacted response) := by
  unfold respond
  cases hashed : sha256Canonical rt (.arr (response.choices.map fun c => .str c.content)) with
  | error e => exact hashed_unrecorded rfl
  | ok responseHash =>
    have contents : sha256Canonical rt (contentsJson (response.choices.map Choice.content)) = .ok responseHash := by
      rw [contentsJson,List.map_map]
      exact hashed
    have names : ∀ {payload : Json}, Names "response_hash" payload responseHash → NamesReply rt gateway call payload := by
      intro payload named
      rw [NamesReply,replied]
      exact ⟨responseHash,contents,named⟩
    simp only
    cases scanned gateway response with
    | error e =>
      exact hashed_pair rfl rfl prompt rfl (names rfl)
    | ok result =>
      simp only [finish]
      cases redacted with
      | error e => exact hashed_unrecorded rfl
      | ok messages =>
        simp only
        split
        · exact hashed_pair rfl rfl prompt rfl (names rfl)
        · exact hashed_pair rfl rfl prompt rfl (names rfl)

theorem contact_hashed (context : Option TokenizationContext) (decisions : List PolicyDecision)
    (sanitized : List ChatMessage) (redacted : Except PyException (Option (List ChatMessage))) :
    Hashed rt gateway (contact rt gateway chance body context decisions sanitized redacted) := by
  unfold contact
  cases prompt : sha256Canonical rt (messagesJson sanitized) with
  | error e => exact hashed_uncalled rfl
  | ok promptHash =>
    simp only
    generalize same : (⟨body.model,sanitized,body.temperature,body.maxTokens⟩ : ProviderCall) = call
    have sent : sha256Canonical rt (messagesJson call.messages) = .ok promptHash := by rw [← same]; exact prompt
    cases replied : gateway.chat call with
    | ok response => exact respond_hashed context decisions sent redacted replied
    | error e =>
      have refused : ∀ (status : Nat) (code : ErrorCode) (error : GatewayError), Hashed rt gateway
          (refuse gateway [call] context
            (providerErrorPayload gateway chance body status code decisions promptHash) error) := by
        intro status code error
        refine hashed_pair rfl rfl sent rfl ?_
        rw [NamesReply,replied]
        rfl
      cases e with
      | gateway error => exact refused _ _ _
      | _ => exact refused _ _ _

/-- Whatever becomes of a request. -/
theorem chat_hashed : Hashed rt gateway (chatCompletions rt gateway chance body) := by
  unfold chatCompletions
  simp only
  cases TokenizationContext.create chance.draws _ with
  | error e => exact hashed_uncalled rfl
  | ok ctx =>
    simp only
    cases detect gateway _ with
    | error e => exact hashed_uncalled rfl
    | ok found =>
      simp only [mediate]
      split
      · exact hashed_uncalled rfl
      · generalize applyAll gateway.mediator.apply 0 _ _ = sanitizing
        obtain ⟨outcome,context⟩ := sanitizing
        cases outcome with
        | error e => exact hashed_uncalled rfl
        | ok contents => exact contact_hashed _ _ _ _

theorem names_iff {key : String} {payload : Json} {hash other : HexText} (names : Names key payload hash) :
    Names key payload other ↔ other = hash := by
  constructor
  · intro also
    rw [Names,names,Option.some_inj,Json.str.injEq] at also
    exact HexText.ext (str_inj.mp also).symm
  · rintro rfl
    exact names

end

/-- Of hashes, the payload names just that of the messages that were sent, and just that of the
    contents that came back; when nothing came back it says so. -/
def CommitsTo (rt : Runtime) (payload : Json) (call : ProviderCall) (outcome : Except PyException ProviderResponse) : Prop :=
  (∀ messages hash, sha256Canonical rt (messagesJson messages) = .ok hash →
    (Names "prompt_hash" payload hash ↔ messages = call.messages)) ∧
  (∀ response, outcome = .ok response → ∀ contents hash, sha256Canonical rt (contentsJson contents) = .ok hash →
    (Names "response_hash" payload hash ↔ contents = response.choices.map Choice.content)) ∧
  ∀ e, outcome = .error e → recorded "response_hash" payload = none

theorem Hashed.commits {rt : Runtime} (collisionFree : CollisionFree rt) {gateway : Gateway} {exchange : Exchange}
    (hashed : Hashed rt gateway exchange) {call : ProviderCall} (called : call ∈ exchange.calls) {payload : Json}
    (appended : payload ∈ exchange.appends) : CommitsTo rt payload call (gateway.chat call) := by
  obtain ⟨⟨promptHash,prompt,named⟩,replied⟩ := hashed call called payload appended
  refine ⟨fun messages hash made => ?_,fun response came contents hash made => ?_,fun e failed => ?_⟩
  · rw [names_iff named]
    constructor
    · rintro rfl
      exact messages_of_arranged (arranged_of_hash collisionFree made prompt
        ⟨messages_nested messages,messages_nested call.messages⟩ ⟨messages_plain messages,messages_plain call.messages⟩)
    · rintro rfl
      exact Except.ok.inj (made.symm.trans prompt)
  · rw [NamesReply,came] at replied
    obtain ⟨responseHash,response,named⟩ := replied
    rw [names_iff named]
    have leaves : ∀ contents, WellNested 2 (contentsJson contents) := by
      intro contents item inside
      obtain ⟨s,_,rfl⟩ := List.mem_map.mp inside
      exact wellNested_str
    constructor
    · rintro rfl
      exact contents_of_arranged (arranged_of_hash collisionFree made response ⟨leaves contents,leaves _⟩
        ⟨contents_plain contents,contents_plain _⟩)
    · rintro rfl
      exact Except.ok.inj (made.symm.trans response)
  · rw [NamesReply,failed] at replied
    exact replied

/-- A record beside a provider call commits to the messages that were sent and to the contents
    that came back, and when nothing came back it says so. -/
theorem hashes_bind (rt : Runtime) (collisionFree : CollisionFree rt) (gateway : Gateway) (chance : Chance)
    (body : ChatCompletionRequest) (call : ProviderCall) (called : call ∈ (serve rt gateway chance body).calls)
    (payload : Json) (appended : payload ∈ (serve rt gateway chance body).appends) :
    (∀ messages hash, sha256Canonical rt (messagesJson messages) = .ok hash →
      (Names "prompt_hash" payload hash ↔ messages = call.messages)) ∧
    (∀ response, gateway.chat call = .ok response → ∀ contents hash, sha256Canonical rt (contentsJson contents) = .ok hash →
      (Names "response_hash" payload hash ↔ contents = response.choices.map Choice.content)) ∧
    ∀ e, gateway.chat call = .error e → recorded "response_hash" payload = none := by
  have hashed : Hashed rt gateway (chatCompletions rt gateway chance body) := chat_hashed
  exact hashed.commits collisionFree called appended

def greetingRuntime : Runtime := plainRuntime [(promptText,promptDigest),(replyText,replyDigest)] []

theorem hashes_bind_greeting :
    ∃ payload, (serve greetingRuntime (replyingGateway (lit "hello")) plainChance greeting).appends = [payload] ∧
      Names "prompt_hash" payload promptDigest ∧
      ∀ messages, sha256Canonical greetingRuntime (messagesJson messages) = .ok promptDigest →
        messages = [⟨.user,lit "hi"⟩] := by
  have collisionFree : CollisionFree greetingRuntime := plainRuntime_collisionFree (by decide +kernel) (by decide +kernel)
  let payload := chatCompletionPayload (replyingGateway (lit "hello")) plainChance greeting [] promptDigest replyDigest false
    none
  have appended : (serve greetingRuntime (replyingGateway (lit "hello")) plainChance greeting).appends = [payload] := rfl
  have called : (serve greetingRuntime (replyingGateway (lit "hello")) plainChance greeting).calls =
      [⟨lit "m",[⟨.user,lit "hi"⟩],none,none⟩] := rfl
  obtain ⟨prompt,_⟩ := hashes_bind greetingRuntime collisionFree (replyingGateway (lit "hello")) plainChance greeting _
    (called ▸ List.mem_singleton_self _) payload (appended ▸ List.mem_singleton_self _)
  exact ⟨payload,appended,rfl,fun messages made => (prompt messages promptDigest made).mp rfl⟩

end PrivacyGateway.ContentHashes
