import PrivacyGateway.PolicyFile
import PrivacyGateway.Quotations
import PrivacyGateway.Statements

/-!
The start of the gateway from its settings. The settings must pass the rules of
`_enforce_security_rules`, the policy file must load, the audit key must be encodable, and
the engines and the audit database must come up (`start_eq_ok`). From then on the provider
is given of every message just what the policy file lets through (`started_governs`).
-/
namespace PrivacyGateway.Startup
open PrivacyGateway.Strings PrivacyGateway.Errors PrivacyGateway.StdLib PrivacyGateway.Raising PrivacyGateway.Spans
open PrivacyGateway.JsonText PrivacyGateway.Decisions PrivacyGateway.Tokenization PrivacyGateway.Mediator
open PrivacyGateway.RoundTrip PrivacyGateway.Handler PrivacyGateway.Paths PrivacyGateway.FailClosed PrivacyGateway.Outcomes PrivacyGateway.Adapters
open PrivacyGateway.CheckpointFile PrivacyGateway.ProviderClients PrivacyGateway.Quotations PrivacyGateway.PolicyFile
open PrivacyGateway.Sessions
open PrivacyGateway.Statements (Statement connect connect_on)

inductive AppEnv where
  | development | test | production
  deriving DecidableEq

/-- The `Settings` that `create_app` reads. -/
structure Configuration where
  appEnv : AppEnv
  providers : ProviderSettings
  auditHmacKey : PyStr
  auditDbPath : PyStr
  policyFile : PyStr
  responseScanEnabled : Bool
  auditStoreRedactedContent : Bool

/-- `INSECURE_DEV_KEY` -/
def insecureDevKey : PyStr := lit "insecure-dev-key-set-GATEWAY_AUDIT_HMAC_KEY"

/-- `MIN_HMAC_KEY_LENGTH` -/
def minHmacKeyLength : Nat := 32

/-- `_enforce_security_rules()` -/
def enforceSecurityRules (settings : Configuration) : Except PyException Configuration :=
  match settings.appEnv with
  | .development | .test =>
    .ok (if settings.auditHmacKey = [] then { settings with auditHmacKey := insecureDevKey } else settings)
  | .production =>
    if settings.auditHmacKey = [] then
      .error (.gateway (configurationError (lit "GATEWAY_AUDIT_HMAC_KEY is required when APP_ENV=production.")))
    else if settings.auditHmacKey = insecureDevKey then
      .error (.gateway (configurationError (lit "The insecure development HMAC key cannot be used in production.")))
    else if settings.auditHmacKey.length < minHmacKeyLength then
      .error (.gateway (configurationError (lit "GATEWAY_AUDIT_HMAC_KEY must be at least " ++
        (str (decimal minHmacKeyLength) ++ lit " characters in production."))))
    else if settings.providers.provider = .openai ∧ settings.providers.openaiApiKey = [] then
      .error (.gateway (configurationError (lit "OPENAI_API_KEY is required for the openai provider.")))
    else if settings.providers.provider = .anthropic ∧ settings.providers.anthropicApiKey = [] then
      .error (.gateway (configurationError (lit "ANTHROPIC_API_KEY is required for the anthropic provider.")))
    else .ok settings

/-- The UTF-8 encoding of a text. -/
def utf8 (t : Text) : List UInt8 := (String.ofList t).toByteArray.data.toList

/-- `audit_hmac_key_bytes` -/
def auditHmacKeyBytes (settings : Configuration) : Except PyException (List UInt8) :=
  match encodeUtf8 settings.auditHmacKey with
  | some t => .ok (utf8 t)
  | none => .error .unicodeEncodeError

/-- The value of a `Provider`. -/
def providerName : Provider → PyStr
  | .mock => lit "mock"
  | .openai => lit "openai"
  | .anthropic => lit "anthropic"

/-- What the gateway is made of beside its settings: the files, the engines of Presidio and what
    building them raises, the logger of a key, what a path that cannot be passed to SQLite and
    the statements on a database raise, and the network. -/
structure Surroundings where
  files : PyStr → StoredFile
  engineFault : Option PyException
  detect : List PyStr → PyStr → Except PyException (List RecognizerResult)
  anonymizer : Anonymizer
  append : List UInt8 → Json → Except PyException Int
  pathFault : PyStr → Option PyException
  faults : PyStr → Statement → Option SqliteError
  transport : HttpRequest → HttpOutcome

section
variable (py : Interpreter) (world : Surroundings) (settings : Configuration)

/-- The gateway of valid settings. -/
def gatewayOf (policy : Policy) (key : List UInt8) : Gateway :=
  createApp ⟨providerName settings.providers.provider,settings.auditStoreRedactedContent,settings.responseScanEnabled⟩
    ⟨policy,world.detect,world.anonymizer⟩ (world.append key) (buildClient py.rt py.reprStr settings.providers world.transport)

/-- `PIIMediator(policy)`, for what it raises. -/
def buildEngines : Except PyException Unit :=
  match world.engineFault with
  | some e => .error e
  | none => .ok ()

/-- `AuditLogger(db_path, hmac_key)`, which opens the database once. -/
def openDatabase (path : PyStr) : Except PyException Unit :=
  match world.pathFault path with
  | some e => .error e
  | none => ((connect (world.faults path)).on ⟨.empty,.empty⟩).1

/-- `create_app(Settings.load())` -/
def start : Except PyException Gateway := do
  let settings ← enforceSecurityRules settings
  let policy ← loadPolicy py (if settings.policyFile = [] then none else some (world.files settings.policyFile))
  buildEngines world
  let key ← auditHmacKeyBytes settings
  openDatabase world settings.auditDbPath
  return gatewayOf py world settings policy key

/-! ### When it starts -/

/-- What production demands of the keys. -/
structure Secured : Prop where
  own : settings.auditHmacKey ≠ insecureDevKey
  long : minHmacKeyLength ≤ settings.auditHmacKey.length
  openai : settings.providers.provider = .openai → settings.providers.openaiApiKey ≠ []
  anthropic : settings.providers.provider = .anthropic → settings.providers.anthropicApiKey ≠ []

/-- The key of the audit log: elsewhere than in production the public one when none is set. -/
def signingKey : PyStr :=
  if settings.appEnv ≠ .production ∧ settings.auditHmacKey = [] then insecureDevKey else settings.auditHmacKey

/-- The policy is the one of the file, or the default where no file is set. -/
def Configured (policy : Policy) : Prop :=
  if settings.policyFile = [] then policy = defaultPolicy
  else Holds py (world.files settings.policyFile) (.obj (policyItems policy))

/-- What `_connect` asks of SQLite. -/
def connecting : List Statement := [.connect,.pragma,.createTable,.createCommit]

/-- Engines and database come up. -/
structure Available : Prop where
  engines : world.engineFault = none
  path : world.pathFault settings.auditDbPath = none
  statements : ∀ s ∈ connecting, world.faults settings.auditDbPath s = none

/-- All that a start needs. -/
structure Startable : Prop where
  secured : settings.appEnv = .production → Secured settings
  configured : ∃ policy, Configured py world settings policy
  encodable : Utf8Encodable (signingKey settings)
  available : Available world settings

end

section
variable {py : Interpreter} {world : Surroundings} {settings : Configuration}

theorem enforce_eq_ok {valid : Configuration} :
    enforceSecurityRules settings = .ok valid ↔
      (settings.appEnv = .production → Secured settings) ∧ valid = { settings with auditHmacKey := signingKey settings } := by
  obtain ⟨env,providers,key,path,file,scan,stored⟩ := settings
  cases env with
  | production =>
    simp only [enforceSecurityRules,signingKey,true_implies,ne_eq,not_true_eq_false,false_and,if_false]
    split_ifs with unset insecure short openai anthropic
    · refine iff_of_false nofun fun both => ?_
      have long := both.1.long
      simp [unset,minHmacKeyLength] at long
    · exact iff_of_false nofun fun both => both.1.own insecure
    · exact iff_of_false nofun fun both => Nat.not_lt.mpr both.1.long short
    · exact iff_of_false nofun fun both => both.1.openai openai.1 openai.2
    · exact iff_of_false nofun fun both => both.1.anthropic anthropic.1 anthropic.2
    · have secured : Secured ⟨.production,providers,key,path,file,scan,stored⟩ :=
        ⟨insecure,Nat.le_of_not_lt short,fun chosen none => openai ⟨chosen,none⟩,fun chosen none => anthropic ⟨chosen,none⟩⟩
      rw [and_iff_right secured,Except.ok.injEq,eq_comm]
  | _ =>
    by_cases unset : key = []
    · simp [enforceSecurityRules,signingKey,unset,eq_comm]
    · simp [enforceSecurityRules,signingKey,unset,eq_comm]

theorem configured_iff {policy : Policy} :
    loadPolicy py (if settings.policyFile = [] then none else some (world.files settings.policyFile)) = .ok policy ↔
      Configured py world settings policy := by
  unfold Configured
  split_ifs
  · rw [loadPolicy,Except.ok.injEq,eq_comm]
  · exact loadPolicy_eq_ok

theorem buildEngines_eq_ok {done : Unit} : buildEngines world = .ok done ↔ world.engineFault = none := by
  unfold buildEngines
  cases world.engineFault <;> simp

theorem openDatabase_eq_ok {path : PyStr} {done : Unit} :
    openDatabase world path = .ok done ↔
      world.pathFault path = none ∧ ∀ s ∈ connecting, world.faults path s = none := by
  unfold openDatabase
  cases world.pathFault path with
  | some e => simp
  | none =>
    rw [connect_on,← List.findSome?_eq_none_iff,connecting]
    cases List.findSome? (world.faults path) _ <;> simp

theorem auditHmacKeyBytes_eq_ok {key : List UInt8} :
    auditHmacKeyBytes settings = .ok key ↔ ∃ t, encodeUtf8 settings.auditHmacKey = some t ∧ key = utf8 t := by
  unfold auditHmacKeyBytes
  cases encodeUtf8 settings.auditHmacKey with
  | none => simp
  | some t => simp [eq_comm]

/-- The gateway starts just when production has its keys, the policy is one, the audit key is
    text, and engines and database come up. -/
theorem start_eq_ok {gateway : Gateway} :
    start py world settings = .ok gateway ↔
      (settings.appEnv = .production → Secured settings) ∧ Available world settings ∧ ∃ policy t,
        Configured py world settings policy ∧ encodeUtf8 (signingKey settings) = some t ∧
          gateway = gatewayOf py world settings policy (utf8 t) := by
  rw [start,bind_eq_ok]
  simp only [enforce_eq_ok,and_assoc]
  constructor
  · rintro ⟨valid,secured,rfl,started⟩
    obtain ⟨policy,loaded,started⟩ := bind_eq_ok.mp started
    obtain ⟨_,engines,started⟩ := bind_eq_ok.mp started
    obtain ⟨key,encoded,started⟩ := bind_eq_ok.mp started
    obtain ⟨_,opened,made⟩ := bind_eq_ok.mp started
    cases made
    obtain ⟨t,written,rfl⟩ := auditHmacKeyBytes_eq_ok.mp encoded
    obtain ⟨path,statements⟩ := openDatabase_eq_ok.mp opened
    exact ⟨secured,⟨buildEngines_eq_ok.mp engines,path,statements⟩,policy,t,configured_iff.mp loaded,written,rfl⟩
  · rintro ⟨secured,⟨engines,path,statements⟩,policy,t,configured,written,rfl⟩
    refine ⟨_,secured,rfl,bind_eq_ok.mpr ⟨policy,configured_iff.mpr configured,?_⟩⟩
    refine bind_eq_ok.mpr ⟨(),buildEngines_eq_ok.mpr engines,bind_eq_ok.mpr ⟨utf8 t,?_,?_⟩⟩
    · exact auditHmacKeyBytes_eq_ok.mpr ⟨t,written,rfl⟩
    · exact bind_eq_ok.mpr ⟨(),openDatabase_eq_ok.mpr ⟨path,statements⟩,rfl⟩

theorem start_iff : (∃ gateway, start py world settings = .ok gateway) ↔ Startable py world settings := by
  simp only [start_eq_ok]
  constructor
  · rintro ⟨_,secured,available,policy,t,configured,written,_⟩
    exact ⟨secured,⟨policy,configured⟩,by simp [Utf8Encodable,written],available⟩
  · rintro ⟨secured,⟨policy,configured⟩,encodable,available⟩
    obtain ⟨t,written⟩ := Option.isSome_iff_exists.mp encodable
    exact ⟨_,secured,available,policy,t,configured,written,rfl⟩

/-- The rules raise nothing but configuration errors. -/
theorem enforce_raises {e : PyException} (raised : enforceSecurityRules settings = .error e) :
    ∃ message, e = .gateway (configurationError message) := by
  unfold enforceSecurityRules at raised
  split at raised
  · cases raised
  · cases raised
  · split_ifs at raised <;> (cases raised; exact ⟨_,rfl⟩)

/-- What ends a start otherwise: a configuration error, or what is not caught of the policy file,
    the engines, the audit key and the database. -/
inductive Stops (py : Interpreter) (world : Surroundings) (settings : Configuration) : PyException → Prop
  | configuration (message : PyStr) : Stops py world settings (.gateway (configurationError message))
  | policyFile {e : PyException} : settings.policyFile ≠ [] → Uncaught py (world.files settings.policyFile) e →
      Stops py world settings e
  | engines {e : PyException} : world.engineFault = some e → Stops py world settings e
  | auditKey : ¬ Utf8Encodable (signingKey settings) → Stops py world settings .unicodeEncodeError
  | path {e : PyException} : world.pathFault settings.auditDbPath = some e → Stops py world settings e
  | database {s : Statement} {e : SqliteError} : s ∈ connecting → world.faults settings.auditDbPath s = some e →
      Stops py world settings (.sqlite e)

theorem openDatabase_raises {e : PyException} (raised : openDatabase world settings.auditDbPath = .error e) :
    Stops py world settings e := by
  unfold openDatabase at raised
  cases unusable : world.pathFault settings.auditDbPath with
  | some e' =>
    rw [unusable] at raised
    cases raised
    exact .path unusable
  | none =>
    simp only [unusable,connect_on] at raised
    split at raised
    · next e' found =>
      cases raised
      obtain ⟨s,member,fault⟩ := List.exists_of_findSome?_eq_some found
      exact .database member fault
    · cases raised

theorem start_raises {e : PyException} (raised : start py world settings = .error e) : Stops py world settings e := by
  rw [start] at raised
  rcases bind_eq_error.mp raised with refused | ⟨valid,enforced,raised⟩
  · obtain ⟨message,rfl⟩ := enforce_raises refused
    exact .configuration message
  obtain ⟨_,rfl⟩ := enforce_eq_ok.mp enforced
  rcases bind_eq_error.mp raised with unloaded | ⟨policy,_,raised⟩
  · dsimp only at unloaded
    split_ifs at unloaded with file
    · cases unloaded
    · rcases loadPolicy_raises unloaded with rfl | uncaught
      · exact .configuration _
      · exact .policyFile file uncaught
  rcases bind_eq_error.mp raised with unbuilt | ⟨_,_,raised⟩
  · unfold buildEngines at unbuilt
    split at unbuilt
    · next fault =>
      cases unbuilt
      exact .engines fault
    · cases unbuilt
  rcases bind_eq_error.mp raised with unencoded | ⟨_,_,raised⟩
  · rw [auditHmacKeyBytes] at unencoded
    cases written : encodeUtf8 (signingKey settings) with
    | some t => simp [written] at unencoded
    | none =>
      simp only [written,Except.error.injEq] at unencoded
      subst unencoded
      exact .auditKey (by simp [Utf8Encodable,written])
  rcases bind_eq_error.mp raised with unopened | ⟨_,_,made⟩
  · exact openDatabase_raises unopened
  · cases made

end

/-! ### What the provider is given -/

/-- A message as it is sent: nothing in it is blocked, what the policy tokenizes or redacts is
    replaced, and the rest is left as it was. -/
def Follows (policy : Policy) (context : TokenizationContext) (found : PyStr × List RecognizerResult) (sent : PyStr) : Prop :=
  Unblocked policy found.2 ∧ ∃ placed : List (RecognizerResult × PyStr), sent = splice found.1 0 placed ∧
    placed.map Prod.fst = arranged (found.2.filter (mediated policy)) ∧
    ∀ p ∈ placed, Placed policy context found.1 p.1 p.2

theorem Follows.mono {policy : Policy} {context later : TokenizationContext} {found : PyStr × List RecognizerResult}
    {sent : PyStr} (extended : Extends context later) (follows : Follows policy context found sent) :
    Follows policy later found sent := by
  obtain ⟨unblocked,placed,spliced,positions,each⟩ := follows
  exact ⟨unblocked,placed,spliced,positions,fun p member => (each p member).mono extended⟩

theorem apply_follows {mediator : PIIMediator} (replaces : ReplacesSpans mediator.anonymizer) {ctx : TokenizationContext}
    (inStep : Minted ctx) {found : PyStr × List RecognizerResult} (separate : Separate found.1.length found.2)
    (unblocked : Unblocked mediator.policy found.2) :
    ∃ sent after, mediator.apply found.1 found.2 (some ctx) = (.ok sent,some after) ∧ Minted after ∧ Extends ctx after ∧
      Follows mediator.policy after found sent := by
  obtain ⟨calls,placed,_,perm,positions,applied⟩ := apply_separate replaces separate unblocked ctx
  obtain ⟨minted,extended,each⟩ := mint_spec inStep mediator.policy found.1 calls
  exact ⟨_,_,applied,minted,extended,unblocked,placed,rfl,positions,fun p member => each p (perm.mem_iff.mp member)⟩

/-- All messages follow the policy under the context that the last of them leaves. -/
theorem applyAll_follows {mediator : PIIMediator} (replaces : ReplacesSpans mediator.anonymizer)
    (messages : List (PyStr × List RecognizerResult)) (separate : ∀ m ∈ messages, Separate m.1.length m.2)
    (unblocked : ∀ m ∈ messages, Unblocked mediator.policy m.2) (i : Nat) {ctx : TokenizationContext} (inStep : Minted ctx) :
    ∃ sent last, applyAll (fun _ => mediator.apply) i messages (some ctx) = (.ok sent,some last) ∧ Minted last ∧
      Extends ctx last ∧ List.Forall₂ (Follows mediator.policy last) messages sent := by
  induction messages generalizing i ctx with
  | nil => exact ⟨[],ctx,rfl,inStep,.refl ctx,.nil⟩
  | cons m rest ih =>
    obtain ⟨separate,others⟩ := List.forall_mem_cons.mp separate
    obtain ⟨unblocked,free⟩ := List.forall_mem_cons.mp unblocked
    obtain ⟨out,after,applied,minted,extended,follows⟩ := apply_follows replaces inStep separate unblocked
    obtain ⟨outs,last,ran,final,later,tail⟩ := ih others free (i + 1) minted
    refine ⟨out :: outs,last,?_,final,extended.trans later,.cons (follows.mono later) tail⟩
    simp only [applyAll,applied,ran]

/-- What a started gateway sends: one call at most, in which every message follows the policy. -/
theorem sent_follows (py : Interpreter) (world : Surroundings) (replaces : ReplacesSpans world.anonymizer)
    (settings : Configuration) (policy : Policy) (key : List UInt8) (chance : Chance) (body : ChatCompletionRequest)
    (detects : ∀ m ∈ body.messages, ∀ results, world.detect policy.keys m.content = .ok results →
      Separate m.content.length results) :
    (serve py.rt (gatewayOf py world settings policy key) chance body).calls = [] ∨
      ∃ perMessage contents context,
        (serve py.rt (gatewayOf py world settings policy key) chance body).calls = [callOf body contents] ∧
        List.Forall₂ (fun m results => if m.content = [] then results = [] else world.detect policy.keys m.content = .ok results)
          body.messages perMessage ∧
        List.Forall₂ (Follows policy context) ((body.messages.map ChatMessage.content).zip perMessage) contents := by
  obtain ⟨path,_,way,goes⟩ := chat_path py.rt (gatewayOf py world settings policy key) chance body
  have went : serve py.rt (gatewayOf py world settings policy key) chance body =
      clearRequestTokenContext (path.exchange (gatewayOf py world settings policy key)) :=
    congrArg clearRequestTokenContext (goes (world.append key))
  rw [went,show (clearRequestTokenContext (path.exchange (gatewayOf py world settings policy key))).calls = path.calls from
    exchange_calls _ path]
  rcases way with uncalled | ⟨ctx,perMessage,decisions,contents,context,mediation,called⟩
  · exact .inl uncalled
  obtain ⟨analyzed,unblocked⟩ := mediation_analyzed mediation
  have each : ∀ found ∈ (body.messages.map ChatMessage.content).zip perMessage,
      Separate found.1.length found.2 ∧ Unblocked policy found.2 := by
    intro found member
    rw [show (body.messages.map ChatMessage.content).zip perMessage =
      (body.messages.zip perMessage).map (Prod.map ChatMessage.content id) from List.zip_map_left ..] at member
    obtain ⟨⟨m,results⟩,paired,rfl⟩ := List.mem_map.mp member
    obtain ⟨inBody,inFound⟩ := List.of_mem_zip paired
    have answered : (⟨policy,world.detect,world.anonymizer⟩ : PIIMediator).analyze m.content = .ok results :=
      List.forall₂_zip analyzed paired
    refine ⟨?_,unblocked results inFound⟩
    rw [PIIMediator.analyze] at answered
    split_ifs at answered
    · cases answered
      exact ⟨nofun,.nil⟩
    · exact detects m inBody results answered
  have inStep : Minted ctx := by
    rw [(create_fresh mediation.created).1]
    exact minted_fresh ctx.ns
  obtain ⟨sent,last,ran,_,_,follow⟩ := applyAll_follows
    (show ReplacesSpans (⟨policy,world.detect,world.anonymizer⟩ : PIIMediator).anonymizer from replaces) _
    (fun m member => (each m member).1) (fun m member => (each m member).2) 0 inStep
  have same : (Except.ok contents,context) = (Except.ok sent,some last) := mediation.applied.symm.trans ran
  cases same
  refine .inr ⟨perMessage,contents,last,called,analyzed.imp fun m results answered => ?_,follow⟩
  rw [PIIMediator.analyze] at answered
  split_ifs at answered with empty
  · rw [if_pos empty]
    exact (Except.ok.inj answered).symm
  · rw [if_neg empty]
    exact answered

/-- A gateway starts just when all is there that it needs, in production keys of its own among
    it, and ends in one of the listed exceptions otherwise; from the start on the provider is
    given of every message just what the policy of the file lets through. -/
theorem started_governs (py : Interpreter) (world : Surroundings) (replaces : ReplacesSpans world.anonymizer)
    (settings : Configuration) :
    ((∃ gateway, start py world settings = .ok gateway) ↔ Startable py world settings) ∧
    (∀ e, start py world settings = .error e → Stops py world settings e) ∧
    ∀ gateway, start py world settings = .ok gateway →
      ∃ policy t, Configured py world settings policy ∧ encodeUtf8 (signingKey settings) = some t ∧
        gateway.append = world.append (utf8 t) ∧
        ∀ (chance : Chance) (body : ChatCompletionRequest),
          (∀ m ∈ body.messages, ∀ results, world.detect policy.keys m.content = .ok results →
            Separate m.content.length results) →
          (serve py.rt gateway chance body).calls = [] ∨ ∃ perMessage contents context,
            (serve py.rt gateway chance body).calls = [callOf body contents] ∧
            List.Forall₂ (fun m results =>
              if m.content = [] then results = [] else world.detect policy.keys m.content = .ok results)
              body.messages perMessage ∧
            List.Forall₂ (Follows policy context) ((body.messages.map ChatMessage.content).zip perMessage) contents := by
  refine ⟨start_iff,fun e raised => start_raises raised,fun gateway started => ?_⟩
  obtain ⟨_,_,policy,t,configured,written,rfl⟩ := start_eq_ok.mp started
  refine ⟨policy,t,configured,written,rfl,fun chance body detects => ?_⟩
  exact sent_follows py world replaces settings policy (utf8 t) chance body detects

/-- A file that lets names through and redacts insurance numbers. -/
def leanPolicy : Policy := List.toAList [⟨lit "PERSON",.allow⟩,⟨lit "UK_NINO",.redact⟩,⟨lit "US_SSN",.block⟩]

def sampleWorld : Surroundings where
  files path := if path = lit "policy.json" then
    .text "\x7b\"PERSON\": \"allow\", \"UK_NINO\": \"redact\",\r\n\"US_SSN\": \"block\"\x7d".toList else .missing
  engineFault := none
  detect := enquiryMediator.detect
  anonymizer := plainAnonymizer
  append _ _ := .ok 1
  pathFault _ := none
  faults path s := if path = lit "audit.db" then none else if s = .connect then some .operational else none
  transport _ := .timeout

def sampleConfiguration : Configuration :=
  ⟨.production,⟨.mock,[],[],[],[]⟩,List.replicate 32 (.scalar 'k'),lit "audit.db",lit "policy.json",false,false⟩

theorem sample_available : Available sampleWorld sampleConfiguration := ⟨rfl,rfl,by decide⟩

/-- The name goes to the provider as the file has it, and the number does not. -/
theorem started_governs_production :
    ∃ gateway policy contents context, start plainInterpreter sampleWorld sampleConfiguration = .ok gateway ∧
      Configured plainInterpreter sampleWorld sampleConfiguration policy ∧
      (serve (plainRuntime [] []) gateway plainChance enquiry).calls = [callOf enquiry contents] ∧
      (callOf enquiry contents).messages.map ChatMessage.content = [lit "Ann [REDACTED:UK_NINO]",lit "yes"] ∧
      List.Forall₂ (Follows policy context)
        [(lit "Ann AB1",[⟨lit "PERSON",0,3,1⟩,⟨lit "UK_NINO",4,7,1⟩]),(lit "yes",[])] contents := by
  have secured : Secured sampleConfiguration := ⟨by decide,by decide,nofun,nofun⟩
  have configured : Configured plainInterpreter sampleWorld sampleConfiguration leanPolicy := ⟨_,rfl,by rfl⟩
  have started : start plainInterpreter sampleWorld sampleConfiguration =
      .ok (gatewayOf plainInterpreter sampleWorld sampleConfiguration leanPolicy (utf8 (List.replicate 32 'k'))) :=
    start_eq_ok.mpr ⟨fun _ => secured,sample_available,leanPolicy,_,configured,by decide,rfl⟩
  obtain ⟨policy,t,holds,_,_,governs⟩ := (started_governs plainInterpreter sampleWorld
    plainAnonymizer_replaces.replacesSpans sampleConfiguration).2.2 _ started
  have sent : (serve (plainRuntime [] []) (gatewayOf plainInterpreter sampleWorld sampleConfiguration leanPolicy
      (utf8 (List.replicate 32 'k'))) plainChance enquiry).calls.map (fun call => call.messages.map ChatMessage.content) =
        [[lit "Ann [REDACTED:UK_NINO]",lit "yes"]] := by
    decide +kernel
  have detects : ∀ m ∈ enquiry.messages, ∀ results, sampleWorld.detect policy.keys m.content = .ok results →
      Separate m.content.length results := by
    intro m member results found
    refine (enquiry_detects m member results ?_).1
    rcases List.mem_cons.mp member with rfl | last
    · exact found
    · rw [List.mem_singleton.mp last] at found ⊢
      exact found
  rcases governs plainChance enquiry detects with uncalled | ⟨perMessage,contents,context,called,found,follow⟩
  · rw [show plainInterpreter.rt = plainRuntime [] [] from rfl] at uncalled
    rw [uncalled] at sent
    cases sent
  · obtain ⟨results,others,ann,answer,rfl⟩ := List.forall₂_cons_left_iff.mp found
    obtain ⟨results',more,yes,last,rfl⟩ := List.forall₂_cons_left_iff.mp answer
    cases last
    cases ann
    cases yes
    refine ⟨_,policy,contents,context,started,holds,called,?_,follow⟩
    rw [show plainInterpreter.rt = plainRuntime [] [] from rfl] at called
    rw [called] at sent
    exact (List.cons.inj sent).1

end PrivacyGateway.Startup
