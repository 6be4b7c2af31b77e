import PrivacyGateway.Adapters
import PrivacyGateway.CheckpointFile
import PrivacyGateway.Requests

/-!
The provider clients and the format they share. `build_client` makes one of three clients,
and whatever their providers reply, each returns a response of one kind (`Shaped`). The
gateway answers in the very format that it reads: a client that is pointed at a gateway
instead of a provider gets back the response that the gateway has delivered
(`relayed_unchanged`).
-/
namespace PrivacyGateway.ProviderClients
open PrivacyGateway.Strings PrivacyGateway.Errors PrivacyGateway.StdLib PrivacyGateway.JsonText
open PrivacyGateway.JsonAccess PrivacyGateway.Raising PrivacyGateway.Tokenization PrivacyGateway.Handler PrivacyGateway.Outcomes
open PrivacyGateway.Paths PrivacyGateway.Adapters PrivacyGateway.JsonCompact PrivacyGateway.CheckpointFile PrivacyGateway.Requests

/-- What `MockLLMClient` echoes when it has no responder: the last user message. -/
def mockContent (messages : List ChatMessage) : PyStr :=
  lit "[mock LLM] I received your message: " ++
    ((messages.reverse.find? fun m => m.role = .user).map ChatMessage.content).getD []

/-- `MockLLMClient.chat(model, messages, **params)` -/
def MockLLMClient.chat (responder : Option (PyStr → List ChatMessage → Except PyException PyStr)) (call : ProviderCall) :
    Except PyException ProviderResponse := do
  let content ← match responder with
    | some responder => responder call.model call.messages
    | none => .ok (mockContent call.messages)
  return ⟨lit "mock-completion-1",call.model,[⟨0,content,lit "stop"⟩],0,0⟩

/-- `Settings.provider` -/
inductive Provider where
  | mock | openai | anthropic
  deriving DecidableEq

/-- The settings that `build_client` reads. -/
structure ProviderSettings where
  provider : Provider
  openaiApiKey : PyStr
  openaiBaseUrl : PyStr
  anthropicApiKey : PyStr
  anthropicBaseUrl : PyStr

/-- `build_client(settings)`, with what the network answers within the timeout. -/
def buildClient (rt : Runtime) (reprStr : PyStr → PyStr) (settings : ProviderSettings) (transport : HttpRequest → HttpOutcome) :
    ProviderCall → Except PyException ProviderResponse :=
  match settings.provider with
  | .openai => OpenAIAdapter.chat rt reprStr (.create settings.openaiApiKey settings.openaiBaseUrl transport)
  | .anthropic => AnthropicAdapter.chat rt reprStr (.create settings.anthropicApiKey settings.anthropicBaseUrl transport)
  | .mock => MockLLMClient.chat none

/-! ### What every client returns -/

/-- A response of the kind that every client returns. -/
structure Shaped (response : ProviderResponse) : Prop where
  some : response.choices ≠ []
  numbered : ∀ (i : Nat) (inside : i < response.choices.length), response.choices[i].index = i
  reasons : ∀ choice ∈ response.choices, choice.finishReason ≠ []
  model : response.model ≠ []

section
variable {rt : Runtime} {reprStr : PyStr → PyStr}

/-- The text of a value that counts as true is not empty. -/
theorem pyStr_truthy (prints : ∀ x, rt.floatRepr x ≠ []) {value : Json} {s : PyStr} (holds : truthy value = true)
    (made : pyStr rt reprStr value = .ok s) : s ≠ [] := by
  rintro rfl
  cases value with
  | null => cases holds
  | bool b =>
    have printed : Except.ok (lit (if b then "True" else "False")) = (.ok [] : Except PyException PyStr) := by
      rw [← made,pyStr,JsonAccess.repr]
      simp
    cases b <;> cases printed
  | int n =>
    rw [pyStr,JsonAccess.repr] at made
    · split_ifs at made
      have empty : decimalInt n = [] := List.map_eq_nil_iff.mp (Except.ok.inj made)
      cases n with
      | ofNat n => exact decimal_ne_nil n empty
      | negSucc n => cases empty
    · simp
  | float x =>
    rw [pyStr,JsonAccess.repr] at made
    · exact prints x (List.map_eq_nil_iff.mp (Except.ok.inj made))
    · simp
  | str s =>
    cases made
    cases holds
  | arr items =>
    rw [pyStr,JsonAccess.repr] at made
    · obtain ⟨_,_,same⟩ := bind_eq_ok.mp made
      cases same
    · simp
  | obj fields =>
    rw [pyStr,JsonAccess.repr] at made
    · obtain ⟨_,_,same⟩ := bind_eq_ok.mp made
      cases same
    · simp

theorem pyStr_orElse (prints : ∀ x, rt.floatRepr x ≠ []) {value : Json} {fallback s : PyStr} (some : fallback ≠ [])
    (made : pyStr rt reprStr (orElse value (.str fallback)) = .ok s) : s ≠ [] := by
  unfold orElse at made
  split at made
  · next holds => exact pyStr_truthy prints holds made
  · cases made
    exact some

theorem finishReason_some (prints : ∀ x, rt.floatRepr x ≠ []) {value : Json} {key : String} {s : PyStr}
    (made : finishReason rt reprStr value key = .ok s) : s ≠ [] := by
  obtain ⟨found,_,made⟩ := bind_eq_ok.mp made
  exact pyStr_orElse prints (by decide) made

theorem normalizeChoices_reasons (prints : ∀ x, rt.floatRepr x ≠ []) {index : Nat} {choices : List Json} {made : List Choice}
    (built : normalizeChoices rt reprStr index choices = .ok made) : ∀ choice ∈ made, choice.finishReason ≠ [] := by
  induction choices generalizing index made with
  | nil =>
    cases built
    exact fun _ inside => absurd inside List.not_mem_nil
  | cons choice rest ih =>
    simp only [normalizeChoices,bind_eq_ok] at built
    obtain ⟨first,one,others,more,same⟩ := built
    cases same
    refine List.forall_mem_cons.mpr ⟨?_,ih more⟩
    simp only [normalizeChoice,bind_eq_ok] at one
    obtain ⟨message,_,content,_,one⟩ := one
    cases content with
    | str text =>
      obtain ⟨reason,found,same⟩ := bind_eq_ok.mp one
      cases same
      exact finishReason_some prints found
    | _ => cases one

theorem responseDict_model (prints : ∀ x, rt.floatRepr x ≠ []) {data usage : Json} {fallbackModel : PyStr}
    {choices : Except PyException (List Choice)} {promptKey completionKey : String} {response : ProviderResponse}
    (some : fallbackModel ≠ [])
    (built : responseDict rt reprStr data fallbackModel choices usage promptKey completionKey = .ok response) :
    response.model ≠ [] := by
  simp only [responseDict,bind_eq_ok] at built
  obtain ⟨_,_,_,_,found,_,model,made,_,_,_,_,_,_,_,_,_,_,same⟩ := built
  cases same
  exact pyStr_orElse prints some made

theorem openai_shaped (prints : ∀ x, rt.floatRepr x ≠ []) {adapter : Adapter} {call : ProviderCall} {response : ProviderResponse}
    (some : call.model ≠ []) (replied : OpenAIAdapter.chat rt reprStr adapter call = .ok response) : Shaped response := by
  obtain ⟨data,_,replied⟩ := bind_eq_ok.mp replied
  have built : rebuildOpenai rt reprStr data call.model = .ok response := converting_eq_ok.mp replied
  obtain ⟨choices,_,built⟩ := bind_eq_ok.mp built
  cases choices with
  | arr items =>
    cases items with
    | nil => cases built
    | cons first rest =>
      obtain ⟨made,normalized,built⟩ := bind_eq_ok.mp built
      obtain ⟨usage,_,built⟩ := bind_eq_ok.mp built
      have model := responseDict_model prints some built
      cases responseDict_choices built
      refine ⟨?_,fun i inside => by simpa using normalizeChoices_numbered normalized i inside,
        normalizeChoices_reasons prints normalized,model⟩
      intro none
      simp only [normalizeChoices,bind_eq_ok,none] at normalized
      obtain ⟨_,_,_,_,same⟩ := normalized
      cases same
  | _ => cases built

theorem anthropic_shaped (prints : ∀ x, rt.floatRepr x ≠ []) {adapter : Adapter} {call : ProviderCall}
    {response : ProviderResponse} (some : call.model ≠ [])
    (replied : AnthropicAdapter.chat rt reprStr adapter call = .ok response) : Shaped response := by
  obtain ⟨data,_,replied⟩ := bind_eq_ok.mp replied
  have built : rebuildAnthropic rt reprStr data call.model = .ok response := converting_eq_ok.mp replied
  simp only [rebuildAnthropic,bind_eq_ok] at built
  obtain ⟨_,_,_,_,_,_,text,_,_,_,built⟩ := built
  have model := responseDict_model prints some built
  obtain ⟨reason,made,same⟩ := map_eq_ok.mp (responseDict_choices built)
  refine ⟨by simp [← same],fun i inside => ?_,?_,model⟩
  · simp only [← same,List.length_singleton,Nat.lt_one_iff] at inside ⊢
    subst inside
    rfl
  · simpa [← same] using finishReason_some prints made

/-- Whatever the provider replies, the client returns a response of one kind. -/
theorem client_shaped (prints : ∀ x, rt.floatRepr x ≠ []) (settings : ProviderSettings)
    (transport : HttpRequest → HttpOutcome) {call : ProviderCall} {response : ProviderResponse} (some : call.model ≠ [])
    (replied : buildClient rt reprStr settings transport call = .ok response) : Shaped response := by
  rw [buildClient] at replied
  cases provider : settings.provider with
  | openai =>
    rw [provider] at replied
    exact openai_shaped prints some replied
  | anthropic =>
    rw [provider] at replied
    exact anthropic_shaped prints some replied
  | mock =>
    rw [provider] at replied
    cases replied
    exact ⟨by simp,by simp,by simp [lit,Strings.str],some⟩

/-! ### Reading the gateway's answer -/

theorem normalizeChoices_body (choices : List Choice) (start : Nat)
    (numbered : ∀ (i : Nat) (inside : i < choices.length), choices[i].index = start + i)
    (reasons : ∀ choice ∈ choices, choice.finishReason ≠ []) :
    normalizeChoices rt reprStr start (choices.map Choice.body) = .ok choices := by
  induction choices generalizing start with
  | nil => rfl
  | cons choice rest ih =>
    obtain ⟨here,others⟩ := List.forall_mem_cons.mp reasons
    have first : choice.index = start := numbered 0 (by simp)
    have later := ih (start + 1) (fun i inside => by
      have next := numbered (i + 1) (by simpa using inside)
      rw [List.getElem_cons_succ] at next
      omega) others
    have one : normalizeChoice rt reprStr start choice.body = .ok choice := by
      have reason : finishReason rt reprStr choice.body "finish_reason" = .ok choice.finishReason := by
        have found : get choice.body "finish_reason" = .ok (.str choice.finishReason) := rfl
        rw [finishReason,found,ok_bind,orElse,if_pos (by simpa [truthy] using here)]
        rfl
      have message : subscript choice.body "message" =
          .ok (.obj [field "role" (.str Role.assistant.value),field "content" (.str choice.content)]) := rfl
      have content : subscript (.obj [field "role" (.str Role.assistant.value),field "content" (.str choice.content)])
          "content" = .ok (.str choice.content) := rfl
      rw [normalizeChoice,message,ok_bind,content,ok_bind]
      simp only [reason,ok_bind]
      rw [← first]
      rfl
    rw [List.map_cons,normalizeChoices,one,ok_bind,later]
    rfl

/-- The body of a response is read as the response. -/
theorem normalize_body {response : ProviderResponse} (shaped : Shaped response) (fallbackModel : PyStr) :
    normalizeOpenaiResponse rt reprStr response.body fallbackModel = .ok response := by
  refine converting_eq_ok.mpr ?_
  have choices : subscript response.body "choices" = .ok (.arr (response.choices.map Choice.body)) := rfl
  have normalized : normalizeChoices rt reprStr 0 (response.choices.map Choice.body) = .ok response.choices :=
    normalizeChoices_body response.choices 0 (by simpa using shaped.numbered) shaped.reasons
  obtain ⟨first,rest,same⟩ := List.exists_cons_of_ne_nil (by simpa using shaped.some : response.choices.map Choice.body ≠ [])
  let counts : Json := .obj [
    field "prompt_tokens" (.int response.promptTokens),field "completion_tokens" (.int response.completionTokens)]
  have usage : get response.body "usage" = .ok counts := rfl
  have present : orElse counts (.obj []) = counts := rfl
  have prompt : get counts "prompt_tokens" = .ok (.int response.promptTokens) := rfl
  have completion : get counts "completion_tokens" = .ok (.int response.completionTokens) := rfl
  have id : get response.body "id" = .ok (.str response.id) := rfl
  have model : get response.body "model" = .ok (.str response.model) := rfl
  have named : pyStr rt reprStr (orElse (.str response.id) (.str [])) = .ok response.id := by
    unfold orElse
    split
    · rfl
    · next falsy =>
      have empty : response.id = [] := by simpa [truthy] using falsy
      rw [empty]
      rfl
  have kept : pyStr rt reprStr (orElse (.str response.model) (.str fallbackModel)) = .ok response.model := by
    rw [orElse,if_pos (by simpa [truthy] using shaped.model)]
    rfl
  have count : ∀ n : Int, pyInt rt (orElse (.int n) (.int 0)) = .ok n := by
    intro n
    unfold orElse
    split
    · rfl
    · next falsy =>
      have zero : n = 0 := by simpa [truthy] using falsy
      rw [zero]
      rfl
  rw [same] at choices normalized
  rw [rebuildOpenai,choices,ok_bind]
  simp only [normalized,usage,ok_bind]
  rw [present,responseDict,id,ok_bind,named,ok_bind,model,ok_bind,kept,ok_bind,ok_bind,prompt,ok_bind,count,ok_bind,
    completion,ok_bind,count]
  rfl

/-- A scan and a delivery change nothing but contents. -/
def frame (response : ProviderResponse) : List (Int × PyStr) := response.choices.map fun c => (c.index,c.finishReason)

theorem shaped_frame {response other : ProviderResponse} (shaped : Shaped response) (model : other.model = response.model)
    (same : frame other = frame response) : Shaped other := by
  have length : other.choices.length = response.choices.length := by simpa [frame] using congrArg List.length same
  have each : ∀ (i : Nat) (inside : i < other.choices.length), other.choices[i].index = response.choices[i].index ∧
      other.choices[i].finishReason = response.choices[i].finishReason := by
    intro i inside
    have here : (frame other)[i]? = (frame response)[i]? := by rw [same]
    simpa [frame,inside,length ▸ inside] using here
  refine ⟨fun none => shaped.some ?_,fun i inside => ?_,fun choice member => ?_,model ▸ shaped.model⟩
  · rw [none] at length
    exact List.length_eq_zero_iff.mp length.symm
  · rw [(each i inside).1]
    exact shaped.numbered i (length ▸ inside)
  · obtain ⟨i,inside,rfl⟩ := List.getElem_of_mem member
    rw [(each i inside).2]
    exact shaped.reasons _ (List.getElem_mem _)

theorem scanChoices_frame {mediator : MediatorCalls} {i : Nat} {choices scanned : List Choice}
    (made : scanChoices mediator i choices = .ok scanned) :
    scanned.map (fun c => (c.index,c.finishReason)) = choices.map fun c => (c.index,c.finishReason) := by
  induction choices generalizing i scanned with
  | nil =>
    cases made
    rfl
  | cons choice rest ih =>
    obtain ⟨results,_,made⟩ := bind_eq_ok.mp made
    obtain ⟨content,_,made⟩ := bind_eq_ok.mp made
    obtain ⟨others,more,rfl⟩ := map_eq_ok.mp made
    rw [List.map_cons,List.map_cons,ih more]

/-- From the reply to what is delivered nothing but contents changes. -/
theorem delivered_frame {gateway : Gateway} {body : ChatCompletionRequest} {context : Option TokenizationContext}
    {reply response : ProviderResponse} {responseScanned : Bool}
    (scans : scanned gateway reply = .ok (response,responseScanned)) :
    (delivered body context response).model = reply.model ∧
      ((delivered body context response).promptTokens = reply.promptTokens ∧
        (delivered body context response).completionTokens = reply.completionTokens) ∧
      frame (delivered body context response) = frame reply := by
  have scan : response.model = reply.model ∧ (response.promptTokens = reply.promptTokens ∧
      response.completionTokens = reply.completionTokens) ∧ frame response = frame reply := by
    unfold scanned at scans
    split at scans
    · cases scans
      exact ⟨rfl,⟨rfl,rfl⟩,rfl⟩
    · obtain ⟨choices,made,same⟩ := map_eq_ok.mp scans
      cases same
      exact ⟨rfl,⟨rfl,rfl⟩,scanChoices_frame made⟩
  unfold delivered
  split
  · split_ifs
    · exact ⟨scan.1,scan.2.1,by rw [← scan.2.2]; simp [frame]⟩
    · exact scan
  · exact scan

theorem body_nested (response : ProviderResponse) : WellNested 4 response.body := by
  have choice : ∀ c : Choice, WellNested 2 c.body := by
    intro c
    refine ⟨(?_ : (["index","message","finish_reason"].map lit).Nodup),?_⟩
    · decide
    · have keys : (["role","content"].map lit).Nodup := by decide
      simpa [field] using keys
  refine ⟨(?_ : (["id","object","model","choices","usage"].map lit).Nodup),?_⟩
  · decide
  · have keys : lit "prompt_tokens" ≠ lit "completion_tokens" := by decide
    simpa [field] using ⟨fun c _ => choice c,keys⟩

/-- No number of the response has more digits than `json.loads` reads. -/
structure Fits (response : ProviderResponse) : Prop where
  indices : ∀ choice ∈ response.choices, (decimal choice.index.natAbs).length ≤ maxStrDigits
  prompt : (decimal response.promptTokens.natAbs).length ≤ maxStrDigits
  completion : (decimal response.completionTokens.natAbs).length ≤ maxStrDigits

theorem fits_frame {response other : ProviderResponse} (fits : Fits response)
    (tokens : other.promptTokens = response.promptTokens ∧ other.completionTokens = response.completionTokens)
    (same : frame other = frame response) : Fits other := by
  refine ⟨fun choice member => ?_,tokens.1 ▸ fits.prompt,tokens.2 ▸ fits.completion⟩
  have framed : (choice.index,choice.finishReason) ∈ frame response := same ▸ List.mem_map_of_mem member
  obtain ⟨own,inside,equal⟩ := List.mem_map.mp framed
  rw [← (Prod.mk.inj equal).1]
  exact fits.indices own inside

theorem body_reads {floatOf : Text → PyFloat} {response : ProviderResponse} (fits : Fits response) :
    ∀ n ∈ numbers response.body, Readable floatOf rt 0 n := by
  have choices : ∀ (items : List Choice), (∀ c ∈ items, (decimal c.index.natAbs).length ≤ maxStrDigits) →
      ∀ n ∈ numbersItems (items.map Choice.body), Readable floatOf rt 0 n := by
    intro items each
    induction items with
    | nil => exact fun _ inside => absurd inside List.not_mem_nil
    | cons c rest ih =>
      obtain ⟨here,others⟩ := List.forall_mem_cons.mp each
      intro n inside
      rcases List.mem_append.mp inside with own | later
      · have index : n = .int c.index := by simpa [Choice.body,field,numbers,numbersFields] using own
        rw [index]
        exact readable_int.mpr here
      · exact ih others n later
  intro n inside
  have parts : n ∈ numbersItems (response.choices.map Choice.body) ∨ n = .int response.promptTokens ∨
      n = .int response.completionTokens := by
    simpa [ProviderResponse.body,field,numbers,numbersFields] using inside
  rcases parts with inChoices | rfl | rfl
  · exact choices _ fits.indices n inChoices
  · exact readable_int.mpr fits.prompt
  · exact readable_int.mpr fits.completion

end

/-- `response.json()` -/
def parsed (py : Interpreter) (body : Text) : Option Json := (py.loads body).toOption

/-- Whichever provider a gateway has, a client that asks the gateway in the provider's place
    gets the very response that the gateway has delivered. -/
theorem relayed_unchanged (py : Interpreter) (prints : ∀ x, py.rt.floatRepr x ≠ []) (deep : 4 ≤ py.jsonDepth)
    (settings : ProviderSettings) (transport : HttpRequest → HttpOutcome) (gateway : Gateway)
    (client : gateway.chat = buildClient py.rt py.reprStr settings transport)
    (fit : ∀ call reply, gateway.chat call = .ok reply → Fits reply) (chance : Chance) (body : ChatCompletionRequest)
    (named : body.model ≠ []) (answer : Response) (served : (serve py.rt gateway chance body).result = .ok answer) :
    ∃ call reply response responseScanned context, gateway.chat call = .ok reply ∧
      scanned gateway reply = .ok (response,responseScanned) ∧
      dumps py.rt false (delivered body context response).body = str answer.body ∧
      ∀ (adapter : Adapter) (request : ProviderCall),
        adapter.transport (OpenAIAdapter.request adapter request) = .response answer.status (parsed py answer.body) →
          OpenAIAdapter.chat py.rt py.reprStr adapter request = .ok (delivered body context response) := by
  obtain ⟨_,_,_,contents,context,reply,response,responseScanned,_,replied,scans,status,text⟩ := serve_delivered served
  refine ⟨callOf body contents,reply,response,responseScanned,context,replied,scans,text,fun adapter request answered => ?_⟩
  have shaped : Shaped reply := client_shaped prints settings transport named (client ▸ replied)
  obtain ⟨sameModel,tokens,same⟩ : (delivered body context response).model = reply.model ∧
      ((delivered body context response).promptTokens = reply.promptTokens ∧
        (delivered body context response).completionTokens = reply.completionTokens) ∧
      frame (delivered body context response) = frame reply := delivered_frame scans
  have delivers : Shaped (delivered body context response) := shaped_frame shaped sameModel same
  have fits : Fits (delivered body context response) := fits_frame (fit _ reply replied) tokens same
  have encodable : ∀ s ∈ strings (delivered body context response).body, Utf8Encodable s := by
    rw [← encodable_dumps py.rt false,text]
    exact encodable_str answer.body
  obtain ⟨t,written,read⟩ := loads_dumps false ((readable_of (body_nested _) encodable (body_reads fits)).mono deep)
  obtain rfl : t = answer.body := str_inj.mp (written.symm.trans text)
  have json : parsed py answer.body = some (delivered body context response).body := by
    rw [parsed,Interpreter.loads,read,arranged_false]
    rfl
  rw [OpenAIAdapter.chat,postJson,answered,status,json]
  exact normalize_body delivers request.model

def echoText : Text := "[\"[mock LLM] I received your message: hi\"]".toList
def echoDigest : HexText := digest "3252b479552768d7d58eab094d9a6bdfe118dfe83f522acb536f62c868dbc226" (by decide +kernel)

def mockInterpreter : Interpreter :=
  { plainInterpreter with rt := plainRuntime [(promptText,promptDigest),(echoText,echoDigest)] [] }

def mockSettings : ProviderSettings := ⟨.mock,[],openaiBaseUrl,[],anthropicBaseUrl⟩

/-- The greeting's gateway with the mock client. -/
def mockGateway : Gateway :=
  { replyingGateway [] with chat := buildClient mockInterpreter.rt mockInterpreter.reprStr mockSettings fun _ => .timeout }

theorem plainFloatRepr_some (x : PyFloat) : plainFloatRepr x ≠ [] := by
  cases x with
  | finite value => simp [plainFloatRepr]
  | infinite negative => cases negative <;> simp [plainFloatRepr]
  | nan => simp [plainFloatRepr]

theorem relayed_unchanged_mock :
    ∃ answer response, (serve mockInterpreter.rt mockGateway plainChance greeting).result = .ok answer ∧
      OpenAIAdapter.chat mockInterpreter.rt mockInterpreter.reprStr
          (.create [] openaiBaseUrl fun _ => .response answer.status (parsed mockInterpreter answer.body))
          ⟨lit "m",[⟨.user,lit "hi"⟩],none,none⟩ = .ok response ∧
      dumps mockInterpreter.rt false response.body = str answer.body := by
  have answers : (serve mockInterpreter.rt mockGateway plainChance greeting).result.toOption.isSome = true := by
    decide +kernel
  cases served : (serve mockInterpreter.rt mockGateway plainChance greeting).result with
  | error e =>
    rw [served] at answers
    cases answers
  | ok answer =>
    have fit : ∀ call reply, mockGateway.chat call = .ok reply → Fits reply := by
      rintro call reply replied
      cases replied
      have zero : (decimal (0 : Int).natAbs).length ≤ maxStrDigits := by decide
      refine ⟨fun choice member => ?_,zero,zero⟩
      rw [List.mem_singleton.mp member]
      exact zero
    obtain ⟨_,_,_,_,_,_,_,text,reads⟩ := relayed_unchanged mockInterpreter plainFloatRepr_some (by decide) mockSettings
      (fun _ => .timeout) mockGateway rfl fit plainChance greeting (by decide) answer served
    exact ⟨answer,_,rfl,reads _ _ rfl,text⟩

end PrivacyGateway.ProviderClients
