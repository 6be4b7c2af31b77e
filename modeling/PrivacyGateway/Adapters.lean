import Mathlib.Data.List.DropRight
import PrivacyGateway.Handler
import PrivacyGateway.JsonAccess

/-!
The provider adapters: what `OpenAIAdapter.chat` and `AnthropicAdapter.chat` send, and how they
rebuild a reply that may be any JSON value. Every exception of looking up and converting its
fields is caught but one, the `OverflowError` of `int()` on an infinite usage count
(`adapters_contained_iff`).
-/
namespace PrivacyGateway.Adapters
open PrivacyGateway.Strings PrivacyGateway.Errors PrivacyGateway.StdLib PrivacyGateway.Separated PrivacyGateway.JsonText
open PrivacyGateway.Handler PrivacyGateway.Raising PrivacyGateway.JsonAccess

structure HttpRequest where
  url : PyStr
  headers : List (PyStr × PyStr)
  body : Json

/-- What a request comes to; `json` is `none` where `response.json()` raises `ValueError`. -/
inductive HttpOutcome where
  | timeout
  | httpError
  | response (status : Nat) (json : Option Json)

/-- `_post_json(url, headers, body, timeout, transport)` -/
def postJson (transport : HttpRequest → HttpOutcome) (request : HttpRequest) : Except PyException Json :=
  match transport request with
  | .timeout => throw (.gateway providerTimeoutError)
  | .httpError => throw (.gateway providerResponseError)
  | .response status json =>
    if status = 401 ∨ status = 403 then throw (.gateway providerAuthError)
    else if 400 ≤ status then throw (.gateway providerResponseError)
    else
      match json with
      | some (.obj fields) => return .obj fields
      | _ => throw (.gateway providerResponseError)

section
variable (rt : Runtime) (reprStr : PyStr → PyStr)

/-- The dict that an adapter returns. The usage counts come last. -/
def responseDict (data : Json) (fallbackModel : PyStr) (choices : Except PyException (List Choice)) (usage : Json)
    (promptKey completionKey : String) : Except PyException ProviderResponse := do
  let id ← pyStr rt reprStr (orElse (← get data "id") (.str []))
  let model ← pyStr rt reprStr (orElse (← get data "model") (.str fallbackModel))
  let choices ← choices
  let promptTokens ← pyInt rt (orElse (← get usage promptKey) (.int 0))
  let completionTokens ← pyInt rt (orElse (← get usage completionKey) (.int 0))
  return ⟨id,model,choices,promptTokens,completionTokens⟩

/-- `str(value.get(key) or "stop")` -/
def finishReason (value : Json) (key : String) : Except PyException PyStr := do
  pyStr rt reprStr (orElse (← get value key) (.str (lit "stop")))

def normalizeChoice (index : Nat) (choice : Json) : Except PyException Choice := do
  match ← subscript (← subscript choice "message") "content" with
  | .str content => return ⟨index,content,← finishReason rt reprStr choice "finish_reason"⟩
  | _ => throw .typeError

/-- The loop over `enumerate(choices_in)`. -/
def normalizeChoices : Nat → List Json → Except PyException (List Choice)
  | _, [] => return []
  | index, choice :: rest => do
    let first ← normalizeChoice rt reprStr index choice
    let others ← normalizeChoices (index + 1) rest
    return first :: others

/-- The `try` block of `_normalize_openai_response`. -/
def rebuildOpenai (data : Json) (fallbackModel : PyStr) : Except PyException ProviderResponse := do
  match ← subscript data "choices" with
  | .arr (first :: rest) =>
    let choices ← normalizeChoices rt reprStr 0 (first :: rest)
    let usage ← get data "usage"
    responseDict rt reprStr data fallbackModel (.ok choices) (orElse usage (.obj [])) "prompt_tokens" "completion_tokens"
  | _ => throw .typeError

/-- `except (KeyError, TypeError, ValueError, IndexError, AttributeError)` -/
def openaiCaught : PyException → Bool
  | .keyError | .typeError | .valueError | .unicodeEncodeError | .indexError | .attributeError => true
  | _ => false

/-- `_normalize_openai_response(data, fallback_model)` -/
def normalizeOpenaiResponse (data : Json) (fallbackModel : PyStr) : Except PyException ProviderResponse :=
  converting openaiCaught (.gateway providerResponseError) (rebuildOpenai rt reprStr data fallbackModel)

/-- `value == "text"` -/
def isText : Json → Bool
  | .str s => s = lit "text"
  | _ => false

/-- The texts of the generator over `data["content"]`. -/
def blockTexts : List Json → Except PyException (List Json)
  | [] => return []
  | block :: rest => do
    if isText (← get block "type") then
      let text ← subscript block "text"
      let others ← blockTexts rest
      return text :: others
    else blockTexts rest

/-- The `try` block of `AnthropicAdapter.chat`. -/
def rebuildAnthropic (data : Json) (model : PyStr) : Except PyException ProviderResponse := do
  let text ← join (← blockTexts (← iterate (← subscript data "content")))
  let usage ← get data "usage"
  let choices := (finishReason rt reprStr data "stop_reason").map fun reason => [⟨0,text,reason⟩]
  responseDict rt reprStr data model choices (orElse usage (.obj [])) "input_tokens" "output_tokens"

/-- `except (KeyError, TypeError, ValueError, AttributeError)` -/
def anthropicCaught : PyException → Bool
  | .keyError | .typeError | .valueError | .unicodeEncodeError | .attributeError => true
  | _ => false

/-! ### The adapters -/

/-- What an adapter is constructed with. -/
structure Adapter where
  apiKey : PyStr
  baseUrl : PyStr
  transport : HttpRequest → HttpOutcome

/-- `__init__` of either adapter; `base_url` loses its trailing slashes. -/
def Adapter.create (apiKey baseUrl : PyStr) (transport : HttpRequest → HttpOutcome) : Adapter :=
  ⟨apiKey,baseUrl.rdropWhile fun c => c = .scalar '/',transport⟩

/-- The defaults of `base_url`. -/
def openaiBaseUrl : PyStr := lit "https://api.openai.com/v1"
def anthropicBaseUrl : PyStr := lit "https://api.anthropic.com"

def temperatureParam (call : ProviderCall) : List (PyStr × Json) :=
  (call.temperature.map fun x => field "temperature" (.float x)).toList

/-- What `OpenAIAdapter.chat` sends. -/
def OpenAIAdapter.request (adapter : Adapter) (call : ProviderCall) : HttpRequest where
  url := adapter.baseUrl ++ lit "/chat/completions"
  headers := [(lit "Authorization",lit "Bearer " ++ adapter.apiKey)]
  body := .obj ([field "model" (.str call.model),field "messages" (messagesJson call.messages)] ++ temperatureParam call ++
    (call.maxTokens.map fun n => field "max_tokens" (.int n)).toList)

/-- `OpenAIAdapter.chat(model, messages, **params)` -/
def OpenAIAdapter.chat (adapter : Adapter) (call : ProviderCall) : Except PyException ProviderResponse := do
  let data ← postJson adapter.transport (OpenAIAdapter.request adapter call)
  normalizeOpenaiResponse rt reprStr data call.model

/-- What `AnthropicAdapter.chat` sends: the system prompt is a field of its own. -/
def AnthropicAdapter.request (adapter : Adapter) (call : ProviderCall) : HttpRequest where
  url := adapter.baseUrl ++ lit "/v1/messages"
  headers := [(lit "x-api-key",adapter.apiKey),(lit "anthropic-version",lit "2023-06-01")]
  body :=
    let systemParts := (call.messages.filter fun m => m.role = .system).map ChatMessage.content
    let system := if systemParts = [] then [] else [field "system" (.str (joined (.scalar '\n') systemParts))]
    .obj ([field "model" (.str call.model),
      field "messages" (messagesJson (call.messages.filter fun m => m.role ≠ .system)),
      field "max_tokens" (.int (call.maxTokens.getD 1024))] ++ temperatureParam call ++ system)

/-- `AnthropicAdapter.chat(model, messages, **params)` -/
def AnthropicAdapter.chat (adapter : Adapter) (call : ProviderCall) : Except PyException ProviderResponse := do
  let data ← postJson adapter.transport (AnthropicAdapter.request adapter call)
  converting anthropicCaught (.gateway providerResponseError) (rebuildAnthropic rt reprStr data call.model)

end

/-! ### What an adapter may answer -/

/-- The fixed shape of a response. -/
def FixedShape (dict : Json) : Prop :=
  ∃ (id model : PyStr) (choices : List Json) (promptTokens completionTokens : Int),
    dict = .obj [field "id" (.str id),field "object" (.str (lit "chat.completion")),field "model" (.str model),
      field "choices" (.arr choices),
      field "usage" (.obj [field "prompt_tokens" (.int promptTokens),field "completion_tokens" (.int completionTokens)])] ∧
    ∀ (i : Nat) (inside : i < choices.length), ∃ content finishReason, choices[i] = .obj [field "index" (.int i),
      field "message" (.obj [field "role" (.str (lit "assistant")),field "content" (.str content)]),
      field "finish_reason" (.str finishReason)]

/-- A response of the fixed shape, or one of the three provider errors. -/
def Settled (answer : Except PyException ProviderResponse) : Prop :=
  (∃ response, answer = .ok response ∧ FixedShape response.body) ∨
    ∃ error ∈ [providerTimeoutError,providerAuthError,providerResponseError], answer = .error (.gateway error)

/-- The outcome with the body cut down to the given fields. -/
def HttpOutcome.keep (fields : Json → Json) : HttpOutcome → HttpOutcome
  | .response status json => .response status (json.map fields)
  | outcome => outcome

/-- An outcome leads to a settled answer, which is that of every outcome with the same
    whitelisted fields. -/
structure Contained (chat : HttpOutcome → Except PyException ProviderResponse) (fields : Json → Json)
    (outcome : HttpOutcome) : Prop where
  settled : Settled (chat outcome)
  whitelisted : ∀ other : HttpOutcome, other.keep fields = outcome.keep fields → chat other = chat outcome

/-- The whitelisted fields of a choice and of the usage counts. -/
def choiceFields : Json → Json :=
  keepFields [(lit "message",keepFields [(lit "content",id)]),(lit "finish_reason",id)]
def usageFields (promptKey completionKey : String) : Json → Json :=
  keepFields [(lit promptKey,id),(lit completionKey,id)]

/-- The whitelisted fields of an OpenAI reply. -/
def openaiFields : Json → Json := keepFields [(lit "id",id),(lit "model",id),(lit "choices",keepItems choiceFields),
  (lit "usage",usageFields "prompt_tokens" "completion_tokens")]

/-- The whitelisted fields of an Anthropic reply. -/
def anthropicFields : Json → Json := keepFields [(lit "id",id),(lit "model",id),(lit "stop_reason",id),
  (lit "content",keepItems (keepFields [(lit "type",id),(lit "text",id)])),
  (lit "usage",usageFields "input_tokens" "output_tokens")]

section
variable (rt : Runtime) (reprStr : PyStr → PyStr)

/-- `str(value or default)` with a default that is a string returns. -/
def Printable (value : Json) : Prop := truthy value = true → ∃ s, pyStr rt reprStr value = .ok s

/-- A choice with a string content. -/
def ReadableChoice (choice : Json) : Prop :=
  ∃ fields message content, choice = .obj fields ∧ fields.lookup (lit "message") = some (.obj message) ∧
    message.lookup (lit "content") = some (.str content) ∧ Printable rt reprStr (entry fields "finish_reason")

/-- An OpenAI reply with everything but its usage counts in order. -/
def OpenaiReadable (data : List (PyStr × Json)) : Prop :=
  (∃ choices, data.lookup (lit "choices") = some (.arr choices) ∧ choices ≠ [] ∧
    ∀ choice ∈ choices, ReadableChoice rt reprStr choice) ∧
  Printable rt reprStr (entry data "id") ∧ Printable rt reprStr (entry data "model")

/-- A content block; a text block has a string text. -/
def ReadableBlock (block : Json) : Prop :=
  ∃ fields, block = .obj fields ∧
    (entry fields "type" = .str (lit "text") → ∃ s, fields.lookup (lit "text") = some (.str s))

/-- A list of such blocks; an empty string or dict is as good as an empty list. -/
def ReadableContent (content : Json) : Prop :=
  content = .str [] ∨ content = .obj [] ∨ ∃ blocks, content = .arr blocks ∧ ∀ block ∈ blocks, ReadableBlock block

/-- An Anthropic reply with everything but its usage counts in order. -/
def AnthropicReadable (data : List (PyStr × Json)) : Prop :=
  (∃ content, data.lookup (lit "content") = some content ∧ ReadableContent content) ∧
  Printable rt reprStr (entry data "id") ∧ Printable rt reprStr (entry data "model") ∧
    Printable rt reprStr (entry data "stop_reason")

/-- The first count is infinite, or it can be converted and the second one is. -/
def InfiniteUsage (promptKey completionKey : String) (data : List (PyStr × Json)) : Prop :=
  ∃ usage negative, data.lookup (lit "usage") = some (.obj usage) ∧
    (entry usage promptKey = .float (.infinite negative) ∨
      (∃ n, pyInt rt (orElse (entry usage promptKey) (.int 0)) = .ok n) ∧
        entry usage completionKey = .float (.infinite negative))

/-- A reply that is read as far as an infinite usage count. -/
def Overflows (readable : List (PyStr × Json) → Prop) (promptKey completionKey : String) : HttpOutcome → Prop
  | .response status (some (.obj data)) => status < 400 ∧ readable data ∧ InfiniteUsage rt promptKey completionKey data
  | _ => False

variable {rt : Runtime} {reprStr : PyStr → PyStr}

theorem pyStr_orElse_ok {value : Json} {default : PyStr} :
    (∃ s, pyStr rt reprStr (orElse value (.str default)) = .ok s) ↔ Printable rt reprStr value := by
  unfold Printable orElse
  split
  · rename_i holds
    simp [holds]
  · rename_i falsy
    exact iff_of_true ⟨default,rfl⟩ fun holds => absurd holds falsy

theorem entry_eq_obj {fields usage : List (PyStr × Json)} {key : String} :
    entry fields key = .obj usage ↔ fields.lookup (lit key) = some (.obj usage) := by
  rw [entry]
  cases fields.lookup (lit key) <;> simp

/-- A dict that holds an infinite count is not empty, so `usage or {}` is the dict itself. -/
theorem orElse_eq_obj {value : Json} {usage : List (PyStr × Json)} {key : String} {x : PyFloat}
    (holds : entry usage key = .float x) : orElse value (.obj []) = .obj usage ↔ value = .obj usage := by
  have filled : usage ≠ [] := by
    rintro rfl
    cases holds
  unfold orElse
  split
  · exact Iff.rfl
  · rename_i falsy
    refine iff_of_false (fun same => filled (Json.obj.inj same).symm) ?_
    rintro rfl
    cases usage with
    | nil => exact filled rfl
    | cons first rest => exact falsy rfl

/-- The dict is not returned for an overflow just when an infinite count is reached. -/
theorem responseDict_overflow {fields : List (PyStr × Json)} {choices : Except PyException (List Choice)}
    (only : Only Malformed choices) (fallbackModel : PyStr) (promptKey completionKey : String) :
    responseDict rt reprStr (.obj fields) fallbackModel choices (orElse (entry fields "usage") (.obj [])) promptKey
        completionKey = .error .overflowError ↔
      (Printable rt reprStr (entry fields "id") ∧ Printable rt reprStr (entry fields "model")) ∧
        (∃ made, choices = .ok made) ∧ InfiniteUsage rt promptKey completionKey fields := by
  have strings : ∀ (value : Json) (f : PyStr → Except PyException ProviderResponse),
      pyStr rt reprStr value >>= f = .error .overflowError ↔
        ∃ s, pyStr rt reprStr value = .ok s ∧ f s = .error .overflowError :=
    fun value f => bind_raises (no_overflow (pyStr_only rt reprStr value))
  have lists : ∀ f : List Choice → Except PyException ProviderResponse,
      choices >>= f = .error .overflowError ↔ ∃ made, choices = .ok made ∧ f made = .error .overflowError :=
    fun f => bind_raises (no_overflow only)
  have gets : ∀ (value : Json) (key : String) (f : Json → Except PyException ProviderResponse),
      get value key >>= f = .error .overflowError ↔ ∃ found, get value key = .ok found ∧ f found = .error .overflowError :=
    fun value key f => bind_raises (no_overflow (get_only value key))
  have counts : InfiniteUsage rt promptKey completionKey fields ↔
      ∃ found, get (orElse (entry fields "usage") (.obj [])) promptKey = .ok found ∧
        ((∃ negative, found = .float (.infinite negative)) ∨ ∃ n, pyInt rt (orElse found (.int 0)) = .ok n ∧
          ∃ other, get (orElse (entry fields "usage") (.obj [])) completionKey = .ok other ∧
            ∃ negative, other = .float (.infinite negative)) := by
    simp only [InfiniteUsage,get_eq_ok]
    constructor
    · rintro ⟨usage,negative,looked,first | ⟨⟨n,converted⟩,second⟩⟩
      · have same := (orElse_eq_obj first).mpr (entry_eq_obj.mpr looked)
        exact ⟨_,⟨usage,same,rfl⟩,.inl ⟨negative,first⟩⟩
      · have same := (orElse_eq_obj second).mpr (entry_eq_obj.mpr looked)
        exact ⟨_,⟨usage,same,rfl⟩,.inr ⟨n,converted,_,⟨usage,same,rfl⟩,negative,second⟩⟩
    · rintro ⟨_,⟨usage,same,rfl⟩,⟨negative,first⟩ | ⟨n,converted,_,⟨again,sameAgain,rfl⟩,negative,second⟩⟩
      · exact ⟨usage,negative,entry_eq_obj.mp ((orElse_eq_obj first).mp same),.inl first⟩
      · cases sameAgain.symm.trans same
        exact ⟨usage,negative,entry_eq_obj.mp ((orElse_eq_obj second).mp same),.inr ⟨⟨n,converted⟩,second⟩⟩
  simp only [responseDict,get_obj,ok_bind,strings,lists,gets,bind_eq_error,pyInt_orElse_eq_overflow,pure,Except.pure,
    reduceCtorEq,and_false,exists_false,or_false]
  rw [counts,← @pyStr_orElse_ok rt reprStr _ [],← @pyStr_orElse_ok rt reprStr _ fallbackModel]
  simp only [exists_and_right,and_assoc]

theorem finishReason_only (value : Json) (key : String) : Only Malformed (finishReason rt reprStr value key) :=
  (get_only value key).bind fun _ _ => pyStr_only rt reprStr _

theorem finishReason_ok {fields : List (PyStr × Json)} {key : String} :
    (∃ s, finishReason rt reprStr (.obj fields) key = .ok s) ↔ Printable rt reprStr (entry fields key) := by
  simp only [finishReason,get_obj,ok_bind]
  exact pyStr_orElse_ok

theorem normalizeChoice_only (index : Nat) (choice : Json) : Only Malformed (normalizeChoice rt reprStr index choice) := by
  refine (subscript_only choice _).bind fun message _ => (subscript_only message _).bind fun content _ => ?_
  cases content with
  | str s => exact (finishReason_only choice _).bind fun _ _ => only_ok
  | _ => exact only_error (.inr (.inl rfl))

theorem normalizeChoice_ok {index : Nat} {choice : Json} :
    (∃ made, normalizeChoice rt reprStr index choice = .ok made) ↔ ReadableChoice rt reprStr choice := by
  simp only [normalizeChoice,bind_eq_ok,subscript_eq_ok]
  constructor
  · rintro ⟨made,_,⟨fields,rfl,inChoice⟩,content,⟨message,rfl,inMessage⟩,built⟩
    cases content with
    | str s =>
      obtain ⟨reason,found,_⟩ := bind_eq_ok.mp built
      exact ⟨fields,message,s,rfl,inChoice,inMessage,finishReason_ok.mp ⟨reason,found⟩⟩
    | _ => cases built
  · rintro ⟨fields,message,content,rfl,inChoice,inMessage,printable⟩
    obtain ⟨reason,found⟩ := finishReason_ok.mpr printable
    refine ⟨⟨index,content,reason⟩,_,⟨fields,rfl,inChoice⟩,.str content,⟨message,rfl,inMessage⟩,?_⟩
    simp only [found,ok_bind]
    rfl

theorem normalizeChoice_index {index : Nat} {choice : Json} {made : Choice}
    (built : normalizeChoice rt reprStr index choice = .ok made) : made.index = index := by
  simp only [normalizeChoice,bind_eq_ok] at built
  obtain ⟨message,_,content,_,built⟩ := built
  cases content with
  | str s =>
    obtain ⟨reason,_,same⟩ := bind_eq_ok.mp built
    cases same
    rfl
  | _ => cases built

theorem normalizeChoices_only (index : Nat) (choices : List Json) :
    Only Malformed (normalizeChoices rt reprStr index choices) := by
  induction choices generalizing index with
  | nil => exact only_ok
  | cons choice rest ih => exact (normalizeChoice_only index choice).bind fun _ _ => (ih _).bind fun _ _ => only_ok

theorem normalizeChoices_ok {index : Nat} {choices : List Json} :
    (∃ made, normalizeChoices rt reprStr index choices = .ok made) ↔
      ∀ choice ∈ choices, ReadableChoice rt reprStr choice := by
  induction choices generalizing index with
  | nil => exact iff_of_true ⟨[],rfl⟩ (by simp)
  | cons choice rest ih =>
    rw [List.forall_mem_cons,← @ih (index + 1),← @normalizeChoice_ok rt reprStr index]
    simp only [normalizeChoices,bind_eq_ok]
    constructor
    · rintro ⟨_,first,one,others,more,_⟩
      exact ⟨⟨first,one⟩,others,more⟩
    · rintro ⟨⟨first,one⟩,others,more⟩
      exact ⟨first :: others,first,one,others,more,rfl⟩

/-- The choices are numbered in their order. -/
theorem normalizeChoices_numbered {index : Nat} {choices : List Json} {made : List Choice}
    (built : normalizeChoices rt reprStr index choices = .ok made) (i : Nat) (inside : i < made.length) :
    made[i].index = index + i := by
  induction choices generalizing index made i with
  | nil =>
    cases built
    cases inside
  | cons choice rest ih =>
    simp only [normalizeChoices,bind_eq_ok] at built
    obtain ⟨first,one,others,more,same⟩ := built
    cases same
    cases i with
    | zero => simpa using normalizeChoice_index one
    | succ i =>
      have later := ih more i (by simpa using inside)
      simp only [List.getElem_cons_succ,later]
      omega

/-! ### OpenAI -/

theorem fixedShape_of_numbered {response : ProviderResponse}
    (numbered : ∀ (i : Nat) (inside : i < response.choices.length), response.choices[i].index = i) :
    FixedShape response.body := by
  refine ⟨response.id,response.model,response.choices.map Choice.body,response.promptTokens,response.completionTokens,rfl,?_⟩
  intro i inside
  have here : i < response.choices.length := by simpa using inside
  refine ⟨response.choices[i].content,response.choices[i].finishReason,?_⟩
  rw [List.getElem_map,Choice.body,numbered i here]
  rfl

theorem responseDict_only {choices : Except PyException (List Choice)} (only : Only Malformed choices) (data : Json)
    (fallbackModel : PyStr) (usage : Json) (promptKey completionKey : String) :
    Only (fun e => Malformed e ∨ e = .overflowError)
      (responseDict rt reprStr data fallbackModel choices usage promptKey completionKey) := by
  refine (or_overflow (get_only data _)).bind fun _ _ => (or_overflow (pyStr_only rt reprStr _)).bind fun _ _ => ?_
  refine (or_overflow (get_only data _)).bind fun _ _ => (or_overflow (pyStr_only rt reprStr _)).bind fun _ _ => ?_
  refine (or_overflow only).bind fun _ _ => (or_overflow (get_only usage _)).bind fun _ _ => (pyInt_only rt _).bind fun _ _ => ?_
  exact (or_overflow (get_only usage _)).bind fun _ _ => (pyInt_only rt _).bind fun _ _ => only_ok

theorem responseDict_choices {data : Json} {fallbackModel : PyStr} {choices : Except PyException (List Choice)} {usage : Json}
    {promptKey completionKey : String} {response : ProviderResponse}
    (built : responseDict rt reprStr data fallbackModel choices usage promptKey completionKey = .ok response) :
    choices = .ok response.choices := by
  simp only [responseDict,bind_eq_ok] at built
  obtain ⟨_,_,_,_,_,_,_,_,made,here,_,_,_,_,_,_,_,_,same⟩ := built
  cases same
  exact here

theorem rebuildOpenai_only (data : Json) (fallbackModel : PyStr) :
    Only (fun e => Malformed e ∨ e = .overflowError) (rebuildOpenai rt reprStr data fallbackModel) := by
  refine (or_overflow (subscript_only data _)).bind fun choices _ => ?_
  have mismatch : Only (fun e => Malformed e ∨ e = .overflowError) (.error .typeError : Except PyException ProviderResponse) :=
    only_error (.inl (.inr (.inl rfl)))
  cases choices with
  | arr items =>
    cases items with
    | nil => exact mismatch
    | cons first rest =>
      refine (or_overflow (normalizeChoices_only 0 _)).bind fun made _ => ?_
      exact (or_overflow (get_only data _)).bind fun usage _ => responseDict_only only_ok _ _ _ _ _
  | _ => exact mismatch

theorem rebuildOpenai_shape {data : Json} {fallbackModel : PyStr} {response : ProviderResponse}
    (built : rebuildOpenai rt reprStr data fallbackModel = .ok response) : FixedShape response.body := by
  obtain ⟨choices,_,built⟩ := bind_eq_ok.mp built
  cases choices with
  | arr items =>
    cases items with
    | nil => cases built
    | cons first rest =>
      obtain ⟨made,normalized,built⟩ := bind_eq_ok.mp built
      obtain ⟨usage,_,built⟩ := bind_eq_ok.mp built
      cases responseDict_choices built
      exact fixedShape_of_numbered fun i inside => by simpa using normalizeChoices_numbered normalized i inside
  | _ => cases built

theorem rebuildOpenai_overflow {data : List (PyStr × Json)} {fallbackModel : PyStr} :
    rebuildOpenai rt reprStr (.obj data) fallbackModel = .error .overflowError ↔
      OpenaiReadable rt reprStr data ∧ InfiniteUsage rt "prompt_tokens" "completion_tokens" data := by
  rw [rebuildOpenai,bind_raises (no_overflow (subscript_only _ _))]
  simp only [subscript_eq_ok,Json.obj.injEq,exists_eq_left']
  constructor
  · rintro ⟨choices,looked,raised⟩
    cases choices with
    | arr items =>
      cases items with
      | nil => cases raised
      | cons first rest =>
        obtain ⟨made,normalized,raised⟩ :=
          (bind_raises (no_overflow (normalizeChoices_only 0 _))).mp raised
        obtain ⟨⟨id,model⟩,_,infinite⟩ := (responseDict_overflow only_ok ..).mp raised
        exact ⟨⟨⟨_,looked,by simp,normalizeChoices_ok.mp ⟨made,normalized⟩⟩,id,model⟩,infinite⟩
    | _ => cases raised
  · rintro ⟨⟨⟨items,looked,some,readable⟩,id,model⟩,infinite⟩
    refine ⟨.arr items,looked,?_⟩
    obtain ⟨first,rest,rfl⟩ := List.exists_cons_of_ne_nil some
    obtain ⟨made,normalized⟩ := (@normalizeChoices_ok rt reprStr 0 _).mpr readable
    simp only [normalized,get_obj,ok_bind]
    exact (responseDict_overflow only_ok ..).mpr ⟨⟨id,model⟩,⟨made,rfl⟩,infinite⟩

/-! ### Anthropic -/

theorem isText_iff {value : Json} : isText value = true ↔ value = .str (lit "text") := by
  cases value <;> simp [isText]

theorem blockTexts_only (blocks : List Json) : Only Malformed (blockTexts blocks) := by
  induction blocks with
  | nil => exact only_ok
  | cons block rest ih =>
    refine (get_only block _).bind fun kind _ => ?_
    split
    · exact (subscript_only block _).bind fun _ _ => ih.bind fun _ _ => only_ok
    · exact ih

/-- The texts can be read and joined just when every text block has a string text. -/
theorem blockTexts_ok {blocks : List Json} :
    (∃ texts, blockTexts blocks = .ok texts ∧ ∀ text ∈ texts, ∃ s, text = .str s) ↔
      ∀ block ∈ blocks, ReadableBlock block := by
  induction blocks with
  | nil => exact iff_of_true ⟨[],rfl,by simp⟩ (by simp)
  | cons block rest ih =>
    rw [List.forall_mem_cons,← ih]
    cases block with
    | obj fields =>
      have here : ReadableBlock (.obj fields) ↔
          (entry fields "type" = .str (lit "text") → ∃ s, fields.lookup (lit "text") = some (.str s)) :=
        ⟨by rintro ⟨_,⟨⟩,texts⟩; exact texts,fun texts => ⟨fields,rfl,texts⟩⟩
      rw [here,← isText_iff]
      simp only [blockTexts,get_obj,ok_bind]
      by_cases marked : isText (entry fields "type") = true
      · simp only [marked,↓reduceIte,forall_const,bind_eq_ok,subscript_eq_ok,Json.obj.injEq,exists_eq_left']
        constructor
        · rintro ⟨_,⟨text,looked,others,more,⟨⟩⟩,strings⟩
          obtain ⟨s,rfl⟩ := strings text List.mem_cons_self
          exact ⟨⟨s,looked⟩,others,more,fun t member => strings t (List.mem_cons_of_mem _ member)⟩
        · rintro ⟨⟨s,looked⟩,others,more,strings⟩
          exact ⟨_,⟨.str s,looked,others,more,rfl⟩,List.forall_mem_cons.mpr ⟨⟨s,rfl⟩,strings⟩⟩
      · simp only [marked,Bool.false_eq_true,↓reduceIte,false_implies,true_and]
    | _ =>
      refine iff_of_false ?_ fun both => ?_
      · rintro ⟨texts,read,_⟩
        cases read
      · obtain ⟨_,⟨⟩,_⟩ := both.1

theorem iterate_readable {content : Json} :
    (∃ blocks, iterate content = .ok blocks ∧ ∀ block ∈ blocks, ReadableBlock block) ↔ ReadableContent content := by
  unfold ReadableContent
  have bare : ∀ s, ¬ ReadableBlock (.str s) := by
    rintro s ⟨_,⟨⟩,_⟩
  cases content with
  | arr items => simp [iterate]
  | str s =>
    cases s with
    | nil => simp [iterate]
    | cons c rest => simp [iterate,bare]
  | obj fields =>
    cases fields with
    | nil => simp [iterate]
    | cons first rest => simp [iterate,bare]
  | _ => simp [iterate]

theorem stopReason_only (data : Json) (text : PyStr) :
    Only Malformed ((finishReason rt reprStr data "stop_reason").map fun reason => [(⟨0,text,reason⟩ : Choice)]) :=
  (finishReason_only data "stop_reason").bind fun _ _ => only_ok

theorem rebuildAnthropic_only (data : Json) (model : PyStr) :
    Only (fun e => Malformed e ∨ e = .overflowError) (rebuildAnthropic rt reprStr data model) := by
  refine (or_overflow (subscript_only data _)).bind fun content _ => (or_overflow (iterate_only content)).bind fun blocks _ => ?_
  refine (or_overflow (blockTexts_only blocks)).bind fun texts _ => (or_overflow (join_only texts)).bind fun text _ => ?_
  exact (or_overflow (get_only data _)).bind fun usage _ => responseDict_only (stopReason_only data text) _ _ _ _ _

theorem rebuildAnthropic_shape {data : Json} {model : PyStr} {response : ProviderResponse}
    (built : rebuildAnthropic rt reprStr data model = .ok response) : FixedShape response.body := by
  simp only [rebuildAnthropic,bind_eq_ok] at built
  obtain ⟨_,_,_,_,_,_,text,_,_,_,built⟩ := built
  have choices := responseDict_choices built
  cases reason : finishReason rt reprStr data "stop_reason" with
  | error e => simp [reason,Except.map] at choices
  | ok s =>
    simp only [reason,Except.map,Except.ok.injEq] at choices
    refine fixedShape_of_numbered fun i inside => ?_
    simp only [← choices,List.length_singleton,Nat.lt_one_iff] at inside ⊢
    subst inside
    rfl

theorem rebuildAnthropic_overflow {data : List (PyStr × Json)} {model : PyStr} :
    rebuildAnthropic rt reprStr (.obj data) model = .error .overflowError ↔
      AnthropicReadable rt reprStr data ∧ InfiniteUsage rt "input_tokens" "output_tokens" data := by
  have texts : (∃ content, data.lookup (lit "content") = some content ∧ ∃ blocks, iterate content = .ok blocks ∧
        ∃ texts, blockTexts blocks = .ok texts ∧ ∃ text, join texts = .ok text) ↔
      ∃ content, data.lookup (lit "content") = some content ∧ ReadableContent content := by
    simp only [join_eq_ok,blockTexts_ok,iterate_readable]
  have reasons : ∀ text, (∃ made, ((finishReason rt reprStr (.obj data) "stop_reason").map fun reason =>
      [(⟨0,text,reason⟩ : Choice)]) = .ok made) ↔ Printable rt reprStr (entry data "stop_reason") := by
    intro text
    rw [← finishReason_ok]
    cases finishReason rt reprStr (.obj data) "stop_reason" <;> simp [Except.map]
  rw [AnthropicReadable,← texts,rebuildAnthropic,bind_raises (no_overflow (subscript_only _ _))]
  simp only [subscript_eq_ok,Json.obj.injEq,exists_eq_left']
  constructor
  · rintro ⟨content,looked,raised⟩
    obtain ⟨blocks,iterated,raised⟩ := (bind_raises (no_overflow (iterate_only content))).mp raised
    obtain ⟨read,found,raised⟩ := (bind_raises (no_overflow (blockTexts_only blocks))).mp raised
    obtain ⟨text,joins,raised⟩ := (bind_raises (no_overflow (join_only read))).mp raised
    obtain ⟨⟨id,model⟩,reason,infinite⟩ := (responseDict_overflow (stopReason_only (.obj data) text) ..).mp raised
    exact ⟨⟨⟨content,looked,blocks,iterated,read,found,text,joins⟩,id,model,(reasons text).mp reason⟩,infinite⟩
  · rintro ⟨⟨⟨content,looked,blocks,iterated,read,found,text,joins⟩,id,model,reason⟩,infinite⟩
    refine ⟨content,looked,?_⟩
    simp only [iterated,found,joins,get_obj,ok_bind]
    exact (responseDict_overflow (stopReason_only (.obj data) text) ..).mpr
      ⟨⟨id,model⟩,(reasons text).mpr reason,infinite⟩

/-- The dict reads four fields. -/
theorem responseDict_congr {data other usage count : Json} {promptKey completionKey : String}
    (id : get data "id" = get other "id") (model : get data "model" = get other "model")
    (prompt : get usage promptKey = get count promptKey) (completion : get usage completionKey = get count completionKey)
    (fallbackModel : PyStr) (choices : Except PyException (List Choice)) :
    responseDict rt reprStr data fallbackModel choices usage promptKey completionKey =
      responseDict rt reprStr other fallbackModel choices count promptKey completionKey := by
  simp only [responseDict,id,model,prompt,completion]

theorem normalizeChoice_kept (index : Nat) (choice : Json) :
    normalizeChoice rt reprStr index (choiceFields choice) = normalizeChoice rt reprStr index choice := by
  have message : subscript (choiceFields choice) "message" =
      (subscript choice "message").map (keepFields [(lit "content",id)]) := subscript_keepFields _ choice rfl
  have content : ∀ value, subscript (keepFields [(lit "content",id)] value) "content" = subscript value "content" :=
    fun value => subscript_kept _ value rfl
  have reason : get (choiceFields choice) "finish_reason" = get choice "finish_reason" := get_kept _ choice rfl
  simp only [normalizeChoice,finishReason,message,map_bind,content,reason]

theorem normalizeChoices_kept (index : Nat) (choices : List Json) :
    normalizeChoices rt reprStr index (choices.map choiceFields) = normalizeChoices rt reprStr index choices := by
  induction choices generalizing index with
  | nil => rfl
  | cons choice rest ih => simp only [List.map_cons,normalizeChoices,normalizeChoice_kept,ih]

theorem rebuildOpenai_kept (data : Json) (fallbackModel : PyStr) :
    rebuildOpenai rt reprStr (openaiFields data) fallbackModel = rebuildOpenai rt reprStr data fallbackModel := by
  have choices : subscript (openaiFields data) "choices" = (subscript data "choices").map (keepItems choiceFields) :=
    subscript_keepFields _ data rfl
  have usage : get (openaiFields data) "usage" = (get data "usage").map (usageFields "prompt_tokens" "completion_tokens") :=
    get_keepFields _ data rfl rfl
  have dict : ∀ choices value, responseDict rt reprStr (openaiFields data) fallbackModel choices
        (orElse (usageFields "prompt_tokens" "completion_tokens" value) (.obj [])) "prompt_tokens" "completion_tokens" =
      responseDict rt reprStr data fallbackModel choices (orElse value (.obj [])) "prompt_tokens" "completion_tokens" :=
    fun choices value => responseDict_congr (get_kept _ data rfl) (get_kept _ data rfl)
      (get_orElse_keepFields _ value rfl) (get_orElse_keepFields _ value rfl) ..
  simp only [rebuildOpenai,choices,usage,map_bind,dict]
  refine congrArg (subscript data "choices" >>= ·) (funext fun value => ?_)
  cases value with
  | arr items =>
    cases items with
    | nil => rfl
    | cons first rest =>
      have turns := @normalizeChoices_kept rt reprStr 0 (first :: rest)
      simp only [keepItems,List.map_cons] at turns ⊢
      rw [turns]
  | _ => rfl

theorem blockTexts_kept (blocks : List Json) :
    blockTexts (blocks.map (keepFields [(lit "type",id),(lit "text",id)])) = blockTexts blocks := by
  induction blocks with
  | nil => rfl
  | cons block rest ih =>
    have kind : get (keepFields [(lit "type",id),(lit "text",id)] block) "type" = get block "type" := get_kept _ block rfl
    have text : subscript (keepFields [(lit "type",id),(lit "text",id)] block) "text" = subscript block "text" :=
      subscript_kept _ block rfl
    simp only [List.map_cons,blockTexts,kind,text,ih]

theorem rebuildAnthropic_kept (data : Json) (model : PyStr) :
    rebuildAnthropic rt reprStr (anthropicFields data) model = rebuildAnthropic rt reprStr data model := by
  have content : subscript (anthropicFields data) "content" =
      (subscript data "content").map (keepItems (keepFields [(lit "type",id),(lit "text",id)])) :=
    subscript_keepFields _ data rfl
  have usage : get (anthropicFields data) "usage" = (get data "usage").map (usageFields "input_tokens" "output_tokens") :=
    get_keepFields _ data rfl rfl
  have reason : finishReason rt reprStr (anthropicFields data) "stop_reason" = finishReason rt reprStr data "stop_reason" :=
    congrArg (· >>= fun value => pyStr rt reprStr (orElse value (.str (lit "stop")))) (get_kept _ data rfl)
  have dict : ∀ choices value, responseDict rt reprStr (anthropicFields data) model choices
        (orElse (usageFields "input_tokens" "output_tokens" value) (.obj [])) "input_tokens" "output_tokens" =
      responseDict rt reprStr data model choices (orElse value (.obj [])) "input_tokens" "output_tokens" :=
    fun choices value => responseDict_congr (get_kept _ data rfl) (get_kept _ data rfl)
      (get_orElse_keepFields _ value rfl) (get_orElse_keepFields _ value rfl) ..
  simp only [rebuildAnthropic,content,usage,reason,map_bind,dict]
  refine congrArg (subscript data "content" >>= ·) (funext fun value => ?_)
  cases value with
  | arr items => simp only [keepItems,iterate,ok_bind,blockTexts_kept]
  | _ => rfl

/-! ### Both adapters -/

/-- A dict with a status below 400 is returned; anything else is one of the provider errors. -/
theorem postJson_spec (transport : HttpRequest → HttpOutcome) (request : HttpRequest) :
    (∃ status fields, transport request = .response status (some (.obj fields)) ∧ status < 400 ∧
        postJson transport request = .ok (.obj fields)) ∨
      (∀ status fields, transport request = .response status (some (.obj fields)) → 400 ≤ status) ∧
        ∃ error ∈ [providerTimeoutError,providerAuthError,providerResponseError],
          postJson transport request = .error (.gateway error) := by
  rw [postJson]
  cases transport request with
  | timeout => exact .inr ⟨by simp,_,by simp,rfl⟩
  | httpError => exact .inr ⟨by simp,_,by simp,rfl⟩
  | response status json =>
    simp only [HttpOutcome.response.injEq]
    split_ifs with auth high
    · exact .inr ⟨by rintro _ _ ⟨rfl,_⟩; omega,_,by simp,rfl⟩
    · exact .inr ⟨by rintro _ _ ⟨rfl,_⟩; exact high,_,by simp,rfl⟩
    · rcases json with _ | value
      · exact .inr ⟨by simp,_,by simp,rfl⟩
      · cases value with
        | obj fields => exact .inl ⟨status,fields,⟨rfl,rfl⟩,by omega,rfl⟩
        | _ => exact .inr ⟨by simp,_,by simp,rfl⟩

theorem postJson_keep (kept : List (PyStr × (Json → Json))) (outcome : HttpOutcome) (request : HttpRequest) :
    postJson (fun _ => outcome.keep (keepFields kept)) request =
      (postJson (fun _ => outcome) request).map (keepFields kept) := by
  cases outcome with
  | timeout => rfl
  | httpError => rfl
  | response status json =>
    simp only [postJson,HttpOutcome.keep]
    split_ifs
    · rfl
    · rfl
    · rcases json with _ | value
      · rfl
      · cases value <;> rfl

/-- An adapter that rebuilds the reply inside a `try` block is contained but for an overflow. -/
theorem contained_iff {kept : List (PyStr × (Json → Json))} {caught : PyException → Bool}
    {rebuild : Json → Except PyException ProviderResponse} {readable : List (PyStr × Json) → Prop}
    {promptKey completionKey : String} (request : HttpRequest) (catches : ∀ e, Malformed e → caught e = true)
    (lets : caught .overflowError = false)
    (only : ∀ data, Only (fun e => Malformed e ∨ e = .overflowError) (rebuild data))
    (shape : ∀ data response, rebuild data = .ok response → FixedShape response.body)
    (overflow : ∀ data, rebuild (.obj data) = .error .overflowError ↔
      readable data ∧ InfiniteUsage rt promptKey completionKey data)
    (whitelist : ∀ data, rebuild (keepFields kept data) = rebuild data) (outcome : HttpOutcome) :
    Contained (fun outcome => postJson (fun _ => outcome) request >>= fun data =>
        converting caught (.gateway providerResponseError) (rebuild data)) (keepFields kept) outcome ↔
      ¬ Overflows rt readable promptKey completionKey outcome := by
  have same : ∀ outcome : HttpOutcome, (postJson (fun _ => outcome.keep (keepFields kept)) request >>= fun data =>
        converting caught (.gateway providerResponseError) (rebuild data)) =
      postJson (fun _ => outcome) request >>= fun data =>
        converting caught (.gateway providerResponseError) (rebuild data) := by
    intro outcome
    rw [postJson_keep,map_bind]
    simp only [whitelist]
  have settles : Contained (fun outcome => postJson (fun _ => outcome) request >>= fun data =>
        converting caught (.gateway providerResponseError) (rebuild data)) (keepFields kept) outcome ↔
      Settled (postJson (fun _ => outcome) request >>= fun data =>
        converting caught (.gateway providerResponseError) (rebuild data)) := by
    refine ⟨fun contained => contained.settled,fun settled => ⟨settled,fun other agree => ?_⟩⟩
    simp only [← same other,← same outcome,agree]
  rw [settles]
  rcases postJson_spec (fun _ => outcome) request with ⟨status,data,rfl,low,posted⟩ | ⟨high,error,provider,posted⟩
  · simp only [posted,ok_bind,Overflows,low,true_and,← overflow]
    rcases converting_cases ((only (.obj data)).mono fun e => Or.imp_left (catches e)) (.gateway providerResponseError) with
      ⟨response,built,made⟩ | ⟨e,raised,kind,made⟩ | ⟨raised,_,made⟩
    · rw [made,built]
      exact iff_of_true (.inl ⟨response,rfl,shape _ _ built⟩) (by simp)
    · rw [made,raised]
      refine iff_of_true (.inr ⟨_,by simp,rfl⟩) ?_
      rintro ⟨⟩
      rw [lets] at kind
      cases kind
    · rw [made,raised]
      refine iff_of_false ?_ (by simp)
      rintro (⟨_,⟨⟩,_⟩ | ⟨_,_,⟨⟩⟩)
  · rw [posted,error_bind]
    refine iff_of_true (.inr ⟨error,provider,rfl⟩) ?_
    cases outcome with
    | response status json =>
      rcases json with _ | value
      · exact id
      · cases value with
        | obj data => exact fun overflows => absurd overflows.1 (Nat.not_lt.mpr (high status data rfl))
        | _ => exact id
    | _ => exact id

end

theorem openaiCaught_malformed {e : PyException} (malformed : Malformed e) : openaiCaught e = true := by
  rcases malformed with rfl | rfl | rfl | rfl <;> rfl

theorem anthropicCaught_malformed {e : PyException} (malformed : Malformed e) : anthropicCaught e = true := by
  rcases malformed with rfl | rfl | rfl | rfl <;> rfl

/-- Both adapters are contained just when they do not reach an infinite usage count. -/
theorem adapters_contained_iff (rt : Runtime) (reprStr : PyStr → PyStr) (apiKey baseUrl : PyStr) (call : ProviderCall)
    (outcome : HttpOutcome) :
    (Contained (fun outcome => OpenAIAdapter.chat rt reprStr (.create apiKey baseUrl fun _ => outcome) call) openaiFields
        outcome ↔
      ¬ Overflows rt (OpenaiReadable rt reprStr) "prompt_tokens" "completion_tokens" outcome) ∧
    (Contained (fun outcome => AnthropicAdapter.chat rt reprStr (.create apiKey baseUrl fun _ => outcome) call)
        anthropicFields outcome ↔
      ¬ Overflows rt (AnthropicReadable rt reprStr) "input_tokens" "output_tokens" outcome) := by
  constructor
  · exact contained_iff (OpenAIAdapter.request (.create apiKey baseUrl fun _ => outcome) call)
      (fun _ => openaiCaught_malformed) rfl (fun data => rebuildOpenai_only data call.model) (fun _ _ => rebuildOpenai_shape)
      (fun _ => rebuildOpenai_overflow) (fun data => rebuildOpenai_kept data call.model) outcome
  · exact contained_iff (AnthropicAdapter.request (.create apiKey baseUrl fun _ => outcome) call)
      (fun _ => anthropicCaught_malformed) rfl (fun data => rebuildAnthropic_only data call.model)
      (fun _ _ => rebuildAnthropic_shape) (fun _ => rebuildAnthropic_overflow)
      (fun data => rebuildAnthropic_kept data call.model) outcome

def greetingCall : ProviderCall := ⟨lit "m",[⟨.user,lit "hi"⟩],none,none⟩

/-- A complete reply of either provider whose first usage count is parsed to an infinite float. -/
def endlessOpenai : HttpOutcome := .response 200 (some (.obj [
  field "choices" (.arr [.obj [field "message" (.obj [field "content" (.str (lit "hello"))])]]),
  field "usage" (.obj [field "prompt_tokens" (.float (.infinite false))])]))
def endlessAnthropic : HttpOutcome := .response 200 (some (.obj [
  field "content" (.arr [.obj [field "type" (.str (lit "text")),field "text" (.str (lit "hello"))]]),
  field "usage" (.obj [field "input_tokens" (.float (.infinite false))])]))

/-- Neither adapter returns, nor is one of the provider errors raised. -/
theorem endless_count_escapes :
    OpenAIAdapter.chat (plainRuntime [] []) id (.create (lit "k") openaiBaseUrl fun _ => endlessOpenai) greetingCall =
      .error .overflowError ∧
    AnthropicAdapter.chat (plainRuntime [] []) id (.create (lit "k") anthropicBaseUrl fun _ => endlessAnthropic)
        greetingCall = .error .overflowError ∧
    ¬ Settled (.error .overflowError) := by
  refine ⟨by decide +kernel,by decide +kernel,?_⟩
  rintro (⟨_,⟨⟩,_⟩ | ⟨_,_,⟨⟩⟩)

end PrivacyGateway.Adapters
