import PrivacyGateway.Conflicts
import PrivacyGateway.Handler
import PrivacyGateway.Positions
import PrivacyGateway.Rehydration

/-!
Whether the response scan leaves the caller's tokens alone. The scan analyzes the text as
the provider returned it, placeholders included, and replaces what is kept of the
detections; nothing keeps a detection off a token. A marker holds no part of a token, so
the tokens that are left are those that no detection touches (`tokens_survive_iff`).
-/
namespace PrivacyGateway.ResponseScan
open PrivacyGateway.Strings PrivacyGateway.Errors PrivacyGateway.JsonText PrivacyGateway.Scan PrivacyGateway.Spans PrivacyGateway.Decisions
open PrivacyGateway.Substitution PrivacyGateway.Positions PrivacyGateway.Tokenization PrivacyGateway.Mediator
open PrivacyGateway.Minting PrivacyGateway.Rehydration PrivacyGateway.Conflicts PrivacyGateway.Handler

/-- A mediator whose analyzer reports the given detections. -/
def reporting (policy : Policy) (report : PyStr → List RecognizerResult)
    (resolve : List RecognizerResult → List RecognizerResult) : PIIMediator :=
  resolving policy (fun _ text => .ok (report text)) resolve

/-- What `analyze` returns of the reported detections. -/
def analyzed (report : PyStr → List RecognizerResult) (content : PyStr) : List RecognizerResult :=
  if content = [] then [] else report content

/-- The content of a choice after the scan. -/
def scannedContent (policy : Policy) (report : PyStr → List RecognizerResult)
    (resolve : List RecognizerResult → List RecognizerResult) (content : PyStr) : PyStr :=
  splice content 0 ((arranged (kept (responsePolicy policy) resolve (analyzed report content))).map
    fun g => (g,redactionMarker g.entityType))

/-- The scan succeeds, no minted token stands less often in a scanned choice than in the
    choice as the provider returned it, and in what is delivered all of them are replaced. -/
def TokensSurvive (gateway : Gateway) (body : ChatCompletionRequest) (ctx : TokenizationContext)
    (response : ProviderResponse) : Prop :=
  ∃ after, scanned gateway response = .ok (after,true) ∧
    List.Forall₂ (fun choice left => ∀ token, MintedToken ctx token →
      (positions token choice.content).card ≤ (positions token left.content).card) response.choices after.choices ∧
    List.Forall₂ (fun left final => final.content = substituteAll (items ctx) left.content) after.choices
      (delivered body (some ctx) after).choices

/-- No detection of a type that the policy lists with another action than ALLOW touches a
    token of the request. -/
def Untouched (policy : Policy) (report : PyStr → List RecognizerResult) (ctx : TokenizationContext)
    (response : ProviderResponse) : Prop :=
  ∀ choice ∈ response.choices, ∀ token, MintedToken ctx token → ∀ i ∈ positions token choice.content,
    ∀ d ∈ report choice.content, ∀ action, policy.lookup d.entityType = some action → action ≠ .allow → Clear token i d

theorem responsePolicy_untokenized (policy : Policy) (entityType : PyStr) :
    (responsePolicy policy).lookup entityType ≠ some .tokenize := by
  rw [lookup_responsePolicy]
  rcases policy.lookup entityType with _ | _ | _ | _ | _ <;> simp

theorem mediated_response {policy : Policy} {d : RecognizerResult} :
    mediated (responsePolicy policy) d = true ↔ ∃ action, policy.lookup d.entityType = some action ∧ action ≠ .allow := by
  rw [mediated,lookup_responsePolicy]
  rcases policy.lookup d.entityType with _ | _ | _ | _ | _ <;> simp

section
variable {policy : Policy} {report : PyStr → List RecognizerResult}
variable {resolve : List RecognizerResult → List RecognizerResult}

/-- The response mediator's `apply`, which is given no context. -/
theorem apply_scan (resolves : Resolves resolve) (content : PyStr) :
    (cloneWithPolicy (reporting policy report resolve) (responsePolicy policy)).apply content (analyzed report content) none =
      (.ok (scannedContent policy report resolve content),none) := by
  rw [PIIMediator.apply,scannedContent,kept]
  have unblocked : ∀ r ∈ analyzed report content, (responsePolicy policy).lookup r.entityType ≠ some .block :=
    fun r _ => responsePolicy_unblocked policy r.entityType
  have chosen : actionable (cloneWithPolicy (reporting policy report resolve) (responsePolicy policy)).policy
      (analyzed report content) = .ok ((analyzed report content).filter (mediated (responsePolicy policy))) :=
    actionable_unblocked unblocked
  rw [chosen]
  cases (analyzed report content).filter (mediated (responsePolicy policy)) with
  | nil =>
    rw [resolve_nil resolves]
    rfl
  | cons r rest =>
    have untokenized : ((r :: rest).any fun s => (responsePolicy policy).lookup s.entityType = some .tokenize) = false := by
      refine List.any_eq_false.mpr fun s _ => ?_
      simpa using responsePolicy_untokenized policy s.entityType
    have called := anonymize_redacting resolves content (r :: rest)
    exact (if_neg (by rw [Bool.not_eq_true]; exact untokenized)).trans (congrArg (fun out => (out.1,none)) called)

theorem scanChoices_reporting (resolves : Resolves resolve) (i : Nat) (choices : List Choice) :
    scanChoices (mediatorCalls (cloneWithPolicy (reporting policy report resolve) (responsePolicy policy))) i choices =
      .ok (choices.map fun c => { c with content := scannedContent policy report resolve c.content }) := by
  induction choices generalizing i with
  | nil => rfl
  | cons choice rest ih =>
    have found : (cloneWithPolicy (reporting policy report resolve) (responsePolicy policy)).analyze choice.content =
        .ok (analyzed report choice.content) := by
      rw [PIIMediator.analyze,analyzed]
      split_ifs <;> rfl
    have applied := congrArg Prod.fst (@apply_scan policy report resolve resolves choice.content)
    simp only [scanChoices,mediatorCalls,found,Except.bind,applied]
    have later := ih (i + 1)
    simp only [mediatorCalls] at later
    rw [later]
    rfl

end

/-- No occurrence of a token reaches into a marker. -/
theorem barrier_marker {token : PyStr} (spelled : Spells tokenPattern token) {entityType : PyStr}
    (plain : .scalar '[' ∉ entityType) : Barrier token (redactionMarker entityType) := by
  intro before after i stands
  obtain ⟨rest,same⟩ := stands
  have fenced : Fenced (redactionMarker entityType ++ after) :=
    .inr ⟨.scalar 'R',lit "EDACTED:" ++ (entityType ++ lit "]") ++ after,rfl,by decide⟩
  have whole : before ++ (redactionMarker entityType ++ after) =
      (before ++ (redactionMarker entityType ++ after)).take i ++ token ++ rest := by
    rw [List.append_assoc,same,List.take_append_drop]
  rcases Nat.lt_or_ge i before.length with early | late
  · have reach : ((before ++ (redactionMarker entityType ++ after)).take i).length = i := by
      rw [List.length_take,List.length_append]
      omega
    have ends := match_contained fenced spelled whole (by omega)
    rw [List.length_append,reach] at ends
    exact .inl ends
  · refine .inr ?_
    by_contra inside
    obtain ⟨k,rfl⟩ := Nat.exists_eq_add_of_le late
    obtain ⟨tail,rfl,_⟩ := spells_head spelled
    rw [List.drop_append,List.drop_eq_nil_iff.mpr (Nat.le_add_right _ k),List.nil_append,Nat.add_sub_cancel_left] at same
    cases k with
    | zero => simp [redactionMarker,lit,str] at same
    | succ k =>
      -- Behind its first character the marker holds no opening bracket.
      have free : PyChar.scalar '[' ∉ (redactionMarker entityType).drop (k + 1) := by
        have shape : redactionMarker entityType = .scalar '[' :: (lit "REDACTED:" ++ (entityType ++ lit "]")) := rfl
        rw [shape,List.drop_succ_cons]
        intro member
        have within := List.mem_of_mem_drop member
        simp only [List.mem_append] at within
        have ends : PyChar.scalar '[' ∉ lit "REDACTED:" ∧ PyChar.scalar '[' ∉ lit "]" := by decide
        tauto
      rw [List.drop_append_of_le_length (by omega)] at same
      cases begins : (redactionMarker entityType).drop (k + 1) with
      | nil =>
        have short := congrArg List.length begins
        rw [List.length_drop,List.length_nil] at short
        omega
      | cons c more =>
        rw [begins] at same free
        have first : PyChar.scalar '[' = c := (List.cons.inj same).1
        exact free (first ▸ List.mem_cons_self)

section
variable {policy : Policy} {report : PyStr → List RecognizerResult}
variable {resolve : List RecognizerResult → List RecognizerResult} {ctx : TokenizationContext}

/-- The scan of one choice leaves all occurrences of a token just when no detection that
    it acts on touches one. -/
theorem content_survives_iff (resolves : Resolves resolve) (reached : Reached EntityName ctx) {content : PyStr}
    (formed : ∀ d ∈ report content, d.start ≤ d.stop) (plain : ∀ d ∈ report content, .scalar '[' ∉ d.entityType)
    {token : PyStr} (minted : MintedToken ctx token) :
    (positions token content).card ≤ (positions token (scannedContent policy report resolve content)).card ↔
      ∀ i ∈ positions token content, ∀ d ∈ report content, ∀ action, policy.lookup d.entityType = some action →
        action ≠ .allow → Clear token i d := by
  have spelled := spells_mintedToken reached minted
  have filled : token ≠ [] := fun empty => tokenPattern_prefixFree.nonempty (empty ▸ spelled)
  by_cases empty : content = []
  · subst empty
    have nowhere : positions token [] = ∅ := rfl
    simp [nowhere]
  have resolution := resolves ((analyzed report content).filter (mediated (responsePolicy policy)))
  have reported : ∀ {d}, d ∈ (analyzed report content).filter (mediated (responsePolicy policy)) ↔
      d ∈ report content ∧ ∃ action, policy.lookup d.entityType = some action ∧ action ≠ .allow := by
    intro d
    rw [List.mem_filter,analyzed,if_neg empty,mediated_response]
  have formedKept : ∀ g ∈ kept (responsePolicy policy) resolve (analyzed report content), g.start ≤ g.stop :=
    fun g member => (resolution.merged g member).formed fun d chosen => formed d (reported.mp chosen).1
  have plainKept : ∀ g ∈ kept (responsePolicy policy) resolve (analyzed report content), .scalar '[' ∉ g.entityType := by
    intro g member
    obtain ⟨d,chosen,made⟩ := resolution.merged g member
    rw [made.entityType]
    exact plain d (reported.mp chosen).1
  rw [scannedContent,positions_kept_iff filled]
  · refine forall₂_congr fun i _ => ?_
    have touched := kept_touches_iff resolution (Nat.le_add_right i token.length)
    constructor
    · intro clear d member action listed acts
      by_contra touches
      unfold Clear at touches
      push Not at touches
      obtain ⟨k,inKept,begins,ends⟩ := touched.mpr ⟨d,reported.mpr ⟨member,action,listed,acts⟩,touches.2,touches.1⟩
      rcases clear (k,redactionMarker k.entityType) (List.mem_map_of_mem (mem_arranged.mpr inKept)) with before | after
      · exact absurd ends (Nat.not_lt.mpr before)
      · exact absurd begins (Nat.not_lt.mpr after)
    · intro clear p member
      obtain ⟨k,inKept,rfl⟩ := List.mem_map.mp member
      by_contra touches
      unfold Clear at touches
      push Not at touches
      obtain ⟨d,chosen,begins,ends⟩ := touched.mp ⟨k,mem_arranged.mp inKept,touches.2,touches.1⟩
      obtain ⟨listed,action,found,acts⟩ := reported.mp chosen
      rcases clear d listed action found acts with before | after
      · exact absurd ends (Nat.not_lt.mpr before)
      · exact absurd begins (Nat.not_lt.mpr after)
  · intro p member
    obtain ⟨k,inKept,rfl⟩ := List.mem_map.mp member
    exact barrier_marker spelled (plainKept k (mem_arranged.mp inKept))
  · intro p member
    obtain ⟨k,inKept,rfl⟩ := List.mem_map.mp member
    exact formedKept k (mem_arranged.mp inKept)
  · exact List.pairwise_map.mpr resolution.ordered

end

/-- The response after the handler's scan. -/
def scannedResponse (policy : Policy) (report : PyStr → List RecognizerResult)
    (resolve : List RecognizerResult → List RecognizerResult) (response : ProviderResponse) : ProviderResponse :=
  { response with choices := response.choices.map fun c =>
      { c with content := scannedContent policy report resolve c.content } }

theorem scanned_reporting {settings : Settings} (append : Json → Except PyException Int)
    (chat : ProviderCall → Except PyException ProviderResponse) {policy : Policy} {report : PyStr → List RecognizerResult}
    {resolve : List RecognizerResult → List RecognizerResult} (response : ProviderResponse)
    (scans : settings.responseScanEnabled = true) (resolves : Resolves resolve) :
    scanned (createApp settings (reporting policy report resolve) append chat) response =
      .ok (scannedResponse policy report resolve response,true) := by
  have mediator : (createApp settings (reporting policy report resolve) append chat).responseMediator =
      some (mediatorCalls (cloneWithPolicy (reporting policy report resolve) (responsePolicy policy))) := if_pos scans
  rw [scanned,mediator]
  exact congrArg (Except.map _) (scanChoices_reporting resolves 0 response.choices)

/-- What is delivered has every token of the scanned choices replaced. -/
theorem delivered_restores {body : ChatCompletionRequest} (rehydrates : body.rehydrate = true) {ctx : TokenizationContext}
    (reached : Reached EntityName ctx) (after : ProviderResponse) :
    List.Forall₂ (fun left final => final.content = substituteAll (items ctx) left.content) after.choices
      (delivered body (some ctx) after).choices := by
  simp only [delivered]
  by_cases empty : ctx.length = 0
  · have untold : items ctx = [] := List.map_eq_nil_iff.mp ((keys_items ctx).trans (List.length_eq_zero_iff.mp empty))
    rw [if_neg (by simp [empty]),List.forall₂_same,untold]
    exact fun left _ => (substituteAll_self fun entry listed => absurd listed List.not_mem_nil).symm
  · rw [if_pos (by simp [rehydrates,empty])]
    refine List.forall₂_map_right_iff.mpr (List.forall₂_same.mpr fun left _ => ?_)
    exact rehydrate_substituteAll reached left.content

/-- All tokens survive the scan, however conflicts are resolved, just when no detection
    that it acts on touches one. -/
theorem tokens_survive_iff (settings : Settings) (append : Json → Except PyException Int)
    (chat : ProviderCall → Except PyException ProviderResponse) (policy : Policy) (report : PyStr → List RecognizerResult)
    {body : ChatCompletionRequest} {ctx : TokenizationContext} {response : ProviderResponse}
    (scans : settings.responseScanEnabled = true) (rehydrates : body.rehydrate = true) (reached : Reached EntityName ctx)
    (formed : ∀ choice ∈ response.choices, ∀ d ∈ report choice.content, d.start ≤ d.stop)
    (plain : ∀ choice ∈ response.choices, ∀ d ∈ report choice.content, .scalar '[' ∉ d.entityType) :
    (∀ resolve, Resolves resolve →
      TokensSurvive (createApp settings (reporting policy report resolve) append chat) body ctx response) ↔
      Untouched policy report ctx response := by
  constructor
  · intro always
    obtain ⟨resolve,resolves,_⟩ := exists_resolver ⟨[],0,0,0⟩
    obtain ⟨after,result,survive,_⟩ := always resolve resolves
    rw [scanned_reporting append chat response scans resolves] at result
    obtain ⟨rfl,_⟩ := Prod.mk.inj (Except.ok.inj result)
    rw [scannedResponse,List.forall₂_map_right_iff,List.forall₂_same] at survive
    intro choice member token minted
    exact (content_survives_iff resolves reached (formed choice member) (plain choice member) minted).mp
      (survive choice member token minted)
  · intro untouched resolve resolves
    refine ⟨_,scanned_reporting append chat response scans resolves,?_,delivered_restores rehydrates reached _⟩
    refine List.forall₂_map_right_iff.mpr (List.forall₂_same.mpr fun choice member token minted => ?_)
    exact (content_survives_iff resolves reached (formed choice member) (plain choice member) minted).mpr
      (untouched choice member token minted)

def askedBack : ChatCompletionRequest := ⟨lit "m",[⟨.user,lit "I am Ann"⟩],none,none,∅,true⟩
def echo (content : PyStr) : ProviderResponse := ⟨lit "r",lit "m",[⟨0,content,lit "stop"⟩],1,1⟩
def scanningSettings : Settings := ⟨lit "mock",false,true⟩

/-- The token of `oneName`. -/
def nameToken : PyStr := tokenText sampleNamespace (lit "PERSON") 1

theorem mintedToken_oneName {token : PyStr} : MintedToken oneName token ↔ token = nameToken := List.mem_singleton

/-- A detector that finds a name in the greeting before the token. -/
def greeted (_ : PyStr) : List RecognizerResult := [⟨lit "PERSON",3,6,17/20⟩]
/-- A detector that takes the label in the token for a name. -/
def mistaken (_ : PyStr) : List RecognizerResult := [⟨lit "PERSON",2,23,17/20⟩]

theorem tokens_survive_iff_greeted : Reached EntityName oneName ∧ ∀ resolve, Resolves resolve →
    TokensSurvive (createApp scanningSettings (reporting defaultPolicy greeted resolve) (fun _ => .ok 1)
      (fun _ => .error .valueError)) askedBack oneName (echo (lit "Hi Bob, " ++ nameToken)) := by
  refine ⟨oneName_reached,(tokens_survive_iff scanningSettings _ _ defaultPolicy greeted rfl rfl oneName_reached ?_ ?_).mpr ?_⟩
  · intro choice _ d member
    rw [List.mem_singleton.mp member]
    decide
  · intro choice _ d member
    rw [List.mem_singleton.mp member]
    decide
  · intro choice member token minted i stands d reported _ _ _
    rw [List.mem_singleton.mp member,mintedToken_oneName.mp minted] at stands
    rw [List.mem_singleton.mp reported,mintedToken_oneName.mp minted]
    have only : positions nameToken (lit "Hi Bob, " ++ nameToken) = {8} := by decide
    rw [show i = 8 from Finset.mem_singleton.mp (only ▸ stands)]
    decide

/-- The token is overwritten, and the caller gets a marker instead of the name. -/
theorem tokens_survive_fails : (∃ resolve, Resolves resolve) ∧ Reached EntityName oneName ∧
    MintedToken oneName nameToken ∧ ∀ resolve, Resolves resolve →
      ¬ TokensSurvive (createApp scanningSettings (reporting defaultPolicy mistaken resolve) (fun _ => .ok 1)
        (fun _ => .error .valueError)) askedBack oneName (echo nameToken) := by
  refine ⟨⟨_,(exists_resolver ⟨[],0,0,0⟩).choose_spec.1⟩,oneName_reached,mintedToken_oneName.mpr rfl,?_⟩
  rintro resolve resolves ⟨after,result,survive,_⟩
  have lost := (@content_survives_iff defaultPolicy mistaken resolve oneName resolves oneName_reached nameToken
    (fun d member => by rw [List.mem_singleton.mp member]; decide)
    (fun d member => by rw [List.mem_singleton.mp member]; decide) nameToken (mintedToken_oneName.mpr rfl)).mp ?_
  · have touched := lost 0 (by decide) ⟨lit "PERSON",2,23,17/20⟩ List.mem_cons_self .tokenize (by decide) (by decide)
    revert touched
    decide
  · rw [scanned_reporting _ _ _ rfl resolves] at result
    obtain ⟨rfl,_⟩ := Prod.mk.inj (Except.ok.inj result)
    exact (List.forall₂_cons.mp survive).1 nameToken (mintedToken_oneName.mpr rfl)

end PrivacyGateway.ResponseScan
