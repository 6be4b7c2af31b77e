import PrivacyGateway.Decisions
import PrivacyGateway.Spans
import PrivacyGateway.Tokenization

/-!
The PII mediator: `apply` turns the detections of a message into operators and has
Presidio's anonymizer replace their spans, `redact_all` removes every detection.
Analyzer and anonymizer are parameters. For pairwise disjoint spans the anonymizer
is assumed to put each operator's output in the place of its span and nothing else
(`ReplacesSpans`); its order of calls is from right to left (`ReplacesRightToLeft`).
-/
namespace PrivacyGateway.Mediator
open PrivacyGateway.Strings PrivacyGateway.Errors PrivacyGateway.Decisions
open PrivacyGateway.Spans PrivacyGateway.Tokenization

/-- `RecognizerResult`: a detection of an entity type at `text[start:stop]`. -/
structure RecognizerResult where
  entityType : PyStr
  start : Nat
  stop : Nat
  score : Rat
  deriving DecidableEq

instance : Spanned RecognizerResult := ⟨RecognizerResult.start,RecognizerResult.stop⟩

/-- `OperatorConfig`: a callable that reads and writes a state, or a fixed new value. -/
inductive Operator (σ : Type) where
  | custom (operator : PyStr → σ → PyStr × σ)
  | replace (newValue : PyStr)

def Operator.run {σ : Type} : Operator σ → PyStr → σ → PyStr × σ
  | .custom operator, original, s => operator original s
  | .replace newValue, _, s => (newValue,s)

/-- `AnonymizerEngine`: text, detections and the operator of each entity type. -/
structure Anonymizer where
  anonymize : {σ : Type} → PyStr → List RecognizerResult → (PyStr → Option (Operator σ)) → σ →
    Except PyException PyStr × σ

/-- The operator calls on the given detections one after the other, with their outputs. -/
def runOperators {σ : Type} (operators : PyStr → Option (Operator σ)) (text : PyStr) :
    List RecognizerResult → σ → Option (List (RecognizerResult × PyStr) × σ)
  | [], s => some ([],s)
  | r :: rest, s =>
    (operators r.entityType).bind fun operator =>
      let (out,next) := operator.run (slice text r.start r.stop) s
      (runOperators operators text rest next).map fun (outs,last) => ((r,out) :: outs,last)

/-- For disjoint spans, each span is replaced by its operator's output on the text
    it covers, in whatever order the operators are called. -/
def ReplacesSpans (anonymizer : Anonymizer) : Prop :=
  ∀ {σ : Type} (text : PyStr) (results : List RecognizerResult) (operators : PyStr → Option (Operator σ)) (s : σ),
    Separate text.length results → (∀ r ∈ results, (operators r.entityType).isSome) →
    ∃ calls outs last placed, calls.Perm results ∧ runOperators operators text calls s = some (outs,last) ∧
      placed.Perm outs ∧ placed.map Prod.fst = arranged results ∧
      anonymizer.anonymize text results operators s = (.ok (splice text 0 placed),last)

/-- The same with the operators called from the last span to the first. -/
def ReplacesRightToLeft (anonymizer : Anonymizer) : Prop :=
  ∀ {σ : Type} (text : PyStr) (results : List RecognizerResult) (operators : PyStr → Option (Operator σ)) (s : σ),
    Separate text.length results → (∀ r ∈ results, (operators r.entityType).isSome) →
    ∃ outs last, runOperators operators text (arranged results).reverse s = some (outs,last) ∧
      anonymizer.anonymize text results operators s = (.ok (splice text 0 outs.reverse),last)

/-- `f"[REDACTED:{entity_type}]"` -/
def redactionMarker (entityType : PyStr) : PyStr := lit "[REDACTED:" ++ (entityType ++ lit "]")

/-- `PIIMediator`; `detect` is the analyzer with its language and threshold, given
    the entity types to look for. -/
structure PIIMediator where
  policy : Policy
  detect : List PyStr → PyStr → Except PyException (List RecognizerResult)
  anonymizer : Anonymizer

/-- `analyze(text)` -/
def PIIMediator.analyze (mediator : PIIMediator) (text : PyStr) : Except PyException (List RecognizerResult) :=
  if text = [] then .ok [] else mediator.detect mediator.policy.keys text

/-- The first loop of `apply`: the detections to tokenize or redact; a BLOCK one raises. -/
def actionable (policy : Policy) : List RecognizerResult → Except PyException (List RecognizerResult)
  | [] => .ok []
  | r :: rest =>
    match policy.lookup r.entityType with
    | some .block => .error .runtimeError
    | some .tokenize | some .redact => (actionable policy rest).map (r :: ·)
    | some .allow | none => actionable policy rest

/-- The operators of `apply`, with the context that `_make_tokenizer` closes over as state. -/
def operators (policy : Policy) (spans : List RecognizerResult) (entityType : PyStr) :
    Option (Operator TokenizationContext) :=
  if entityType ∈ spans.map RecognizerResult.entityType then
    if policy.lookup entityType = some .tokenize then
      some (.custom fun original ctx => ctx.tokenFor entityType original)
    else some (.replace (redactionMarker entityType))
  else none

/-- Operators that redact, whatever the policy. -/
def redactOperators (spans : List RecognizerResult) (entityType : PyStr) : Option (Operator Unit) :=
  if entityType ∈ spans.map RecognizerResult.entityType then some (.replace (redactionMarker entityType)) else none

/-- `apply(text, results, context)`; the context is returned as `apply` leaves it. -/
def PIIMediator.apply (mediator : PIIMediator) (text : PyStr) (results : List RecognizerResult)
    (context : Option TokenizationContext) : Except PyException PyStr × Option TokenizationContext :=
  match actionable mediator.policy results with
  | .error e => (.error e,context)
  | .ok [] => (.ok text,context)
  | .ok (r :: rest) =>
    match context with
    | some ctx =>
      let (out,after) := mediator.anonymizer.anonymize text (r :: rest) (operators mediator.policy (r :: rest)) ctx
      (out,some after)
    | none =>
      if (r :: rest).any (fun s => mediator.policy.lookup s.entityType = some .tokenize) then
        (.error .runtimeError,none)
      else ((mediator.anonymizer.anonymize text (r :: rest) (redactOperators (r :: rest)) ()).1,none)

/-- `redact_all(text, results)` -/
def PIIMediator.redactAll (mediator : PIIMediator) (text : PyStr) (results : List RecognizerResult) :
    Except PyException PyStr :=
  if results = [] then .ok text
  else (mediator.anonymizer.anonymize text results (redactOperators results) ()).1

/-- The sanitizing comprehension of the request handler: `apply` on every message
    in order, with one shared context; `apply` is told the number of the call. -/
def applyAll (apply : Nat → PyStr → List RecognizerResult → Option TokenizationContext →
      Except PyException PyStr × Option TokenizationContext) :
    Nat → List (PyStr × List RecognizerResult) → Option TokenizationContext →
      Except PyException (List PyStr) × Option TokenizationContext
  | _, [], context => (.ok [],context)
  | i, (text,results) :: rest, context =>
    match apply i text results context with
    | (.error e,after) => (.error e,after)
    | (.ok out,after) =>
      match applyAll apply (i + 1) rest after with
      | (.error e,last) => (.error e,last)
      | (.ok outs,last) => (.ok (out :: outs),last)

/-- The detections that `apply` replaces. -/
def mediated (policy : Policy) (r : RecognizerResult) : Bool :=
  policy.lookup r.entityType = some .tokenize || policy.lookup r.entityType = some .redact

/-- What stands in the place of one detection. -/
def substitute (policy : Policy) (r : RecognizerResult) (original : PyStr) (ctx : TokenizationContext) :
    PyStr × TokenizationContext :=
  if policy.lookup r.entityType = some .tokenize then ctx.tokenFor r.entityType original
  else (redactionMarker r.entityType,ctx)

/-- The substitutes of the given detections, minted one after the other. -/
def mint (policy : Policy) (text : PyStr) : List RecognizerResult → TokenizationContext →
    List (RecognizerResult × PyStr) × TokenizationContext
  | [], ctx => ([],ctx)
  | r :: rest, ctx =>
    let (out,next) := substitute policy r (slice text r.start r.stop) ctx
    let (outs,last) := mint policy text rest next
    ((r,out) :: outs,last)

theorem actionable_unblocked {policy : Policy} {results : List RecognizerResult}
    (unblocked : ∀ r ∈ results, policy.lookup r.entityType ≠ some .block) :
    actionable policy results = .ok (results.filter (mediated policy)) := by
  induction results with
  | nil => rfl
  | cons r rest ih =>
    have tail := ih (fun s member => unblocked s (List.mem_cons_of_mem r member))
    have here := unblocked r List.mem_cons_self
    rw [actionable,tail]
    cases action : policy.lookup r.entityType with
    | none => simp [mediated,action]
    | some a =>
      cases a with
      | block => exact absurd action here
      | allow => simp [mediated,action]
      | tokenize => simp [mediated,action,Except.map]
      | redact => simp [mediated,action,Except.map]

theorem mint_labels (policy : Policy) (text : PyStr) (calls : List RecognizerResult) (ctx : TokenizationContext) :
    (mint policy text calls ctx).1.map Prod.fst = calls := by
  induction calls generalizing ctx with
  | nil => rfl
  | cons r rest ih => rw [mint,List.map_cons,ih]

/-- The operators of `apply` on spans of the types they are for: the substitutes are minted. -/
theorem runOperators_operators {policy : Policy} {text : PyStr} {spans calls : List RecognizerResult}
    (typed : ∀ r ∈ calls, r.entityType ∈ spans.map RecognizerResult.entityType) (ctx : TokenizationContext) :
    runOperators (operators policy spans) text calls ctx = some (mint policy text calls ctx) := by
  induction calls generalizing ctx with
  | nil => rfl
  | cons r rest ih =>
    have tail := fun next => ih (fun s later => typed s (List.mem_cons_of_mem r later)) next
    rw [runOperators,mint,operators,if_pos (typed r List.mem_cons_self)]
    by_cases tokenized : policy.lookup r.entityType = some .tokenize
    · simp [tokenized,substitute,Operator.run,tail]
    · simp [tokenized,substitute,Operator.run,tail]

theorem runOperators_eq_mint {policy : Policy} {text : PyStr} {spans calls : List RecognizerResult}
    (among : ∀ r ∈ calls, r ∈ spans) (ctx : TokenizationContext) :
    runOperators (operators policy spans) text calls ctx = some (mint policy text calls ctx) :=
  runOperators_operators (fun r member => List.mem_map_of_mem (among r member)) ctx

/-- `apply` with a context and nothing blocked: the anonymizer's call, unless there is nothing to replace. -/
theorem apply_unblocked {mediator : PIIMediator} {text : PyStr} {results : List RecognizerResult}
    (unblocked : ∀ r ∈ results, mediator.policy.lookup r.entityType ≠ some .block) (ctx : TokenizationContext) :
    mediator.apply text results (some ctx) =
      let chosen := results.filter (mediated mediator.policy)
      if chosen = [] then (.ok text,some ctx)
      else ((mediator.anonymizer.anonymize text chosen (operators mediator.policy chosen) ctx).1,
        some (mediator.anonymizer.anonymize text chosen (operators mediator.policy chosen) ctx).2) := by
  rw [PIIMediator.apply,actionable_unblocked unblocked]
  cases results.filter (mediated mediator.policy) <;> rfl

private theorem operators_covered (policy : Policy) (spans : List RecognizerResult) :
    ∀ s ∈ spans, (operators policy spans s.entityType).isSome := by
  intro s member
  rw [operators,if_pos (List.mem_map_of_mem member)]
  split_ifs <;> rfl

/-- `apply` with a context on disjoint spans, none of them blocked. -/
theorem apply_separate {mediator : PIIMediator} (replaces : ReplacesSpans mediator.anonymizer) {text : PyStr}
    {results : List RecognizerResult} (separate : Separate text.length results)
    (unblocked : ∀ r ∈ results, mediator.policy.lookup r.entityType ≠ some .block) (ctx : TokenizationContext) :
    ∃ calls placed, calls.Perm (results.filter (mediated mediator.policy)) ∧
      placed.Perm (mint mediator.policy text calls ctx).1 ∧
      placed.map Prod.fst = arranged (results.filter (mediated mediator.policy)) ∧
      mediator.apply text results (some ctx) =
        (.ok (splice text 0 placed),some (mint mediator.policy text calls ctx).2) := by
  rw [apply_unblocked unblocked]
  have separate' := separate.filter (mediated mediator.policy)
  generalize results.filter (mediated mediator.policy) = chosen at separate' ⊢
  by_cases empty : chosen = []
  · subst empty
    exact ⟨[],[],.nil,.nil,rfl,rfl⟩
  · obtain ⟨calls,outs,last,placed,perm,ran,placedPerm,positions,result⟩ :=
      replaces text chosen (operators mediator.policy chosen) ctx separate' (operators_covered mediator.policy chosen)
    rw [runOperators_eq_mint (fun s member => perm.mem_iff.mp member)] at ran
    have same := Option.some.inj ran
    refine ⟨calls,placed,perm,by rw [same]; exact placedPerm,positions,?_⟩
    simp only [if_neg empty,result,same]

/-- The same with the substitutes minted from the last span to the first. -/
theorem apply_rightToLeft {mediator : PIIMediator} (rightToLeft : ReplacesRightToLeft mediator.anonymizer)
    {text : PyStr} {results : List RecognizerResult} (separate : Separate text.length results)
    (unblocked : ∀ r ∈ results, mediator.policy.lookup r.entityType ≠ some .block) (ctx : TokenizationContext) :
    let minted := mint mediator.policy text (arranged (results.filter (mediated mediator.policy))).reverse ctx
    mediator.apply text results (some ctx) = (.ok (splice text 0 minted.1.reverse),some minted.2) := by
  rw [apply_unblocked unblocked]
  have separate' := separate.filter (mediated mediator.policy)
  generalize results.filter (mediated mediator.policy) = chosen at separate' ⊢
  by_cases empty : chosen = []
  · subst empty
    rfl
  · obtain ⟨outs,last,ran,result⟩ := rightToLeft text chosen (operators mediator.policy chosen) ctx separate'
      (operators_covered mediator.policy chosen)
    rw [runOperators_eq_mint (fun s member => by simpa using member)] at ran
    simp only [if_neg empty,result,Option.some.inj ran]

/-- The operators that redact return the markers. -/
theorem runOperators_redact {text : PyStr} {spans calls : List RecognizerResult}
    (typed : ∀ r ∈ calls, r.entityType ∈ spans.map RecognizerResult.entityType) :
    runOperators (redactOperators spans) text calls () = some (calls.map fun r => (r,redactionMarker r.entityType),()) := by
  induction calls with
  | nil => rfl
  | cons r rest ih =>
    have tail := ih fun s later => typed s (List.mem_cons_of_mem r later)
    simp only [runOperators,redactOperators,if_pos (typed r List.mem_cons_self),Option.bind_some,Operator.run,tail]
    rfl

/-- `redact_all` replaces every span by its marker. -/
theorem redactAll_separate {mediator : PIIMediator} (rightToLeft : ReplacesRightToLeft mediator.anonymizer)
    {text : PyStr} {results : List RecognizerResult} (separate : Separate text.length results) :
    mediator.redactAll text results =
      .ok (splice text 0 ((arranged results).map fun r => (r,redactionMarker r.entityType))) := by
  rw [PIIMediator.redactAll]
  by_cases empty : results = []
  · subst empty
    rfl
  · have covered : ∀ r ∈ results, redactOperators results r.entityType = some (.replace (redactionMarker r.entityType)) :=
      fun r member => by rw [redactOperators,if_pos (List.mem_map_of_mem member)]
    obtain ⟨outs,last,ran,result⟩ := rightToLeft text results (redactOperators results) () separate
      (fun r member => by rw [covered r member]; rfl)
    rw [runOperators_redact fun s member => List.mem_map_of_mem (by simpa using member)] at ran
    have same : (arranged results).reverse.map (fun r => (r,redactionMarker r.entityType)) = outs :=
      congrArg Prod.fst (Option.some.inj ran)
    rw [if_neg empty,result,← same,← List.map_reverse,List.reverse_reverse]

/-- A right-to-left anonymizer replaces spans. -/
theorem ReplacesRightToLeft.replacesSpans {anonymizer : Anonymizer} (rightToLeft : ReplacesRightToLeft anonymizer) :
    ReplacesSpans anonymizer := by
  have labels : ∀ {σ : Type} (operators : PyStr → Option (Operator σ)) (text : PyStr) (calls : List RecognizerResult)
      (s : σ) {outs : List (RecognizerResult × PyStr)} {last : σ},
      runOperators operators text calls s = some (outs,last) → outs.map Prod.fst = calls := by
    intro σ operators text calls
    induction calls with
    | nil =>
      intro s outs last ran
      cases ran
      rfl
    | cons r rest ih =>
      intro s outs last ran
      obtain ⟨operator,_,ran⟩ := Option.bind_eq_some_iff.mp ran
      obtain ⟨⟨more,final⟩,ranRest,same⟩ := Option.map_eq_some_iff.mp ran
      cases same
      rw [List.map_cons,ih _ ranRest]
  intro σ text results operators s separate covered
  obtain ⟨outs,last,ran,result⟩ := rightToLeft text results operators s separate covered
  refine ⟨(arranged results).reverse,outs,last,outs.reverse,?_,ran,List.reverse_perm outs,?_,result⟩
  · exact (List.reverse_perm _).trans (arranged_perm results)
  · rw [List.map_reverse,labels operators text _ s ran,List.reverse_reverse]

theorem runOperators_covered {σ : Type} {operators : PyStr → Option (Operator σ)} (text : PyStr)
    {calls : List RecognizerResult} (covered : ∀ r ∈ calls, (operators r.entityType).isSome) (s : σ) :
    ∃ outs last, runOperators operators text calls s = some (outs,last) := by
  induction calls generalizing s with
  | nil => exact ⟨[],s,rfl⟩
  | cons r rest ih =>
    obtain ⟨operator,found⟩ := Option.isSome_iff_exists.mp (covered r List.mem_cons_self)
    have tail := ih fun t member => covered t (List.mem_cons_of_mem r member)
    obtain ⟨outs,last,ran⟩ := tail (operator.run (slice text r.start r.stop) s).2
    refine ⟨(r,(operator.run (slice text r.start r.stop) s).1) :: outs,last,?_⟩
    simp only [runOperators,found,Option.bind_some,ran,Option.map_some]

/-- An anonymizer that does nothing but replace the spans. -/
def plainAnonymizer : Anonymizer where
  anonymize text results operators s :=
    match runOperators operators text (arranged results).reverse s with
    | some (outs,last) => (.ok (splice text 0 outs.reverse),last)
    | none => (.error .valueError,s)

theorem plainAnonymizer_replaces : ReplacesRightToLeft plainAnonymizer := by
  intro σ text results operators s _ covered
  have each : ∀ r ∈ (arranged results).reverse, (operators r.entityType).isSome :=
    fun r member => covered r (by simpa using member)
  obtain ⟨outs,last,ran⟩ := runOperators_covered text each s
  exact ⟨outs,last,ran,by simp only [plainAnonymizer,ran]⟩

end PrivacyGateway.Mediator
