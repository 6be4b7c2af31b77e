import PrivacyGateway.Mediator

/-!
Sanitizing the messages of a request and rehydrating the result. Every span that
`apply` tokenizes is replaced by a token the context restores, the request's
namespace occurs in no message, and so the rehydrating scan finds the minted
tokens and nothing else (`rehydrate_splice`). Over a whole request only the
redacted spans differ from the original texts (`rehydrate_sanitized`).
-/
namespace PrivacyGateway.RoundTrip
open PrivacyGateway.Strings PrivacyGateway.Scan PrivacyGateway.Separated PrivacyGateway.Spans
open PrivacyGateway.Decisions PrivacyGateway.Tokenization PrivacyGateway.Mediator

/-- `later` restores whatever `ctx` restores. -/
structure Extends (ctx later : TokenizationContext) : Prop where
  ns : later.ns = ctx.ns
  keeps : ∀ {token value}, ctx.tokenToValue.lookup token = some value → later.tokenToValue.lookup token = some value

theorem Extends.refl (ctx : TokenizationContext) : Extends ctx ctx := ⟨rfl,id⟩

theorem Extends.trans {a b c : TokenizationContext} (ab : Extends a b) (bc : Extends b c) : Extends a c :=
  ⟨bc.ns.trans ab.ns,fun found => bc.keeps (ab.keeps found)⟩

/-- What `apply` puts in the place of a span: a token that the context restores to
    the text it covers, or the span's redaction marker. -/
def Placed (policy : Policy) (ctx : TokenizationContext) (text : PyStr) (r : RecognizerResult) (out : PyStr) : Prop :=
  if policy.lookup r.entityType = some .tokenize then
    (∃ counter, out = tokenText ctx.ns r.entityType counter) ∧
      ctx.tokenToValue.lookup out = some (slice text r.start r.stop)
  else out = redactionMarker r.entityType

theorem Placed.mono {policy : Policy} {ctx later : TokenizationContext} {text out : PyStr} {r : RecognizerResult}
    (extended : Extends ctx later) (placed : Placed policy ctx text r out) : Placed policy later text r out := by
  unfold Placed at placed ⊢
  split_ifs at placed ⊢ with tokenized
  · exact ⟨extended.ns ▸ placed.1,extended.keeps placed.2⟩
  · exact placed

theorem substitute_spec {ctx : TokenizationContext} (inStep : Minted ctx) (policy : Policy) (text : PyStr)
    (r : RecognizerResult) :
    Minted (substitute policy r (slice text r.start r.stop) ctx).2 ∧
      Extends ctx (substitute policy r (slice text r.start r.stop) ctx).2 ∧
      Placed policy (substitute policy r (slice text r.start r.stop) ctx).2 text r
        (substitute policy r (slice text r.start r.stop) ctx).1 := by
  by_cases tokenized : policy.lookup r.entityType = some .tokenize
  · have spec := tokenFor_spec inStep r.entityType (slice text r.start r.stop)
    rw [substitute,if_pos tokenized,Placed,if_pos tokenized]
    exact ⟨spec.inStep,⟨spec.ns,spec.keeps⟩,spec.ns ▸ spec.numbered,spec.restores⟩
  · rw [substitute,if_neg tokenized,Placed,if_neg tokenized]
    exact ⟨inStep,.refl ctx,rfl⟩

/-- Minting the substitutes of a message keeps what the context restores already. -/
theorem mint_spec {ctx : TokenizationContext} (inStep : Minted ctx) (policy : Policy) (text : PyStr)
    (calls : List RecognizerResult) :
    Minted (mint policy text calls ctx).2 ∧ Extends ctx (mint policy text calls ctx).2 ∧
      ∀ p ∈ (mint policy text calls ctx).1, Placed policy (mint policy text calls ctx).2 text p.1 p.2 := by
  induction calls generalizing ctx with
  | nil => exact ⟨inStep,.refl ctx,fun p member => absurd member List.not_mem_nil⟩
  | cons r rest ih =>
    obtain ⟨stepped,extended,placed⟩ := substitute_spec inStep policy text r
    obtain ⟨minted,later,others⟩ := ih stepped
    refine ⟨minted,extended.trans later,?_⟩
    intro p member
    rcases List.mem_cons.mp member with rfl | inRest
    · exact placed.mono later
    · exact others p inRest

theorem slice_within (text : PyStr) (low high : Nat) : slice text low high <:+: text :=
  (List.drop_suffix low _).isInfix.trans (List.take_prefix high text).isInfix

private theorem fenced_placed {policy : Policy} {ctx : TokenizationContext} {text out : PyStr}
    {r : RecognizerResult} (placed : Placed policy ctx text r out) (rest : PyStr) : Fenced (out ++ rest) := by
  unfold Placed at placed
  split_ifs at placed
  · obtain ⟨⟨counter,rfl⟩,_⟩ := placed
    exact .inr ⟨.scalar '[',_,rfl,by decide⟩
  · subst placed
    exact .inr ⟨.scalar 'R',_,rfl,by decide⟩

section
variable {ctx : TokenizationContext} {text : PyStr}

/-- A stretch of user text holds no minted token, so it stays as it is. -/
theorem rehydrate_gap (inStep : Minted ctx) (unseen : ¬ ctx.ns.text <:+: text) {stretch rest : PyStr}
    (part : stretch <:+: text) (fenced : Fenced rest) : ctx.rehydrate (stretch ++ rest) = stretch ++ ctx.rehydrate rest := by
  refine sub_append tokenPattern_prefixFree stretch rest ?_
  intro before word after same spelled inside
  have contained := match_contained fenced spelled same inside
  refine ⟨contained,?_⟩
  -- A restored word would bring the namespace into the text.
  cases found : ctx.tokenToValue.lookup word with
  | none => rfl
  | some value =>
    obtain ⟨type,mapped⟩ := inStep.minted found
    obtain ⟨counter,_,_,rfl⟩ := inStep.numbered mapped
    have wordPart : before ++ tokenText ctx.ns type counter <+: stretch :=
      List.prefix_of_prefix_length_le (same ▸ List.prefix_append _ after) (List.prefix_append stretch rest) contained
    have nsPart : ctx.ns.text <:+: tokenText ctx.ns type counter :=
      (List.prefix_append _ _).isInfix.trans (List.suffix_append _ _).isInfix
    exact absurd (nsPart.trans ((List.suffix_append _ _).isInfix.trans (wordPart.isInfix.trans part))) unseen

/-- No match begins in a redaction marker. -/
theorem rehydrate_marker {entityType : PyStr} (named : EntityName entityType) (rest : PyStr) :
    ctx.rehydrate (redactionMarker entityType ++ rest) = redactionMarker entityType ++ ctx.rehydrate rest := by
  refine sub_append tokenPattern_prefixFree _ rest ?_
  intro before word after same spelled inside
  obtain ⟨tail,rfl,_⟩ := spells_head spelled
  have body : PyChar.scalar '[' ∉ lit "REDACTED:" ++ (entityType ++ lit "]") := by
    have letters : PyChar.scalar '[' ∉ lit "REDACTED:" ∧ PyChar.scalar '[' ∉ lit "]" := by decide
    have inName : PyChar.scalar '[' ∉ entityType :=
      fun member => absurd (entityName_nameChar named _ member) (by decide)
    simp only [List.mem_append,not_or]
    exact ⟨letters.1,inName,letters.2⟩
  have shape : redactionMarker entityType = .scalar '[' :: (lit "REDACTED:" ++ (entityType ++ lit "]")) := rfl
  rw [shape] at same inside
  cases before with
  | nil =>
    have second := (List.cons.inj (List.cons.inj same).2).1
    exact absurd second (by decide)
  | cons c before =>
    simp only [List.cons_append,List.append_assoc] at same
    have position := congrArg (fun s => s[before.length]?) (List.cons.inj same).2
    simp only [List.length_cons,Nat.add_lt_add_iff_right] at inside
    rw [← List.append_assoc entityType,← List.append_assoc (lit "REDACTED:"),List.getElem?_append_left inside,
      List.getElem?_append_right le_rfl] at position
    simp only [Nat.sub_self,List.getElem?_cons_zero] at position
    exact absurd (List.mem_of_getElem? position) body

/-- What a rehydrated span reads: its own text again, or its redaction marker. -/
def restored (policy : Policy) (text : PyStr) (r : RecognizerResult) : PyStr :=
  if policy.lookup r.entityType = some .tokenize then slice text r.start r.stop else redactionMarker r.entityType

theorem rehydrate_placed {policy : Policy} {r : RecognizerResult} {out : PyStr} (named : EntityName r.entityType)
    (placed : Placed policy ctx text r out) (rest : PyStr) :
    ctx.rehydrate (out ++ rest) = restored policy text r ++ ctx.rehydrate rest := by
  unfold Placed at placed
  unfold restored
  split_ifs at placed ⊢
  · obtain ⟨⟨counter,rfl⟩,found⟩ := placed
    rw [TokenizationContext.rehydrate,sub_word tokenPattern_prefixFree (spells_tokenText ctx.ns named counter),found]
    rfl
  · rw [placed]
    exact rehydrate_marker named rest

/-- The scan finds the tokens that stand in the place of spans, and nothing else. -/
theorem rehydrate_splice {policy : Policy} (inStep : Minted ctx) (unseen : ¬ ctx.ns.text <:+: text) {pos : Nat}
    {placed : List (RecognizerResult × PyStr)} (named : ∀ p ∈ placed, EntityName p.1.entityType)
    (each : ∀ p ∈ placed, Placed policy ctx text p.1 p.2) :
    ctx.rehydrate (splice text pos placed) = splice text pos (placed.map fun p => (p.1,restored policy text p.1)) := by
  induction placed generalizing pos with
  | nil =>
    have fenced : Fenced [] := .inl rfl
    have last := rehydrate_gap inStep unseen (List.drop_suffix pos text).isInfix fenced
    rw [List.append_nil] at last
    exact last.trans (List.append_nil _)
  | cons p rest ih =>
    obtain ⟨r,out⟩ := p
    have here := each (r,out) List.mem_cons_self
    have tail := @ih r.stop (fun q member => named q (List.mem_cons_of_mem _ member))
      (fun q member => each q (List.mem_cons_of_mem _ member))
    rw [List.map_cons,splice,splice,rehydrate_gap inStep unseen (slice_within text _ _) (fenced_placed here _),
      rehydrate_placed (named (r,out) List.mem_cons_self) here]
    exact congrArg (fun s => slice text pos r.start ++ (restored policy text r ++ s)) tail

end

/-- The text with each redacted span replaced by its marker. -/
def redactedText (policy : Policy) (text : PyStr) (results : List RecognizerResult) : PyStr :=
  splice text 0 ((arranged (results.filter fun r => policy.lookup r.entityType = some .redact)).map
    fun r => (r,redactionMarker r.entityType))

/-- Restoring the tokenized spans leaves the redacted ones. -/
theorem splice_restored (policy : Policy) {text : PyStr} {results : List RecognizerResult}
    (separate : Separate text.length results) :
    splice text 0 ((arranged (results.filter (mediated policy))).map fun r => (r,restored policy text r)) =
      redactedText policy text results := by
  let keep : RecognizerResult → Bool := fun r => policy.lookup r.entityType = some .redact
  have chosen : (arranged (results.filter (mediated policy))).filter keep = arranged (results.filter keep) := by
    rw [filter_arranged,List.filter_filter]
    congr 2
    funext r
    cases action : policy.lookup r.entityType with
    | none => simp [keep,mediated,action]
    | some a => cases a <;> simp [keep,mediated,action]
  have ladder := ladder_arranged (separate.filter (mediated policy))
  rw [← splice_filter text (fun p => keep p.1) (by simpa [Function.comp_def] using ladder) ?_,List.filter_map]
  · rw [show (fun p : RecognizerResult × PyStr => keep p.1) ∘ (fun r => (r,restored policy text r)) = keep from rfl,
      chosen,redactedText]
    congr 1
    refine List.map_congr_left fun r member => ?_
    have redact : policy.lookup r.entityType = some .redact := by
      simpa [keep] using (List.mem_filter.mp (mem_arranged.mp member)).2
    simp [restored,redact]
  · intro p member other
    obtain ⟨r,inside,rfl⟩ := List.mem_map.mp member
    have kind := (List.mem_filter.mp (mem_arranged.mp inside)).2
    have tokenized : policy.lookup r.entityType = some .tokenize := by
      simpa [mediated,show policy.lookup r.entityType ≠ some .redact by simpa [keep] using other] using kind
    simp only [restored,if_pos tokenized]
    rfl

/-- One message: whatever later messages mint, the result rehydrates to the redacted text. -/
theorem rehydrate_message {mediator : PIIMediator} (replaces : ReplacesSpans mediator.anonymizer)
    {ctx : TokenizationContext} (inStep : Minted ctx) {text : PyStr} {results : List RecognizerResult}
    (separate : Separate text.length results) (named : ∀ r ∈ results, EntityName r.entityType)
    (unblocked : ∀ r ∈ results, mediator.policy.lookup r.entityType ≠ some .block) :
    ∃ out after, mediator.apply text results (some ctx) = (.ok out,some after) ∧ Minted after ∧ Extends ctx after ∧
      ∀ {last}, Minted last → Extends after last → ¬ last.ns.text <:+: text →
        last.rehydrate out = redactedText mediator.policy text results := by
  obtain ⟨calls,placed,among,perm,positions,applied⟩ := apply_separate replaces separate unblocked ctx
  obtain ⟨minted,extended,each⟩ := mint_spec inStep mediator.policy text calls
  refine ⟨_,_,applied,minted,extended,?_⟩
  intro last inStepLast later unseen
  have chosen : ∀ p ∈ placed, p.1 ∈ results.filter (mediated mediator.policy) := by
    intro p member
    rw [← mem_arranged,← positions]
    exact List.mem_map_of_mem member
  have names : ∀ p ∈ placed, EntityName p.1.entityType :=
    fun p member => named p.1 (List.mem_filter.mp (chosen p member)).1
  have inPlace : ∀ p ∈ placed, Placed mediator.policy last text p.1 p.2 :=
    fun p member => (each p (perm.mem_iff.mp member)).mono later
  have pairs : placed.map (fun p => (p.1,restored mediator.policy text p.1)) =
      (arranged (results.filter (mediated mediator.policy))).map fun r => (r,restored mediator.policy text r) := by
    rw [← positions,List.map_map]
    rfl
  rw [rehydrate_splice inStepLast unseen names inPlace,pairs,splice_restored mediator.policy separate]

theorem rehydrate_applyAll {mediator : PIIMediator} (replaces : ReplacesSpans mediator.anonymizer)
    (messages : List (PyStr × List RecognizerResult)) (separate : ∀ m ∈ messages, Separate m.1.length m.2)
    (named : ∀ m ∈ messages, ∀ r ∈ m.2, EntityName r.entityType)
    (unblocked : ∀ m ∈ messages, ∀ r ∈ m.2, mediator.policy.lookup r.entityType ≠ some .block) (i : Nat)
    {ctx : TokenizationContext} (inStep : Minted ctx) (unseen : ∀ m ∈ messages, ¬ ctx.ns.text <:+: m.1) :
    ∃ sanitized last, applyAll (fun _ => mediator.apply) i messages (some ctx) = (.ok sanitized,some last) ∧
      Minted last ∧ Extends ctx last ∧
      List.Forall₂ (fun m out => last.rehydrate out = redactedText mediator.policy m.1 m.2) messages sanitized := by
  induction messages generalizing i ctx with
  | nil => exact ⟨[],ctx,rfl,inStep,.refl ctx,.nil⟩
  | cons m rest ih =>
    obtain ⟨text,results⟩ := m
    obtain ⟨out,after,applied,minted,extended,reads⟩ := rehydrate_message replaces inStep
      (separate _ List.mem_cons_self) (named _ List.mem_cons_self) (unblocked _ List.mem_cons_self)
    obtain ⟨outs,last,ran,mintedLast,later,others⟩ := ih
      (fun m member => separate m (List.mem_cons_of_mem _ member))
      (fun m member => named m (List.mem_cons_of_mem _ member))
      (fun m member => unblocked m (List.mem_cons_of_mem _ member)) (i + 1) minted
      (fun m member => extended.ns ▸ unseen m (List.mem_cons_of_mem _ member))
    have whole := extended.trans later
    refine ⟨out :: outs,last,by simp only [applyAll,applied,ran],mintedLast,whole,.cons ?_ others⟩
    exact reads mintedLast later (whole.ns ▸ unseen _ List.mem_cons_self)

/-- Sanitize, then rehydrate: with one context for the request, every message comes
    back with its redacted spans replaced by their markers and nothing else changed. -/
theorem rehydrate_sanitized (mediator : PIIMediator) (replaces : ReplacesSpans mediator.anonymizer)
    (draws : Nat → Namespace) (messages : List (PyStr × List RecognizerResult)) (ctx : TokenizationContext)
    (created : TokenizationContext.create draws (joined (.scalar '\n') (messages.map Prod.fst)) = .ok ctx)
    (separate : ∀ m ∈ messages, Separate m.1.length m.2)
    (named : ∀ m ∈ messages, ∀ r ∈ m.2, EntityName r.entityType)
    (unblocked : ∀ m ∈ messages, ∀ r ∈ m.2, mediator.policy.lookup r.entityType ≠ some .block) :
    ∃ sanitized last, applyAll (fun _ => mediator.apply) 0 messages (some ctx) = (.ok sanitized,some last) ∧
      List.Forall₂ (fun m out => last.rehydrate out = redactedText mediator.policy m.1 m.2) messages sanitized := by
  obtain ⟨fresh,absent⟩ := create_fresh created
  have unseen : ∀ m ∈ messages, ¬ ctx.ns.text <:+: m.1 := by
    intro m member occurs
    exact absent (occurs.trans (infix_joined (List.mem_map_of_mem member)))
  have inStep : Minted ctx := by
    rw [fresh]
    exact minted_fresh ctx.ns
  obtain ⟨sanitized,last,ran,_,_,reads⟩ :=
    rehydrate_applyAll replaces messages separate named unblocked 0 inStep unseen
  exact ⟨sanitized,last,ran,reads⟩

/-- A mediator with the default policy that finds nothing by itself. -/
def plainMediator : PIIMediator := ⟨defaultPolicy,fun _ _ => .ok [],plainAnonymizer⟩

/-- Two messages that share an address; the first ends like a token and the second
    holds a number that is redacted. -/
def glued : List (PyStr × List RecognizerResult) := [
  (lit "a@b.c[[PGW_",[⟨lit "EMAIL_ADDRESS",0,5,1⟩]),
  (lit "AB1a@b.c]]",[⟨lit "EMAIL_ADDRESS",3,8,1⟩,⟨lit "UK_NINO",0,3,1 / 2⟩])]

theorem rehydrate_sanitized_glued :
    ∃ sanitized last, applyAll (fun _ => plainMediator.apply) 0 glued (some (.fresh sampleNamespace)) =
        (.ok sanitized,some last) ∧
      List.Forall₂ (fun m out => last.rehydrate out = redactedText defaultPolicy m.1 m.2) glued sanitized := by
  have entity : EntityName (lit "EMAIL_ADDRESS") ∧ EntityName (lit "UK_NINO") :=
    ⟨spells_name.mpr ⟨_,_,rfl,rfl,by decide⟩,spells_name.mpr ⟨_,_,rfl,rfl,by decide⟩⟩
  refine rehydrate_sanitized plainMediator plainAnonymizer_replaces.replacesSpans (fun _ => sampleNamespace) glued _
    rfl ?_ ?_ (by decide)
  · intro m member
    rcases List.mem_cons.mp member with rfl | member
    · exact ⟨by decide,by decide⟩
    · rw [List.mem_singleton.mp member]
      exact ⟨by decide,by decide⟩
  · intro m member r found
    have types : ∀ m ∈ glued, ∀ r ∈ m.2,
        r.entityType = lit "EMAIL_ADDRESS" ∨ r.entityType = lit "UK_NINO" := by decide
    rcases types m member r found with same | same
    · exact same ▸ entity.1
    · exact same ▸ entity.2

example : redactedText defaultPolicy (lit "AB1a@b.c]]") [⟨lit "EMAIL_ADDRESS",3,8,1⟩,⟨lit "UK_NINO",0,3,1 / 2⟩] =
    lit "[REDACTED:UK_NINO]a@b.c]]" := by decide

end PrivacyGateway.RoundTrip
