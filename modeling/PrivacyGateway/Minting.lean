import PrivacyGateway.Tokenization

/-!
Runs of `token_for`. A call either finds its pair or adds one entry to each side of
the mapping (`tokenFor_keys`), so after any calls the mapped pairs are the pairs that
were called with (`Holding`), each under a token of its own, and no entry changes
(`minting_bijective`). What such a run makes of a fresh context is a `Reached` one.
-/
namespace PrivacyGateway.Minting
open PrivacyGateway.Strings PrivacyGateway.Scan PrivacyGateway.Tokenization

/-- The calls `token_for(entity_type, value)` one after the other: the returned tokens
    and the context. -/
def tokenForAll : TokenizationContext → List (PyStr × PyStr) → List PyStr × TokenizationContext
  | ctx, [] => ([],ctx)
  | ctx, call :: rest =>
    let (token,next) := ctx.tokenFor call.1 call.2
    let (tokens,last) := tokenForAll next rest
    (token :: tokens,last)

/-- A context that calls with types of the given kind have made of a fresh one. -/
def Reached (kind : PyStr → Prop) (ctx : TokenizationContext) : Prop :=
  ∃ ns calls, (∀ call ∈ calls, kind call.1) ∧ ctx = (tokenForAll (.fresh ns) calls).2

theorem tokenForAll_append (ctx : TokenizationContext) (first second : List (PyStr × PyStr)) :
    tokenForAll ctx (first ++ second) =
      ((tokenForAll ctx first).1 ++ (tokenForAll (tokenForAll ctx first).2 second).1,
        (tokenForAll (tokenForAll ctx first).2 second).2) := by
  induction first generalizing ctx with
  | nil => rfl
  | cons call rest ih => simp only [List.cons_append,tokenForAll,ih]

section
variable {ctx : TokenizationContext}

/-- A token stands for one pair. -/
theorem pair_of_token (inStep : Minted ctx) {pair other : PyStr × PyStr} {token : PyStr}
    (mapped : ctx.valueToToken.lookup pair = some token) (mapped' : ctx.valueToToken.lookup other = some token) :
    pair = other := by
  obtain ⟨counter,_,_,spelled⟩ := inStep.numbered mapped
  obtain ⟨counter',_,_,spelled'⟩ := inStep.numbered mapped'
  have types := (tokenText_injective (spelled.symm.trans spelled')).1
  have values := (inStep.restores mapped).symm.trans (inStep.restores mapped')
  exact Prod.ext types (Option.some.inj values)

/-- What one call does to the pairs: its own is mapped to the token it returns, every
    other one keeps its token, and a new pair is one more entry on both sides. -/
structure KeysSpec (ctx : TokenizationContext) (pair : PyStr × PyStr) (token : PyStr) (after : TokenizationContext) :
    Prop where
  own : after.valueToToken.lookup pair = some token
  others : ∀ other, other ≠ pair → after.valueToToken.lookup other = ctx.valueToToken.lookup other
  known : pair ∈ ctx.valueToToken.keys → after = ctx
  added : pair ∉ ctx.valueToToken.keys → after.length = ctx.length + 1

theorem tokenFor_keys (inStep : Minted ctx) (pair : PyStr × PyStr) :
    KeysSpec ctx pair (ctx.tokenFor pair.1 pair.2).1 (ctx.tokenFor pair.1 pair.2).2 := by
  obtain ⟨entityType,value⟩ := pair
  simp only [TokenizationContext.tokenFor]
  cases existing : ctx.valueToToken.lookup (entityType,value) with
  | some token =>
    have mapped : (entityType,value) ∈ ctx.valueToToken.keys := by
      rw [← AList.mem_keys,← AList.lookup_isSome,existing]
      rfl
    exact ⟨existing,fun _ _ => rfl,fun _ => rfl,fun absent => absurd mapped absent⟩
  | none =>
    have unmapped : (entityType,value) ∉ ctx.valueToToken.keys := by
      rw [← AList.mem_keys,← AList.lookup_eq_none,existing]
    refine ⟨AList.lookup_insert _,fun other differs => AList.lookup_insert_ne differs,fun known => absurd known unmapped,
      fun _ => ?_⟩
    -- The new token is on no side of the mapping yet.
    have unminted := next_unminted inStep entityType
    rw [AList.lookup_eq_none] at unminted
    rw [TokenizationContext.length,AList.keys,AList.entries_insert_of_notMem unminted]
    rfl

end

/-- After the given calls the mapped pairs are those of the calls, and the context holds
    one entry for each. -/
structure Holding (calls : List (PyStr × PyStr)) (ctx : TokenizationContext) : Prop where
  inStep : Minted ctx
  mapped : ∀ pair, pair ∈ ctx.valueToToken.keys ↔ pair ∈ calls
  size : ctx.length = calls.dedup.length

theorem holding_fresh (ns : Namespace) : Holding [] (.fresh ns) :=
  ⟨minted_fresh ns,fun _ => Iff.rfl,rfl⟩

private theorem mem_keys_iff {ctx : TokenizationContext} {pair : PyStr × PyStr} :
    pair ∈ ctx.valueToToken.keys ↔ ∃ token, ctx.valueToToken.lookup pair = some token := by
  rw [← AList.mem_keys,← AList.lookup_isSome,Option.isSome_iff_exists]

private theorem dedup_snoc (calls : List (PyStr × PyStr)) (call : PyStr × PyStr) :
    (calls ++ [call]).dedup.length = if call ∈ calls then calls.dedup.length else calls.dedup.length + 1 := by
  have swapped : (calls ++ [call]).dedup.Perm (call :: calls).dedup := (List.perm_append_singleton call calls).dedup
  rw [swapped.length_eq]
  split_ifs with known
  · rw [List.dedup_cons_of_mem known]
  · rw [List.dedup_cons_of_notMem known,List.length_cons]

theorem Holding.call {calls : List (PyStr × PyStr)} {ctx : TokenizationContext} (holding : Holding calls ctx)
    (call : PyStr × PyStr) : Holding (calls ++ [call]) (ctx.tokenFor call.1 call.2).2 := by
  have keys := tokenFor_keys holding.inStep call
  refine ⟨(tokenFor_spec holding.inStep call.1 call.2).inStep,fun pair => ?_,?_⟩
  · rw [List.mem_append,List.mem_singleton,← holding.mapped,mem_keys_iff,mem_keys_iff]
    by_cases own : pair = call
    · subst own
      exact iff_of_true ⟨_,keys.own⟩ (.inr rfl)
    · rw [keys.others pair own]
      simp [own]
  · rw [dedup_snoc]
    split_ifs with known
    · rw [keys.known ((holding.mapped call).mpr known),holding.size]
    · rw [keys.added (mt (holding.mapped call).mp known),holding.size]

/-- What is mapped stays mapped to the same token, and every token keeps its value. -/
theorem tokenForAll_keeps {ctx : TokenizationContext} (inStep : Minted ctx) (calls : List (PyStr × PyStr)) :
    Minted (tokenForAll ctx calls).2 ∧ (tokenForAll ctx calls).2.ns = ctx.ns ∧
      (∀ {pair token}, ctx.valueToToken.lookup pair = some token →
        (tokenForAll ctx calls).2.valueToToken.lookup pair = some token) ∧
      ∀ {token value}, ctx.tokenToValue.lookup token = some value →
        (tokenForAll ctx calls).2.tokenToValue.lookup token = some value := by
  induction calls generalizing ctx with
  | nil => exact ⟨inStep,rfl,id,id⟩
  | cons call rest ih =>
    have spec := tokenFor_spec inStep call.1 call.2
    have keys := tokenFor_keys inStep call
    obtain ⟨minted,ns,pairs,tokens⟩ := ih spec.inStep
    refine ⟨minted,ns.trans spec.ns,fun {pair token} mapped => pairs ?_,fun found => tokens (spec.keeps found)⟩
    by_cases own : pair = call
    · subst own
      have known := keys.known (mem_keys_iff.mpr ⟨token,mapped⟩)
      rw [known]
      exact mapped
    · rw [keys.others pair own]
      exact mapped

theorem tokenForAll_length (ctx : TokenizationContext) (calls : List (PyStr × PyStr)) :
    (tokenForAll ctx calls).1.length = calls.length := by
  induction calls generalizing ctx with
  | nil => rfl
  | cons call rest ih => simp only [tokenForAll,List.length_cons,ih]

/-- Every call returned the token to which its pair is mapped afterwards. -/
theorem tokenForAll_mapped {ctx : TokenizationContext} (inStep : Minted ctx) (calls : List (PyStr × PyStr)) :
    List.Forall₂ (fun call token => (tokenForAll ctx calls).2.valueToToken.lookup call = some token) calls
      (tokenForAll ctx calls).1 := by
  induction calls generalizing ctx with
  | nil => exact .nil
  | cons call rest ih =>
    have spec := tokenFor_spec inStep call.1 call.2
    obtain ⟨_,_,pairs,_⟩ := tokenForAll_keeps spec.inStep rest
    exact .cons (pairs (tokenFor_keys inStep call).own) (ih spec.inStep)

theorem holding_tokenForAll (ns : Namespace) (calls : List (PyStr × PyStr)) :
    Holding calls (tokenForAll (.fresh ns) calls).2 := by
  induction calls using List.reverseRecOn with
  | nil => exact holding_fresh ns
  | append_singleton front call ih =>
    rw [tokenForAll_append]
    exact ih.call call

theorem Reached.minted {kind : PyStr → Prop} {ctx : TokenizationContext} (reached : Reached kind ctx) : Minted ctx := by
  obtain ⟨ns,calls,_,rfl⟩ := reached
  exact (holding_tokenForAll ns calls).inStep

/-- Every pair that a reached context maps has a type of the given kind. -/
theorem Reached.kind {kind : PyStr → Prop} {ctx : TokenizationContext} (reached : Reached kind ctx)
    {pair : PyStr × PyStr} {token : PyStr} (mapped : ctx.valueToToken.lookup pair = some token) : kind pair.1 := by
  obtain ⟨ns,calls,kinds,rfl⟩ := reached
  exact kinds pair (((holding_tokenForAll ns calls).mapped pair).mp (mem_keys_iff.mpr ⟨token,mapped⟩))

/-- The `i`-th call and its token, which is mapped to the pair of the call afterwards. -/
theorem tokenForAll_getElem {ctx : TokenizationContext} (inStep : Minted ctx) {calls : List (PyStr × PyStr)} {i : Nat}
    (inside : i < calls.length) :
    ∃ token, (tokenForAll ctx calls).1[i]? = some token ∧
      (tokenForAll ctx calls).2.valueToToken.lookup calls[i] = some token := by
  have inside' : i < (tokenForAll ctx calls).1.length := by rwa [tokenForAll_length]
  have mapped := (tokenForAll_mapped inStep calls).get inside inside'
  rw [List.get_eq_getElem,List.get_eq_getElem] at mapped
  exact ⟨_,List.getElem?_eq_getElem inside',mapped⟩

/-- Later calls do not change what earlier ones returned. -/
theorem tokenForAll_take (ctx : TokenizationContext) (calls : List (PyStr × PyStr)) {i k : Nat} (before : i < k)
    (inside : i < calls.length) :
    (tokenForAll ctx (calls.take k)).1[i]? = (tokenForAll ctx calls).1[i]? := by
  have whole := tokenForAll_append ctx (calls.take k) (calls.drop k)
  rw [List.take_append_drop] at whole
  have early : i < (tokenForAll ctx (calls.take k)).1.length := by
    rw [tokenForAll_length,List.length_take]
    omega
  rw [whole,List.getElem?_append_left early]

/-- Whatever types and values are asked for, and in whatever order: two calls return the
    same token just when they ask for the same pair, each token restores the value of its
    calls from then on, and the context holds as many tokens as there were different pairs. -/
theorem minting_bijective (ns : Namespace) (calls : List (PyStr × PyStr)) :
    let tokens := (tokenForAll (.fresh ns) calls).1
    tokens.length = calls.length ∧
    (∀ i < calls.length, ∀ j < calls.length, tokens[i]? = tokens[j]? ↔ calls[i]? = calls[j]?) ∧
    (∀ i token, tokens[i]? = some token → ∃ call, calls[i]? = some call ∧ ∀ k, i < k →
      (tokenForAll (.fresh ns) (calls.take k)).2.tokenToValue.lookup token = some call.2) ∧
    ∀ k, (tokenForAll (.fresh ns) (calls.take k)).2.length = (calls.take k).dedup.length := by
  intro tokens
  have count : tokens.length = calls.length := tokenForAll_length (.fresh ns) calls
  refine ⟨count,?_,?_,fun k => (holding_tokenForAll ns (calls.take k)).size⟩
  · intro i insideI j insideJ
    obtain ⟨token,tokenAt,mapped⟩ := tokenForAll_getElem (minted_fresh ns) insideI
    obtain ⟨other,otherAt,mapped'⟩ := tokenForAll_getElem (minted_fresh ns) insideJ
    rw [tokenAt,otherAt,List.getElem?_eq_getElem insideI,List.getElem?_eq_getElem insideJ,Option.some.injEq,
      Option.some.injEq]
    constructor
    · rintro rfl
      exact pair_of_token (holding_tokenForAll ns calls).inStep mapped mapped'
    · intro same
      rw [same] at mapped
      exact Option.some.inj (mapped.symm.trans mapped')
  · intro i token tokenAt
    have inside : i < calls.length := count ▸ (List.getElem?_eq_some_iff.mp tokenAt).1
    refine ⟨calls[i],List.getElem?_eq_getElem inside,fun k before => ?_⟩
    have early : i < (calls.take k).length := by
      rw [List.length_take]
      omega
    obtain ⟨other,otherAt,mapped⟩ := tokenForAll_getElem (minted_fresh ns) early
    rw [tokenForAll_take _ _ before inside,tokenAt,Option.some.injEq] at otherAt
    rw [← otherAt,List.getElem_take] at mapped
    exact (holding_tokenForAll ns (calls.take k)).inStep.restores mapped

end PrivacyGateway.Minting
