import PrivacyGateway.Minting
import PrivacyGateway.Substitution

/-!
Rehydration as plain substitution: for a context that any mints have reached, the regex
scan of any text replaces every occurrence of a minted token and nothing else
(`rehydrate_simultaneous`). Tokens cannot overlap, since a match does not get past the
bracket that begins another one (`tokenPattern_apart`).
-/
namespace PrivacyGateway.Rehydration
open PrivacyGateway.Strings PrivacyGateway.Scan PrivacyGateway.Spans PrivacyGateway.Substitution
  PrivacyGateway.Tokenization PrivacyGateway.Minting

/-- `token_to_value.items()` -/
def items (ctx : TokenizationContext) : List (PyStr × PyStr) := ctx.tokenToValue.entries.map fun entry => (entry.1,entry.2)

/-- `token` was minted in this context. -/
def MintedToken (ctx : TokenizationContext) (token : PyStr) : Prop := token ∈ ctx.tokenToValue.keys

/-- What `rehydrate` puts in the place of a match. -/
def restore (ctx : TokenizationContext) (token : PyStr) : PyStr := (ctx.tokenToValue.lookup token).getD token

theorem tokenPattern_apart : Apart tokenPattern := by
  intro before word after before' word' after' same spelled spelled' earlier
  obtain ⟨tail,rfl,_⟩ := spells_head spelled'
  have fenced : Fenced (.scalar '[' :: .scalar '[' :: .scalar 'P' :: tail ++ after') :=
    .inr ⟨.scalar '[',.scalar 'P' :: tail ++ after',rfl,by decide⟩
  exact match_contained fenced spelled (same.trans (List.append_assoc _ _ _)).symm earlier

section
variable {ctx : TokenizationContext}

theorem keys_items (ctx : TokenizationContext) : (items ctx).map Prod.fst = ctx.tokenToValue.keys := by
  rw [items,List.map_map]
  rfl

theorem mem_items {token value : PyStr} : (token,value) ∈ items ctx ↔ ctx.tokenToValue.lookup token = some value := by
  rw [← Option.mem_def,AList.mem_lookup_iff,items,List.mem_map]
  constructor
  · rintro ⟨entry,member,same⟩
    obtain ⟨rfl,rfl⟩ := Prod.mk.inj same
    exact member
  · exact fun member => ⟨_,member,rfl⟩

theorem mintedToken_iff {token : PyStr} :
    MintedToken ctx token ↔ ∃ value, ctx.tokenToValue.lookup token = some value := by
  rw [MintedToken,← AList.mem_keys,← AList.lookup_isSome,Option.isSome_iff_exists]

/-- A minted token is spelled with the namespace of the context, an entity name and a counter. -/
theorem spelled_mintedToken (reached : Reached EntityName ctx) {token : PyStr} (minted : MintedToken ctx token) :
    ∃ entityType counter, EntityName entityType ∧ token = tokenText ctx.ns entityType counter := by
  obtain ⟨value,found⟩ := mintedToken_iff.mp minted
  obtain ⟨entityType,mapped⟩ := reached.minted.minted found
  obtain ⟨counter,_,_,spelled⟩ := reached.minted.numbered mapped
  exact ⟨entityType,counter,reached.kind mapped,spelled⟩

theorem spells_mintedToken (reached : Reached EntityName ctx) {token : PyStr} (minted : MintedToken ctx token) :
    Spells tokenPattern token := by
  obtain ⟨entityType,counter,named,rfl⟩ := spelled_mintedToken reached minted
  exact spells_tokenText ctx.ns named counter

theorem tabulates_items (reached : Reached EntityName ctx) : Tabulates tokenPattern (restore ctx) (items ctx) := by
  refine ⟨?_,?_,?_,?_⟩
  · rintro ⟨token,value⟩ member
    exact spells_mintedToken reached (mintedToken_iff.mpr ⟨value,mem_items.mp member⟩)
  · rw [keys_items]
    exact ctx.tokenToValue.keys_nodup
  · rintro ⟨token,value⟩ member
    rw [restore,mem_items.mp member]
    rfl
  · intro word unminted
    rw [keys_items,← AList.mem_keys,← AList.lookup_eq_none] at unminted
    rw [restore,unminted]
    rfl

/-- A word of the pattern is replaced alone, whatever surrounds it. -/
theorem rehydrate_word {word : PyStr} (spelled : Spells tokenPattern word) (before after : PyStr) :
    ctx.rehydrate (before ++ word ++ after) = ctx.rehydrate before ++ (restore ctx word ++ ctx.rehydrate after) :=
  sub_around tokenPattern_prefixFree tokenPattern_apart before spelled after

/-- No token of another namespace was minted here. -/
theorem foreign_unminted (reached : Reached EntityName ctx) {ns : Namespace} (foreign : ns.text ≠ ctx.ns.text)
    (entityType : PyStr) (counter : Nat) : ¬ MintedToken ctx (tokenText ns entityType counter) := by
  intro minted
  obtain ⟨_,_,_,same⟩ := spelled_mintedToken reached minted
  exact foreign (List.append_inj (List.append_cancel_left same) (ns.size.trans ctx.ns.size.symm)).1

theorem rehydrate_substituteAll (reached : Reached EntityName ctx) (text : PyStr) :
    ctx.rehydrate text = substituteAll (items ctx) text :=
  sub_eq_substituteAll tokenPattern_prefixFree tokenPattern_apart (tabulates_items reached) text

/-- Rehydrating a text replaces every occurrence of every minted token by its value, all
    at once: the occurrences lie apart, each is replaced whatever surrounds it, and a text
    that holds none, or a word of the pattern that was not minted, stays as it is. -/
theorem rehydrate_simultaneous (reached : Reached EntityName ctx) (text : PyStr) :
    Ladder text.length 0 ((occurrences (items ctx) text).map Prod.fst) ∧
    ctx.rehydrate text = substituteAll (items ctx) text ∧
    (∀ before token after value, ctx.tokenToValue.lookup token = some value → text = before ++ token ++ after →
      ctx.rehydrate text = ctx.rehydrate before ++ (value ++ ctx.rehydrate after)) ∧
    (∀ before word after, Spells tokenPattern word → ¬ MintedToken ctx word → text = before ++ word ++ after →
      ctx.rehydrate text = ctx.rehydrate before ++ (word ++ ctx.rehydrate after)) ∧
    (∀ ns entityType counter, ns.text ≠ ctx.ns.text → ¬ MintedToken ctx (tokenText ns entityType counter)) ∧
    ((∀ token, MintedToken ctx token → ¬ token <:+: text) → ctx.rehydrate text = text) := by
  refine ⟨?_,rehydrate_substituteAll reached text,?_,?_,fun _ entityType counter foreign =>
    foreign_unminted reached foreign entityType counter,?_⟩
  · exact ladder_occurrences tokenPattern_prefixFree tokenPattern_apart (tabulates_items reached) text
  · rintro before token after value found rfl
    rw [rehydrate_word (spells_mintedToken reached (mintedToken_iff.mpr ⟨value,found⟩)),restore,found]
    rfl
  · rintro before word after spelled unminted rfl
    have kept : restore ctx word = word :=
      (tabulates_items reached).unlisted word (by rwa [keys_items])
    rw [rehydrate_word spelled,kept]
  · intro absent
    rw [rehydrate_substituteAll reached]
    exact substituteAll_self fun entry listed => absent entry.1 (mintedToken_iff.mpr ⟨entry.2,mem_items.mp listed⟩)

end

/-- The context of one request that has minted a token for a name. -/
def oneName : TokenizationContext := (tokenForAll (.fresh sampleNamespace) [(lit "PERSON",lit "Ann")]).2

theorem oneName_reached : Reached EntityName oneName :=
  ⟨sampleNamespace,[(lit "PERSON",lit "Ann")],by
    rintro call member
    rw [List.mem_singleton.mp member]
    exact spells_name.mpr ⟨.scalar 'P',lit "ERSON",rfl,rfl,List.all_eq_true.mp rfl⟩,rfl⟩

/-- A forged beginning in front of the token does not hide it. -/
theorem rehydrate_simultaneous_forged :
    Reached EntityName oneName ∧
      oneName.rehydrate (lit "[[PGW_0A1B2C3D_PERSON_1" ++ tokenText sampleNamespace (lit "PERSON") 1 ++ lit "]]") =
        oneName.rehydrate (lit "[[PGW_0A1B2C3D_PERSON_1") ++ (lit "Ann" ++ oneName.rehydrate (lit "]]")) :=
  ⟨oneName_reached,(rehydrate_simultaneous oneName_reached _).2.2.1 _ _ _ _ (by decide) rfl⟩

end PrivacyGateway.Rehydration
