import Mathlib.Data.List.AList
import PrivacyGateway.Errors
import PrivacyGateway.Scan
import PrivacyGateway.Separated

/-!
The request-scoped token registry: minting placeholder tokens for values and
restoring them (`tokenFor`, `rehydrate`). A token spells the entity type and a
per-type counter in one way only, so the three dictionaries stay in step over
every run of mints (`Minted`, `tokenFor_spec`). A token is a word of the token
pattern, no match overlaps another one, and no match leaves the text before a
token or a redaction marker (`match_contained`).
-/
namespace PrivacyGateway.Tokenization
open PrivacyGateway.Strings PrivacyGateway.Errors PrivacyGateway.Scan PrivacyGateway.Separated

/-- `[A-Z]` -/
def upperLetter : PyChar → Bool
  | .scalar c => 'A' ≤ c && c ≤ 'Z'
  | .surrogate _ => false
/-- `[0-9]` -/
def digit : PyChar → Bool
  | .scalar c => c.isDigit
  | .surrogate _ => false
/-- `[0-9A-F]` -/
def upperHex : PyChar → Bool
  | .scalar c => c.isDigit || ('A' ≤ c && c ≤ 'F')
  | .surrogate _ => false
/-- `[A-Z0-9_]` -/
def nameChar (c : PyChar) : Bool := upperLetter c || digit c || c = .scalar '_'

/-- `\[\[PGW_[0-9A-F]{8}_[A-Z][A-Z0-9_]*_[0-9]+\]\]` -/
def tokenPattern : List (Item PyChar) :=
  literal (lit "[[PGW_") ++ (List.replicate 8 (.one upperHex) ++ (literal (lit "_") ++
    ([.one upperLetter,.many nameChar] ++ (literal (lit "_") ++ ([.one digit,.many digit] ++ literal (lit "]]"))))))

/-- An entity type of the form `[A-Z][A-Z0-9_]*`. -/
def EntityName (entityType : PyStr) : Prop := Spells [.one upperLetter,.many nameChar] entityType

/-- `secrets.token_hex(4).upper()`: eight upper-case hexadecimal digits. -/
structure Namespace where
  text : PyStr
  size : text.length = 8
  hex : ∀ c ∈ text, upperHex c = true

def sampleNamespace : Namespace := ⟨lit "0A1B2C3D",rfl,List.all_eq_true.mp rfl⟩

/-- `f"[[PGW_{namespace}_{entity_type}_{counter}]]"` -/
def tokenText (ns : Namespace) (entityType : PyStr) (counter : Nat) : PyStr :=
  lit "[[PGW_" ++ (ns.text ++ (lit "_" ++ (entityType ++ (lit "_" ++ (str (decimal counter) ++ lit "]]")))))

theorem upperHex_nameChar {c : PyChar} (hex : upperHex c = true) : nameChar c = true := by
  cases c with
  | surrogate low => cases hex
  | scalar c =>
    simp only [upperHex,Bool.or_eq_true,Bool.and_eq_true,decide_eq_true_eq] at hex
    simp only [nameChar,upperLetter,digit,Bool.or_eq_true,Bool.and_eq_true,decide_eq_true_eq]
    rcases hex with isDigit | ⟨low,high⟩
    · exact .inl (.inr isDigit)
    · exact .inl (.inl ⟨low,Char.le_trans high (by decide)⟩)

theorem digit_nameChar {c : PyChar} (isDigit : digit c = true) : nameChar c = true := by
  simp [nameChar,isDigit]

theorem entityName_nameChar {entityType : PyStr} (named : EntityName entityType) :
    ∀ c ∈ entityType, nameChar c = true := by
  obtain ⟨head,run,rfl,upper,all⟩ := spells_name.mp named
  intro c member
  rcases List.mem_cons.mp member with rfl | later
  · simp [nameChar,upper]
  · exact all c later

theorem digit_decimal {n : Nat} {c : PyChar} (member : c ∈ str (decimal n)) : digit c = true := by
  obtain ⟨d,inside,rfl⟩ := List.mem_map.mp member
  exact decimal_digits inside

/-- The parts of a word of the token pattern. -/
theorem spells_tokenPattern {word : PyStr} (spelled : Spells tokenPattern word) :
    ∃ ns rest, word = lit "[[PGW_" ++ (ns ++ rest ++ lit "]]") ∧ ns.length = 8 ∧
      (∀ c ∈ ns ++ rest, nameChar c = true) := by
  obtain ⟨_,_,rfl,opening,spelled⟩ := spells_append.mp spelled
  obtain ⟨ns,_,rfl,hex,spelled⟩ := spells_append.mp spelled
  obtain ⟨_,_,rfl,bar,spelled⟩ := spells_append.mp spelled
  obtain ⟨name,_,rfl,named,spelled⟩ := spells_append.mp spelled
  obtain ⟨_,_,rfl,bar',spelled⟩ := spells_append.mp spelled
  obtain ⟨number,_,rfl,digits,closing⟩ := spells_append.mp spelled
  rw [spells_literal] at opening bar bar' closing
  subst opening bar bar' closing
  obtain ⟨size,hex⟩ := spells_replicate.mp hex
  refine ⟨ns,lit "_" ++ (name ++ (lit "_" ++ number)),by simp,size,?_⟩
  intro c member
  simp only [List.mem_append] at member
  have underscore : ∀ c ∈ lit "_", nameChar c = true := by decide
  rcases member with inNs | inBar | inName | inBar | inNumber
  · exact upperHex_nameChar (hex c inNs)
  · exact underscore c inBar
  · exact entityName_nameChar named c inName
  · exact underscore c inBar
  · obtain ⟨d,run,rfl,isDigit,all⟩ := spells_name.mp digits
    rcases List.mem_cons.mp inNumber with rfl | later
    · exact digit_nameChar isDigit
    · exact digit_nameChar (all c later)

/-- A minted token is a word of the token pattern. -/
theorem spells_tokenText (ns : Namespace) {entityType : PyStr} (named : EntityName entityType) (counter : Nat) :
    Spells tokenPattern (tokenText ns entityType counter) := by
  have number : Spells [.one digit,.many digit] (str (decimal counter)) := by
    cases digits : decimal counter with
    | nil => exact absurd digits (decimal_ne_nil counter)
    | cons d run =>
      have all : ∀ c ∈ str (d :: run), digit c = true := by
        rw [← digits]
        exact fun c => digit_decimal
      exact spells_name.mpr ⟨.scalar d,str run,rfl,all _ List.mem_cons_self,
        fun c member => all c (List.mem_cons_of_mem _ member)⟩
  refine spells_append.mpr ⟨_,_,rfl,spells_literal.mpr rfl,?_⟩
  refine spells_append.mpr ⟨_,_,rfl,spells_replicate.mpr ⟨ns.size,ns.hex⟩,?_⟩
  refine spells_append.mpr ⟨_,_,rfl,spells_literal.mpr rfl,?_⟩
  refine spells_append.mpr ⟨_,_,rfl,named,?_⟩
  refine spells_append.mpr ⟨_,_,rfl,spells_literal.mpr rfl,?_⟩
  exact spells_append.mpr ⟨_,_,rfl,number,spells_literal.mpr rfl⟩

private theorem bracket_free {body : PyStr} (all : ∀ c ∈ body, nameChar c = true) :
    .scalar '[' ∉ body ∧ .scalar ']' ∉ body :=
  ⟨fun member => absurd (all _ member) (by decide),fun member => absurd (all _ member) (by decide)⟩

/-- No word of the token pattern begins another one: a word ends at its first bracket. -/
theorem tokenPattern_prefixFree : PrefixFree tokenPattern := by
  refine ⟨?_,?_⟩
  · intro spelled
    obtain ⟨ns,rest,same,_⟩ := spells_tokenPattern spelled
    simp [lit,str] at same
  · rintro word longer spelled spelled' ⟨tail,rfl⟩
    obtain ⟨ns,rest,rfl,_,all⟩ := spells_tokenPattern spelled
    obtain ⟨ns',rest',same,_,all'⟩ := spells_tokenPattern spelled'
    have closing : lit "]]" = .scalar ']' :: [.scalar ']'] := rfl
    have bodies : ns ++ rest ++ .scalar ']' :: (.scalar ']' :: tail) =
        ns' ++ rest' ++ .scalar ']' :: [.scalar ']'] := by
      rw [List.append_assoc (lit "[[PGW_")] at same
      simpa [closing] using List.append_cancel_left same
    have ends := (split_first (bracket_free all).2 (bracket_free all').2 bodies).2
    have empty : tail = [] := by simpa using ends
    rw [empty,List.append_nil]

/-- A word begins with `[[P` and holds no further opening bracket. -/
theorem spells_head {word : PyStr} (spelled : Spells tokenPattern word) :
    ∃ tail, word = .scalar '[' :: .scalar '[' :: .scalar 'P' :: tail ∧ .scalar '[' ∉ tail := by
  obtain ⟨ns,rest,rfl,_,all⟩ := spells_tokenPattern spelled
  refine ⟨lit "GW_" ++ (ns ++ rest ++ lit "]]"),rfl,?_⟩
  have ends : PyChar.scalar '[' ∉ lit "GW_" ∧ PyChar.scalar '[' ∉ lit "]]" := by decide
  simp only [List.mem_append,not_or]
  have body := (bracket_free all).1
  simp only [List.mem_append,not_or] at body
  exact ⟨ends.1,body,ends.2⟩

/-- What follows a stretch of user text: nothing, or a bracket that opens no match
    of which it is the second character. -/
def Fenced (rest : PyStr) : Prop :=
  rest = [] ∨ ∃ c tail, rest = .scalar '[' :: c :: tail ∧ c ≠ .scalar 'P'

/-- A match that begins before a fence also ends before it. -/
theorem match_contained {stretch rest before word after : PyStr} (fenced : Fenced rest)
    (spelled : Spells tokenPattern word) (same : stretch ++ rest = before ++ word ++ after)
    (inside : before.length < stretch.length) : (before ++ word).length ≤ stretch.length := by
  by_contra beyond
  rw [Nat.not_le,List.length_append] at beyond
  obtain ⟨offset,size⟩ := Nat.exists_eq_add_of_lt inside
  -- The characters of the word from the fence on are those of the rest.
  have read : ∀ k, offset + 1 + k < word.length → rest[k]? = word[offset + 1 + k]? := by
    intro k within
    have position := congrArg (fun s => s[stretch.length + k]?) same
    rw [List.getElem?_append_right (by omega),List.append_assoc,List.getElem?_append_right (by omega),
      List.getElem?_append_left (by omega)] at position
    rw [show stretch.length + k - stretch.length = k by omega,
      show stretch.length + k - before.length = offset + 1 + k by omega] at position
    exact position
  obtain ⟨tail,rfl,free⟩ := spells_head spelled
  rcases fenced with rfl | ⟨c,more,rfl,other⟩
  · have first := read 0 (by omega)
    have within : offset + 1 < (PyChar.scalar '[' :: .scalar '[' :: .scalar 'P' :: tail).length := by omega
    simp [List.getElem?_eq_getElem within] at first
  · have first := read 0 (by omega)
    match offset with
    | 0 =>
      have second := read 1 (by simp)
      simp at second
      exact other second
    | 1 => simp at first
    | k + 2 =>
      simp only [List.getElem?_cons_zero,Nat.add_zero,List.getElem?_cons_succ] at first
      exact free (List.mem_of_getElem? first.symm)

/-- `TokenizationContext`: the namespace, both directions of the mapping and the
    counter of each entity type. -/
structure TokenizationContext where
  ns : Namespace
  tokenToValue : AList (fun _ : PyStr => PyStr)
  valueToToken : AList (fun _ : PyStr × PyStr => PyStr)
  counters : AList (fun _ : PyStr => Nat)

/-- A context that has minted nothing. -/
def TokenizationContext.fresh (ns : Namespace) : TokenizationContext := ⟨ns,∅,∅,∅⟩

/-- `_NAMESPACE_ATTEMPTS` -/
def namespaceAttempts : Nat := 32

/-- `TokenizationContext(request_text)` where the attempts draw `draws 0`, `draws 1`, …:
    the first drawn namespace that does not occur in the text. -/
def TokenizationContext.create (draws : Nat → Namespace) (requestText : PyStr) :
    Except PyException TokenizationContext :=
  match ((List.range namespaceAttempts).map draws).find? (fun candidate => ¬ candidate.text <:+: requestText) with
  | some ns => .ok (.fresh ns)
  | none => .error .runtimeError

/-- `token_for(entity_type, value)` -/
def TokenizationContext.tokenFor (ctx : TokenizationContext) (entityType value : PyStr) :
    PyStr × TokenizationContext :=
  match ctx.valueToToken.lookup (entityType,value) with
  | some existing => (existing,ctx)
  | none =>
    let counter := (ctx.counters.lookup entityType).getD 0 + 1
    let token := tokenText ctx.ns entityType counter
    (token,{ ctx with
      counters := ctx.counters.insert entityType counter
      valueToToken := ctx.valueToToken.insert (entityType,value) token
      tokenToValue := ctx.tokenToValue.insert token value })

/-- `rehydrate(text)` -/
def TokenizationContext.rehydrate (ctx : TokenizationContext) (text : PyStr) : PyStr :=
  sub tokenPattern (fun token => (ctx.tokenToValue.lookup token).getD token) text

/-- `clear()` -/
def TokenizationContext.clear (ctx : TokenizationContext) : TokenizationContext := .fresh ctx.ns

/-- `len(context)` -/
def TokenizationContext.length (ctx : TokenizationContext) : Nat := ctx.tokenToValue.keys.length

theorem create_fresh {draws : Nat → Namespace} {requestText : PyStr} {ctx : TokenizationContext}
    (created : TokenizationContext.create draws requestText = .ok ctx) :
    ctx = .fresh ctx.ns ∧ ¬ ctx.ns.text <:+: requestText := by
  unfold TokenizationContext.create at created
  split at created
  · rename_i ns found
    cases created
    exact ⟨rfl,by simpa [TokenizationContext.fresh] using List.find?_some found⟩
  · cases created

/-- The token text determines the entity type and the counter, whatever the type. -/
theorem tokenText_injective {ns : Namespace} {entityType entityType' : PyStr} {counter counter' : Nat}
    (same : tokenText ns entityType counter = tokenText ns entityType' counter') :
    entityType = entityType' ∧ counter = counter' := by
  have tails := List.append_cancel_left (List.append_cancel_left (List.append_cancel_left same))
  have bars : entityType ++ .scalar '_' :: str (decimal counter) =
      entityType' ++ .scalar '_' :: str (decimal counter') := by
    have regrouped : entityType ++ .scalar '_' :: str (decimal counter) ++ lit "]]" =
        entityType' ++ .scalar '_' :: str (decimal counter') ++ lit "]]" := by
      simpa [show lit "_" = [.scalar '_'] from rfl] using tails
    exact List.append_cancel_right regrouped
  have free : ∀ n, PyChar.scalar '_' ∉ str (decimal n) :=
    fun n member => absurd (digit_decimal member) (by decide)
  obtain ⟨types,numbers⟩ := split_last (free counter) (free counter') bars
  exact ⟨types,decimal_injective (str_inj.mp numbers)⟩

/-- The dictionaries are in step: every key has a numbered token that restores its
    value, and every token was minted for a key. -/
structure Minted (ctx : TokenizationContext) : Prop where
  numbered : ∀ {entityType value token}, ctx.valueToToken.lookup (entityType,value) = some token →
    ∃ counter, 1 ≤ counter ∧ counter ≤ (ctx.counters.lookup entityType).getD 0 ∧
      token = tokenText ctx.ns entityType counter
  restores : ∀ {entityType value token}, ctx.valueToToken.lookup (entityType,value) = some token →
    ctx.tokenToValue.lookup token = some value
  minted : ∀ {token value}, ctx.tokenToValue.lookup token = some value →
    ∃ entityType, ctx.valueToToken.lookup (entityType,value) = some token

theorem minted_fresh (ns : Namespace) : Minted (.fresh ns) := by
  refine ⟨?_,?_,?_⟩
  all_goals
    intros
    simp_all [TokenizationContext.fresh]

/-- The next token of a type restores nothing yet. -/
theorem next_unminted {ctx : TokenizationContext} (inStep : Minted ctx) (entityType : PyStr) :
    ctx.tokenToValue.lookup (tokenText ctx.ns entityType ((ctx.counters.lookup entityType).getD 0 + 1)) = none := by
  by_contra present
  obtain ⟨value,found⟩ := Option.ne_none_iff_exists'.mp present
  obtain ⟨other,mapped⟩ := inStep.minted found
  obtain ⟨counter,_,bound,same⟩ := inStep.numbered mapped
  obtain ⟨rfl,rfl⟩ := tokenText_injective same
  omega

/-- What one `token_for` call does: the dictionaries stay in step, the token of the
    key restores its value, and every earlier entry stays. -/
structure TokenForSpec (ctx : TokenizationContext) (entityType value token : PyStr) (after : TokenizationContext) :
    Prop where
  inStep : Minted after
  ns : after.ns = ctx.ns
  restores : after.tokenToValue.lookup token = some value
  numbered : ∃ counter, token = tokenText ctx.ns entityType counter
  keeps : ∀ {t v}, ctx.tokenToValue.lookup t = some v → after.tokenToValue.lookup t = some v

theorem tokenFor_spec {ctx : TokenizationContext} (inStep : Minted ctx) (entityType value : PyStr) :
    TokenForSpec ctx entityType value (ctx.tokenFor entityType value).1 (ctx.tokenFor entityType value).2 := by
  unfold TokenizationContext.tokenFor
  cases existing : ctx.valueToToken.lookup (entityType,value) with
  | some token =>
    obtain ⟨counter,_,_,same⟩ := inStep.numbered existing
    exact ⟨inStep,rfl,inStep.restores existing,⟨counter,same⟩,id⟩
  | none =>
    simp only
    generalize counterIs : (ctx.counters.lookup entityType).getD 0 + 1 = counter
    have unminted := next_unminted inStep entityType
    rw [counterIs] at unminted
    have keeps : ∀ {t v}, ctx.tokenToValue.lookup t = some v →
        (ctx.tokenToValue.insert (tokenText ctx.ns entityType counter) value).lookup t = some v := by
      intro t v found
      have other : t ≠ tokenText ctx.ns entityType counter := by
        rintro rfl
        rw [unminted] at found
        cases found
      rw [AList.lookup_insert_ne other]
      exact found
    refine ⟨⟨?_,?_,?_⟩,rfl,AList.lookup_insert _,⟨counter,rfl⟩,keeps⟩
    · intro type v token found
      by_cases key : (type,v) = (entityType,value)
      · cases key
        rw [AList.lookup_insert] at found
        cases found
        exact ⟨counter,by omega,by rw [AList.lookup_insert]; exact Nat.le_refl _,rfl⟩
      · rw [AList.lookup_insert_ne key] at found
        obtain ⟨k,positive,bound,same⟩ := inStep.numbered found
        refine ⟨k,positive,?_,same⟩
        by_cases sameType : type = entityType
        · subst sameType
          rw [AList.lookup_insert,Option.getD_some]
          omega
        · rw [AList.lookup_insert_ne sameType]
          exact bound
    · intro type v token found
      by_cases key : (type,v) = (entityType,value)
      · cases key
        rw [AList.lookup_insert] at found
        cases found
        exact AList.lookup_insert _
      · rw [AList.lookup_insert_ne key] at found
        exact keeps (inStep.restores found)
    · intro token v found
      by_cases new : token = tokenText ctx.ns entityType counter
      · subst new
        rw [AList.lookup_insert] at found
        cases found
        exact ⟨entityType,AList.lookup_insert _⟩
      · rw [AList.lookup_insert_ne new] at found
        obtain ⟨type,mapped⟩ := inStep.minted found
        have key : (type,v) ≠ (entityType,value) := by
          intro same
          rw [same,existing] at mapped
          cases mapped
        exact ⟨type,by rw [AList.lookup_insert_ne key]; exact mapped⟩

end PrivacyGateway.Tokenization
