import PrivacyGateway.Strings

/-!
The gateway's typed errors with their codes, statuses and fixed messages, and the
exceptions of Python and of the libraries that the modelled code lets through,
catches or converts.
-/
namespace PrivacyGateway.Errors
open PrivacyGateway.Strings

/-- Safe internal error codes. -/
inductive ErrorCode where
  | policyBlocked | providerTimeout | providerAuth | providerResponse
  | detectorFailure | responseScanFailure | auditWrite | configInvalid
  deriving DecidableEq, Repr

def ErrorCode.value : ErrorCode → PyStr
  | .policyBlocked => lit "PGW-POLICY-BLOCKED"
  | .providerTimeout => lit "PGW-PROVIDER-TIMEOUT"
  | .providerAuth => lit "PGW-PROVIDER-AUTH"
  | .providerResponse => lit "PGW-PROVIDER-RESPONSE"
  | .detectorFailure => lit "PGW-DETECTOR-FAILURE"
  | .responseScanFailure => lit "PGW-RESPONSE-SCAN-FAILURE"
  | .auditWrite => lit "PGW-AUDIT-WRITE"
  | .configInvalid => lit "PGW-CONFIG-INVALID"

/-- An instance of `GatewayError`; `blockedEntityTypes` is the extra field of
    `PolicyBlockedError`. -/
structure GatewayError where
  code : ErrorCode
  httpStatus : Nat
  safeMessage : PyStr
  blockedEntityTypes : Option (List PyStr)
  deriving DecidableEq, Repr

/-- `sorted(set(values))` -/
def sortedSet (values : List PyStr) : List PyStr := (values.dedup).insertionSort (· ≤ ·)

def policyBlockedError (blockedEntityTypes : List PyStr) : GatewayError :=
  ⟨.policyBlocked,400,lit "The request was blocked by the configured privacy policy.",
    some (sortedSet blockedEntityTypes)⟩
def providerTimeoutError : GatewayError :=
  ⟨.providerTimeout,504,lit "The LLM provider did not respond in time.",none⟩
def providerAuthError : GatewayError :=
  ⟨.providerAuth,502,lit "Authentication with the LLM provider failed.",none⟩
def providerResponseError : GatewayError :=
  ⟨.providerResponse,502,lit "The LLM provider returned an unusable response.",none⟩
def detectorFailureError : GatewayError :=
  ⟨.detectorFailure,500,lit "Privacy mediation failed; the request was not sent to the provider.",none⟩
def responseScanFailureError : GatewayError :=
  ⟨.responseScanFailure,500,
    lit "Privacy scanning of the provider response failed; the response was not returned to the client.",none⟩
def auditWriteError : GatewayError :=
  ⟨.auditWrite,500,lit "The audit record could not be written.",none⟩

/-- `sqlite3.Error` and its subclasses. -/
inductive SqliteError where
  | operational | integrity | database | interface | data | internal | programming | notSupported | base
  deriving DecidableEq, Repr

/-- An `Exception` as the handlers tell them apart. -/
inductive PyException where
  | gateway (error : GatewayError)
  | sqlite (error : SqliteError)
  | osError
  | unicodeEncodeError
  | typeError
  | valueError
  | keyError
  | indexError
  | attributeError
  | overflowError
  | runtimeError
  | other (name : PyStr)
  deriving DecidableEq, Repr

end PrivacyGateway.Errors
