import Mathlib.Data.Int.Notation
import Mathlib.Data.List.Infix

/-!
# What a worker does after a failure

`classify_worker_exception` of `wbcz_web/services/worker_runtime.py` and the retry policy of
`wbcz_web/services/production_hardening.py`. The delay of a retry is drawn at random below a
bound that grows with the attempts; it is an argument of what uses it.
-/

namespace Wbcz.Reports

inductive RetryClassification where
  | deterministicFailure
  | authFailure
  | permissionFailure
  | validationFailure
  | contractBlocked
  | rateLimited
  | remote429
  | remote5xx
  | networkTimeoutPreSend
  | ambiguousAfterSend
  | storageTransient
  | databaseTransient
  | agentOffline
  | agentProtocolError
  | unknownRemoteError
  deriving DecidableEq, Repr

namespace RetryClassification

def value : RetryClassification → String
  | deterministicFailure => "DETERMINISTIC_FAILURE"
  | authFailure => "AUTH_FAILURE"
  | permissionFailure => "PERMISSION_FAILURE"
  | validationFailure => "VALIDATION_FAILURE"
  | contractBlocked => "CONTRACT_BLOCKED"
  | rateLimited => "RATE_LIMITED"
  | remote429 => "REMOTE_429"
  | remote5xx => "REMOTE_5XX"
  | networkTimeoutPreSend => "NETWORK_TIMEOUT_PRE_SEND"
  | ambiguousAfterSend => "AMBIGUOUS_AFTER_SEND"
  | storageTransient => "STORAGE_TRANSIENT"
  | databaseTransient => "DATABASE_TRANSIENT"
  | agentOffline => "AGENT_OFFLINE"
  | agentProtocolError => "AGENT_PROTOCOL_ERROR"
  | unknownRemoteError => "UNKNOWN_REMOTE_ERROR"

end RetryClassification

/-- A rule of the policy, without the bounds of its random delay. -/
structure RetryRule where
  maxSemanticAttempts : ℕ
  automatic : Bool
  consumesSemanticAttempt : Bool := true

/-- `RETRY_POLICY`. -/
def retryPolicy : RetryClassification → RetryRule
  | .rateLimited | .remote429 => ⟨6, true, true⟩
  | .remote5xx | .networkTimeoutPreSend => ⟨5, true, true⟩
  | .storageTransient | .databaseTransient => ⟨3, true, true⟩
  | .agentOffline => ⟨0, true, false⟩
  | .deterministicFailure | .authFailure | .permissionFailure | .validationFailure
  | .contractBlocked | .ambiguousAfterSend | .agentProtocolError | .unknownRemoteError =>
    ⟨0, false, true⟩

structure RetryDecision where
  retry : Bool
  delaySeconds : ℤ
  consumesSemanticAttempt : Bool
  classification : RetryClassification
  terminalReason : Option String := none
  deriving DecidableEq, Repr

/-- `retry_decision` without `retry_after`, with the delay that was drawn. -/
def retryDecision (classification : RetryClassification) (semanticRetryCount : ℕ)
    (now operationDeadline drawn : ℤ) : RetryDecision :=
  let rule := retryPolicy classification
  if ¬ rule.automatic then
    ⟨false, 0, rule.consumesSemanticAttempt, classification, some classification.value⟩
  else if rule.consumesSemanticAttempt ∧ rule.maxSemanticAttempts ≤ semanticRetryCount then
    ⟨false, 0, true, classification, some "SEMANTIC_RETRY_LIMIT"⟩
  else if operationDeadline - now ≤ 0 then
    ⟨false, 0, rule.consumesSemanticAttempt, classification, some "OPERATION_MAX_AGE"⟩
  else
    ⟨true, min drawn (operationDeadline - now), rule.consumesSemanticAttempt, classification, none⟩

/-- What `execute_claimed` may raise, as the worker tells it apart. -/
inductive WorkerException where
  /-- `OperationalError`, `DBAPIError` -/
  | database
  /-- `OSError` with `ENOSPC`, `EIO` or `ESTALE` -/
  | storage
  | artifactLimitExceeded
  /-- `ValueError`, `PermissionError`, `ReportSecurityError` -/
  | rejected
  /-- any other exception, with the name of its class -/
  | other (className : String)
  deriving DecidableEq, Repr

/-- `classify_failure` of the name of a class: those names that name a classification. -/
def classifyFailure (errorCode : String) : RetryClassification :=
  let code := errorCode.toList.map Char.toUpper
  if code = "AGENT_OFFLINE".toList ∨ code = "AGENT_UNAVAILABLE".toList then .agentOffline
  else if "PROTOCOL".toList <:+: code then .agentProtocolError
  else if code = "CONTRACT_BLOCKED".toList ∨ code = "FEATURE_BLOCKED".toList ∨
      code = "M7_OFFICIAL_XSD_NOT_PINNED".toList ∨
      code = "OFFICIAL_SUZ_PROGRAMMER_MANUAL_NOT_PINNED".toList then .contractBlocked
  else if "DB_".toList <+: code ∨ code = "DATABASE_TRANSIENT".toList ∨
      code = "DEADLOCK".toList ∨ code = "SERIALIZATION_FAILURE".toList then .databaseTransient
  else if "STORAGE_".toList <+: code ∨ code = "ENOSPC".toList ∨ code = "EIO".toList then
    .storageTransient
  else if code = "RATE_LIMITED".toList then .rateLimited
  else if code = "INVALID".toList ∨ code = "DETERMINISTIC_FAILURE".toList then
    .deterministicFailure
  else .unknownRemoteError

def classifyWorkerException : WorkerException → RetryClassification
  | .database => .databaseTransient
  | .storage => .storageTransient
  | .artifactLimitExceeded => .deterministicFailure
  | .rejected => .validationFailure
  | .other className => classifyFailure className

/-- A worker that ran out of its time or its space does not try again. -/
example : (retryDecision (classifyWorkerException .artifactLimitExceeded) 0 0 86400 1).retry =
    false := by decide

end Wbcz.Reports
