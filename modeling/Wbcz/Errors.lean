import Mathlib.Data.List.Basic

/-!
# Python exceptions

A raised exception is its class and its text. The classes are those the modelled code
raises or tests for; `other` stands for any class the code only names, such as those of
a transport. The text of an exception raised by a library is left empty.
-/

namespace Wbcz

/-- The classes of the exceptions the code raises. -/
inductive ErrorClass where
  | valueError
  | typeError
  | keyError
  | lookupError
  | permissionError
  | runtimeError
  | binasciiError
  | integrityError
  | dataError
  | invalidWriteOperation
  | replayConflict
  | duplicateSubmitBlocked
  | productionWriteDisabled
  | agentSecurityError
  | agentAuthError
  | agentReplayConflict
  | agentProductionWriteDisabled
  | agentCreateOutcomeUnresolved
  | cisInventoryContractError
  | reportError
  | auditError
  | other (name : String)
  deriving DecidableEq, Repr

namespace ErrorClass

/-- `type(exc).__name__`. -/
def name : ErrorClass → String
  | valueError => "ValueError"
  | typeError => "TypeError"
  | keyError => "KeyError"
  | lookupError => "LookupError"
  | permissionError => "PermissionError"
  | runtimeError => "RuntimeError"
  | binasciiError => "Error"
  | integrityError => "IntegrityError"
  | dataError => "DataError"
  | invalidWriteOperation => "InvalidWriteOperation"
  | replayConflict => "ReplayConflict"
  | duplicateSubmitBlocked => "DuplicateSubmitBlocked"
  | productionWriteDisabled => "ProductionWriteDisabled"
  | agentSecurityError => "AgentSecurityError"
  | agentAuthError => "AgentAuthError"
  | agentReplayConflict => "AgentReplayConflict"
  | agentProductionWriteDisabled => "AgentProductionWriteDisabled"
  | agentCreateOutcomeUnresolved => "AgentCreateOutcomeUnresolved"
  | cisInventoryContractError => "CisInventoryContractError"
  | reportError => "ReportError"
  | auditError => "AuditError"
  | other name => name

end ErrorClass

/-- A raised exception. -/
structure PyError where
  cls : ErrorClass
  message : String := ""
  deriving DecidableEq, Repr

end Wbcz
