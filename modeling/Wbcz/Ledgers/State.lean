import Mathlib.Logic.Function.Basic
import Wbcz.Audit.Service
import Wbcz.Web.JobStore
import Wbcz.Ledgers.Reconciliation

/-!
# The operation ledgers of the web service

The tables behind `TurnoverApplicationService` and `AggregationApplicationService` of
`wbcz_web/services`, and what the two services share: the tenant of a request, the notes of
the audit log, the immutable history and the outbox of jobs. The time stamps of a row are left
out. An operation that raises is rolled back with its request.
-/

namespace Wbcz.Ledgers

open Wbcz.Audit (ActorContext ActorKind AuditChain AuditOutcome AuditPseudonymizer AppendCall
  Digests Draws SubjectType)
open Wbcz.Web (AgentJobRecord TenantContext WebTables fitsString)

/-- What no request changes: the digests, the contracts of the read payloads, and how Python
prints a container. -/
structure Runtime where
  digests : Digests
  contracts : PayloadContracts
  containerText : Json → String

/-- What a request brings along: the tenant its session works for, the trace `get_db` gave it,
the key of the pseudonyms, the rows of other tables, and what is drawn anew. -/
structure LedgerRequest where
  /-- `active_tenant` -/
  tenant : Option TenantContext
  requestId : Option String
  correlationId : Option String
  causationId : Option String
  pseudonymizer : AuditPseudonymizer
  directory : Audit.Directory
  web : Web.Directory
  draws : Draws
  jobDraws : Draws
  freshId : String
  now : String
  availableAt : ℤ

/-- A row of `turnover_operation_ledger`. -/
structure TurnoverOperationLedgerRecord where
  operationId : String
  organisationId : String
  participantId : String
  requestId : String
  operationKind : String
  documentType : String
  documentSha256 : String
  requestSha256 : String
  idempotencyKey : String
  rawBusinessReason : Option String
  preconditionSnapshot : Json
  expectedPostcondition : Json
  reconciliationState : ReconciliationState
  reconciliationJson : Json := .obj []
  cancellationReference : Option String
  remoteDocumentId : Option String := none

/-- The primary key of a row. -/
abbrev TurnoverOperationLedgerRecord.key (row : TurnoverOperationLedgerRecord) : String :=
  row.operationId

/-- A row of `aggregation_operation_ledger`. -/
structure AggregationOperationLedgerRecord where
  operationId : String
  organisationId : String
  participantId : String
  requestId : String
  operationKind : String
  documentType : String
  documentSha256 : String
  requestSha256 : String
  idempotencyKey : String
  parentCis : Option String
  discoveredParentCis : Option String := none
  childSetHash : String
  relationDelta : String
  preconditionSnapshot : Json
  expectedRelationDelta : Json
  reconciliationState : ReconciliationState
  reconciliationJson : Json := .obj []
  rawHistoryEvidence : Json := .arr []
  remoteDocumentId : Option String := none

/-- The primary key of a row. -/
abbrev AggregationOperationLedgerRecord.key (row : AggregationOperationLedgerRecord) : String :=
  row.operationId

/-- The values of a row are values of its columns. -/
def TurnoverOperationLedgerRecord.fits (row : TurnoverOperationLedgerRecord) : Bool :=
  fitsString 128 row.operationId && fitsString 128 row.requestId &&
    fitsString 64 row.operationKind && fitsString 64 row.documentType &&
    fitsString 64 row.documentSha256 && fitsString 64 row.requestSha256 &&
    fitsString 256 row.idempotencyKey && row.rawBusinessReason.all (fitsString 128) &&
    row.cancellationReference.all (fitsString 512) && row.remoteDocumentId.all (fitsString 512)

/-- The values of a row are values of its columns. -/
def AggregationOperationLedgerRecord.fits (row : AggregationOperationLedgerRecord) : Bool :=
  fitsString 128 row.operationId && fitsString 128 row.requestId &&
    fitsString 64 row.operationKind && fitsString 64 row.documentType &&
    fitsString 64 row.documentSha256 && fitsString 64 row.requestSha256 &&
    fitsString 256 row.idempotencyKey && row.parentCis.all (fitsString 128) &&
    row.discoveredParentCis.all (fitsString 128) && fitsString 64 row.childSetHash &&
    fitsString 32 row.relationDelta && row.remoteDocumentId.all (fitsString 512)

/-- A row of `audit_log`. -/
structure AuditLog where
  action : String
  organisationId : String
  participantId : String
  entityType : String
  entityId : String
  metadataJson : List (String × Json)

/-- The tables the two services write. The audit chains are those of the organisations. -/
structure LedgerState where
  turnover : Table TurnoverOperationLedgerRecord.key
  aggregation : Table AggregationOperationLedgerRecord.key
  web : WebTables
  auditLog : List AuditLog
  chains : String → Option AuditChain

/-- `active_tenant`. -/
def LedgerRequest.activeTenant (request : LedgerRequest) : Except PyError TenantContext :=
  match request.tenant with
  | some scope => .ok scope
  | none => .error ⟨.permissionError, "active tenant scope required"⟩

/-- `tenant_operation_id`. -/
def tenantOperationId (digests : Digests) (scope : TenantContext)
    (space externalId start : String) : String :=
  let raw := "m12:" ++ space ++ ":v1:" ++ scope.organisationId ++ ":" ++ scope.participantId ++
    ":" ++ externalId
  start ++ Text.take 32 (digests.sha256 (Text.utf8 raw))

/-- An event of the immutable history of a ledger. -/
structure ImmutableEntry where
  eventType : String
  operationId : String
  actorKind : ActorKind
  machinePrincipal : Option String
  outcome : AuditOutcome
  metadata : List (String × Json)
  evidenceHashes : List String
  eventKeySuffix : String

/-- One of the two ledgers: its name in keys and in the audit log, and its subject. -/
structure LedgerName where
  family : String
  entityType : String
  subjectType : SubjectType

def turnoverLedger : LedgerName := ⟨"turnover", "turnover_operation", .turnoverOperation⟩

def aggregationLedger : LedgerName :=
  ⟨"aggregation", "aggregation_operation", .aggregationOperation⟩

/-- The key under which a ledger records an event. -/
def LedgerName.eventKey (ledger : LedgerName) (operationId suffix : String) : String :=
  Text.take 256 (ledger.family ++ ":" ++ operationId ++ ":" ++ suffix)

/-- The actor of an entry: the user of the session where the entry is a user's. -/
def ImmutableEntry.actor (entry : ImmutableEntry) (scope : TenantContext) : ActorContext :=
  match entry.actorKind, scope.userId with
  | .user, some userId => { kind := .user, userId := some userId }
  | kind, _ => { kind := kind, machinePrincipal := entry.machinePrincipal }

/-- The append that `_immutable` makes. -/
def LedgerName.appendCall (ledger : LedgerName) (request : LedgerRequest) (scope : TenantContext)
    (entry : ImmutableEntry) : AppendCall where
  eventType := entry.eventType
  actor := entry.actor scope
  tenant := ⟨some scope.organisationId, some scope.participantId⟩
  subject := ⟨ledger.subjectType, entry.operationId, false⟩
  outcome := entry.outcome
  authorizationDecision := if (entry.actor scope).kind = .user then .allow else .notApplicable
  trace := {
    requestId := request.requestId
    correlationId := request.correlationId
    causationId := request.causationId
    operationId := some entry.operationId
    eventKey := some (ledger.eventKey entry.operationId entry.eventKeySuffix) }
  metadata := entry.metadata
  evidenceHashes := entry.evidenceHashes.map some

namespace LedgerState

variable (runtime : Runtime) (request : LedgerRequest) (s : LedgerState)

/-- An append to the chain of the organisation of its tenant. -/
def append (draws : Draws) (organisationId : String) (call : AppendCall) :
    Except PyError LedgerState := do
  let appended ← Audit.append runtime.digests request.pseudonymizer request.directory draws call
    (s.chains organisationId)
  .ok { s with chains := Function.update s.chains organisationId (some appended.2) }

/-- `_immutable`. -/
def immutable (ledger : LedgerName) (entry : ImmutableEntry) : Except PyError LedgerState := do
  let scope ← request.activeTenant
  s.append runtime request request.draws scope.organisationId
    (ledger.appendCall request scope entry)

/-- `_audit`. -/
def audit (ledger : LedgerName) (scope : TenantContext) (operationId action : String)
    (metadata : List (String × Json)) : LedgerState :=
  { s with
    auditLog := s.auditLog ++
      [⟨action, scope.organisationId, scope.participantId, ledger.entityType, operationId,
        metadata⟩] }

/-- The append for a job that was enqueued. -/
def jobCreatedCall (scope : TenantContext) (row : AgentJobRecord) : AppendCall where
  eventType := "AGENT_JOB_CREATED"
  actor :=
    match scope.userId with
    | some userId => { kind := .user, userId := some userId }
    | none => { kind := .system }
  tenant := ⟨some scope.organisationId, some scope.participantId⟩
  subject := ⟨.agentJob, row.job.jobId, false⟩
  outcome := .pending
  authorizationDecision := if scope.userId.isSome then .allow else .notApplicable
  trace := {
    correlationId := request.correlationId
    causationId := request.requestId
    operationId := some row.job.operationId
    agentJobId := some row.job.jobId
    eventKey := some ("agent:" ++ row.job.jobId ++ ":created") }
  metadata := [("job_type", .str row.job.jobType.value), ("purpose", .str row.purpose),
    ("delivery_count", .int row.deliveryCount), ("payload_sha256", .str row.payloadSha256)]

/-- `SqlAlchemyAgentJobStore.enqueue` with the event a new row is announced by. -/
def enqueue (scope : TenantContext) (job : AgentJob) (purpose : String) :
    Except PyError LedgerState := do
  let stored ← s.web.enqueue runtime.digests.sha256 runtime.contracts request.web (some scope)
    job { purpose := purpose, availableAt := request.availableAt }
  match s.web.jobs.find? job.jobId, stored.2.jobs.find? job.jobId with
  | none, some row =>
    LedgerState.append runtime request { s with web := stored.2 } request.jobDraws
      scope.organisationId (jobCreatedCall request scope row)
  | _, _ => .ok { s with web := stored.2 }

end LedgerState

end Wbcz.Ledgers
