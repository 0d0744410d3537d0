import Wbcz.Ledgers.State

/-!
# The turnover ledger

`TurnoverApplicationService` of `wbcz_web/services/turnover.py`: queueing a prepared document
under the id of its operation, recording the id the remote system gave the document, and
reconciling the operation with what was read afterwards.
-/

namespace Wbcz.Ledgers

open Wbcz.Web (TenantContext)

/-- `ExactDocument`. -/
structure ExactDocument where
  payload : List UInt8
  sha256 : String
  productDocumentBase64 : String
  deriving DecidableEq

/-- `PreparedTurnoverDocument`. -/
structure PreparedTurnoverDocument where
  operationKind : TurnoverOperationKind
  documentType : String
  documentFormat : String
  pg : String
  exactDocument : ExactDocument
  rawBusinessReason : Option String
  expectedPostcondition : String
  deriving DecidableEq

/-- The document type that the registry has for a kind. -/
def TurnoverOperationKind.documentType : TurnoverOperationKind → String
  | .introduceDomestic => "LP_INTRODUCE_GOODS"
  | .introduceFromIndividual => "LK_INDI_COMMISSIONING"
  | .introduceImportPreMandatory => "LP_GOODS_IMPORT"
  | .introduceEaeu => "CROSSBORDER"
  | .introduceRemains => "LP_INTRODUCE_OST"
  | .introduceContract => "LK_CONTRACT_COMMISSIONING"
  | .introduceFts => "LP_FTS_INTRODUCE"
  | .withdraw => "LK_RECEIPT"
  | .withdrawDistance => "LK_RECEIPT"
  | .returnToCirculation => "LP_RETURN"
  | .returnRemoteSale => "LP_RETURN"
  | .remark => "LK_REMARK"
  | .writeOff => "WRITE_OFF"
  | .cancelWithdrawal => "LK_RECEIPT_CANCEL"

/-- `TURNOVER_PURPOSE`. -/
def turnoverPurpose : String := "TURNOVER_M5"

/-- The arguments of `queue_prevalidated`. -/
structure TurnoverQueueCall where
  prepared : PreparedTurnoverDocument
  operationId : String
  preconditionSnapshot : List (String × Json)
  cancellationReference : Option String := none

/-- What `queue_prevalidated` answers. -/
structure QueueReply where
  requestId : String
  operationId : String
  status : String
  idempotencyKey : String

/-- What is asked of a call before the ledger is looked at. -/
def TurnoverQueueCall.check (call : TurnoverQueueCall) : Except PyError Unit :=
  if call.prepared.pg ≠ p0Pg then .error ⟨.valueError, "M5 turnover is scoped to pg=lp"⟩
  else if call.prepared.documentType ≠ call.prepared.operationKind.documentType then
    .error ⟨.valueError, "operation/document type registry mismatch"⟩
  else if call.prepared.documentFormat ≠ "MANUAL" then
    .error ⟨.valueError, "M5 JSON turnover operations use MANUAL"⟩
  else if ¬ ((Json.obj call.preconditionSnapshot).get "verified_fresh").truthy then
    .error ⟨.valueError, "fresh precondition verification is required"⟩
  else .ok ()

/-- The request whose digest a ledger row keeps. -/
def TurnoverQueueCall.request (call : TurnoverQueueCall) : Json :=
  .obj [("operation_kind", .str call.prepared.operationKind.value),
    ("document_type", .str call.prepared.documentType), ("pg", .str call.prepared.pg),
    ("document_sha256", .str call.prepared.exactDocument.sha256),
    ("raw_business_reason", .ofText? call.prepared.rawBusinessReason),
    ("expected_postcondition", .str call.prepared.expectedPostcondition),
    ("cancellation_reference", .ofText? call.cancellationReference)]

/-- The digest of a value under its canonical text. -/
def canonicalHash (runtime : Runtime) (value : Json) : String :=
  runtime.digests.sha256 (Text.utf8 (Json.canonical value))

namespace LedgerState

variable (runtime : Runtime) (request : LedgerRequest)

/-- The row of an operation that a tenant sees. -/
def turnoverRow (s : LedgerState) (scope : TenantContext) (operationId : String) :
    Option TurnoverOperationLedgerRecord :=
  (s.turnover.find? operationId).filter fun row =>
    row.organisationId = scope.organisationId && row.participantId = scope.participantId

/-- The row that `queue_prevalidated` inserts. -/
def turnoverInserted (scope : TenantContext) (operationId : String) (call : TurnoverQueueCall) :
    TurnoverOperationLedgerRecord where
  operationId := operationId
  organisationId := scope.organisationId
  participantId := scope.participantId
  requestId := "job_m5_" ++ request.freshId
  operationKind := call.prepared.operationKind.value
  documentType := call.prepared.documentType
  documentSha256 := call.prepared.exactDocument.sha256
  requestSha256 := canonicalHash runtime call.request
  idempotencyKey := operationId ++ ":" ++ call.prepared.exactDocument.sha256
  rawBusinessReason := call.prepared.rawBusinessReason
  preconditionSnapshot := .obj call.preconditionSnapshot
  expectedPostcondition := .obj [("class", .str call.prepared.expectedPostcondition)]
  reconciliationState := .pending
  cancellationReference := call.cancellationReference

/-- The entry of a queued operation. -/
def turnoverIntent (scope : TenantContext) (row : TurnoverOperationLedgerRecord) :
    ImmutableEntry :=
  let preconditionHash := canonicalHash runtime row.preconditionSnapshot
  { eventType := "TURNOVER_INTENT_CREATED"
    operationId := row.operationId
    actorKind := if scope.userId.isSome then .user else .worker
    machinePrincipal := if scope.userId.isSome then none else some "turnover-worker"
    outcome := .pending
    metadata := [("request_id", .str row.requestId), ("operation_kind", .str row.operationKind),
      ("document_type", .str row.documentType), ("document_sha256", .str row.documentSha256),
      ("request_sha256", .str row.requestSha256),
      ("idempotency_fingerprint", .str row.idempotencyKey),
      ("precondition_evidence_sha256", .str preconditionHash)]
    evidenceHashes := [row.documentSha256, row.requestSha256, preconditionHash]
    eventKeySuffix := "intent" }

/-- A request that comes again brings what the row was made of, as far as it is compared. -/
def turnoverReplays (row : TurnoverOperationLedgerRecord) (call : TurnoverQueueCall) : Bool :=
  row.documentSha256 = call.prepared.exactDocument.sha256 &&
    row.operationKind = call.prepared.operationKind.value &&
    row.documentType = call.prepared.documentType

/-- A table takes a new row when its request id is new to the tenant and its values fit. -/
def insertTurnover (s : LedgerState) (row : TurnoverOperationLedgerRecord) :
    Except PyError LedgerState :=
  if ¬ row.fits then .error ⟨.dataError, ""⟩
  else if s.turnover.rows.any fun other =>
      other.organisationId = row.organisationId && other.participantId = row.participantId &&
        other.requestId = row.requestId then
    .error ⟨.integrityError, ""⟩
  else
    match s.turnover.insert row with
    | none => .error ⟨.integrityError, ""⟩
    | some turnover => .ok { s with turnover := turnover }

/-- The job of a queued operation. -/
def turnoverJob (scope : TenantContext) (call : TurnoverQueueCall)
    (row : TurnoverOperationLedgerRecord) (jobType : AgentJobType) : AgentJob where
  jobId := row.requestId
  jobType := jobType
  operationId := row.operationId
  pg := p0Pg
  expectedInn := scope.participantInn
  documentType := some row.documentType
  documentSha256 := some row.documentSha256
  productDocumentBase64 := some call.prepared.exactDocument.productDocumentBase64

/-- `queue_prevalidated` of an operation that is there. -/
def replayTurnover (s : LedgerState) (scope : TenantContext) (call : TurnoverQueueCall)
    (row : TurnoverOperationLedgerRecord) : Except PyError (QueueReply × LedgerState) :=
  if ¬ turnoverReplays row call then
    .error ⟨.agentReplayConflict, "same operation_id has different immutable turnover payload"⟩
  else
    .ok (⟨row.requestId, row.operationId, "deduplicated", row.idempotencyKey⟩,
      s.audit turnoverLedger scope row.operationId "TURNOVER_IDEMPOTENT_REPLAY"
        [("request_id", .str row.requestId), ("document_sha256", .str row.documentSha256)])

/-- `queue_prevalidated` of an operation that is not there yet. -/
def createTurnover (s : LedgerState) (scope : TenantContext) (call : TurnoverQueueCall)
    (row : TurnoverOperationLedgerRecord) : Except PyError (QueueReply × LedgerState) := do
  let inserted ← s.insertTurnover row
  let recorded ← inserted.immutable runtime request turnoverLedger
    (turnoverIntent runtime scope row)
  match AgentJobType.ofValue? row.documentType with
  | none => .error ⟨.valueError, ""⟩
  | some jobType => do
    let queued ← recorded.enqueue runtime request scope (turnoverJob scope call row jobType)
      turnoverPurpose
    .ok (⟨row.requestId, row.operationId, "pending", row.idempotencyKey⟩,
      queued.audit turnoverLedger scope row.operationId "TURNOVER_QUEUED"
        [("request_id", .str row.requestId), ("operation_kind", .str row.operationKind),
          ("document_type", .str row.documentType),
          ("document_sha256", .str row.documentSha256)])

/-- `queue_prevalidated`. -/
def queueTurnover (s : LedgerState) (call : TurnoverQueueCall) :
    Except PyError (QueueReply × LedgerState) :=
  if call.operationId = "" ∨ call.operationId.length > 128 then
    .error ⟨.valueError, "operation_id must be 1..128 characters"⟩
  else do
    let scope ← request.activeTenant
    let operationId :=
      tenantOperationId runtime.digests scope "m5-turnover" call.operationId "m5_"
    call.check
    match s.turnoverRow scope operationId with
    | some row => s.replayTurnover scope call row
    | none =>
      s.createTurnover runtime request scope call
        (turnoverInserted runtime request scope operationId call)

/-- The part of a row that `reconcile` and `record_remote_document` write. -/
structure TurnoverProgress where
  reconciliationState : ReconciliationState
  reconciliationJson : Json
  remoteDocumentId : Option String

/-- The row with its progress rewritten. -/
def TurnoverProgress.apply (progress : TurnoverProgress) (row : TurnoverOperationLedgerRecord) :
    TurnoverOperationLedgerRecord :=
  { row with
    reconciliationState := progress.reconciliationState
    reconciliationJson := progress.reconciliationJson
    remoteDocumentId := progress.remoteDocumentId }

theorem TurnoverProgress.key_apply (progress : TurnoverProgress)
    (row : TurnoverOperationLedgerRecord) : (progress.apply row).key = row.key := rfl

def updateTurnover (s : LedgerState) (row : TurnoverOperationLedgerRecord)
    (progress : TurnoverProgress) : Except PyError LedgerState :=
  if ¬ (progress.apply row).fits then .error ⟨.dataError, ""⟩
  else
    .ok { s with turnover := s.turnover.modify row.operationId progress.apply progress.key_apply }

/-- `_ledger`, where the operation has to be there. -/
def requireTurnover (s : LedgerState) (operationId : String) :
    Except PyError (TenantContext × TurnoverOperationLedgerRecord) := do
  let scope ← request.activeTenant
  match s.turnoverRow scope operationId with
  | some row => .ok (scope, row)
  | none => .error ⟨.keyError, operationId⟩

/-- The entry of a document id. -/
def turnoverRemoteResult (row : TurnoverOperationLedgerRecord) (documentId : String) :
    ImmutableEntry where
  eventType := "TURNOVER_REMOTE_RESULT"
  operationId := row.operationId
  actorKind := .worker
  machinePrincipal := some "turnover-result-worker"
  outcome := .success
  metadata := [("operation_kind", .str row.operationKind),
    ("document_type", .str row.documentType), ("document_sha256", .str row.documentSha256),
    ("remote_document_id", .str documentId), ("request_sha256", .str row.requestSha256)]
  evidenceHashes := [row.documentSha256, row.requestSha256]
  eventKeySuffix := "remote-result:" ++ runtime.digests.sha256 (Text.utf8 documentId)

/-- `record_remote_document`. -/
def recordTurnoverDocument (s : LedgerState) (operationId documentId : String) :
    Except PyError LedgerState := do
  let found ← s.requireTurnover request operationId
  if documentId = "" ∨ documentId.length > 512 then
    .error ⟨.valueError, "unsafe document_id"⟩
  else if ¬ emptyText found.2.remoteDocumentId ∧ found.2.remoteDocumentId ≠ some documentId then
    .error ⟨.agentReplayConflict, "remote document id changed for operation"⟩
  else do
    let updated ← s.updateTurnover found.2
      ⟨found.2.reconciliationState, found.2.reconciliationJson, some documentId⟩
    (updated.audit turnoverLedger found.1 operationId "TURNOVER_REMOTE_DOCUMENT_CONFIRMED"
      [("document_id", .str documentId)]).immutable runtime request turnoverLedger
      (turnoverRemoteResult runtime found.2 documentId)

/-- The arguments of `reconcile`. -/
structure TurnoverReconcileCall where
  operationId : String
  documentStatusRaw : Option String
  cisSnapshots : List CisSnapshot
  expectedRestore : ExpectedRestore := []
  aggregationObservations : List M5AggregationObservation := []

/-- The parents that the codes of an operation had before it: the entry of the observed codes
that name one, by the text of the code. -/
def preParentEntry (item : Json) : Option (String × Json) :=
  if item.isObj ∧ (item.get "cis").truthy then
    some (CisInventory.pyStr runtime.containerText (item.get "cis"), item.get "parent")
  else none

/-- `pre_parent_map`. -/
def preParentMap (snapshot : Json) : Except PyError (List (String × Json)) := do
  let observed ←
    match snapshot with
    | .obj _ => Audit.pyList ((snapshot.get? "observed").getD (.arr []))
    | _ => .ok []
  .ok (Json.merge [] (observed.filterMap (preParentEntry runtime)))

/-- What the hash of a reconciliation covers. -/
def reconciliationEvidence (result : ReconciliationResult) : Json :=
  .obj [("state", .str result.state.value), ("reason", .str result.reason),
    ("document_status_raw", .ofText? result.documentStatusRaw)]

/-- The outcome under which a reconciliation is recorded. -/
def reconciliationOutcome (state : ReconciliationState) : Audit.AuditOutcome :=
  if state = .reconciled then .success else .conflict

/-- The reason an operator reads where an operation is not reconciled. -/
def manualReviewReason (state : ReconciliationState) (reason : String) : Json :=
  if state = .reconciled then .null else .str reason

/-- The entry of a reconciliation. -/
def turnoverReconciled (row : TurnoverOperationLedgerRecord) (result : ReconciliationResult) :
    ImmutableEntry :=
  let reconciliationHash := canonicalHash runtime (reconciliationEvidence result)
  { eventType := "TURNOVER_RECONCILED"
    operationId := row.operationId
    actorKind := .worker
    machinePrincipal := some "turnover-reconciliation-worker"
    outcome := reconciliationOutcome result.state
    metadata := [("operation_kind", .str row.operationKind),
      ("document_type", .str row.documentType), ("document_sha256", .str row.documentSha256),
      ("reconciliation_state", .str result.state.value),
      ("postcondition_evidence_sha256", .str reconciliationHash),
      ("manual_review_reason", manualReviewReason result.state result.reason)]
    evidenceHashes := [row.documentSha256, reconciliationHash]
    eventKeySuffix := "reconciled:" ++ reconciliationHash }

/-- What `reconcile` concludes for the row of an operation. -/
def turnoverConclusion (row : TurnoverOperationLedgerRecord) (call : TurnoverReconcileCall) :
    Except PyError ReconciliationResult := do
  let parents ← preParentMap runtime row.preconditionSnapshot
  .ok (reconcile row.operationKind call.documentStatusRaw call.cisSnapshots call.expectedRestore
    parents call.aggregationObservations)

/-- `reconcile`. -/
def reconcileTurnover (s : LedgerState) (call : TurnoverReconcileCall) :
    Except PyError (ReconciliationResult × LedgerState) := do
  let found ← s.requireTurnover request call.operationId
  let result ← turnoverConclusion runtime found.2 call
  let updated ← s.updateTurnover found.2
    ⟨result.state,
      .obj [("document_status_raw", .ofText? result.documentStatusRaw),
        ("reason", .str result.reason), ("observed", .arr result.observed),
        ("recorded_at", .str request.now)], found.2.remoteDocumentId⟩
  let recorded ← (updated.audit turnoverLedger found.1 call.operationId "TURNOVER_RECONCILIATION"
    [("state", .str result.state.value), ("reason", .str result.reason)]).immutable runtime
    request turnoverLedger (turnoverReconciled runtime found.2 result)
  .ok (result, recorded)

end LedgerState

end Wbcz.Ledgers
