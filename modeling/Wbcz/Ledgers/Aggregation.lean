import Mathlib.Data.List.Sort
import Mathlib.Data.List.Dedup
import Wbcz.Ledgers.Turnover

/-!
# The aggregation ledger

`AggregationApplicationService` of `wbcz_web/services/aggregation.py`, the sibling of the
turnover ledger for documents that form, change and take apart aggregates.
-/

namespace Wbcz.Ledgers

open Wbcz.Web (TenantContext)

/-- The kinds of aggregation operations. -/
inductive AggregationOperationKind where
  | formTransportPackage
  | formMultiproductTransportPackage
  | formSet
  | formSetGenericCompatibility
  | transformPackageAdd
  | transformPackageRemove
  | disaggregatePackage
  | formAtk
  | transformAtkAdd
  | transformAtkRemove
  | disaggregateAtk
  | readAggregateTree
  | readAggregationHistory
  | reconcileAggregationOperation
  | autoDisaggregation
  deriving DecidableEq, Repr

namespace AggregationOperationKind

/-- The stored text of a kind. -/
def value : AggregationOperationKind → String
  | formTransportPackage => "FORM_TRANSPORT_PACKAGE"
  | formMultiproductTransportPackage => "FORM_MULTIPRODUCT_TRANSPORT_PACKAGE"
  | formSet => "FORM_SET"
  | formSetGenericCompatibility => "FORM_SET_GENERIC_COMPATIBILITY"
  | transformPackageAdd => "TRANSFORM_PACKAGE_ADD"
  | transformPackageRemove => "TRANSFORM_PACKAGE_REMOVE"
  | disaggregatePackage => "DISAGGREGATE_PACKAGE"
  | formAtk => "FORM_ATK"
  | transformAtkAdd => "TRANSFORM_ATK_ADD"
  | transformAtkRemove => "TRANSFORM_ATK_REMOVE"
  | disaggregateAtk => "DISAGGREGATE_ATK"
  | readAggregateTree => "READ_AGGREGATE_TREE"
  | readAggregationHistory => "READ_AGGREGATION_HISTORY"
  | reconcileAggregationOperation => "RECONCILE_AGGREGATION_OPERATION"
  | autoDisaggregation => "AUTO_DISAGGREGATION"

/-- The document type that the registry has for a kind, where the kind can be executed. -/
def documentType? : AggregationOperationKind → Option String
  | formTransportPackage | formMultiproductTransportPackage | formSetGenericCompatibility =>
    some "AGGREGATION_DOCUMENT"
  | formSet => some "SETS_AGGREGATION"
  | transformPackageAdd | transformPackageRemove => some "REAGGREGATION_DOCUMENT"
  | disaggregatePackage => some "DISAGGREGATION_DOCUMENT"
  | formAtk => some "ATK_AGGREGATION"
  | transformAtkAdd | transformAtkRemove => some "ATK_TRANSFORMATION"
  | disaggregateAtk => some "ATK_DISAGGREGATION"
  | readAggregateTree | readAggregationHistory | reconcileAggregationOperation
  | autoDisaggregation => none

/-- `_relation_delta`. -/
def relationDelta : AggregationOperationKind → Except PyError String
  | formTransportPackage | formMultiproductTransportPackage | formSet
  | formSetGenericCompatibility | formAtk => .ok "FORM"
  | transformPackageAdd | transformAtkAdd => .ok "ADD"
  | transformPackageRemove | transformAtkRemove => .ok "REMOVE"
  | disaggregatePackage | disaggregateAtk => .ok "DISAGGREGATE"
  | readAggregateTree | readAggregationHistory | reconcileAggregationOperation
  | autoDisaggregation => .error ⟨.valueError, "operation is not a write mutation"⟩

end AggregationOperationKind

/-- `PreparedAggregationDocument`. -/
structure PreparedAggregationDocument where
  operationKind : AggregationOperationKind
  documentType : String
  documentFormat : String
  pg : String
  exactDocument : ExactDocument
  deriving DecidableEq

/-- `AGGREGATION_PURPOSE`. -/
def aggregationPurpose : String := "AGGREGATION_M6"

/-- The arguments of `queue_prevalidated`. -/
structure AggregationQueueCall where
  prepared : PreparedAggregationDocument
  operationId : String
  preconditionSnapshot : List (String × Json)
  parentCis : Option String
  childCises : List String
  expectedRelationDelta : List (String × Json)

namespace AggregationQueueCall

variable (call : AggregationQueueCall)

/-- The codes without repetition, in order. -/
def children : List String := call.childCises.dedup.insertionSort (· ≤ ·)

/-- What is asked of a call before the ledger is looked at. -/
def check : Except PyError Unit :=
  if call.prepared.pg ≠ p0Pg ∨ call.prepared.documentFormat ≠ "MANUAL" then
    .error ⟨.valueError, "M6 supports JSON MANUAL with pg=lp"⟩
  else if some call.prepared.documentType ≠ call.prepared.operationKind.documentType? then
    .error ⟨.valueError, "operation/document registry mismatch"⟩
  else if ¬ ((Json.obj call.preconditionSnapshot).get "verified_fresh").truthy then
    .error ⟨.valueError, "fresh M1/M2 precondition snapshot is required"⟩
  else if call.children = [] then .error ⟨.valueError, "child_cises must be non-empty"⟩
  else .ok ()

/-- The digest of the codes. -/
def childSetHash (runtime : Runtime) : String :=
  runtime.digests.sha256 (Text.utf8 (String.intercalate "\n" call.children))

/-- The request whose digest a ledger row keeps. -/
def request (runtime : Runtime) : Json :=
  .obj [("operation_kind", .str call.prepared.operationKind.value),
    ("document_type", .str call.prepared.documentType),
    ("document_sha256", .str call.prepared.exactDocument.sha256),
    ("parent_cis", .ofText? call.parentCis), ("child_set_hash", .str (call.childSetHash runtime)),
    ("expected_relation_delta", .obj call.expectedRelationDelta)]

end AggregationQueueCall

namespace LedgerState

variable (runtime : Runtime) (request : LedgerRequest)

/-- The row of an operation that a tenant sees. -/
def aggregationRow (s : LedgerState) (scope : TenantContext) (operationId : String) :
    Option AggregationOperationLedgerRecord :=
  (s.aggregation.find? operationId).filter fun row =>
    row.organisationId = scope.organisationId && row.participantId = scope.participantId

/-- The row that `queue_prevalidated` inserts. -/
def aggregationInserted (scope : TenantContext) (operationId delta : String)
    (call : AggregationQueueCall) : AggregationOperationLedgerRecord where
  operationId := operationId
  organisationId := scope.organisationId
  participantId := scope.participantId
  requestId := "job_m6_" ++ request.freshId
  operationKind := call.prepared.operationKind.value
  documentType := call.prepared.documentType
  documentSha256 := call.prepared.exactDocument.sha256
  requestSha256 := canonicalHash runtime (call.request runtime)
  idempotencyKey := operationId ++ ":" ++ canonicalHash runtime (call.request runtime)
  parentCis := call.parentCis
  childSetHash := call.childSetHash runtime
  relationDelta := delta
  preconditionSnapshot := .obj call.preconditionSnapshot
  expectedRelationDelta := .obj call.expectedRelationDelta
  reconciliationState := .pending

/-- The entry of a queued operation. -/
def aggregationIntent (scope : TenantContext) (row : AggregationOperationLedgerRecord) :
    ImmutableEntry :=
  let preconditionHash := canonicalHash runtime row.preconditionSnapshot
  { eventType := "AGGREGATION_INTENT_CREATED"
    operationId := row.operationId
    actorKind := if scope.userId.isSome then .user else .worker
    machinePrincipal := if scope.userId.isSome then none else some "aggregation-worker"
    outcome := .pending
    metadata := [("request_id", .str row.requestId), ("operation_kind", .str row.operationKind),
      ("document_type", .str row.documentType), ("document_sha256", .str row.documentSha256),
      ("request_sha256", .str row.requestSha256),
      ("idempotency_fingerprint", .str row.idempotencyKey),
      ("precondition_evidence_sha256", .str preconditionHash),
      ("child_set_hash", .str row.childSetHash), ("relation_delta", .str row.relationDelta)]
    evidenceHashes := [row.documentSha256, row.requestSha256, preconditionHash, row.childSetHash]
    eventKeySuffix := "intent" }

/-- A request that comes again has the digests the row was made with. -/
def aggregationReplays (row : AggregationOperationLedgerRecord) (call : AggregationQueueCall) :
    Bool :=
  row.requestSha256 = canonicalHash runtime (call.request runtime) &&
    row.documentSha256 = call.prepared.exactDocument.sha256

/-- A table takes a new row when its request id is new to the tenant and its values fit. -/
def insertAggregation (s : LedgerState) (row : AggregationOperationLedgerRecord) :
    Except PyError LedgerState :=
  if ¬ row.fits then .error ⟨.dataError, ""⟩
  else if s.aggregation.rows.any fun other =>
      other.organisationId = row.organisationId && other.participantId = row.participantId &&
        other.requestId = row.requestId then
    .error ⟨.integrityError, ""⟩
  else
    match s.aggregation.insert row with
    | none => .error ⟨.integrityError, ""⟩
    | some aggregation => .ok { s with aggregation := aggregation }

/-- The job of a queued operation. -/
def aggregationJob (scope : TenantContext) (call : AggregationQueueCall)
    (row : AggregationOperationLedgerRecord) (jobType : AgentJobType) : AgentJob where
  jobId := row.requestId
  jobType := jobType
  operationId := row.operationId
  pg := p0Pg
  expectedInn := scope.participantInn
  documentType := some row.documentType
  documentSha256 := some row.documentSha256
  productDocumentBase64 := some call.prepared.exactDocument.productDocumentBase64

/-- `queue_prevalidated` of an operation that is there. -/
def replayAggregation (s : LedgerState) (scope : TenantContext) (call : AggregationQueueCall)
    (row : AggregationOperationLedgerRecord) : Except PyError (QueueReply × LedgerState) :=
  if ¬ aggregationReplays runtime row call then
    .error ⟨.agentReplayConflict,
      "same operation_id has different immutable aggregation payload"⟩
  else
    .ok (⟨row.requestId, row.operationId, "deduplicated", row.idempotencyKey⟩,
      s.audit aggregationLedger scope row.operationId "AGGREGATION_IDEMPOTENT_REPLAY"
        [("request_id", .str row.requestId)])

/-- `queue_prevalidated` of an operation that is not there yet. -/
def createAggregation (s : LedgerState) (scope : TenantContext) (call : AggregationQueueCall)
    (row : AggregationOperationLedgerRecord) : Except PyError (QueueReply × LedgerState) := do
  let inserted ← s.insertAggregation row
  let recorded ← inserted.immutable runtime request aggregationLedger
    (aggregationIntent runtime scope row)
  match AgentJobType.ofValue? row.documentType with
  | none => .error ⟨.valueError, ""⟩
  | some jobType => do
    let queued ← recorded.enqueue runtime request scope (aggregationJob scope call row jobType)
      aggregationPurpose
    .ok (⟨row.requestId, row.operationId, "pending", row.idempotencyKey⟩,
      queued.audit aggregationLedger scope row.operationId "AGGREGATION_QUEUED"
        [("request_id", .str row.requestId), ("operation_kind", .str row.operationKind),
          ("document_type", .str row.documentType),
          ("document_sha256", .str row.documentSha256)])

/-- `queue_prevalidated`. -/
def queueAggregation (s : LedgerState) (call : AggregationQueueCall) :
    Except PyError (QueueReply × LedgerState) :=
  if call.operationId = "" ∨ call.operationId.length > 128 then
    .error ⟨.valueError, "operation_id must be 1..128 characters"⟩
  else do
    let scope ← request.activeTenant
    let operationId :=
      tenantOperationId runtime.digests scope "m6-aggregation" call.operationId "m6_"
    call.check
    match s.aggregationRow scope operationId with
    | some row => s.replayAggregation runtime scope call row
    | none => do
      let delta ← call.prepared.operationKind.relationDelta
      s.createAggregation runtime request scope call
        (aggregationInserted runtime request scope operationId delta call)

/-- The part of a row that `record_reconciliation` and `record_remote_document` write. -/
structure AggregationProgress where
  reconciliationState : ReconciliationState
  discoveredParentCis : Option String
  reconciliationJson : Json
  rawHistoryEvidence : Json
  remoteDocumentId : Option String

/-- The row with its progress rewritten. -/
def AggregationProgress.apply (progress : AggregationProgress)
    (row : AggregationOperationLedgerRecord) : AggregationOperationLedgerRecord :=
  { row with
    reconciliationState := progress.reconciliationState
    discoveredParentCis := progress.discoveredParentCis
    reconciliationJson := progress.reconciliationJson
    rawHistoryEvidence := progress.rawHistoryEvidence
    remoteDocumentId := progress.remoteDocumentId }

theorem AggregationProgress.key_apply (progress : AggregationProgress)
    (row : AggregationOperationLedgerRecord) : (progress.apply row).key = row.key := rfl

def updateAggregation (s : LedgerState) (row : AggregationOperationLedgerRecord)
    (progress : AggregationProgress) : Except PyError LedgerState :=
  if ¬ (progress.apply row).fits then .error ⟨.dataError, ""⟩
  else
    .ok { s with
      aggregation :=
        s.aggregation.modify row.operationId progress.apply progress.key_apply }

/-- `_ledger`, where the operation has to be there. -/
def requireAggregation (s : LedgerState) (operationId : String) :
    Except PyError (TenantContext × AggregationOperationLedgerRecord) := do
  let scope ← request.activeTenant
  match s.aggregationRow scope operationId with
  | some row => .ok (scope, row)
  | none => .error ⟨.keyError, operationId⟩

/-- The entry of a document id. -/
def aggregationRemoteResult (row : AggregationOperationLedgerRecord) (documentId : String) :
    ImmutableEntry where
  eventType := "AGGREGATION_REMOTE_RESULT"
  operationId := row.operationId
  actorKind := .worker
  machinePrincipal := some "aggregation-result-worker"
  outcome := .success
  metadata := [("operation_kind", .str row.operationKind),
    ("document_type", .str row.documentType), ("document_sha256", .str row.documentSha256),
    ("request_sha256", .str row.requestSha256), ("remote_document_id", .str documentId),
    ("child_set_hash", .str row.childSetHash), ("relation_delta", .str row.relationDelta)]
  evidenceHashes := [row.documentSha256, row.requestSha256, row.childSetHash]
  eventKeySuffix := "remote-result:" ++ runtime.digests.sha256 (Text.utf8 documentId)

/-- `record_remote_document`. Unlike its sibling it takes any document id. -/
def recordAggregationDocument (s : LedgerState) (operationId documentId : String) :
    Except PyError LedgerState := do
  let found ← s.requireAggregation request operationId
  if ¬ emptyText found.2.remoteDocumentId ∧ found.2.remoteDocumentId ≠ some documentId then
    .error ⟨.agentReplayConflict, "remote document id changed"⟩
  else do
    let updated ← s.updateAggregation found.2
      ⟨found.2.reconciliationState, found.2.discoveredParentCis, found.2.reconciliationJson,
        found.2.rawHistoryEvidence, some documentId⟩
    (updated.audit aggregationLedger found.1 operationId
      "AGGREGATION_REMOTE_DOCUMENT_CONFIRMED" [("document_id", .str documentId)]).immutable
      runtime request aggregationLedger (aggregationRemoteResult runtime found.2 documentId)

/-- The arguments of `record_reconciliation`. -/
structure AggregationReconcileCall where
  operationId : String
  result : AggregationReconciliationResult
  historyEvidence : List (List (String × Json)) := []

/-- What the hash of a reconciliation covers. -/
def aggregationEvidence (row : AggregationOperationLedgerRecord)
    (result : AggregationReconciliationResult) : Json :=
  .obj [("state", .str result.state.value), ("reason", .str result.reason),
    ("child_set_hash", .str row.childSetHash)]

/-- The entry of a reconciliation. -/
def aggregationReconciled (row : AggregationOperationLedgerRecord)
    (result : AggregationReconciliationResult) : ImmutableEntry :=
  let reconciliationHash := canonicalHash runtime (aggregationEvidence row result)
  { eventType := "AGGREGATION_RECONCILED"
    operationId := row.operationId
    actorKind := .worker
    machinePrincipal := some "aggregation-reconciliation-worker"
    outcome := reconciliationOutcome result.state
    metadata := [("operation_kind", .str row.operationKind),
      ("document_type", .str row.documentType), ("document_sha256", .str row.documentSha256),
      ("reconciliation_state", .str result.state.value),
      ("postcondition_evidence_sha256", .str reconciliationHash),
      ("manual_review_reason", manualReviewReason result.state result.reason),
      ("child_set_hash", .str row.childSetHash), ("relation_delta", .str row.relationDelta)]
    evidenceHashes := [row.documentSha256, row.childSetHash, reconciliationHash]
    eventKeySuffix := "reconciled:" ++ reconciliationHash }

/-- `record_reconciliation`, up to the row it answers with. -/
def recordReconciliation (s : LedgerState) (call : AggregationReconcileCall) :
    Except PyError LedgerState := do
  let found ← s.requireAggregation request call.operationId
  let updated ← s.updateAggregation found.2
    ⟨call.result.state, call.result.discoveredParentCis,
      .obj [("reason", .str call.result.reason), ("recorded_at", .str request.now)],
      .arr (call.historyEvidence.map Json.obj), found.2.remoteDocumentId⟩
  (updated.audit aggregationLedger found.1 call.operationId "AGGREGATION_RECONCILIATION"
    [("state", .str call.result.state.value), ("reason", .str call.result.reason),
      ("discovered_parent_cis", .ofText? call.result.discoveredParentCis)]).immutable runtime
    request aggregationLedger (aggregationReconciled runtime found.2 call.result)

end LedgerState

end Wbcz.Ledgers
