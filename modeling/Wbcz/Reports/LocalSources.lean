import Wbcz.Control.CisInventory
import Wbcz.Lib.Sha256
import Wbcz.Errors

/-!
# The sources of local reports

`LOCAL_REPORT_CATALOG` of `m11_reports.py` and `LocalReportSourceRegistry` of
`wbcz_web/services/reports.py`: the rows that a report of each type takes from the tables. An
adapter passes over a row when a filter is given and differs from what it tests; a test that is
made before the query passes over all of them.

Texts are ordered by code points where the database orders by them.
-/

namespace Wbcz.Reports

open CisInventory (pyStr)

/-! ## Catalog -/

/-- `LocalReportType`. -/
inductive LocalReportType where
  | cisInventoryStoredSnapshot
  | productReferenceReadiness
  | documentLifecycle
  | turnoverOperations
  | aggregationOperations
  | edoFoundationStatus
  | suzFoundationStatus
  | wbReconciliationEvidence
  | ozonFoundationStatus
  | manualReviewAndConflicts
  | endToEndReconciliation
  | p0ImportControlQuality
  deriving DecidableEq, Repr

def LocalReportType.value : LocalReportType → String
  | cisInventoryStoredSnapshot => "CIS_INVENTORY_STORED_SNAPSHOT"
  | productReferenceReadiness => "PRODUCT_REFERENCE_READINESS"
  | documentLifecycle => "DOCUMENT_LIFECYCLE"
  | turnoverOperations => "TURNOVER_OPERATIONS"
  | aggregationOperations => "AGGREGATION_OPERATIONS"
  | edoFoundationStatus => "EDO_FOUNDATION_STATUS"
  | suzFoundationStatus => "SUZ_FOUNDATION_STATUS"
  | wbReconciliationEvidence => "WB_RECONCILIATION_EVIDENCE"
  | ozonFoundationStatus => "OZON_FOUNDATION_STATUS"
  | manualReviewAndConflicts => "MANUAL_REVIEW_AND_CONFLICTS"
  | endToEndReconciliation => "END_TO_END_RECONCILIATION"
  | p0ImportControlQuality => "P0_IMPORT_CONTROL_QUALITY"

/-- A definition of the catalog, as far as requests and workers read it. -/
structure ReportTypeDefinition where
  schemaVersion : String := "1.0"
  allowedFilters : List String
  columns : List String
  sensitivity : String
  outputFormats : List String := ["CSV", "XLSX", "JSON"]
  disabledReason : Option String := none

def localReportCatalog : LocalReportType → ReportTypeDefinition
  | .cisInventoryStoredSnapshot =>
    { allowedFilters := ["participant_inn", "cis_fingerprint", "state"]
      columns := ["participant_inn", "cis_masked", "cis_fingerprint", "raw_state", "observed_at",
        "observation_semantics"]
      sensitivity := "BUSINESS_SENSITIVE" }
  | .productReferenceReadiness =>
    { allowedFilters := ["participant_inn", "gtin", "product_group"]
      columns := ["participant_inn", "gtin", "product_group", "readiness", "source_fingerprint",
        "observed_at"]
      sensitivity := "NORMAL" }
  | .documentLifecycle =>
    { allowedFilters := ["participant_inn", "document_id", "state"]
      columns := ["participant_inn", "document_id", "raw_remote_state", "local_project_state",
        "errors", "observed_at"]
      sensitivity := "BUSINESS_SENSITIVE" }
  | .turnoverOperations =>
    { allowedFilters := ["participant_inn", "operation_kind", "state"]
      columns := ["participant_inn", "operation_id", "operation_kind", "remote_document_id",
        "reconciliation_state", "observed_at"]
      sensitivity := "BUSINESS_SENSITIVE" }
  | .aggregationOperations =>
    { allowedFilters := ["participant_inn", "operation_kind", "state"]
      columns := ["participant_inn", "operation_id", "operation_kind", "relation_delta",
        "reconciliation_state", "observed_at"]
      sensitivity := "MARKING_SENSITIVE" }
  | .edoFoundationStatus =>
    { allowedFilters := ["participant_inn"]
      columns := ["participant_inn", "foundation_state", "full_xml_write_blocked",
        "blocker_reason"]
      sensitivity := "NORMAL" }
  | .suzFoundationStatus =>
    { allowedFilters := ["participant_inn"]
      columns := ["participant_inn", "foundation_state", "full_suz_wire_blocked", "km_decrypted",
        "blocker_reason"]
      sensitivity := "NORMAL" }
  | .wbReconciliationEvidence =>
    { allowedFilters := ["participant_inn", "state", "conflict_state"]
      columns := ["participant_inn", "assembly_order_id", "raw_remote_state",
        "local_project_state", "conflict_state", "source_fingerprint", "observed_at"]
      sensitivity := "BUSINESS_SENSITIVE" }
  | .ozonFoundationStatus =>
    { allowedFilters := ["participant_inn"]
      columns := ["participant_inn", "foundation_state", "m10_wire_ready",
        "m10_executable_read_capabilities"]
      sensitivity := "NORMAL" }
  | .manualReviewAndConflicts =>
    { allowedFilters := ["participant_inn", "domain", "reason"]
      columns := ["participant_inn", "domain", "remote_raw_state", "local_project_state",
        "final_reconciliation_result", "reason", "evidence_fingerprint"]
      sensitivity := "BUSINESS_SENSITIVE" }
  | .endToEndReconciliation =>
    { allowedFilters := ["participant_inn", "domain", "result"]
      columns := ["participant_inn", "domain", "source", "source_fingerprint",
        "local_operation_id", "remote_id", "remote_raw_state", "local_project_state",
        "final_reconciliation_result", "evidence_missing", "conflict_state", "observed_at"]
      sensitivity := "MARKING_SENSITIVE"
      outputFormats := ["CSV", "XLSX", "JSON", "ZIP"] }
  | .p0ImportControlQuality =>
    { allowedFilters := []
      columns := ["participant_inn", "import_id", "row_index", "decision", "reason",
        "source_fingerprint", "observed_at"]
      sensitivity := "BUSINESS_SENSITIVE"
      disabledReason := some "SOURCE_PARTICIPANT_SCOPE_NOT_PROVABLE" }

/-! ## Tables -/

/-- A column with a time: the instant, and its `isoformat`. -/
structure Timestamp where
  instant : ℤ
  text : String

structure AgentJobRow where
  jobId : String
  jobType : String
  purpose : String
  state : String
  payloadJson : Json
  resultJson : Json
  updatedAt : Timestamp

structure DocumentLifecycleRow where
  operationId : String
  requestId : String
  createdAt : Timestamp
  updatedAt : Timestamp

structure TurnoverOperationRow where
  operationId : String
  operationKind : String
  requestId : String
  remoteDocumentId : Option String
  reconciliationState : String
  createdAt : Timestamp
  updatedAt : Timestamp

structure AggregationOperationRow where
  operationId : String
  operationKind : String
  requestId : String
  relationDelta : String
  reconciliationState : String
  createdAt : Timestamp
  updatedAt : Timestamp

structure ConnectionRow where
  id : ℤ
  participantInn : String

structure WbOrderRow where
  id : ℤ
  assemblyOrderId : ℤ
  source : String
  sourceFingerprint : String

structure WbEventRow where
  connectionId : ℤ
  assemblyOrderId : Option ℤ
  rawStatus : Option String
  sourceFingerprint : String

/-- A row of `wb_reconciliation` or `ozon_reconciliation`; the second has no orders. -/
structure ReconciliationRow where
  id : ℤ
  connectionId : ℤ
  orderId : Option ℤ
  state : String
  decision : String
  reason : String
  evidenceRedacted : Json
  observedAt : Timestamp

structure ReportDatabase where
  agentJobs : List AgentJobRow
  documentLifecycle : List DocumentLifecycleRow
  turnoverOperations : List TurnoverOperationRow
  aggregationOperations : List AggregationOperationRow
  wbConnections : List ConnectionRow
  wbOrders : List WbOrderRow
  wbEvents : List WbEventRow
  wbReconciliation : List ReconciliationRow
  ozonConnections : List ConnectionRow
  ozonReconciliation : List ReconciliationRow

/-- `ORDER BY` a time and an identifier. -/
def orderBy {α β : Type} [LE β] [DecidableLE β] (time : α → Timestamp) (id : α → β)
    (rows : List α) : List α :=
  rows.mergeSort fun a b =>
    (time a).instant < (time b).instant || ((time a).instant = (time b).instant && id a ≤ id b)

/-- `payload ->> key`. -/
def textOfField (value : Json) (key : String) : Option String :=
  match value.get key with
  | .null => none
  | .str text => some text
  | other => some other.canonical

/-- The job was for the participant. -/
def AgentJobRow.isFor (inn : String) (job : AgentJobRow) : Bool :=
  textOfField job.payloadJson "expected_inn" = some inn

/-! ## Filters -/

section Equality

variable (sameNumber : Json → Json → Bool)

/-- A truth value counts as a number. -/
def isNumeric : Json → Bool
  | .bool _ | .int _ | .float _ => true
  | _ => false

mutual

/-- `value == other`; `sameNumber` compares numbers. -/
def equal : Json → Json → Bool
  | .null => fun other => other.isNull
  | .str text => fun other => other.str? = some text
  | .arr items => fun other =>
    match other with
    | .arr others => equalItems items others
    | _ => false
  | .obj fields => fun other =>
    match other with
    | .obj others => fields.length = others.length && equalFields fields others
    | _ => false
  | .bool b => fun other => isNumeric other && sameNumber (.bool b) other
  | .int i => fun other => isNumeric other && sameNumber (.int i) other
  | .float text => fun other => isNumeric other && sameNumber (.float text) other

def equalItems : List Json → List Json → Bool
  | [] => fun others => others.isEmpty
  | item :: items => fun others =>
    match others with
    | [] => false
    | other :: others => equal item other && equalItems items others

def equalFields : List (String × Json) → List (String × Json) → Bool
  | [] => fun _ => true
  | (key, value) :: fields => fun others =>
    (Json.lookup others key).any (fun other => equal value other) && equalFields fields others

end

/-- A row of a source, with the values that filters are compared with. -/
structure SourceRow where
  tests : List (String × Json)
  row : List (String × Json)

/-- `filters.get(name) is not None and filters[name] != value`. -/
def rejects (filters : List (String × Json)) (test : String × Json) : Bool :=
  match (Json.obj filters).get test.1 with
  | .null => false
  | value => !(equal sameNumber value test.2)

/-- The row satisfies every filter that is given. -/
def SourceRow.satisfies (filters : List (String × Json)) (source : SourceRow) : Bool :=
  source.tests.all fun test => !(rejects sameNumber filters test)

end Equality

/-! ## Sources -/

section Sources

variable (containerText : Json → String) (db : ReportDatabase) (inn : String)

/-- `_mask`. -/
def mask (value : Json) : String :=
  match value with
  | .null => ""
  | value =>
    let text := (pyStr containerText value).toList
    String.ofList (List.replicate (if text.length ≤ 4 then text.length else text.length - 4) '*' ++
      if text.length ≤ 4 then [] else text.drop (text.length - 4))

/-- `_fingerprint`. -/
def fingerprint (value : Json) : String :=
  Sha256.hexdigest (Text.utf8 (pyStr containerText value))

/-- The items of `cises` in a result, or in its read result. -/
def storedCises (result : Json) : List Json :=
  match result.get "cises" with
  | .arr cises => cises
  | _ =>
    match (result.get "read_result").get "cises" with
    | .arr cises => cises
    | _ => []

/-- `_rows_cis_inventory_stored_snapshot`. -/
def cisInventorySource : List SourceRow :=
  let jobs := orderBy AgentJobRow.updatedAt AgentJobRow.jobId <| db.agentJobs.filter fun job =>
    ["CIS_INFO", "CIS_SEARCH", "CIS_HISTORY", "CIS_AGGREGATED_LIST",
        "CIS_AGGREGATION_HISTORY"].contains job.jobType &&
      job.state = "COMPLETED" && job.isFor inn
  jobs.flatMap fun job => (storedCises job.resultJson).filterMap fun item =>
    match item with
    | .obj fields =>
      let cis := (Json.obj fields).get "cis"
      let state := (Json.obj fields).get "status"
      some
        { tests := [("cis_fingerprint", .str (fingerprint containerText cis)), ("state", state)]
          row := [("participant_inn", .str inn), ("cis_masked", .str (mask containerText cis)),
            ("cis_fingerprint", .str (fingerprint containerText cis)), ("raw_state", state),
            ("observed_at", .str job.updatedAt.text),
            ("observation_semantics", .str "LATEST_STORED_OBSERVATION")] }
    | _ => none

/-- `_rows_product_reference_readiness`. -/
def productReferenceSource : List SourceRow :=
  let jobs := orderBy AgentJobRow.updatedAt AgentJobRow.jobId <| db.agentJobs.filter fun job =>
    job.purpose = "REFERENCE_PRODUCTS" && job.state = "COMPLETED" && job.isFor inn
  jobs.flatMap fun job =>
    match (job.payloadJson.get "read_payload").get "gtins" with
    | .arr gtins => gtins.map fun gtin =>
      let gtin := Json.str (pyStr containerText gtin)
      { tests := [("product_group", .str "lp"), ("gtin", gtin)]
        row := [("participant_inn", .str inn), ("gtin", gtin), ("product_group", .str "lp"),
          ("readiness", .str "STORED_EVIDENCE_PRESENT"),
          ("source_fingerprint", .str (fingerprint containerText (.str job.jobId))),
          ("observed_at", .str job.updatedAt.text)] }
    | _ => []

/-- `mapping.get(key) or mapping.get(other)`, as a text. -/
def eitherText (value : Json) (key other : String) : Option String :=
  let found := if (value.get key).truthy then value.get key else value.get other
  if found.isNull then none else some (pyStr containerText found)

/-- `_linked_document_id`. -/
def linkedDocumentId (payload result : Json) : Json :=
  .ofText? ((eitherText containerText (payload.get "read_payload") "document_id" "did").or
    (eitherText containerText (result.get "read_result") "number" "documentId"))

/-- `_rows_document_lifecycle`. -/
def documentLifecycleSource : List SourceRow :=
  let joined := db.documentLifecycle.flatMap fun document =>
    (db.agentJobs.filter fun job => job.jobId = document.requestId && job.isFor inn).map fun job =>
      (document, job)
  (orderBy (fun pair => pair.1.createdAt) (fun pair => pair.1.operationId) joined).map
    fun (document, job) =>
      let documentId := linkedDocumentId containerText job.payloadJson job.resultJson
      let readResult := job.resultJson.get "read_result"
      let status := readResult.get "status"
      { tests := [("document_id", documentId), ("state", .str job.state)]
        row := [("participant_inn", .str inn), ("document_id", documentId),
          ("raw_remote_state",
            if status.isObj then status.get "raw" else job.resultJson.get "remote_status"),
          ("local_project_state", .str job.state), ("errors", readResult.get "errors"),
          ("observed_at", .str document.updatedAt.text)] }

/-- `_rows_turnover_operations`. -/
def turnoverSource : List SourceRow :=
  let joined := db.turnoverOperations.flatMap fun operation =>
    (db.agentJobs.filter fun job => job.jobId = operation.requestId && job.isFor inn).map
      fun _ => operation
  (orderBy TurnoverOperationRow.createdAt TurnoverOperationRow.operationId joined).map
    fun operation =>
      { tests := [("operation_kind", .str operation.operationKind),
          ("state", .str operation.reconciliationState)]
        row := [("participant_inn", .str inn), ("operation_id", .str operation.operationId),
          ("operation_kind", .str operation.operationKind),
          ("remote_document_id", .ofText? operation.remoteDocumentId),
          ("reconciliation_state", .str operation.reconciliationState),
          ("observed_at", .str operation.updatedAt.text)] }

/-- `_rows_aggregation_operations`. -/
def aggregationSource : List SourceRow :=
  let joined := db.aggregationOperations.flatMap fun operation =>
    (db.agentJobs.filter fun job => job.jobId = operation.requestId && job.isFor inn).map
      fun _ => operation
  (orderBy AggregationOperationRow.createdAt AggregationOperationRow.operationId joined).map
    fun operation =>
      { tests := [("operation_kind", .str operation.operationKind),
          ("state", .str operation.reconciliationState)]
        row := [("participant_inn", .str inn), ("operation_id", .str operation.operationId),
          ("operation_kind", .str operation.operationKind),
          ("relation_delta", .str operation.relationDelta),
          ("reconciliation_state", .str operation.reconciliationState),
          ("observed_at", .str operation.updatedAt.text)] }

/-- The reconciliations of the participant's connections. -/
def reconciliationsOf (connections : List ConnectionRow) (rows : List ReconciliationRow) :
    List ReconciliationRow :=
  orderBy ReconciliationRow.observedAt ReconciliationRow.id <| rows.flatMap fun row =>
    (connections.filter fun connection =>
      connection.id = row.connectionId && connection.participantInn = inn).map fun _ => row

/-- `LEFT JOIN`: the rows that match, or none where there is no such row. -/
def leftJoin {α : Type} (rows : List α) (on : α → Bool) : List (Option α) :=
  match rows.filter on with
  | [] => [none]
  | found => found.map some

/-- The order of a reconciliation. -/
def ordersOf (row : ReconciliationRow) : List (Option WbOrderRow) :=
  leftJoin db.wbOrders fun order => row.orderId = some order.id

/-- The events of a reconciliation and its order. -/
def eventsOf (row : ReconciliationRow) (order : Option WbOrderRow) : List (Option WbEventRow) :=
  leftJoin db.wbEvents fun event =>
    event.connectionId = row.connectionId &&
      order.any fun order => event.assemblyOrderId = some order.assemblyOrderId

/-- The text of the identifier of an order. -/
def orderText (order : Option WbOrderRow) : Json :=
  .ofText? (order.map fun order => toString order.assemblyOrderId)

/-- `_rows_wb_reconciliation_evidence`. -/
def wbReconciliationSource : List SourceRow :=
  (reconciliationsOf inn db.wbConnections db.wbReconciliation).flatMap fun row =>
    (ordersOf db row).flatMap fun order => (eventsOf db row order).map fun event =>
      let conflict : Json := if row.decision = "MANUAL_REVIEW" then .str "CONFLICT" else .null
      let orderFingerprint := (order.map WbOrderRow.sourceFingerprint).filter (· ≠ "")
      { tests := [("state", .str row.state), ("conflict_state", conflict)]
        row := [("participant_inn", .str inn), ("assembly_order_id", orderText order),
          ("raw_remote_state", .ofText? (event.bind WbEventRow.rawStatus)),
          ("local_project_state", .str row.state), ("conflict_state", conflict),
          ("source_fingerprint",
            .ofText? (orderFingerprint.or (event.map WbEventRow.sourceFingerprint))),
          ("observed_at", .str row.observedAt.text)] }

/-- One domain of `_rows_manual_review_and_conflicts`. -/
def manualReviewSource (domain : String) (connections : List ConnectionRow)
    (rows : List ReconciliationRow) : List SourceRow :=
  ((reconciliationsOf inn connections rows).filter fun row =>
      row.state = "MANUAL_REVIEW" || row.decision = "MANUAL_REVIEW").map fun row =>
    { tests := [("domain", .str domain), ("reason", .str row.reason)]
      row := [("participant_inn", .str inn), ("domain", .str domain), ("remote_raw_state", .null),
        ("local_project_state", .str row.state),
        ("final_reconciliation_result", .str "MANUAL_REVIEW"), ("reason", .str row.reason),
        ("evidence_fingerprint", .str (fingerprint containerText row.evidenceRedacted))] }

/-- What a reconciliation comes to. -/
def finalResult (row : ReconciliationRow) : String :=
  if row.state = "MANUAL_REVIEW" ∨ row.decision = "MANUAL_REVIEW" then "MANUAL_REVIEW"
  else if row.state ≠ "DISTANCE_RECONCILED" ∧ row.state ≠ "REMOTE_RETURN_RECONCILED" then
    "PENDING_EVIDENCE"
  else "MATCHED"

/-- `_rows_end_to_end_reconciliation`. -/
def endToEndSource : List SourceRow :=
  (reconciliationsOf inn db.wbConnections db.wbReconciliation).flatMap fun row =>
    (ordersOf db row).map fun order =>
      let final := finalResult row
      let source := (order.map WbOrderRow.source).filter (· ≠ "")
      { tests := [("domain", .str "WB_FBS"), ("result", .str final)]
        row := [("participant_inn", .str inn), ("domain", .str "WB_FBS"),
          ("source", .str (source.getD "WB")),
          ("source_fingerprint", .ofText? (order.map WbOrderRow.sourceFingerprint)),
          ("local_operation_id", .null), ("remote_id", orderText order),
          ("remote_raw_state", .null), ("local_project_state", .str row.state),
          ("final_reconciliation_result", .str final),
          ("evidence_missing", .bool (final = "PENDING_EVIDENCE")),
          ("conflict_state", if final = "MANUAL_REVIEW" then .str "CONFLICT" else .null),
          ("observed_at", .str row.observedAt.text)] }

/-- The rows of a source for the participant. -/
def sourceRows : LocalReportType → List SourceRow
  | .cisInventoryStoredSnapshot => cisInventorySource containerText db inn
  | .productReferenceReadiness => productReferenceSource containerText db inn
  | .documentLifecycle => documentLifecycleSource containerText db inn
  | .turnoverOperations => turnoverSource db inn
  | .aggregationOperations => aggregationSource db inn
  | .edoFoundationStatus =>
    [{ tests := []
       row := [("participant_inn", .str inn), ("foundation_state", .str "FOUNDATION_COMPLETE"),
         ("full_xml_write_blocked", .bool true),
         ("blocker_reason", .str "M7_FULL_XML_WRITE_BLOCKED")] }]
  | .suzFoundationStatus =>
    [{ tests := []
       row := [("participant_inn", .str inn), ("foundation_state", .str "FOUNDATION_COMPLETE"),
         ("full_suz_wire_blocked", .bool true), ("km_decrypted", .bool false),
         ("blocker_reason", .str "M8_FULL_SUZ_WIRE_BLOCKED")] }]
  | .wbReconciliationEvidence => wbReconciliationSource db inn
  | .ozonFoundationStatus =>
    [{ tests := []
       row := [("participant_inn", .str inn), ("foundation_state", .str "SAFE_FOUNDATION_ONLY"),
         ("m10_wire_ready", .bool false),
         ("m10_executable_read_capabilities", .str "NONE")] }]
  | .manualReviewAndConflicts =>
    manualReviewSource containerText inn "WB" db.wbConnections db.wbReconciliation ++
      manualReviewSource containerText inn "OZON_FOUNDATION" db.ozonConnections
        db.ozonReconciliation
  | .endToEndReconciliation => endToEndSource db inn
  | .p0ImportControlQuality => []

end Sources

end Wbcz.Reports
