import Wbcz.Errors
import Wbcz.Models
import Wbcz.Lib.Base64
import Wbcz.Lib.Json
import Wbcz.Lib.Table
import Wbcz.Lib.Text
import Wbcz.Lib.Transition

/-!
# The write-operation store

`WriteOperationStore` of `write_pipeline.py`: the table of write operations with its
append-only audit trail, and the transactions on it. A transaction either commits and
gives the record it returns with the new store, or raises, and then the store is as it
was.

The SHA-256 digest is a parameter of the model. Of the columns, `updated_at` and the
audit trail's `created_at` are left out: nothing reads them.
-/

namespace Wbcz

/-- The states of a write operation. -/
inductive WriteState where
  | prepared
  | awaitingSignature
  | signed
  | submitting
  | submitted
  | processing
  | reconciliationRequired
  | succeeded
  | failed
  | manualReview
  | error
  deriving DecidableEq, Repr

namespace WriteState

/-- The stored text of a state. -/
def value : WriteState → String
  | prepared => "PREPARED"
  | awaitingSignature => "AWAITING_SIGNATURE"
  | signed => "SIGNED"
  | submitting => "SUBMITTING"
  | submitted => "SUBMITTED"
  | processing => "PROCESSING"
  | reconciliationRequired => "RECONCILIATION_REQUIRED"
  | succeeded => "SUCCEEDED"
  | failed => "FAILED"
  | manualReview => "MANUAL_REVIEW"
  | error => "ERROR"

end WriteState

/-- How a reported document status is read. -/
inductive PollClassification where
  | intermediate
  | terminalSuccess
  | terminalFailure
  | manualReview
  deriving DecidableEq, Repr

/-- The stored text of a classification. -/
def PollClassification.value : PollClassification → String
  | intermediate => "INTERMEDIATE"
  | terminalSuccess => "TERMINAL_SUCCESS"
  | terminalFailure => "TERMINAL_FAILURE"
  | manualReview => "MANUAL_REVIEW"

/-- How the response to a create request is read. -/
inductive CreateCategory where
  | successWithId
  | successContractUnconfirmed
  | badRequest
  | unauthorized
  | forbidden
  | unprocessable
  | serverError
  | httpError
  deriving DecidableEq, Repr

namespace CreateCategory

/-- The stored text of a category. -/
def value : CreateCategory → String
  | successWithId => "SUCCESS_WITH_ID"
  | successContractUnconfirmed => "SUCCESS_CONTRACT_UNCONFIRMED"
  | badRequest => "BAD_REQUEST"
  | unauthorized => "UNAUTHORIZED"
  | forbidden => "FORBIDDEN"
  | unprocessable => "UNPROCESSABLE"
  | serverError => "SERVER_ERROR"
  | httpError => "HTTP_ERROR"

/-- `CreateCategory(value)`. -/
def ofValue? : String → Option CreateCategory
  | "SUCCESS_WITH_ID" => some successWithId
  | "SUCCESS_CONTRACT_UNCONFIRMED" => some successContractUnconfirmed
  | "BAD_REQUEST" => some badRequest
  | "UNAUTHORIZED" => some unauthorized
  | "FORBIDDEN" => some forbidden
  | "UNPROCESSABLE" => some unprocessable
  | "SERVER_ERROR" => some serverError
  | "HTTP_ERROR" => some httpError
  | _ => none

@[simp] theorem ofValue?_value (category : CreateCategory) :
    ofValue? category.value = some category := by
  cases category <;> rfl

end CreateCategory

/-- The exact bytes of a document with their digest and their Base64 text. -/
structure ExactDocument where
  payload : List UInt8
  sha256 : String
  productDocumentBase64 : String
  deriving DecidableEq, Repr

/-- The bytes a detached signature is made over. -/
def ExactDocument.bytesForSignature (document : ExactDocument) : List UInt8 := document.payload

/-- What a signer is asked to sign. -/
structure SigningRequest where
  operationId : String
  documentType : String
  pg : String
  expectedInn : String
  documentSha256 : String
  productDocumentBase64 : String
  deriving DecidableEq, Repr

/-- A signer's answer. -/
structure SigningResponse where
  operationId : String
  documentSha256 : String
  signatureBase64 : String
  certificateThumbprint : Option String := none
  certificateSubject : Option String := none
  certificateInn : Option String := none
  certificateValidFrom : Option String := none
  certificateValidTo : Option String := none
  deriving DecidableEq, Repr

/-- An operation as the store returns it. -/
structure OperationRecord where
  operationId : String
  businessFingerprint : String
  eventId : String
  decision : Decision
  documentType : String
  operationReason : String
  pg : String
  expectedInn : String
  documentSha256 : String
  productDocumentBase64 : String
  preparedAt : String
  state : WriteState
  signatureBase64 : Option String
  documentId : Option String
  deriving DecidableEq, Repr

/-- A row of `write_operations`. -/
structure OperationRow extends OperationRecord where
  certificateThumbprint : Option String := none
  certificateSubject : Option String := none
  certificateInn : Option String := none
  certificateValidFrom : Option String := none
  certificateValidTo : Option String := none
  submitHttpStatus : Option Int := none
  submitCategory : Option CreateCategory := none
  submitBodySha256 : Option String := none
  deriving DecidableEq, Repr

/-- The primary key of a row. -/
abbrev OperationRow.key (row : OperationRow) : String := row.operationId

/-- The result of a create request. -/
structure CreateResult where
  category : CreateCategory
  httpStatus : Int
  documentId : Option String
  bodySha256 : String
  contentType : Option String
  deriving DecidableEq, Repr

/-- A row of `write_audit`. -/
structure AuditRow where
  operationId : String
  action : String
  fromState : Option WriteState
  toState : Option WriteState
  detailsJson : String
  deriving DecidableEq, Repr

/-- The tables of the store. -/
structure WriteStore where
  operations : Table OperationRow.key
  audit : List AuditRow
  deriving DecidableEq

/-- A store without operations. -/
def WriteStore.empty : WriteStore := ⟨Table.empty, []⟩

/-- The arguments of `prepare`. -/
structure PrepareRequest where
  eventId : String
  decision : Decision
  documentType : String
  operationReason : String
  pg : String
  expectedInn : String
  document : ExactDocument
  deriving DecidableEq, Repr

def allowedDocumentTypes : List String := ["LK_RECEIPT", "LP_RETURN"]

def allowedProductGroup : String := "lp"

/-- `_DECISION_DOCUMENT`: the document type and reason of a decision that permits a write. -/
def decisionDocument : Decision → Option (String × String)
  | .readyToWithdraw => some ("LK_RECEIPT", "DISTANCE")
  | .readyToReturn => some ("LP_RETURN", "REMOTE_SALE_RETURN")
  | _ => none

/-- An optional text that is present and not empty. -/
def truthyText : Option String → Bool
  | some text => text ≠ ""
  | none => false

/-- `_validate_base64_ascii`: strict Base64 of at least one byte, in canonical form. -/
def validateBase64Ascii (value label : String) : Except PyError String :=
  if value = "" ∨ '\r' ∈ value.toList ∨ '\n' ∈ value.toList then
    .error ⟨.valueError, label ++ " must be non-empty Base64 without CR/LF"⟩
  else
    match Base64.decode value.toList with
    | none => .error ⟨.valueError, label ++ " is not valid Base64"⟩
    | some [] => .error ⟨.valueError, label ++ " decodes to empty bytes"⟩
    | some raw => .ok (String.ofList (Base64.encode raw))

def classifyPollStatus (status : Option String) : PollClassification :=
  if status = some "IN_PROGRESS" ∨ status = some "WAIT_FOR_CONTINUATION" then .intermediate
  else if status = some "CHECKED_OK" then .terminalSuccess
  else if status = some "CHECKED_NOT_OK" ∨ status = some "PARSE_ERROR" ∨
      status = some "PROCESSING_ERROR" then .terminalFailure
  else .manualReview

/-- The text whose digest identifies a business operation. -/
def fingerprintSource (request : PrepareRequest) : String :=
  "wb-fbs-write:v1:" ++ Json.canonical (.obj [
    ("event_id", .str request.eventId),
    ("decision", .str request.decision.value),
    ("document_type", .str request.documentType),
    ("operation_reason", .str request.operationReason),
    ("pg", .str request.pg)])

/-- The digest that identifies a business operation. -/
def businessFingerprint (sha256 : List UInt8 → String) (request : PrepareRequest) : String :=
  sha256 (Text.utf8 (fingerprintSource request))

/-- The key of the operation of a business fingerprint. -/
def operationIdOf (fingerprint : String) : String := "op_" ++ Text.take 32 fingerprint

namespace WriteStore

variable (s : WriteStore)

/-- `_audit` on behalf of a transaction. -/
def addAudit (operationId action : String) (fromState toState : Option WriteState)
    (details : List (String × Json)) : WriteStore :=
  { s with audit := s.audit ++
      [⟨operationId, action, fromState, toState, Json.canonical (.obj details)⟩] }

/-- `_row`. -/
def row (operationId : String) : Except PyError OperationRow :=
  match s.operations.find? operationId with
  | some row => .ok row
  | none => .error ⟨.keyError, "operation not found: " ++ operationId⟩

def get (operationId : String) : Except PyError OperationRecord :=
  (s.row operationId).map OperationRow.toOperationRecord

/-- Set the state of a row. -/
def setState (operationId : String) (target : WriteState) : WriteStore :=
  { s with operations :=
      s.operations.modify operationId (fun row => { row with state := target }) fun _ => rfl }

/-- `_transition`: the shared move between states. -/
def transition (operationId : String) (expected : List WriteState) (target : WriteState)
    (action : String) (details : List (String × Json)) :
    Except PyError (OperationRecord × WriteStore) :=
  match s.row operationId with
  | .error e => .error e
  | .ok row =>
    if row.state ∉ expected then
      .error ⟨.invalidWriteOperation, action ++ " not allowed from state " ++ row.state.value⟩
    else
      .ok ({ row.toOperationRecord with state := target },
        (s.setState operationId target).addAudit operationId action (some row.state)
          (some target) details)

/-- The row that `prepare` inserts. -/
def preparedRow (request : PrepareRequest) (fingerprint now : String) (state : WriteState) :
    OperationRow where
  operationId := operationIdOf fingerprint
  businessFingerprint := fingerprint
  eventId := request.eventId
  decision := request.decision
  documentType := request.documentType
  operationReason := request.operationReason
  pg := request.pg
  expectedInn := request.expectedInn
  documentSha256 := request.document.sha256
  productDocumentBase64 := request.document.productDocumentBase64
  preparedAt := now
  state := state
  signatureBase64 := none
  documentId := none

/-- The checks `prepare` makes on its arguments before it opens its transaction. -/
def checkPrepare (sha256 : List UInt8 → String) (request : PrepareRequest) :
    Except PyError Unit :=
  match decisionDocument request.decision with
  | none => .error ⟨.invalidWriteOperation, "control decision is not approved for write"⟩
  | some (expectedType, expectedReason) =>
    if request.documentType ≠ expectedType ∨ request.operationReason ≠ expectedReason then
      .error ⟨.invalidWriteOperation, "decision/document mapping mismatch"⟩
    else if request.documentType ∉ allowedDocumentTypes then
      .error ⟨.invalidWriteOperation, "unsupported document_type"⟩
    else if request.pg ≠ allowedProductGroup then
      .error ⟨.invalidWriteOperation, "wrong product group"⟩
    else if request.expectedInn = "" then
      .error ⟨.invalidWriteOperation, "expected_inn is required"⟩
    else
      match Base64.decode request.document.productDocumentBase64.toList with
      | none => .error ⟨.binasciiError, ""⟩
      | some decoded =>
        if decoded ≠ request.document.bytesForSignature then
          .error ⟨.invalidWriteOperation,
            "bytes_for_signature != Base64Decode(product_document)"⟩
        else if sha256 decoded ≠ request.document.sha256 then
          .error ⟨.invalidWriteOperation, "document hash mismatch"⟩
        else .ok ()

def prepare (sha256 : List UInt8 → String) (request : PrepareRequest) (now : String) :
    Except PyError (OperationRecord × WriteStore) :=
  match checkPrepare sha256 request with
  | .error e => .error e
  | .ok () =>
    let fingerprint := businessFingerprint sha256 request
    match s.operations.rows.find? (fun row => row.businessFingerprint = fingerprint) with
    | some existing =>
      if existing.documentSha256 = request.document.sha256 ∧
          existing.productDocumentBase64 = request.document.productDocumentBase64 ∧
          existing.expectedInn = request.expectedInn then
        .ok (existing.toOperationRecord,
          s.addAudit existing.operationId "PREPARE_REPLAY_IDEMPOTENT" none none
            [("document_sha256", .str request.document.sha256)])
      else
        .error ⟨.replayConflict,
          "same business operation has different immutable document data"⟩
    | none =>
      let operationId := operationIdOf fingerprint
      match s.operations.insert (preparedRow request fingerprint now .prepared) with
      | none => .error ⟨.integrityError, ""⟩
      | some operations =>
        let inserted := { s with operations := operations }.addAudit operationId
          "OPERATION_PREPARED" none (some .prepared)
          [("document_type", .str request.documentType), ("pg", .str request.pg),
            ("document_sha256", .str request.document.sha256)]
        .ok ((preparedRow request fingerprint now .awaitingSignature).toOperationRecord,
          (inserted.setState operationId .awaitingSignature).addAudit operationId
            "SIGNING_REQUEST_PENDING" (some .prepared) (some .awaitingSignature) [])

def signingRequest (operationId : String) : Except PyError SigningRequest :=
  match s.get operationId with
  | .error e => .error e
  | .ok operation =>
    if operation.state ≠ .awaitingSignature then
      .error ⟨.invalidWriteOperation,
        "signing request unavailable from state " ++ operation.state.value⟩
    else if operation.documentType ∉ allowedDocumentTypes ∨ operation.pg ≠ "lp" then
      .error ⟨.invalidWriteOperation, "operation is outside signing whitelist"⟩
    else
      .ok ⟨operation.operationId, operation.documentType, operation.pg, operation.expectedInn,
        operation.documentSha256, operation.productDocumentBase64⟩

/-- The states in which a signature may be repeated without effect. -/
def signatureReplayStates : List WriteState :=
  [.signed, .submitting, .submitted, .processing, .reconciliationRequired, .succeeded,
    .failed, .manualReview]

/-- A row with an accepted signature and the certificate that made it. -/
def signRow (response : SigningResponse) (signature : String) (row : OperationRow) :
    OperationRow :=
  { row with
    signatureBase64 := some signature
    certificateThumbprint := response.certificateThumbprint
    certificateSubject := response.certificateSubject
    certificateInn := response.certificateInn
    certificateValidFrom := response.certificateValidFrom
    certificateValidTo := response.certificateValidTo
    state := .signed }

/-- The checks `accept_signature` makes against the row, down to the canonical signature. -/
def checkSignature (row : OperationRow) (response : SigningResponse) (ownInn : String) :
    Except PyError String :=
  if row.documentSha256 ≠ response.documentSha256 then
    .error ⟨.invalidWriteOperation, "document_sha256 mismatch"⟩
  else if row.documentType ∉ allowedDocumentTypes then
    .error ⟨.invalidWriteOperation, "unsupported document_type"⟩
  else if row.pg ≠ allowedProductGroup then
    .error ⟨.invalidWriteOperation, "wrong product group"⟩
  else if row.expectedInn ≠ ownInn then
    .error ⟨.invalidWriteOperation, "expected_inn mismatch"⟩
  else if truthyText response.certificateInn ∧
      response.certificateInn ≠ some row.expectedInn then
    .error ⟨.invalidWriteOperation, "certificate INN mismatch"⟩
  else validateBase64Ascii response.signatureBase64 "signature"

def acceptSignature (response : SigningResponse) (ownInn : String) :
    Except PyError (OperationRecord × WriteStore) :=
  match s.row response.operationId with
  | .error e => .error e
  | .ok row =>
    match checkSignature row response ownInn with
    | .error e => .error e
    | .ok signature =>
      if row.state ≠ .awaitingSignature then
        if row.signatureBase64 = some signature ∧ row.state ∈ signatureReplayStates then
          .ok (row.toOperationRecord,
            s.addAudit row.operationId "SIGNATURE_REPLAY_IDEMPOTENT" none none
              [("document_sha256", .str row.documentSha256)])
        else
          .error ⟨.invalidWriteOperation,
            "signature not accepted from state " ++ row.state.value⟩
      else
        let signedStore :=
          { s with
            operations := s.operations.modify row.operationId (signRow response signature)
              fun _ => rfl }
        .ok ((signRow response signature row).toOperationRecord,
          signedStore.addAudit row.operationId "SIGNATURE_ACCEPTED" (some .awaitingSignature)
            (some .signed)
            [("document_sha256", .str row.documentSha256),
              ("certificate_thumbprint", .ofText? response.certificateThumbprint),
              ("certificate_inn", .ofText? response.certificateInn)])

/-- The states that a reserved submission has reached. -/
def submitReservedStates : List WriteState :=
  [.submitting, .submitted, .processing, .reconciliationRequired, .succeeded]

def reserveSubmit (operationId : String) : Except PyError (OperationRecord × WriteStore) :=
  match s.get operationId with
  | .error e => .error e
  | .ok op =>
    if op.state ≠ .signed then
      if op.state ∈ submitReservedStates then
        .error ⟨.duplicateSubmitBlocked, "second True API create is prohibited"⟩
      else
        .error ⟨.invalidWriteOperation, "submit not allowed from state " ++ op.state.value⟩
    else if ¬ truthyText op.signatureBase64 then
      .error ⟨.invalidWriteOperation, "signature missing"⟩
    else s.transition operationId [.signed] .submitting "SUBMIT_RESERVED" []

/-- The state a create result leads to. -/
def submitTarget : CreateCategory → WriteState
  | .successWithId => .submitted
  | .serverError => .manualReview
  | .successContractUnconfirmed => .manualReview
  | _ => .failed

/-- A row with the result of its create request. -/
def submitRow (result : CreateResult) (row : OperationRow) : OperationRow :=
  { row with
    state := submitTarget result.category
    documentId := if submitTarget result.category = .submitted then result.documentId else none
    submitHttpStatus := some result.httpStatus
    submitCategory := some result.category
    submitBodySha256 := some result.bodySha256 }

/-- `document_id TEXT UNIQUE`: another row already has the document id. -/
def documentIdTaken (operationId : String) (documentId : Option String) : Bool :=
  documentId.isSome &&
    s.operations.rows.any fun row => row.operationId ≠ operationId && row.documentId = documentId

def completeSubmit (operationId : String) (result : CreateResult) :
    Except PyError (OperationRecord × WriteStore) :=
  match s.row operationId with
  | .error e => .error e
  | .ok row =>
    if row.state ≠ .submitting then
      .error ⟨.invalidWriteOperation,
        "submit result not allowed from state " ++ row.state.value⟩
    else if result.category = .successWithId ∧ ¬ truthyText result.documentId then
      .error ⟨.invalidWriteOperation, "success parser returned no document id"⟩
    else if s.documentIdTaken operationId (submitRow result row).documentId then
      .error ⟨.integrityError, ""⟩
    else
      let completed :=
        { s with operations := s.operations.modify operationId (submitRow result) fun _ => rfl }
      .ok ((submitRow result row).toOperationRecord,
        completed.addAudit operationId "SUBMIT_RESULT" (some .submitting)
          (some (submitTarget result.category))
          [("http_status", .int result.httpStatus),
            ("category", .str result.category.value),
            ("body_sha256", .str result.bodySha256),
            ("content_type", .ofText? result.contentType),
            ("document_id_present", .bool result.documentId.isSome)])

def markSubmitAmbiguous (operationId errorType : String) :
    Except PyError (OperationRecord × WriteStore) :=
  s.transition operationId [.submitting] .manualReview "SUBMIT_TRANSPORT_AMBIGUOUS"
    [("error_type", .str (Text.take 200 errorType))]

/-- The states that may be sent to manual review. -/
def manualReviewSources : List WriteState :=
  [.awaitingSignature, .signed, .submitting, .submitted, .processing, .reconciliationRequired]

def markManualReview (operationId reason : String) :
    Except PyError (OperationRecord × WriteStore) :=
  s.transition operationId manualReviewSources .manualReview "MANUAL_REVIEW_REQUIRED"
    [("reason", .str (Text.take 500 reason))]

def markError (operationId errorType : String) :
    Except PyError (OperationRecord × WriteStore) :=
  s.transition operationId [.awaitingSignature, .signed] .error "PIPELINE_ERROR"
    [("error_type", .str (Text.take 200 errorType))]

def auditNote (operationId action : String) (details : List (String × Json)) :
    Except PyError WriteStore :=
  .ok (s.addAudit operationId action none none details)

/-- The state a terminal poll classification leads to. -/
def pollTarget : PollClassification → WriteState
  | .terminalSuccess => .reconciliationRequired
  | .terminalFailure => .failed
  | _ => .manualReview

def applyPollStatus (operationId : String) (status : Option String) (httpStatus : Option Int)
    (bodySha256 : Option String) :
    Except PyError ((OperationRecord × PollClassification) × WriteStore) :=
  let classification := classifyPollStatus status
  match s.get operationId with
  | .error e => .error e
  | .ok op =>
    let details : List (String × Json) :=
      [("remote_status", .ofText? status), ("http_status", .ofInt? httpStatus),
        ("body_sha256", .ofText? bodySha256), ("classification", .str classification.value)]
    if op.state ∉ [.submitted, .processing] then
      .error ⟨.invalidWriteOperation, "polling not allowed from state " ++ op.state.value⟩
    else if classification = .intermediate then
      if op.state = .submitted then
        (s.transition operationId [.submitted] .processing "POLL_INTERMEDIATE" details).map
          fun result => ((result.1, classification), result.2)
      else
        .ok ((op, classification),
          s.addAudit operationId "POLL_INTERMEDIATE" none none details)
    else
      (s.transition operationId [.submitted, .processing] (pollTarget classification)
        "POLL_TERMINAL" details).map fun result => ((result.1, classification), result.2)

def reconciliationResult (operationId : String) (confirmed : Bool)
    (details : List (String × Json)) : Except PyError (OperationRecord × WriteStore) :=
  s.transition operationId [.reconciliationRequired]
    (if confirmed then .succeeded else .manualReview) "RECONCILIATION_RESULT"
    (Json.merge [("confirmed", .bool confirmed)] details)

end WriteStore

/-- A transaction on the store with its arguments. -/
inductive StoreCall where
  | prepare (request : PrepareRequest) (now : String)
  | acceptSignature (response : SigningResponse) (ownInn : String)
  | reserveSubmit (operationId : String)
  | completeSubmit (operationId : String) (result : CreateResult)
  | markSubmitAmbiguous (operationId errorType : String)
  | markManualReview (operationId reason : String)
  | markError (operationId errorType : String)
  | auditNote (operationId action : String) (details : List (String × Json))
  | applyPollStatus (operationId : String) (status : Option String) (httpStatus : Option Int)
      (bodySha256 : Option String)
  | reconciliationResult (operationId : String) (confirmed : Bool)
      (details : List (String × Json))

/-- The store after an accepted transaction. -/
def WriteStore.step (sha256 : List UInt8 → String) (s : WriteStore) :
    StoreCall → Except PyError WriteStore
  | .prepare request now => (s.prepare sha256 request now).map Prod.snd
  | .acceptSignature response ownInn => (s.acceptSignature response ownInn).map Prod.snd
  | .reserveSubmit operationId => (s.reserveSubmit operationId).map Prod.snd
  | .completeSubmit operationId result => (s.completeSubmit operationId result).map Prod.snd
  | .markSubmitAmbiguous operationId errorType =>
    (s.markSubmitAmbiguous operationId errorType).map Prod.snd
  | .markManualReview operationId reason => (s.markManualReview operationId reason).map Prod.snd
  | .markError operationId errorType => (s.markError operationId errorType).map Prod.snd
  | .auditNote operationId action details => s.auditNote operationId action details
  | .applyPollStatus operationId status httpStatus bodySha256 =>
    (s.applyPollStatus operationId status httpStatus bodySha256).map Prod.snd
  | .reconciliationResult operationId confirmed details =>
    (s.reconciliationResult operationId confirmed details).map Prod.snd

end Wbcz
