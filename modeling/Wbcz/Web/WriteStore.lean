import Wbcz.Lib.Sha256
import Wbcz.WritePipeline.Store

/-!
# The write-operation store of the web service

`SqlAlchemyWriteOperationStore` of `wbcz_web/repositories/agent.py`: the store of
`WritePipeline.Store` written again over PostgreSQL, with rows that belong to a tenant,
columns of limited width and, for a tenant's session, an immutable history of the
milestones of an operation.

A call that raises leaves nothing behind: what it wrote before is rolled back with its
session. `AuditService.append` is a parameter of the session, which may refuse an event
in the light of those already appended. Row locks are left out: a call is one step.
-/

namespace Wbcz.Web

open WriteStore

/-- The organisation and the participant a request works for. -/
structure TenantContext where
  userId : Option Int
  organisationId : String
  participantId : String
  participantInn : String
  deriving DecidableEq, Repr

/-- An event of the immutable audit history about a write operation. -/
structure ImmutableEvent where
  eventType : String
  actorKind : String
  userId : Option Int
  machinePrincipal : Option String
  organisationId : String
  participantId : String
  operationId : String
  outcome : String
  authorizationDecision : String
  correlationId : Option String
  causationId : Option String
  eventKey : String
  metadata : List (String × Json)
  evidenceHashes : List String
  deriving Repr

/-- What a database session knows about its request. -/
structure Session where
  /-- `optional_tenant` -/
  tenant : Option TenantContext
  /-- `db.get(BootstrapRecord, 1) is not None` -/
  bootstrapped : Bool
  correlationId : Option String := none
  causationId : Option String := none
  /-- `AuditService.append`, after the events appended before -/
  append : List ImmutableEvent → ImmutableEvent → Except PyError Unit

/-- A row of `write_operations`. -/
structure WriteOperationRecord extends OperationRow where
  organisationId : Option String
  participantId : Option String
  deriving DecidableEq, Repr

/-- The primary key of a row. -/
abbrev WriteOperationRecord.key (row : WriteOperationRecord) : String := row.operationId

/-- A text without NUL of at most `width` characters: a value of `VARCHAR(width)`. -/
def fitsString (width : Nat) (text : String) : Bool :=
  text.length ≤ width && !text.toList.contains (Char.ofNat 0)

theorem fitsString_hexdigest (bytes : List UInt8) :
    fitsString 64 (Sha256.hexdigest bytes) = true := by
  have hlength : (Sha256.hexdigest bytes).length = 64 := Sha256.length_hexdigest bytes
  simp [fitsString, hlength, Sha256.nul_not_mem_hexdigest]

/-- A text without NUL: a value of `TEXT`. -/
def fitsText (text : String) : Bool := !text.toList.contains (Char.ofNat 0)

/-- A value of `INTEGER`. -/
def fitsInteger (i : Int) : Bool := -2147483648 ≤ i && i ≤ 2147483647

/-- The values of a row are values of its columns. -/
def WriteOperationRecord.fits (row : WriteOperationRecord) : Bool :=
  fitsString 64 row.operationId && fitsString 64 row.businessFingerprint &&
    fitsString 64 row.eventId && fitsString 32 row.decision.value &&
    fitsString 32 row.documentType && fitsString 64 row.operationReason &&
    fitsString 16 row.pg && fitsString 12 row.expectedInn &&
    fitsString 64 row.documentSha256 && fitsText row.productDocumentBase64 &&
    row.signatureBase64.all fitsText && row.certificateThumbprint.all (fitsString 160) &&
    row.certificateSubject.all fitsText && row.certificateInn.all (fitsString 12) &&
    row.certificateValidFrom.all (fitsString 64) && row.certificateValidTo.all (fitsString 64) &&
    row.documentId.all (fitsString 512) && row.submitHttpStatus.all fitsInteger &&
    row.submitCategory.all (fun category => fitsString 64 category.value) &&
    row.submitBodySha256.all (fitsString 64)

/-- A row of `write_audit`. -/
structure WriteAuditRecord where
  operationId : String
  action : String
  fromState : Option WriteState
  toState : Option WriteState
  detailsJson : List (String × Json)
  deriving Repr

/-- The tables behind the store. -/
structure SqlAlchemyWriteOperationStore where
  operations : Table WriteOperationRecord.key
  audit : List WriteAuditRecord
  history : List ImmutableEvent

/-- `_WRITE_MAPPING`. -/
def writeMapping : Decision → Option (String × String)
  | .readyToWithdraw => some ("LK_RECEIPT", "DISTANCE")
  | .readyToReturn => some ("LP_RETURN", "REMOTE_SALE_RETURN")
  | _ => none

/-- `_normalized_b64`. -/
def normalizedB64 (value label : String) : Except PyError String :=
  if value = "" ∨ '\r' ∈ value.toList ∨ '\n' ∈ value.toList then
    .error ⟨.invalidWriteOperation, label ++ " must be non-empty Base64 without CR/LF"⟩
  else
    match Base64.decode value.toList with
    | none => .error ⟨.invalidWriteOperation, label ++ " is invalid Base64"⟩
    | some [] => .error ⟨.invalidWriteOperation, label ++ " decodes to empty bytes"⟩
    | some raw => .ok (String.ofList (Base64.encode raw))

/-- The canonical text of what identifies a business operation. -/
def businessSource (request : PrepareRequest) : String :=
  Json.canonical (.obj [
    ("event_id", .str request.eventId),
    ("decision", .str request.decision.value),
    ("document_type", .str request.documentType),
    ("operation_reason", .str request.operationReason),
    ("pg", .str request.pg)])

/-- The namespace of the fingerprints of a session. -/
def Session.fingerprintNamespace (session : Session) : String :=
  match session.tenant with
  | some scope => "wb-fbs-write:m12:" ++ scope.organisationId ++ ":" ++ scope.participantId ++ ":"
  | none => "wb-fbs-write:legacy:"

/-- The digest that identifies a business operation in a session. -/
def Session.businessFingerprint (session : Session) (sha256 : List UInt8 → String)
    (request : PrepareRequest) : String :=
  sha256 (Text.utf8 (session.fingerprintNamespace ++ businessSource request))

/-- The rows a session sees. -/
def Session.sees (session : Session) (row : WriteOperationRecord) : Bool :=
  match session.tenant with
  | some scope =>
    row.organisationId = some scope.organisationId && row.participantId = some scope.participantId
  | none => true

/-- The event `_immutable_write` appends for a tenant. -/
def Session.immutableEvent (session : Session) (scope : TenantContext)
    (row : WriteOperationRecord) (eventType actorKind : String)
    (machinePrincipal : Option String) (outcome : String) (metadata : List (String × Json))
    (evidenceHashes : List String) (eventKeySuffix : String) : ImmutableEvent :=
  let isUser := actorKind = "USER" ∧ scope.userId.isSome
  { eventType := eventType
    actorKind := actorKind
    userId := if isUser then scope.userId else none
    machinePrincipal := if isUser then none else machinePrincipal
    organisationId := scope.organisationId
    participantId := scope.participantId
    operationId := row.operationId
    outcome := outcome
    authorizationDecision := if actorKind = "USER" then "ALLOW" else "NOT_APPLICABLE"
    correlationId := session.correlationId
    causationId := session.causationId
    eventKey := Text.take 256 ("write:" ++ row.operationId ++ ":" ++ eventKeySuffix)
    metadata := metadata
    evidenceHashes := evidenceHashes }

/-- `TURNOVER_INTENT_CREATED`: the first milestone of an operation. -/
def Session.intentCreated (session : Session) (row : WriteOperationRecord)
    (scope : TenantContext) : ImmutableEvent :=
  session.immutableEvent scope row "TURNOVER_INTENT_CREATED"
    (if scope.userId.isSome then "USER" else "WORKER")
    (if scope.userId.isSome then none else some "write-worker") "PENDING"
    [("operation_kind", .str row.operationReason),
      ("document_type", .str row.documentType),
      ("document_sha256", .str row.documentSha256),
      ("idempotency_fingerprint", .str row.businessFingerprint)]
    [row.documentSha256] "intent"

/-- `remote_outcome`. -/
def remoteOutcome : WriteState → String
  | .submitted => "SUCCESS"
  | .manualReview => "AMBIGUOUS"
  | _ => "FAILED"

/-- The first text of a list that is present and not empty. -/
def firstText (texts : List (Option String)) (default : String) : String :=
  (texts.findSome? fun text => if truthyText text then text else none).getD default

/-- `TURNOVER_REMOTE_RESULT`: the answer to the create request. -/
def Session.remoteResult (session : Session) (row : WriteOperationRecord)
    (scope : TenantContext) : ImmutableEvent :=
  session.immutableEvent scope row "TURNOVER_REMOTE_RESULT" "WINDOWS_AGENT"
    (some "windows-agent") (remoteOutcome row.state)
    [("operation_kind", .str row.operationReason),
      ("document_type", .str row.documentType),
      ("document_sha256", .str row.documentSha256),
      ("remote_document_id", .ofText? row.documentId),
      ("http_status", .ofInt? row.submitHttpStatus),
      ("remote_status", .ofText? (row.submitCategory.map CreateCategory.value)),
      ("body_sha256", .ofText? row.submitBodySha256),
      ("ambiguity", .bool (row.state = .manualReview)),
      ("document_id_present", .bool row.documentId.isSome)]
    ([some row.documentSha256, row.submitBodySha256].filterMap fun text =>
      if truthyText text then text else none)
    ("remote-result:" ++
      firstText [row.submitBodySha256, row.submitCategory.map CreateCategory.value] "none")

/-- `TURNOVER_RECONCILED`: the outcome of the reconciliation. -/
def Session.reconciled (session : Session) (sha256 : List UInt8 → String)
    (row : WriteOperationRecord) (confirmed : Bool) (details : List (String × Json))
    (scope : TenantContext) : ImmutableEvent :=
  let evidenceHash := sha256 (Text.utf8 (Json.canonical
    (.obj [("confirmed", .bool confirmed), ("details", .obj details)])))
  session.immutableEvent scope row "TURNOVER_RECONCILED" "WORKER" (some "reconciliation-worker")
    (if confirmed then "SUCCESS" else "CONFLICT")
    [("operation_kind", .str row.operationReason),
      ("document_type", .str row.documentType),
      ("document_sha256", .str row.documentSha256),
      ("reconciliation_state", .str (if confirmed then "RECONCILED" else "MANUAL_REVIEW")),
      ("postcondition_evidence_sha256", .str evidenceHash),
      ("manual_review_reason",
        if confirmed then .null else .str "postcondition_not_confirmed")]
    [row.documentSha256, evidenceHash] ("reconciled:" ++ evidenceHash)

namespace SqlAlchemyWriteOperationStore

/-- Tables without rows. -/
def empty : SqlAlchemyWriteOperationStore := ⟨Table.empty, [], []⟩

variable (p : SqlAlchemyWriteOperationStore) (session : Session)

/-- `_row`. -/
def row (operationId : String) : Except PyError WriteOperationRecord :=
  if session.tenant = none ∧ session.bootstrapped then
    .error ⟨.keyError, "operation not found: " ++ operationId⟩
  else
    match (p.operations.find? operationId).filter session.sees with
    | some row => .ok row
    | none => .error ⟨.keyError, "operation not found: " ++ operationId⟩

/-- `_audit`. -/
def addAudit (operationId action : String) (fromState toState : Option WriteState)
    (details : List (String × Json)) : SqlAlchemyWriteOperationStore :=
  { p with audit := p.audit ++ [⟨operationId, action, fromState, toState, details⟩] }

/-- `_immutable_write`: without a tenant there is no history to write. -/
def immutableWrite (event : TenantContext → ImmutableEvent) :
    Except PyError SqlAlchemyWriteOperationStore :=
  match session.tenant with
  | none => .ok p
  | some scope =>
    match session.append p.history (event scope) with
    | .error e => .error e
    | .ok () => .ok { p with history := p.history ++ [event scope] }

def get (operationId : String) : Except PyError OperationRecord :=
  (p.row session operationId).map fun row => row.toOperationRecord

/-- Set the state of a row. -/
def setState (operationId : String) (target : WriteState) : SqlAlchemyWriteOperationStore :=
  { p with operations :=
      p.operations.modify operationId (fun row => { row with state := target }) fun _ => rfl }

/-- `_transition`. -/
def transition (operationId : String) (expected : List WriteState) (target : WriteState)
    (action : String) (details : List (String × Json)) :
    Except PyError (OperationRecord × SqlAlchemyWriteOperationStore) :=
  match p.row session operationId with
  | .error e => .error e
  | .ok row =>
    if row.state ∉ expected then
      .error ⟨.invalidWriteOperation, action ++ " not allowed from state " ++ row.state.value⟩
    else
      .ok ({ row.toOperationRecord with state := target },
        (p.setState operationId target).addAudit operationId action (some row.state)
          (some target) details)

/-- The checks `prepare` makes on its arguments alone. -/
def checkDocument (sha256 : List UInt8 → String) (request : PrepareRequest) :
    Except PyError Unit :=
  match writeMapping request.decision with
  | none => .error ⟨.invalidWriteOperation, "control decision is not approved for write"⟩
  | some (expectedType, expectedReason) =>
    if request.documentType ≠ expectedType ∨ request.operationReason ≠ expectedReason then
      .error ⟨.invalidWriteOperation, "decision/document mapping mismatch"⟩
    else if request.documentType ∉ allowedDocumentTypes ∨ request.pg ≠ allowedProductGroup then
      .error ⟨.invalidWriteOperation, "operation is outside P0 write whitelist"⟩
    else if request.expectedInn = "" then
      .error ⟨.invalidWriteOperation, "expected_inn is required"⟩
    else
      match Base64.decode request.document.productDocumentBase64.toList with
      | none => .error ⟨.invalidWriteOperation, "product_document is invalid Base64"⟩
      | some decoded =>
        if decoded ≠ request.document.bytesForSignature then
          .error ⟨.invalidWriteOperation,
            "bytes_for_signature != Base64Decode(product_document)"⟩
        else if sha256 decoded ≠ request.document.sha256 then
          .error ⟨.invalidWriteOperation, "document hash mismatch"⟩
        else .ok ()

/-- The checks `prepare` makes against the scope of its session. -/
def checkScope (request : PrepareRequest) : Except PyError Unit :=
  match session.tenant with
  | none =>
    if session.bootstrapped then
      .error ⟨.permissionError, "post-bootstrap write operations require tenant scope"⟩
    else .ok ()
  | some scope =>
    if request.expectedInn ≠ scope.participantInn then
      .error ⟨.invalidWriteOperation, "expected_inn must match active participant"⟩
    else .ok ()

/-- The row that `prepare` inserts. -/
def preparedRow (request : PrepareRequest) (fingerprint now : String) : WriteOperationRecord where
  toOperationRow := WriteStore.preparedRow request fingerprint now .awaitingSignature
  organisationId := session.tenant.map TenantContext.organisationId
  participantId := session.tenant.map TenantContext.participantId

/-- The row of the business operation of a request. -/
def existing (sha256 : List UInt8 → String) (request : PrepareRequest) :
    Option WriteOperationRecord :=
  p.operations.rows.find? fun row =>
    row.businessFingerprint = session.businessFingerprint sha256 request && session.sees row

def prepare (sha256 : List UInt8 → String) (request : PrepareRequest) (now : String) :
    Except PyError (OperationRecord × SqlAlchemyWriteOperationStore) :=
  match checkDocument sha256 request with
  | .error e => .error e
  | .ok () =>
  match checkScope session request with
  | .error e => .error e
  | .ok () =>
    match p.existing session sha256 request with
    | some existing =>
      if existing.documentSha256 = request.document.sha256 ∧
          existing.productDocumentBase64 = request.document.productDocumentBase64 ∧
          existing.expectedInn = request.expectedInn then
        .ok (existing.toOperationRecord,
          p.addAudit existing.operationId "PREPARE_REPLAY_IDEMPOTENT" none none
            [("document_sha256", .str request.document.sha256)])
      else
        .error ⟨.replayConflict,
          "same business operation has different immutable document data"⟩
    | none =>
      let row := preparedRow session request (session.businessFingerprint sha256 request) now
      if ¬ row.fits then .error ⟨.dataError, ""⟩
      else
        match p.operations.insert row with
        | none => .error ⟨.integrityError, ""⟩
        | some operations =>
          match { p with operations := operations }.immutableWrite session
              (session.intentCreated row) with
          | .error e => .error e
          | .ok inserted =>
            .ok (row.toOperationRecord,
              (inserted.addAudit row.operationId "OPERATION_PREPARED" none (some .prepared)
                [("document_type", .str request.documentType), ("pg", .str request.pg),
                  ("document_sha256", .str request.document.sha256)]).addAudit row.operationId
                "SIGNING_REQUEST_PENDING" (some .prepared) (some .awaitingSignature) [])

def signingRequest (operationId : String) : Except PyError SigningRequest :=
  match p.get session operationId with
  | .error e => .error e
  | .ok operation =>
    if operation.state ≠ .awaitingSignature then
      .error ⟨.invalidWriteOperation,
        "signing request unavailable from state " ++ operation.state.value⟩
    else if operation.documentType ∉ allowedDocumentTypes ∨
        operation.pg ≠ allowedProductGroup then
      .error ⟨.invalidWriteOperation, "operation is outside signing whitelist"⟩
    else
      .ok ⟨operation.operationId, operation.documentType, operation.pg, operation.expectedInn,
        operation.documentSha256, operation.productDocumentBase64⟩

/-- The checks `accept_signature` makes against the row, down to the canonical signature. -/
def checkSignature (row : OperationRow) (response : SigningResponse) (ownInn : String) :
    Except PyError String :=
  if row.documentSha256 ≠ response.documentSha256 then
    .error ⟨.invalidWriteOperation, "document_sha256 mismatch"⟩
  else if row.documentType ∉ allowedDocumentTypes ∨ row.pg ≠ allowedProductGroup then
    .error ⟨.invalidWriteOperation, "operation is outside write whitelist"⟩
  else if row.expectedInn ≠ ownInn then
    .error ⟨.invalidWriteOperation, "expected_inn mismatch"⟩
  else if truthyText response.certificateInn ∧
      response.certificateInn ≠ some row.expectedInn then
    .error ⟨.invalidWriteOperation, "certificate INN mismatch"⟩
  else normalizedB64 response.signatureBase64 "signature"

/-- A row with an accepted signature and the certificate that made it. -/
def signRow (response : SigningResponse) (signature : String) (row : WriteOperationRecord) :
    WriteOperationRecord :=
  { row with toOperationRow := WriteStore.signRow response signature row.toOperationRow }

def acceptSignature (response : SigningResponse) (ownInn : String) :
    Except PyError (OperationRecord × SqlAlchemyWriteOperationStore) :=
  match p.row session response.operationId with
  | .error e => .error e
  | .ok row =>
    match checkSignature row.toOperationRow response ownInn with
    | .error e => .error e
    | .ok signature =>
      if row.state ≠ .awaitingSignature then
        if row.signatureBase64 = some signature ∧ row.state ∈ signatureReplayStates then
          .ok (row.toOperationRecord,
            p.addAudit row.operationId "SIGNATURE_REPLAY_IDEMPOTENT" none none
              [("document_sha256", .str row.documentSha256)])
        else
          .error ⟨.invalidWriteOperation,
            "signature not accepted from state " ++ row.state.value⟩
      else if ¬ (signRow response signature row).fits then .error ⟨.dataError, ""⟩
      else
        let signedStore :=
          { p with
            operations := p.operations.modify row.operationId (signRow response signature)
              fun _ => rfl }
        .ok ((signRow response signature row).toOperationRecord,
          signedStore.addAudit row.operationId "SIGNATURE_ACCEPTED" (some .awaitingSignature)
            (some .signed)
            [("document_sha256", .str row.documentSha256),
              ("certificate_thumbprint", .ofText? response.certificateThumbprint),
              ("certificate_inn", .ofText? response.certificateInn)])

def reserveSubmit (operationId : String) :
    Except PyError (OperationRecord × SqlAlchemyWriteOperationStore) :=
  match p.get session operationId with
  | .error e => .error e
  | .ok op =>
    if op.state ≠ .signed then
      if op.state ∈ submitReservedStates then
        .error ⟨.duplicateSubmitBlocked, "second True API create is prohibited"⟩
      else
        .error ⟨.invalidWriteOperation, "submit not allowed from state " ++ op.state.value⟩
    else if ¬ truthyText op.signatureBase64 then
      .error ⟨.invalidWriteOperation, "signature missing"⟩
    else p.transition session operationId [.signed] .submitting "SUBMIT_RESERVED" []

/-- A row with the result of its create request. -/
def submitRow (result : CreateResult) (row : WriteOperationRecord) : WriteOperationRecord :=
  { row with toOperationRow := WriteStore.submitRow result row.toOperationRow }

/-- `uq_write_operations_tenant_document_id`: another row of the tenant has the document id.
Rows without a tenant never clash. -/
def documentIdTaken (row : WriteOperationRecord) : Bool :=
  row.organisationId.isSome && row.participantId.isSome && row.documentId.isSome &&
    p.operations.rows.any fun other =>
      other.operationId ≠ row.operationId && other.organisationId = row.organisationId &&
        other.participantId = row.participantId && other.documentId = row.documentId

def completeSubmit (operationId : String) (result : CreateResult) :
    Except PyError (OperationRecord × SqlAlchemyWriteOperationStore) :=
  match p.row session operationId with
  | .error e => .error e
  | .ok row =>
    if row.state ≠ .submitting then
      .error ⟨.invalidWriteOperation,
        "submit result not allowed from state " ++ row.state.value⟩
    else if result.category = .successWithId ∧ ¬ truthyText result.documentId then
      .error ⟨.invalidWriteOperation, "success parser returned no document id"⟩
    else if ¬ (submitRow result row).fits then .error ⟨.dataError, ""⟩
    else if p.documentIdTaken (submitRow result row) then .error ⟨.integrityError, ""⟩
    else
      let completed :=
        { p with operations := p.operations.modify operationId (submitRow result) fun _ => rfl }
      let audited :=
        completed.addAudit operationId "SUBMIT_RESULT" (some .submitting)
          (some (submitTarget result.category))
          [("http_status", .int result.httpStatus),
            ("category", .str result.category.value),
            ("body_sha256", .str result.bodySha256),
            ("content_type", .ofText? result.contentType),
            ("document_id_present", .bool result.documentId.isSome)]
      match audited.immutableWrite session (session.remoteResult (submitRow result row)) with
      | .error e => .error e
      | .ok recorded => .ok ((submitRow result row).toOperationRecord, recorded)

def markManualReview (operationId reason : String) :
    Except PyError (OperationRecord × SqlAlchemyWriteOperationStore) :=
  p.transition session operationId manualReviewSources .manualReview "MANUAL_REVIEW_REQUIRED"
    [("reason", .str (Text.take 500 reason))]

def markError (operationId errorType : String) :
    Except PyError (OperationRecord × SqlAlchemyWriteOperationStore) :=
  p.transition session operationId [.awaitingSignature, .signed] .error "PIPELINE_ERROR"
    [("error_type", .str (Text.take 200 errorType))]

def auditNote (operationId action : String) (details : List (String × Json)) :
    Except PyError SqlAlchemyWriteOperationStore :=
  match p.row session operationId with
  | .error e => .error e
  | .ok _ =>
    if ¬ fitsString 96 action then .error ⟨.dataError, ""⟩
    else .ok (p.addAudit operationId action none none details)

def applyPollStatus (operationId : String) (status : Option String) (httpStatus : Option Int)
    (bodySha256 : Option String) :
    Except PyError ((OperationRecord × PollClassification) × SqlAlchemyWriteOperationStore) :=
  let classification := classifyPollStatus status
  match p.get session operationId with
  | .error e => .error e
  | .ok op =>
    let details : List (String × Json) :=
      [("remote_status", .ofText? status), ("http_status", .ofInt? httpStatus),
        ("body_sha256", .ofText? bodySha256), ("classification", .str classification.value)]
    if op.state ∉ [.submitted, .processing] then
      .error ⟨.invalidWriteOperation, "polling not allowed from state " ++ op.state.value⟩
    else if classification = .intermediate then
      if op.state = .submitted then
        (p.transition session operationId [.submitted] .processing "POLL_INTERMEDIATE"
          details).map fun result => ((result.1, classification), result.2)
      else
        .ok ((op, classification),
          p.addAudit operationId "POLL_INTERMEDIATE" none none details)
    else
      (p.transition session operationId [.submitted, .processing] (pollTarget classification)
        "POLL_TERMINAL" details).map fun result => ((result.1, classification), result.2)

def reconciliationResult (sha256 : List UInt8 → String) (operationId : String)
    (confirmed : Bool) (details : List (String × Json)) :
    Except PyError (OperationRecord × SqlAlchemyWriteOperationStore) :=
  match p.transition session operationId [.reconciliationRequired]
      (if confirmed then .succeeded else .manualReview) "RECONCILIATION_RESULT"
      (Json.merge [("confirmed", .bool confirmed)] details) with
  | .error e => .error e
  | .ok (result, moved) =>
    match moved.row session operationId with
    | .error e => .error e
    | .ok row =>
      match moved.immutableWrite session (session.reconciled sha256 row confirmed details) with
      | .error e => .error e
      | .ok recorded => .ok (result, recorded)

/-- The store after an accepted call. It has no `mark_submit_ambiguous`. -/
def step (sha256 : List UInt8 → String) (p : SqlAlchemyWriteOperationStore) :
    StoreCall → Except PyError SqlAlchemyWriteOperationStore
  | .prepare request now => (p.prepare session sha256 request now).map Prod.snd
  | .acceptSignature response ownInn =>
    (p.acceptSignature session response ownInn).map Prod.snd
  | .reserveSubmit operationId => (p.reserveSubmit session operationId).map Prod.snd
  | .completeSubmit operationId result =>
    (p.completeSubmit session operationId result).map Prod.snd
  | .markSubmitAmbiguous _ _ => .error ⟨.other "AttributeError", "mark_submit_ambiguous"⟩
  | .markManualReview operationId reason =>
    (p.markManualReview session operationId reason).map Prod.snd
  | .markError operationId errorType =>
    (p.markError session operationId errorType).map Prod.snd
  | .auditNote operationId action details => p.auditNote session operationId action details
  | .applyPollStatus operationId status httpStatus bodySha256 =>
    (p.applyPollStatus session operationId status httpStatus bodySha256).map Prod.snd
  | .reconciliationResult operationId confirmed details =>
    (p.reconciliationResult session sha256 operationId confirmed details).map Prod.snd

end SqlAlchemyWriteOperationStore

end Wbcz.Web
