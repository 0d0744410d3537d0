import Wbcz.WritePipeline.Transactions

/-!
# The write pipeline and its adapters

`TrueApiWriteAdapter`, `TrueApiPollingAdapter` and `WritePipeline` of
`write_pipeline.py`. The transport and the two response parsers are arguments: they may
answer anything or raise. `submit` and `pollOnce` run over several transactions, so they
give the store they leave behind also when they raise.
-/

namespace Wbcz

/-- An HTTP response. -/
structure HttpResponse where
  statusCode : Int
  body : List UInt8 := []
  headers : Option (List (String × String)) := none
  deriving DecidableEq, Repr

/-- `_safe_document_id`: a document identifier without surrounding blanks. -/
def safeDocumentId : Option String → Except PyError (Option String)
  | none => .ok none
  | some value =>
    let value := Text.strip value
    if value = "" ∨ value.length > 512 ∨ value.toList.any (fun ch => ch.toNat < 32) then
      .error ⟨.valueError, "unsafe document identifier from parser"⟩
    else .ok (some value)

/-- The category of a response status other than 200 and 201. -/
def createCategoryOfStatus (statusCode : Int) : CreateCategory :=
  if statusCode = 400 then .badRequest
  else if statusCode = 401 then .unauthorized
  else if statusCode = 403 then .forbidden
  else if statusCode = 422 then .unprocessable
  else if statusCode ≥ 500 then .serverError
  else .httpError

/-- The adapter of the create request. -/
structure TrueApiWriteAdapter where
  baseUrl : String
  authorization : String
  postJson : String → List (String × String) → List (String × String) →
    Except PyError HttpResponse
  parseDocumentId : HttpResponse → Except PyError (Option String)

/-- `headers.get("Content-Type") or headers.get("content-type")`. -/
def contentTypeOf (response : HttpResponse) : Option String :=
  let header (name : String) : Option String :=
    (response.headers.getD []).lookup name
  if truthyText (header "Content-Type") then header "Content-Type" else header "content-type"

namespace TrueApiWriteAdapter

def createPath : String := "/api/v3/true-api/lk/documents/create?pg=lp"

variable (sha256 : List UInt8 → String) (adapter : TrueApiWriteAdapter)

def create (documentType productDocumentBase64 signatureBase64 : String) :
    Except PyError CreateResult :=
  if documentType ∉ allowedDocumentTypes then
    .error ⟨.invalidWriteOperation, "unsupported document_type"⟩
  else do
    let productDocument ← validateBase64Ascii productDocumentBase64 "product_document"
    let signature ← validateBase64Ascii signatureBase64 "signature"
    let response ← adapter.postJson (adapter.baseUrl ++ createPath)
      [("Authorization", adapter.authorization), ("Content-Type", "application/json")]
      [("document_format", "MANUAL"), ("product_document", productDocument),
        ("type", documentType), ("signature", signature)]
    let bodySha := sha256 response.body
    if response.statusCode = 200 ∨ response.statusCode = 201 then
      let parsed ← adapter.parseDocumentId response
      let documentId ← safeDocumentId parsed
      .ok ⟨if documentId.isSome then .successWithId else .successContractUnconfirmed,
        response.statusCode, documentId, bodySha, contentTypeOf response⟩
    else
      .ok ⟨createCategoryOfStatus response.statusCode, response.statusCode, none, bodySha,
        contentTypeOf response⟩

end TrueApiWriteAdapter

/-- The result of a poll request. -/
structure PollResult where
  httpStatus : Int
  rawStatus : Option String
  bodySha256 : String
  deriving DecidableEq, Repr

/-- The adapter of the poll request. -/
structure TrueApiPollingAdapter where
  baseUrl : String
  authorization : String
  get : String → List (String × String) → Except PyError HttpResponse
  parseStatus : HttpResponse → Except PyError (Option String)

namespace TrueApiPollingAdapter

variable (sha256 : List UInt8 → String) (adapter : TrueApiPollingAdapter)

def poll (documentId : String) : Except PyError PollResult := do
  let safe ← safeDocumentId (some documentId)
  let response ← adapter.get
    (adapter.baseUrl ++ "/api/v4/true-api/doc/" ++ safe.getD "" ++ "/info")
    [("Authorization", adapter.authorization)]
  let status ← adapter.parseStatus response
  .ok ⟨response.statusCode, status.map Text.strip, sha256 response.body⟩

end TrueApiPollingAdapter

/-- A pipeline over a shared store. -/
structure WritePipeline where
  ownInn : String
  writer : Option TrueApiWriteAdapter := none
  poller : Option TrueApiPollingAdapter := none
  trueApiWrite : Bool := false

namespace WritePipeline

variable (sha256 : List UInt8 → String) (pipeline : WritePipeline) (s : WriteStore)

def prepare (request : PrepareRequest) (now : String) :
    Except PyError (OperationRecord × WriteStore) :=
  if request.expectedInn ≠ pipeline.ownInn then
    .error ⟨.invalidWriteOperation, "wrong expected_inn"⟩
  else s.prepare sha256 request now

def acceptSignature (response : SigningResponse) :
    Except PyError (OperationRecord × WriteStore) :=
  s.acceptSignature response pipeline.ownInn

/-- Run a transaction in a longer procedure: a rejected one leaves the store as it is. -/
def commit {α : Type} (s : WriteStore) (result : Except PyError (α × WriteStore)) :
    Except PyError α × WriteStore :=
  match result with
  | .ok (value, s') => (.ok value, s')
  | .error e => (.error e, s)

/-- The transaction that records the outcome of a create request. -/
def recordOutcome (operationId : String) (outcome : Except PyError CreateResult) :
    Except PyError (OperationRecord × WriteStore) :=
  match outcome with
  | .error exc => s.markSubmitAmbiguous operationId exc.cls.name
  | .ok result => s.completeSubmit operationId result

def submit (operationId : String) : Except PyError OperationRecord × WriteStore :=
  if ¬ pipeline.trueApiWrite then
    (.error ⟨.productionWriteDisabled, "true_api_write=false"⟩, s)
  else
    match pipeline.writer with
    | none => (.error ⟨.invalidWriteOperation, "True API write adapter is not configured"⟩, s)
    | some writer =>
      match s.reserveSubmit operationId with
      | .error e => (.error e, s)
      | .ok (op, reserved) =>
        let outcome := writer.create sha256 op.documentType op.productDocumentBase64
          (op.signatureBase64.getD "")
        commit reserved (recordOutcome reserved operationId outcome)

def pollOnce (operationId : String) :
    Except PyError (OperationRecord × PollClassification) × WriteStore :=
  match pipeline.poller with
  | none => (.error ⟨.invalidWriteOperation, "True API polling adapter is not configured"⟩, s)
  | some poller =>
    match s.get operationId with
    | .error e => (.error e, s)
    | .ok op =>
      if ¬ truthyText op.documentId then
        (.error ⟨.invalidWriteOperation, "document_id unavailable"⟩, s)
      else
        match poller.poll sha256 (op.documentId.getD "") with
        | .error exc =>
          match s.auditNote operationId "POLL_TRANSPORT_ERROR"
              [("error_type", .str exc.cls.name)] with
          | .error e => (.error e, s)
          | .ok noted => ((noted.get operationId).map fun op => (op, .intermediate), noted)
        | .ok result =>
          let status := if result.httpStatus ≠ 200 then none else result.rawStatus
          commit s (s.applyPollStatus operationId status (some result.httpStatus)
            (some result.bodySha256))

end WritePipeline

end Wbcz
