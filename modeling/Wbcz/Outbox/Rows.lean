import Mathlib.Data.List.MinMax
import Mathlib.Data.Prod.Lex
import Mathlib.Data.String.Basic
import Wbcz.Lib.Fallible
import Wbcz.Web.JobStore

/-!
# The rows of the outbox

The table `agent_jobs` as it is stored. Its payload is a JSON object: the fields of a typed job
where the row came in through `SqlAlchemyAgentJobStore.enqueue`, and what the printing agent
expects where it came in through `PrinterProfileService.request_discovery`.
-/

namespace Wbcz.Outbox

open Wbcz.Web (fitsString)

/-- A row of `agent_jobs`. -/
structure AgentJobRow where
  jobId : String
  organisationId : Option String
  participantId : Option String
  correlationId : Option String
  causationId : Option String := none
  agentBindingId : Option String
  jobType : String
  operationId : String
  purpose : String
  eventId : Option String := none
  controlRunId : Option String := none
  pollAttempt : ℕ := 0
  payloadSha256 : String
  payloadJson : Json
  state : AgentJobState := .pending
  availableAt : ℤ
  leaseExpiresAt : Option ℤ := none
  deliveryCount : ℕ := 0
  lastErrorCode : Option String := none
  priority : ℕ := 100
  resultSha256 : Option String := none
  resultJson : Option Json := none
  createdAt : ℤ

/-- What rows are sorted by: two numbers, then a text. -/
def SortKey : Type := ℤ ×ₗ ℤ ×ₗ String

instance : LinearOrder SortKey := inferInstanceAs (LinearOrder (ℤ ×ₗ ℤ ×ₗ String))

/-- The primary key of a row. -/
abbrev AgentJobRow.key (row : AgentJobRow) : String := row.jobId

/-- The values of a row are values of its columns. -/
def AgentJobRow.fits (row : AgentJobRow) : Bool :=
  fitsString 128 row.jobId && row.correlationId.all (fitsString 128) &&
    row.causationId.all (fitsString 128) && fitsString 32 row.jobType &&
    fitsString 128 row.operationId && fitsString 48 row.purpose &&
    row.eventId.all (fitsString 64) && row.controlRunId.all (fitsString 36) &&
    fitsString 64 row.payloadSha256

/-- The states of a discovery run. -/
inductive DiscoveryState where
  | pending
  | running
  | completed
  | failed
  deriving DecidableEq, Repr

/-- The text of the column. -/
def DiscoveryState.value : DiscoveryState → String
  | pending => "PENDING"
  | running => "RUNNING"
  | completed => "COMPLETED"
  | failed => "FAILED"

/-- A row of `printer_discovery_runs`. -/
structure PrinterDiscoveryRun where
  id : String
  organisationId : String
  participantId : String
  agentBindingId : String
  state : DiscoveryState := .pending
  correlationId : Option String

/-- The primary key of a row. -/
abbrev PrinterDiscoveryRun.key (run : PrinterDiscoveryRun) : String := run.id

/-! ## Payloads -/

/-- The fields of `AgentJob`. -/
def jobFields : List String :=
  ["job_id", "job_type", "operation_id", "pg", "expected_inn", "document_type", "document_sha256",
    "product_document_base64", "cises", "document_id", "read_payload"]

/-- A keyword argument that a typed job has to be given. -/
def requiredText (payload : Json) (field : String) : Except PyError String :=
  match payload.get? field with
  | some (.str text) => .ok text
  | _ => .error ⟨.typeError, ""⟩

/-- A keyword argument that may be `None` or missing. -/
def optionalText (payload : Json) (field : String) : Except PyError (Option String) :=
  match payload.get field with
  | .null => .ok none
  | .str text => .ok (some text)
  | _ => .error ⟨.typeError, ""⟩

/-- `tuple(data.get("cises") or ())`. -/
def cisesOf (payload : Json) : Except PyError (List String) :=
  match payload.get "cises" with
  | .arr items =>
    match items.mapM Json.str? with
    | some cises => .ok cises
    | none => .error ⟨.typeError, ""⟩
  | value => if value.truthy then .error ⟨.typeError, ""⟩ else .ok []

/-- `None` and a missing payload are one. -/
def payloadOf : Json → Option Json
  | .null => none
  | value => some value

/-- `AgentJobType(data["job_type"])`. -/
def jobTypeOf (payload : Json) : Except PyError AgentJobType :=
  match payload.get? "job_type" with
  | none => .error ⟨.keyError, "job_type"⟩
  | some value =>
    match value.str?.bind AgentJobType.ofValue? with
    | none => .error ⟨.valueError, ""⟩
    | some jobType => .ok jobType

/-- `AgentJob(**data)` does not know a keyword. -/
def hasUnknownField : Json → Bool
  | .obj fields => fields.any fun field => !jobFields.contains field.1
  | _ => false

/-- `_job`, on the payload of a row. Values of other types than the fields have are left out:
no row holds one. -/
def jobOfPayload (payload : Json) : Except PyError AgentJob :=
  if ¬ payload.isObj then .error ⟨.typeError, ""⟩
  else do
    let jobType ← jobTypeOf payload
    let cises ← cisesOf payload
    if hasUnknownField payload then .error ⟨.typeError, ""⟩
    else do
      let jobId ← requiredText payload "job_id"
      let operationId ← requiredText payload "operation_id"
      let pg ← requiredText payload "pg"
      let expectedInn ← requiredText payload "expected_inn"
      let documentType ← optionalText payload "document_type"
      let documentSha256 ← optionalText payload "document_sha256"
      let productDocumentBase64 ← optionalText payload "product_document_base64"
      let documentId ← optionalText payload "document_id"
      .ok {
        jobId := jobId
        jobType := jobType
        operationId := operationId
        pg := pg
        expectedInn := expectedInn
        documentType := documentType
        documentSha256 := documentSha256
        productDocumentBase64 := productDocumentBase64
        cises := cises
        documentId := documentId
        readPayload := payloadOf (payload.get "read_payload") }

/-- `PRINT_PROTOCOL_VERSION`. -/
def printProtocolVersion : String := "printing-agent-v2"

/-- The payload of a discovery job. -/
def discoveryPayload (runId : String) : Json :=
  .obj [("contract_version", .str printProtocolVersion), ("operation", .str "LIST"),
    ("discovery_request_id", .str runId), ("agent_printer_id", .null)]

theorem optionalText_ofText? {payload : Json} {field : String} {value : Option String}
    (h : payload.get field = .ofText? value) : optionalText payload field = .ok value := by
  rw [optionalText, h]
  cases value with
  | none => rfl
  | some text => rfl

theorem mapM_str? (cises : List String) : (cises.map Json.str).mapM Json.str? = some cises := by
  induction cises with
  | nil => rfl
  | cons cis rest ih => simp [List.mapM_cons, ih, Json.str?]

theorem payloadOf_getD {value : Option Json} (h : value ≠ some .null) :
    payloadOf (value.getD .null) = value := by
  cases value with
  | none => rfl
  | some value =>
    cases value with
    | null => exact absurd rfl h
    | _ => rfl

theorem jobTypeOf_toJson (job : AgentJob) : jobTypeOf job.toJson = .ok job.jobType := by
  have hget : job.toJson.get? "job_type" = some (.str job.jobType.value) := rfl
  have htype : (Json.str job.jobType.value).str?.bind AgentJobType.ofValue? = some job.jobType :=
    AgentJobType.ofValue?_value job.jobType
  simp only [jobTypeOf, hget, htype]

theorem cisesOf_toJson (job : AgentJob) : cisesOf job.toJson = .ok job.cises := by
  have hget : job.toJson.get "cises" = .arr (job.cises.map Json.str) := rfl
  simp only [cisesOf, hget, mapM_str?]

/-- The payload of a typed job is read back as that job: `None` is the payload that is not
there. -/
theorem jobOfPayload_toJson {job : AgentJob} (h : job.readPayload ≠ some .null) :
    jobOfPayload job.toJson = .ok job := by
  have hobj : ¬ ¬ job.toJson.isObj = true := not_not.mpr rfl
  have hunknown : ¬ hasUnknownField job.toJson = true := by
    simp [hasUnknownField, AgentJob.toJson, jobFields]
  have hid : requiredText job.toJson "job_id" = .ok job.jobId := rfl
  have hoperation : requiredText job.toJson "operation_id" = .ok job.operationId := rfl
  have hpg : requiredText job.toJson "pg" = .ok job.pg := rfl
  have hinn : requiredText job.toJson "expected_inn" = .ok job.expectedInn := rfl
  have htype : optionalText job.toJson "document_type" = .ok job.documentType :=
    optionalText_ofText? rfl
  have hsha : optionalText job.toJson "document_sha256" = .ok job.documentSha256 :=
    optionalText_ofText? rfl
  have hdocument : optionalText job.toJson "product_document_base64" =
      .ok job.productDocumentBase64 := optionalText_ofText? rfl
  have hdocumentId : optionalText job.toJson "document_id" = .ok job.documentId :=
    optionalText_ofText? rfl
  have hpayload : payloadOf (job.toJson.get "read_payload") = job.readPayload :=
    payloadOf_getD h
  rw [jobOfPayload, if_neg hobj, jobTypeOf_toJson, cisesOf_toJson]
  simp only [bind, Except.bind, if_neg hunknown, hid, hoperation, hpg, hinn, htype, hsha,
    hdocument, hdocumentId, hpayload]

/-- A discovery job is no typed job. -/
theorem jobOfPayload_discoveryPayload (runId : String) :
    jobOfPayload (discoveryPayload runId) = .error ⟨.keyError, "job_type"⟩ := rfl

end Wbcz.Outbox
