import Wbcz.Lib.Tx
import Wbcz.Web.Tenancy

/-!
# The job outbox of the web service

How `SqlAlchemyAgentJobStore` of `wbcz_web/repositories/agent.py` takes a job into the durable
outbox. Time is counted in seconds. The immutable audit history of the jobs, which nothing reads,
is left out, and so are the trace columns; a write to it that fails ends the request as a whole.
-/

namespace Wbcz.Web

open Control

/-- A row of `agent_jobs`. -/
structure AgentJobRecord where
  job : AgentJob
  organisationId : Option String
  participantId : Option String
  agentBindingId : Option String
  purpose : String
  eventId : Option String
  controlRunId : Option String
  pollAttempt : ℕ
  payloadSha256 : String
  state : AgentJobState
  availableAt : ℤ
  leaseExpiresAt : Option ℤ := none
  deliveryCount : ℕ := 0
  resultSha256 : Option String := none
  resultJson : Option Json := none

/-- The primary key of a row. -/
abbrev AgentJobRecord.key (row : AgentJobRecord) : String := row.job.jobId

/-- A row of `control_checks` with its run. -/
structure ControlCheck extends CheckRecord where
  runId : String
  source : String
  deriving DecidableEq, Repr

/-- A row of `report_jobs`. -/
structure ReportJobRecord where
  id : String
  organisationId : Option String
  participantId : Option String
  participantInn : String
  origin : String
  state : String
  errorCode : Option String
  errorMessageRedacted : Option String
  remoteTaskId : Option String
  rawRemoteStatus : Option String
  remoteCreateAmbiguous : Bool
  remoteMetadata : Json
  /-- `filters_sanitized_json.get("product_group_code")` -/
  productGroupCode : Json

/-- The primary key of a row. -/
abbrev ReportJobRecord.key (row : ReportJobRecord) : String := row.id

/-- A row of `report_job_events`. -/
structure ReportJobEvent where
  reportJobId : String
  eventType : String
  fromState : Option String
  toState : Option String
  remoteTaskId : Option String
  details : List (String × Json)

/-- A row of `report_artifact_uploads`. -/
structure ReportArtifactUpload where
  artifactUploadId : String
  reportJobId : String
  remoteResultId : String
  remoteResultPartId : Option String
  productGroupCode : Option String
  expectedArchiveSize : Option ℤ
  deriving DecidableEq, Repr

/-- The tables that the delivery of a result writes. -/
structure WebTables where
  write : SqlAlchemyWriteOperationStore
  jobs : Table AgentJobRecord.key
  checks : List ControlCheck
  reports : Table ReportJobRecord.key
  reportEvents : List ReportJobEvent
  uploads : List ReportArtifactUpload

/-- `binding_supports_job`. -/
def AgentBindingRecord.supportsJob (binding : AgentBindingRecord) (jobType : AgentJobType) : Bool :=
  binding.compatible &&
    (binding.supportedJobTypes.isEmpty || binding.supportedJobTypes.contains jobType.value)

/-- The active primary binding of a tenant. -/
def Directory.primary (dir : Directory) (scope : TenantContext) : Option AgentBindingRecord :=
  dir.bindings.find? fun binding =>
    binding.organisationId = scope.organisationId &&
      binding.participantId = scope.participantId && binding.state = .active && binding.isPrimary

/-- The binding that a new job is bound to. -/
def Directory.jobBinding (dir : Directory) (scope : Option TenantContext)
    (jobType : AgentJobType) : Except PyError (Option String) :=
  match scope with
  | none =>
    if dir.bootstrapped then
      .error ⟨.permissionError, "post-bootstrap agent jobs require tenant scope"⟩
    else .ok none
  | some tenant =>
    match dir.primary tenant with
    | some binding =>
      if binding.supportsJob jobType then .ok (some binding.id)
      else .error ⟨.permissionError, "primary agent does not support this typed job"⟩
    | none =>
      if dir.bindings.any fun binding =>
          (binding.organisationId = tenant.organisationId &&
            binding.participantId = tenant.participantId) || binding.state = .active then
        .error ⟨.permissionError,
          "participant has no active primary agent binding after M14 cutover"⟩
      else .ok none

/-- How a job is to be enqueued. -/
structure EnqueueOptions where
  purpose : String
  eventId : Option String := none
  controlRunId : Option String := none
  pollAttempt : ℕ := 0
  availableAt : ℤ

/-- The digest under which a job is recorded. -/
def jobDigest (sha256 : List UInt8 → String) (job : AgentJob) : String :=
  sha256 (Text.utf8 (Json.canonical job.toJson))

namespace WebTables

variable (sha256 : List UInt8 → String) (contracts : PayloadContracts) (dir : Directory)
  (s : WebTables)

/-- The job types of the documents of write operations. -/
def p0WriteTypes : List AgentJobType := [.lkReceipt, .lpReturn]

/-- The row that `enqueue` inserts. -/
def enqueuedRow (scope : Option TenantContext) (bindingId : Option String) (job : AgentJob)
    (options : EnqueueOptions) : AgentJobRecord where
  job := job
  organisationId := scope.map TenantContext.organisationId
  participantId := scope.map TenantContext.participantId
  agentBindingId := bindingId
  purpose := options.purpose
  eventId := options.eventId
  controlRunId := options.controlRunId
  pollAttempt := options.pollAttempt
  payloadSha256 := jobDigest sha256 job
  state := .pending
  availableAt := options.availableAt

/-- A repeated `enqueue` must bring the same job for the same purpose. -/
def sameJob (existing : AgentJobRecord) (job : AgentJob) (options : EnqueueOptions) :
    Except PyError Unit :=
  if existing.payloadSha256 ≠ jobDigest sha256 job then
    .error ⟨.agentReplayConflict, "same job_id has different payload"⟩
  else if existing.purpose ≠ options.purpose ∨ existing.eventId ≠ options.eventId ∨
      existing.controlRunId ≠ options.controlRunId ∨
      existing.pollAttempt ≠ options.pollAttempt then
    .error ⟨.agentReplayConflict, "same job_id has incompatible orchestration metadata"⟩
  else .ok ()

/-- The document of a write operation is enqueued once, whatever the id of its job. -/
def priorWrite (job : AgentJob) : Option AgentJobRecord :=
  if job.jobType ∈ p0WriteTypes then
    s.jobs.rows.find? fun row =>
      row.job.operationId = job.operationId && p0WriteTypes.contains row.job.jobType
  else none

/-- The stored row of the id of a job, if the scope sees it. -/
def storedJob (scope : Option TenantContext) (jobId : String) : Option AgentJobRecord :=
  (s.jobs.find? jobId).filter fun row =>
    Directory.sees scope row.organisationId row.participantId

def enqueue (scope : Option TenantContext) (job : AgentJob) (options : EnqueueOptions) :
    Except PyError (AgentJob × WebTables) :=
  match job.validate sha256 contracts with
  | .error e => .error e
  | .ok () =>
  match dir.jobBinding scope job.jobType with
  | .error e => .error e
  | .ok bindingId =>
    match s.storedJob scope job.jobId with
    | some existing => (sameJob sha256 existing job options).map fun _ => (existing.job, s)
    | none =>
      match s.priorWrite job with
      | some prior =>
        if prior.payloadSha256 ≠ jobDigest sha256 job then
          .error ⟨.agentReplayConflict, "same write operation has different payload"⟩
        else .ok (prior.job, s)
      | none =>
        match s.jobs.insert (enqueuedRow sha256 scope bindingId job options) with
        | none => .error ⟨.integrityError, ""⟩
        | some jobs => .ok (job, { s with jobs := jobs })

end WebTables

end Wbcz.Web
