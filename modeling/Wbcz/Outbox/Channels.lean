import Mathlib.Logic.Function.Basic
import Wbcz.Audit.Service
import Wbcz.Outbox.Rows

/-!
# The two channels of the outbox

What `SqlAlchemyAgentJobStore` and the printing channel of `PrinterProfileService` do to the
table `agent_jobs` they share: jobs are enqueued and leased by the one, discovery jobs requested
and leased by the other. A lease of the first channel takes the row that is due first, whoever
put it there. An operation that raises is rolled back with its request.
-/

namespace Wbcz.Outbox

open Wbcz.Audit (ActorContext ActorKind AuditChain AuditOutcome AuditPseudonymizer AppendCall
  Digests Draws SubjectType)
open Wbcz.Web (AgentBindingRecord AgentPrincipal EnqueueOptions TenantContext)

/-- What no request changes. -/
structure Runtime where
  digests : Digests
  contracts : PayloadContracts
  /-- `agent_job_lease_seconds` -/
  jobLeaseSeconds : ℤ
  printingEnabled : Bool
  agentHealthStaleSeconds : ℤ

/-- What a printing channel knows of a binding. -/
structure PrintingBinding extends AgentBindingRecord where
  lastSeenAt : Option ℤ
  supportedCapabilities : List String

/-- What a request brings along: its tenant and trace, the key of the pseudonyms, the rows of
other tables, the rows that other transactions have locked, and what is drawn anew. -/
structure OutboxRequest where
  /-- `optional_tenant` -/
  tenant : Option TenantContext
  requestId : Option String
  correlationId : Option String
  causationId : Option String
  pseudonymizer : AuditPseudonymizer
  directory : Audit.Directory
  web : Web.Directory
  bindings : List PrintingBinding
  locked : List String
  draws : Draws
  runId : Audit.Uuid4
  now : ℤ

/-- The tables that both channels write. -/
structure OutboxState where
  jobs : Table AgentJobRow.key
  runs : Table PrinterDiscoveryRun.key
  chains : String → Option AuditChain

def OutboxState.initial : OutboxState := ⟨.empty, .empty, fun _ => none⟩

/-! ## The trail of a job -/

/-- The append for a row that was enqueued. -/
def createdCall (scope : Option TenantContext) (row : AgentJobRow) (organisationId
    participantId : String) : AppendCall where
  eventType := "AGENT_JOB_CREATED"
  actor :=
    match scope.bind TenantContext.userId with
    | some userId => { kind := .user, userId := some userId }
    | none => { kind := .system }
  tenant := ⟨some organisationId, some participantId⟩
  subject := ⟨.agentJob, row.jobId, false⟩
  outcome := .pending
  authorizationDecision :=
    if (scope.bind TenantContext.userId).isSome then .allow else .notApplicable
  trace := {
    correlationId := row.correlationId
    causationId := row.causationId
    operationId := some row.operationId
    agentJobId := some row.jobId
    eventKey := some ("agent:" ++ row.jobId ++ ":created") }
  metadata := [("job_type", .str row.jobType), ("purpose", .str row.purpose),
    ("delivery_count", .int row.deliveryCount), ("payload_sha256", .str row.payloadSha256)]

/-- `_machine_principal`. -/
def machinePrincipal (principal : AgentPrincipal) : String :=
  match principal.bindingId with
  | some bindingId => "agent-binding:" ++ bindingId
  | none => "legacy-windows-agent"

/-- The append for a row that was leased. -/
def claimedCall (principal : AgentPrincipal) (row : AgentJobRow) (organisationId
    participantId : String) : AppendCall where
  eventType := "AGENT_JOB_CLAIMED"
  actor := { kind := .windowsAgent, machinePrincipal := some (machinePrincipal principal) }
  tenant := ⟨some organisationId, some participantId⟩
  subject := ⟨.agentJob, row.jobId, false⟩
  outcome := .pending
  trace := {
    correlationId := row.correlationId
    causationId := row.causationId
    operationId := some row.operationId
    agentJobId := some row.jobId
    eventKey := some ("agent:" ++ row.jobId ++ ":claimed:" ++
      String.ofList (Nat.toDigits 10 row.deliveryCount)) }
  metadata := [("job_type", .str row.jobType), ("purpose", .str row.purpose),
    ("delivery_count", .int row.deliveryCount), ("payload_sha256", .str row.payloadSha256)]

/-- The append for a discovery that was requested. -/
def discoveryRequestedCall (request : OutboxRequest) (userId : ℤ) (run : PrinterDiscoveryRun) :
    AppendCall where
  eventType := "PRINTER_DISCOVERY_REQUESTED"
  actor := { kind := .user, userId := some userId }
  tenant := ⟨some run.organisationId, some run.participantId⟩
  subject := ⟨.integrationConnection, run.agentBindingId, false⟩
  outcome := .success
  authorizationDecision := .allow
  trace := {
    requestId := request.requestId
    correlationId := request.correlationId
    causationId := request.causationId
    eventKey := some (Text.take 256 ("printer-discovery:" ++ run.id ++ ":requested")) }
  metadata := [("binding_id", .str run.agentBindingId), ("state", .str run.state.value),
    ("discovery_request_id", .str run.id)]

namespace OutboxState

variable (runtime : Runtime) (request : OutboxRequest) (s : OutboxState)

/-- An append to the chain of an organisation. -/
def append (organisationId : String) (call : AppendCall) : Except PyError OutboxState := do
  let appended ← Audit.append runtime.digests request.pseudonymizer request.directory
    request.draws call (s.chains organisationId)
  .ok { s with chains := Function.update s.chains organisationId (some appended.2) }

/-- The trail of a row that belongs to a tenant. -/
def trail (row : AgentJobRow) (call : String → String → AppendCall) :
    Except PyError OutboxState :=
  if row.organisationId.isNone ∧ row.participantId.isNone then .ok s
  else if ¬ truthyText row.organisationId ∨ ¬ truthyText row.participantId then
    .error ⟨.permissionError, "tenant-owned agent job has incomplete tenant scope"⟩
  else
    s.append runtime request (row.organisationId.getD "")
      (call (row.organisationId.getD "") (row.participantId.getD ""))

/-- A table takes a new row whose values fit. -/
def insertJob (row : AgentJobRow) : Except PyError OutboxState :=
  if ¬ row.fits then .error ⟨.dataError, ""⟩
  else
    match s.jobs.insert row with
    | none => .error ⟨.integrityError, ""⟩
    | some jobs => .ok { s with jobs := jobs }

/-! ### Typed jobs -/

/-- The row of a typed job. -/
def enqueuedRow (bindingId : Option String) (job : AgentJob) (options : EnqueueOptions) :
    AgentJobRow where
  jobId := job.jobId
  organisationId := request.tenant.map TenantContext.organisationId
  participantId := request.tenant.map TenantContext.participantId
  correlationId := request.correlationId
  causationId := request.requestId
  agentBindingId := bindingId
  jobType := job.jobType.value
  operationId := job.operationId
  purpose := options.purpose
  eventId := options.eventId
  controlRunId := options.controlRunId
  pollAttempt := options.pollAttempt
  payloadSha256 := Web.jobDigest runtime.digests.sha256 job
  payloadJson := job.toJson
  availableAt := options.availableAt
  createdAt := request.now

/-- The row of the id of a job, if the tenant sees it. -/
def storedJob (jobId : String) : Option AgentJobRow :=
  (s.jobs.find? jobId).filter fun row =>
    Web.Directory.sees request.tenant row.organisationId row.participantId

/-- The row of the document of a write operation, whatever the id of its job. -/
def priorWrite (job : AgentJob) : Option AgentJobRow :=
  if job.jobType ∈ Web.WebTables.p0WriteTypes then
    s.jobs.rows.find? fun row =>
      row.operationId = job.operationId &&
        (Web.WebTables.p0WriteTypes.map AgentJobType.value).contains row.jobType
  else none

/-- A repeated `enqueue` must bring the same job for the same purpose. -/
def sameJob (existing : AgentJobRow) (job : AgentJob) (options : EnqueueOptions) :
    Except PyError Unit :=
  if existing.payloadSha256 ≠ Web.jobDigest runtime.digests.sha256 job then
    .error ⟨.agentReplayConflict, "same job_id has different payload"⟩
  else if existing.purpose ≠ options.purpose ∨ existing.eventId ≠ options.eventId ∨
      existing.controlRunId ≠ options.controlRunId ∨
      existing.pollAttempt ≠ options.pollAttempt then
    .error ⟨.agentReplayConflict, "same job_id has incompatible orchestration metadata"⟩
  else .ok ()

/-- `enqueue` of a job that has no row yet. -/
def enqueueNew (bindingId : Option String) (job : AgentJob) (options : EnqueueOptions) :
    Except PyError (AgentJob × OutboxState) := do
  let row := enqueuedRow runtime request bindingId job options
  let inserted ← s.insertJob row
  let recorded ← inserted.trail runtime request row (createdCall request.tenant row)
  .ok (job, recorded)

/-- `enqueue`. -/
def enqueue (job : AgentJob) (options : EnqueueOptions) :
    Except PyError (AgentJob × OutboxState) := do
  job.validate runtime.digests.sha256 runtime.contracts
  let bindingId ← request.web.jobBinding request.tenant job.jobType
  match s.storedJob request job.jobId with
  | some existing => do
    sameJob runtime existing job options
    let stored ← jobOfPayload existing.payloadJson
    .ok (stored, s)
  | none =>
    match s.priorWrite job with
    | some prior =>
      if prior.payloadSha256 ≠ Web.jobDigest runtime.digests.sha256 job then
        .error ⟨.agentReplayConflict, "same write operation has different payload"⟩
      else do
        let stored ← jobOfPayload prior.payloadJson
        .ok (stored, s)
    | none => s.enqueueNew runtime request bindingId job options

/-- `_lease_scope`: a bound agent has the rows of its binding, a legacy agent those of none. -/
def leases (principal : AgentPrincipal) (row : AgentJobRow) : Bool :=
  match principal.bindingId with
  | some bindingId =>
    row.agentBindingId = some bindingId && row.organisationId = principal.organisationId &&
      row.participantId = principal.participantId
  | none => row.agentBindingId.isNone

/-- A row may be leased: it waits for an agent, or its lease has run out. -/
def due (now : ℤ) (row : AgentJobRow) : Bool :=
  row.availableAt ≤ now &&
    (row.state = .pending ||
      (row.state = .leased && row.leaseExpiresAt.any fun expires => expires ≤ now))

/-- The order in which rows are leased. -/
def leaseOrder (row : AgentJobRow) : SortKey :=
  toLex (row.availableAt, toLex (row.createdAt, row.jobId))

/-- The row that `fetch_one` selects: the first one that is due and not locked. -/
def head (principal : AgentPrincipal) : Option AgentJobRow :=
  (s.jobs.rows.filter fun row =>
    leases principal row && due request.now row && !request.locked.contains row.jobId).argmin
      leaseOrder

/-- A leased row. -/
def leasedRow (expires : ℤ) (row : AgentJobRow) : AgentJobRow :=
  { row with
    state := .leased
    leaseExpiresAt := some expires
    deliveryCount := row.deliveryCount + 1 }

theorem key_leasedRow (expires : ℤ) (row : AgentJobRow) :
    (leasedRow expires row).key = row.key := rfl

/-- A row is leased for the time of a lease. -/
def lease (row : AgentJobRow) : OutboxState :=
  { s with
    jobs := s.jobs.modify row.jobId (leasedRow (request.now + runtime.jobLeaseSeconds))
      (key_leasedRow _) }

/-- The state after the lease of a row and the event of it. -/
def claim (principal : AgentPrincipal) (row : AgentJobRow) : Except PyError OutboxState :=
  let leased := leasedRow (request.now + runtime.jobLeaseSeconds) row
  (s.lease runtime request row).trail runtime request leased (claimedCall principal leased)

/-- `fetch_one`. -/
def fetchOne (principal : AgentPrincipal) : Except PyError (Option AgentJob × OutboxState) :=
  match s.head request principal with
  | none => .ok (none, s)
  | some row => do
    let claimed ← s.claim runtime request principal row
    let job ← jobOfPayload row.payloadJson
    .ok (some job, claimed)

/-- A row with the result of its job. -/
def completedRow (result : AgentResult) (row : AgentJobRow) : AgentJobRow :=
  { row with
    state := .completed
    resultSha256 := some (result.digest runtime.digests.sha256)
    resultJson := some result.safeDict
    leaseExpiresAt := none }

theorem key_completedRow (result : AgentResult) (row : AgentJobRow) :
    (completedRow runtime result row).key = row.key := rfl

/-- `complete`, but for the event it records. -/
def complete (principal : AgentPrincipal) (result : AgentResult) : Except PyError OutboxState :=
  match (s.jobs.find? result.jobId).filter (leases principal) with
  | none => .error ⟨.keyError, "unknown agent job"⟩
  | some row =>
    if row.operationId ≠ result.operationId then
      .error ⟨.agentReplayConflict, "result operation_id mismatch"⟩
    else if row.state = .completed then
      if row.resultSha256 ≠ some (result.digest runtime.digests.sha256) then
        .error ⟨.agentReplayConflict, "incompatible duplicate agent result"⟩
      else .ok s
    else
      .ok { s with
        jobs := s.jobs.modify result.jobId (completedRow runtime result)
          (key_completedRow runtime result) }

/-! ### Discovery jobs -/

/-- A character of a JSON text with `ensure_ascii`. -/
def asciiChar (c : Char) : List Char :=
  if 126 < c.toNat then
    (Jcs.utf16Units c).flatMap fun unit =>
      '\\' :: 'u' :: (List.range 4).map fun i => Nat.digitChar (unit >>> (4 * (3 - i)) % 16)
  else [c]

/-- `_json_sha`. -/
def jsonSha (value : Json) : String :=
  runtime.digests.sha256
    (Text.utf8 (String.ofList ((Json.canonical value).toList.flatMap asciiChar)))

/-- `PrinterProfileRejected`. -/
def rejected (code : String) : PyError := ⟨.other "PrinterProfileRejected", code⟩

/-- `DISCOVERY_CAPABILITY`. -/
def discoveryCapability : String := "PRINT_DISCOVER_PRINTERS"

/-- `_binding`. -/
def printingBinding (scope : TenantContext) (bindingId : String) :
    Except PyError PrintingBinding :=
  match request.bindings.find? fun binding =>
      binding.id = bindingId && binding.organisationId = scope.organisationId &&
        binding.participantId = scope.participantId with
  | none => .error (rejected "AGENT_BINDING_NOT_FOUND")
  | some binding => .ok binding

/-- The agent of a binding was seen lately. -/
def isFresh (binding : PrintingBinding) : Bool :=
  binding.lastSeenAt.any fun seen => request.now - seen ≤ runtime.agentHealthStaleSeconds

/-- `_validate_discovery_binding`. -/
def validateDiscoveryBinding (binding : PrintingBinding) : Except PyError Unit :=
  if binding.state ≠ .active ∨ ¬ binding.compatible then
    .error (rejected "AGENT_BINDING_NOT_ACTIVE")
  else if ¬ isFresh runtime request binding then .error (rejected "AGENT_BINDING_NOT_FRESH")
  else if ¬ binding.supportedCapabilities.contains discoveryCapability then
    .error (rejected "PRINT_DISCOVER_PRINTERS_CAPABILITY_REQUIRED")
  else .ok ()

/-- The tenant of a request of the printing channel, and the binding it names. -/
def tenantBinding (bindingId : String) : Except PyError (TenantContext × PrintingBinding) :=
  match request.tenant with
  | none => .error ⟨.permissionError, "active tenant scope required"⟩
  | some scope =>
    if ¬ runtime.printingEnabled then .error (rejected "PRINTING_DISABLED")
    else do
      let binding ← printingBinding request scope bindingId
      .ok (scope, binding)

/-- A binding that can discover printers. -/
def discoveryBinding (bindingId : String) : Except PyError (TenantContext × PrintingBinding) := do
  let found ← tenantBinding runtime request bindingId
  validateDiscoveryBinding runtime request found.2
  .ok found

/-- The run of a binding that has not ended. -/
def openRun (scope : TenantContext) (bindingId : String) : Option PrinterDiscoveryRun :=
  s.runs.rows.find? fun run =>
    run.organisationId = scope.organisationId && run.participantId = scope.participantId &&
      run.agentBindingId = bindingId && (run.state = .pending || run.state = .running)

/-- A new run. -/
def newRun (scope : TenantContext) (bindingId : String) : PrinterDiscoveryRun where
  id := request.runId.text
  organisationId := scope.organisationId
  participantId := scope.participantId
  agentBindingId := bindingId
  correlationId := request.correlationId

/-- The row of a discovery job. -/
def discoveryRow (run : PrinterDiscoveryRun) : AgentJobRow where
  jobId := "printer-discovery-" ++ run.id
  organisationId := some run.organisationId
  participantId := some run.participantId
  correlationId := run.correlationId
  agentBindingId := some run.agentBindingId
  jobType := "PRINTER_DISCOVERY"
  operationId := run.id
  purpose := "PRINTER_DISCOVERY"
  payloadSha256 := jsonSha runtime (discoveryPayload run.id)
  payloadJson := discoveryPayload run.id
  availableAt := request.now
  priority := 50
  createdAt := request.now

/-- `request_discovery` where no run is open. -/
def createDiscovery (run : PrinterDiscoveryRun) (userId : ℤ) :
    Except PyError (PrinterDiscoveryRun × OutboxState) :=
  match s.runs.insert run with
  | none => .error ⟨.integrityError, ""⟩
  | some runs => do
    let inserted ← insertJob { s with runs := runs } (discoveryRow runtime request run)
    let recorded ← inserted.append runtime request run.organisationId
      (discoveryRequestedCall request userId run)
    .ok (run, recorded)

/-- `request_discovery`. -/
def requestDiscovery (bindingId : String) (userId : ℤ) :
    Except PyError (PrinterDiscoveryRun × OutboxState) := do
  let found ← discoveryBinding runtime request bindingId
  match s.openRun found.1 found.2.id with
  | some existing => .ok (existing, s)
  | none => s.createDiscovery runtime request (newRun request found.1 found.2.id) userId

/-- A row of the printing channel. -/
def isDiscovery (scope : TenantContext) (bindingId : String) (row : AgentJobRow) : Bool :=
  row.organisationId = some scope.organisationId &&
    row.participantId = some scope.participantId && row.agentBindingId = some bindingId &&
    row.jobType = "PRINTER_DISCOVERY"

/-- The order in which the printing channel leases. -/
def discoveryOrder (row : AgentJobRow) : SortKey :=
  toLex (Int.ofNat row.priority, toLex (row.createdAt, row.jobId))

/-- A run in another state. -/
def withState (state : DiscoveryState) (run : PrinterDiscoveryRun) : PrinterDiscoveryRun :=
  { run with state := state }

theorem key_withState (state : DiscoveryState) (run : PrinterDiscoveryRun) :
    (withState state run).key = run.key := rfl

/-- `_run`. -/
def discoveryRun (scope : TenantContext) (runId : String) : Except PyError PrinterDiscoveryRun :=
  match (s.runs.find? runId).filter fun run =>
      run.organisationId = scope.organisationId && run.participantId = scope.participantId with
  | none => .error ⟨.keyError, runId⟩
  | some run => .ok run

/-- `fetch_agent_job`: the row that was leased. -/
def fetchDiscovery (bindingId : String) : Except PyError (Option AgentJobRow × OutboxState) := do
  let found ← discoveryBinding runtime request bindingId
  match (s.jobs.rows.filter fun row =>
      isDiscovery found.1 found.2.id row && due request.now row &&
        !request.locked.contains row.jobId).argmin discoveryOrder with
  | none => .ok (none, s)
  | some row => do
    let run ← s.discoveryRun found.1 row.operationId
    if run.agentBindingId ≠ found.2.id then
      .error (rejected "PRINTER_DISCOVERY_JOB_BINDING_MISMATCH")
    else
      .ok (some row, { s.lease runtime request row with
        runs := s.runs.modify run.id (withState .running) (key_withState .running) })

/-- A discovery job whose run has ended. -/
def finishedRow (resultSha256 : String) (resultJson : Json) (errorCode : Option String)
    (row : AgentJobRow) : AgentJobRow :=
  { row with
    state := .completed
    lastErrorCode := errorCode.or row.lastErrorCode
    resultSha256 := some resultSha256
    resultJson := some resultJson
    leaseExpiresAt := none }

theorem key_finishedRow (resultSha256 : String) (resultJson : Json) (errorCode : Option String)
    (row : AgentJobRow) :
    (finishedRow resultSha256 resultJson errorCode row).key = row.key := rfl

/-- The row of a discovery job of a binding. -/
def discoveryJob (scope : TenantContext) (bindingId jobId : String) :
    Except PyError AgentJobRow :=
  match (s.jobs.find? jobId).filter (isDiscovery scope bindingId) with
  | none => .error (rejected "PRINTER_DISCOVERY_JOB_NOT_FOUND")
  | some row => .ok row

/-- The lease of a row has not run out. -/
def isLeased (row : AgentJobRow) : Bool :=
  row.state = .leased && row.leaseExpiresAt.any fun expires => request.now < expires

/-- A run and its job end. -/
def finish (row : AgentJobRow) (run : PrinterDiscoveryRun) (state : DiscoveryState)
    (resultSha256 : String) (resultJson : Json) (errorCode : Option String) : OutboxState :=
  { s with
    jobs := s.jobs.modify row.jobId (finishedRow resultSha256 resultJson errorCode)
      (key_finishedRow resultSha256 resultJson errorCode)
    runs := s.runs.modify run.id (withState state) (key_withState state) }

/-- `complete_agent_job`, but for the observations, the profiles and the events of both. -/
def completeDiscovery (bindingId jobId resultSha256 : String) (printerCount : ℕ) :
    Except PyError OutboxState := do
  let found ← discoveryBinding runtime request bindingId
  let row ← s.discoveryJob found.1 found.2.id jobId
  if row.state = .completed then
    if row.resultSha256 = some resultSha256 then .ok s
    else .error (rejected "PRINTER_DISCOVERY_RESULT_REPLAY_CONFLICT")
  else if ¬ isLeased request row then .error (rejected "PRINTER_DISCOVERY_JOB_NOT_LEASED")
  else do
    let run ← s.discoveryRun found.1 row.operationId
    if run.agentBindingId ≠ found.2.id then
      .error (rejected "PRINTER_DISCOVERY_JOB_BINDING_MISMATCH")
    else
      .ok (s.finish row run .completed resultSha256
        (.obj [("printer_count", .int printerCount), ("discovery_request_id", .str run.id)]) none)

/-- What a failed discovery leaves as its result. -/
def failureResult (code : String) : Json :=
  .obj [("status", .str "FAILED"), ("safe_error_code", .str code)]

/-- `fail_agent_job`, but for the event of it. -/
def failDiscovery (bindingId jobId safeErrorCode : String) : Except PyError OutboxState := do
  let found ← tenantBinding runtime request bindingId
  let row ← s.discoveryJob found.1 found.2.id jobId
  if ¬ isLeased request row then .error (rejected "PRINTER_DISCOVERY_JOB_NOT_LEASED")
  else do
    let run ← s.discoveryRun found.1 row.operationId
    let code := Text.take 80
      (if safeErrorCode = "" then "PRINTER_DISCOVERY_FAILED" else safeErrorCode)
    .ok (s.finish row run .failed (jsonSha runtime (failureResult code)) (failureResult code)
      (some code))

end OutboxState

end Wbcz.Outbox
