import Wbcz.Lib.Json
import Wbcz.Lib.KeyedLog
import Wbcz.Lib.Table
import Wbcz.PrinterProfiles.Observation

/-!
# Discovery, approval and reconciliation of printers

`PrinterProfileService` for the rows of one tenant. A discovery run is requested for a binding of
an agent; the agent leases its job and reports the printers it sees. Completing the job stores the
observations and reconciles every profile of the binding with them. An administrator approves an
observation, which makes a profile or adopts the new evidence, and disables a profile.

Every call is one transaction that holds the lock of the rows it changes; one that raises changes
nothing. The immutable audit takes an event again under its key only when it is the same event,
the identifiers of the request included.
-/

namespace Wbcz.PrinterProfiles

open Fallible (ensure found)

def printerProfileRejected (code : String) : PyError := ⟨.other "PrinterProfileRejected", code⟩

/-! ## Rows -/

/-- A binding of an agent, as far as the service reads it. -/
structure AgentBindingRecord where
  id : String
  state : String
  protocolCompatibilityState : String
  lastSeenAt : Option ℤ
  supportedCapabilities : List String
  deriving DecidableEq, Repr

inductive RunState where
  | pending
  | running
  | completed
  | failed
  deriving DecidableEq, Repr

def RunState.value : RunState → String
  | pending => "PENDING"
  | running => "RUNNING"
  | completed => "COMPLETED"
  | failed => "FAILED"

structure PrinterDiscoveryRunRecord where
  id : String
  agentBindingId : String
  state : RunState
  requestedByUserId : Option ℤ
  requestedAt : ℤ
  completedAt : Option ℤ
  printerCount : Nat
  safeErrorCode : Option String
  correlationId : Option String
  deriving DecidableEq, Repr

inductive JobState where
  | pending
  | leased
  | completed
  deriving DecidableEq, Repr

/-- A job of type `PRINTER_DISCOVERY`; its operation is the run. -/
structure AgentJobRecord where
  operationId : String
  agentBindingId : String
  correlationId : Option String
  state : JobState
  availableAt : ℤ
  leasedAt : Option ℤ
  leaseExpiresAt : Option ℤ
  deliveryCount : Nat
  resultSha256 : Option String
  lastErrorCode : Option String
  deriving DecidableEq, Repr

def AgentJobRecord.jobId (job : AgentJobRecord) : String := "printer-discovery-" ++ job.operationId

/-- A stored observation. A run has one of a printer at most. -/
structure PrinterDiscoveryObservationRecord where
  discoveryRunId : String
  agentBindingId : String
  observation : PrinterObservation
  deriving DecidableEq

def PrinterDiscoveryObservationRecord.id (row : PrinterDiscoveryObservationRecord) :
    String × String := (row.discoveryRunId, row.observation.agentPrinterId)

inductive ProfileStatus where
  | active
  | stale
  | missing
  | incompatible
  | disabled
  deriving DecidableEq, Repr

def ProfileStatus.value : ProfileStatus → String
  | active => "ACTIVE"
  | stale => "STALE"
  | missing => "MISSING"
  | incompatible => "INCOMPATIBLE"
  | disabled => "DISABLED"

structure PrinterProfileRecord where
  id : String
  agentBindingId : String
  agentPrinterId : String
  evidence : Evidence
  capabilityRevision : Nat
  state : ProfileStatus
  lastSeenAt : ℤ
  createdByUserId : Option ℤ
  deriving DecidableEq

/-! ## Audit events -/

/-- The key of an audit event. Identifiers are UUIDs and hashes have 64 digits, so that the text
of a key tells its parts. -/
inductive EventKey where
  | requested (runId : String)
  | completed (runId : String)
  | failed (runId code : String)
  | missingInRun (profileId runId : String)
  | missing (profileId capabilityHash : String)
  | stale (profileId fingerprint : String)
  | approved (profileId eventType : String) (revision : Nat)
  | disabled (profileId : String) (revision : Nat)
  deriving DecidableEq, Repr

def EventKey.text : EventKey → String
  | requested runId => s!"printer-discovery:{runId}:requested"
  | completed runId => s!"printer-discovery:{runId}:completed"
  | failed runId code => s!"printer-discovery:{runId}:failed:{code}"
  | missingInRun profileId runId => s!"printer-profile:{profileId}:missing:{runId}"
  | missing profileId capabilityHash => s!"printer-profile:{profileId}:missing:{capabilityHash}"
  | stale profileId fingerprint => s!"printer-profile:{profileId}:stale:{fingerprint}"
  | approved profileId eventType revision =>
    s!"printer-profile:{profileId}:{eventType}:{revision}"
  | disabled profileId revision => s!"printer-profile:{profileId}:disabled:{revision}"

/-- `db.info["audit_trace"]`, which every request has of its own. -/
structure Trace where
  requestId : Option String
  correlationId : Option String
  deriving DecidableEq, Repr

/-- What the audit compares of two events under one key. An event without a user is one of the
agent. -/
structure PrinterEvent where
  eventType : String
  subjectId : String
  userId : Option ℤ
  success : Bool
  trace : Trace
  key : EventKey
  metadata : List (String × String)
  deriving DecidableEq

def auditEventKeyConflict : PyError := ⟨.other "AuditEventKeyConflict", "AUDIT_EVENT_KEY_CONFLICT"⟩

/-! ## The state -/

/-- The configuration, and what is computed outside of the service. -/
structure Platform where
  printingEnabled : Bool
  agentHealthStaleSeconds : ℤ
  agentJobLeaseSeconds : ℤ
  capabilityHash : Capabilities → AvailabilityState → String
  /-- `_json_sha` of the observations of a result. -/
  resultHash : List PrinterObservation → String
  /-- `_json_sha` of a failure. -/
  failureHash : String → String
  /-- The capabilities as they are read back from their columns. -/
  readBack : Capabilities → Capabilities

structure ProfileState where
  bindings : Table AgentBindingRecord.id
  runs : Table PrinterDiscoveryRunRecord.id
  jobs : Table AgentJobRecord.jobId
  observations : Table PrinterDiscoveryObservationRecord.id
  profiles : Table PrinterProfileRecord.id
  events : Table PrinterEvent.key

namespace ProfileState

def initial : ProfileState := ⟨.empty, .empty, .empty, .empty, .empty, .empty⟩

/-- `_audit`. -/
def audit (s : ProfileState) (event : PrinterEvent) : Except PyError ProfileState := do
  let events ← s.events.record auditEventKeyConflict event
  return { s with events }

/-- `_binding`. -/
def binding (s : ProfileState) (bindingId : String) : Except PyError AgentBindingRecord :=
  found (s.bindings.find? bindingId) (printerProfileRejected "AGENT_BINDING_NOT_FOUND")

/-- `_run`. -/
def run (s : ProfileState) (runId : String) : Except PyError PrinterDiscoveryRunRecord :=
  found (s.runs.find? runId) ⟨.keyError, runId⟩

/-- The profile of a printer of a binding. -/
def profileOf (s : ProfileState) (bindingId agentPrinterId : String) :
    Option PrinterProfileRecord :=
  s.profiles.rows.find? fun profile =>
    profile.agentBindingId = bindingId ∧ profile.agentPrinterId = agentPrinterId

end ProfileState

variable (platform : Platform)

/-- `_require_printing`. -/
def requirePrinting : Except PyError Unit :=
  ensure (platform.printingEnabled = true) (printerProfileRejected "PRINTING_DISABLED")

/-- `_validate_discovery_binding`. -/
def validateDiscoveryBinding (now : ℤ) (binding : AgentBindingRecord) : Except PyError Unit := do
  ensure (binding.state = "ACTIVE" ∧ binding.protocolCompatibilityState = "COMPATIBLE")
    (printerProfileRejected "AGENT_BINDING_NOT_ACTIVE")
  ensure (∃ seen ∈ binding.lastSeenAt, now - seen ≤ platform.agentHealthStaleSeconds)
    (printerProfileRejected "AGENT_BINDING_NOT_FRESH")
  ensure ("PRINT_DISCOVER_PRINTERS" ∈ binding.supportedCapabilities)
    (printerProfileRejected "PRINT_DISCOVER_PRINTERS_CAPABILITY_REQUIRED")

/-! ## Discovery runs -/

/-- The run of a binding that has not come to its end. -/
def ProfileState.openRun (s : ProfileState) (bindingId : String) :
    Option PrinterDiscoveryRunRecord :=
  s.runs.rows.find? fun run =>
    run.agentBindingId = bindingId ∧ (run.state = .pending ∨ run.state = .running)

/-- `request_discovery`, with the identifier drawn for the run. -/
def requestDiscovery (trace : Trace) (now : ℤ) (runId agentBindingId : String) (userId : ℤ)
    (s : ProfileState) : Except PyError ProfileState := do
  requirePrinting platform
  let binding ← s.binding agentBindingId
  validateDiscoveryBinding platform now binding
  match s.openRun binding.id with
  | some _ => return s
  | none =>
    let runs ← found (s.runs.insert {
      id := runId
      agentBindingId := binding.id
      state := .pending
      requestedByUserId := some userId
      requestedAt := now
      completedAt := none
      printerCount := 0
      safeErrorCode := none
      correlationId := trace.correlationId }) ⟨.integrityError, ""⟩
    let jobs ← found (s.jobs.insert {
      operationId := runId
      agentBindingId := binding.id
      correlationId := trace.correlationId
      state := .pending
      availableAt := now
      leasedAt := none
      leaseExpiresAt := none
      deliveryCount := 0
      resultSha256 := none
      lastErrorCode := none }) ⟨.integrityError, ""⟩
    { s with runs, jobs }.audit {
      eventType := "PRINTER_DISCOVERY_REQUESTED"
      subjectId := binding.id
      userId := some userId
      success := true
      trace
      key := .requested runId
      metadata := [("binding_id", binding.id), ("state", RunState.value .pending),
        ("discovery_request_id", runId)] }

/-- The job may be leased: it is pending, or its lease has run out. -/
def AgentJobRecord.leasable (now : ℤ) (job : AgentJobRecord) : Bool :=
  decide (job.availableAt ≤ now) &&
    (job.state = .pending ||
      (job.state = .leased && decide (∃ expires ∈ job.leaseExpiresAt, expires ≤ now)))

/-- The oldest job of a binding that may be leased. -/
def ProfileState.nextJob (s : ProfileState) (bindingId : String) (now : ℤ) :
    Option AgentJobRecord :=
  s.jobs.rows.find? fun job => job.agentBindingId = bindingId ∧ job.leasable now

/-- A job that is leased once more. -/
def AgentJobRecord.lease (job : AgentJobRecord) (now expiresAt : ℤ) : AgentJobRecord :=
  { job with
    state := .leased
    leasedAt := some now
    leaseExpiresAt := some expiresAt
    deliveryCount := job.deliveryCount + 1 }

/-- `fetch_agent_job`. -/
def fetchAgentJob (now : ℤ) (machineBindingId : String) (s : ProfileState) :
    Except PyError ProfileState := do
  requirePrinting platform
  let binding ← s.binding machineBindingId
  validateDiscoveryBinding platform now binding
  match s.nextJob binding.id now with
  | none => return s
  | some job =>
    let run ← s.run job.operationId
    ensure (run.agentBindingId = binding.id)
      (printerProfileRejected "PRINTER_DISCOVERY_JOB_BINDING_MISMATCH")
    return { s with
      jobs := s.jobs.put (job.lease now (now + platform.agentJobLeaseSeconds))
      runs := s.runs.put { run with state := .running } }

/-! ## Reconciliation -/

/-- `PRINTER_PROFILE_STALE` of the agent. -/
def staleEvent (trace : Trace) (profile : PrinterProfileRecord) (key : EventKey)
    (metadata : List (String × String)) : PrinterEvent where
  eventType := "PRINTER_PROFILE_STALE"
  subjectId := profile.id
  userId := none
  success := true
  trace
  key
  metadata := [("printer_profile_id", profile.id), ("binding_id", profile.agentBindingId)] ++
    metadata

/-- The event of a printer that is observed and is not available. -/
def unavailableEvent (trace : Trace) (profile : PrinterProfileRecord) (o : PrinterObservation) :
    PrinterEvent :=
  staleEvent trace profile (.missing profile.id o.evidence.capabilityHash)
    [("state", ProfileStatus.value .missing),
      ("safe_reason_code", o.safeErrorCode.getD "PRINTER_UNAVAILABLE")]

/-- The event of a printer whose evidence has changed. -/
def changedEvent (trace : Trace) (profile : PrinterProfileRecord) (o : PrinterObservation) :
    PrinterEvent :=
  staleEvent trace profile (.stale profile.id o.evidence.localPrinterFingerprint)
    [("state", ProfileStatus.value .stale), ("capability_hash", o.evidence.capabilityHash),
      ("safe_reason_code", "PRINTER_FINGERPRINT_CHANGED")]

/-- The event of a printer that is not observed. -/
def notObservedEvent (trace : Trace) (profile : PrinterProfileRecord) (runId : String) :
    PrinterEvent :=
  staleEvent trace profile (.missingInRun profile.id runId)
    [("state", ProfileStatus.value .missing), ("safe_reason_code", "PRINTER_NOT_OBSERVED")]

/-- `current_matches`. -/
def PrinterProfileRecord.matches (profile : PrinterProfileRecord) (o : PrinterObservation) : Bool :=
  profile.evidence.localPrinterFingerprint = o.evidence.localPrinterFingerprint &&
    profile.evidence.capabilityHash = o.evidence.capabilityHash

/-- `_reconcile_profile`: what becomes of the profile of an observed printer, and what is
recorded. -/
def PrinterProfileRecord.observe (trace : Trace) (profile : PrinterProfileRecord)
    (o : PrinterObservation) : PrinterProfileRecord × Option PrinterEvent :=
  if profile.state = .disabled then (profile, none)
  else
    let seen := { profile with lastSeenAt := o.observedAt }
    if o.availabilityState ≠ .available then
      if profile.state ≠ .missing then
        ({ seen with state := .missing }, some (unavailableEvent trace profile o))
      else (seen, none)
    else if ¬ profile.matches o then
      if profile.state ≠ .stale then
        ({ seen with state := .stale }, some (changedEvent trace profile o))
      else (seen, none)
    else ({ seen with state := if o.basicCompatible then .active else .incompatible }, none)

/-- What becomes of the profile of a printer that was not observed. -/
def PrinterProfileRecord.miss (trace : Trace) (runId : String) (profile : PrinterProfileRecord) :
    PrinterProfileRecord × Option PrinterEvent :=
  if profile.state ≠ .disabled ∧ profile.state ≠ .missing then
    ({ profile with state := .missing }, some (notObservedEvent trace profile runId))
  else (profile, none)

/-- Store a profile and record its event. -/
def ProfileState.become (s : ProfileState) (change : PrinterProfileRecord × Option PrinterEvent) :
    Except PyError ProfileState :=
  let s := { s with profiles := s.profiles.put change.1 }
  match change.2 with
  | some event => s.audit event
  | none => .ok s

/-- One round of the loop over the observations. -/
def storeObservation (trace : Trace) (bindingId runId : String) (s : ProfileState)
    (o : PrinterObservation) : Except PyError ProfileState := do
  let observations ← found (s.observations.insert ⟨runId, bindingId, o⟩) ⟨.integrityError, ""⟩
  let s := { s with observations }
  match s.profileOf bindingId o.agentPrinterId with
  | some profile => s.become (profile.observe trace o)
  | none => .ok s

/-- One round of the loop over the profiles of the binding. -/
def missProfile (trace : Trace) (runId : String) (observedIds : List String) (s : ProfileState)
    (profile : PrinterProfileRecord) : Except PyError ProfileState :=
  if profile.agentPrinterId ∈ observedIds then .ok s else s.become (profile.miss trace runId)

/-! ## The results of a job -/

/-- `job.lease_expires_at` is there and has not come. -/
def AgentJobRecord.Leased (now : ℤ) (job : AgentJobRecord) : Prop :=
  job.state = .leased ∧ ∃ expires ∈ job.leaseExpiresAt, now < expires

instance (now : ℤ) (job : AgentJobRecord) : Decidable (job.Leased now) :=
  inferInstanceAs (Decidable (_ ∧ _))

/-- The job of an agent. -/
def ProfileState.job (s : ProfileState) (jobId bindingId : String) :
    Except PyError AgentJobRecord :=
  found ((s.jobs.find? jobId).filter fun job => job.agentBindingId = bindingId)
    (printerProfileRejected "PRINTER_DISCOVERY_JOB_NOT_FOUND")

/-- `PRINTER_DISCOVERY_COMPLETED` of a run that came to a result. -/
def completedEvent (trace : Trace) (bindingId runId : String) (count : Nat) : PrinterEvent where
  eventType := "PRINTER_DISCOVERY_COMPLETED"
  subjectId := bindingId
  userId := none
  success := true
  trace
  key := .completed runId
  metadata := [("binding_id", bindingId), ("state", RunState.value .completed),
    ("discovery_request_id", runId), ("printer_count", s!"{count}")]

/-- The run of a result. -/
def PrinterDiscoveryRunRecord.complete (run : PrinterDiscoveryRunRecord) (now : ℤ) (count : Nat) :
    PrinterDiscoveryRunRecord :=
  { run with
    state := .completed
    completedAt := some now
    printerCount := count
    safeErrorCode := none }

/-- The job of a result. -/
def AgentJobRecord.complete (job : AgentJobRecord) (resultSha256 : String) : AgentJobRecord :=
  { job with state := .completed, resultSha256 := some resultSha256, leaseExpiresAt := none }

/-- What `complete_agent_job` writes once its checks are passed. -/
def storeResult (trace : Trace) (now : ℤ) (job : AgentJobRecord) (run : PrinterDiscoveryRunRecord)
    (parsed : List PrinterObservation) (s : ProfileState) : Except PyError ProfileState := do
  let s ← parsed.foldlM (storeObservation trace job.agentBindingId run.id) s
  let profiles := s.profiles.rows.filter fun profile => profile.agentBindingId = job.agentBindingId
  let s ← profiles.foldlM (missProfile trace run.id (parsed.map PrinterObservation.agentPrinterId)) s
  let s := { s with
    runs := s.runs.put (run.complete now parsed.length)
    jobs := s.jobs.put (job.complete (platform.resultHash parsed)) }
  s.audit (completedEvent trace job.agentBindingId run.id parsed.length)

/-- `complete_agent_job`. -/
def completeAgentJob (trace : Trace) (now : ℤ) (jobId machineBindingId : String)
    (observations : List PrinterObservation) (s : ProfileState) : Except PyError ProfileState := do
  requirePrinting platform
  let binding ← s.binding machineBindingId
  validateDiscoveryBinding platform now binding
  let job ← s.job jobId binding.id
  ensure (observations.length ≤ 64) (printerProfileRejected "PRINTER_DISCOVERY_RESULT_TOO_LARGE")
  let parsed ← observations.mapM (PrinterObservation.fromMapping platform.capabilityHash)
  ensure (parsed.map PrinterObservation.agentPrinterId).Nodup
    (printerProfileRejected "DUPLICATE_AGENT_PRINTER_ID")
  if job.state = .completed then
    ensure (job.resultSha256 = some (platform.resultHash parsed))
      (printerProfileRejected "PRINTER_DISCOVERY_RESULT_REPLAY_CONFLICT")
    return s
  else do
    ensure (job.Leased now) (printerProfileRejected "PRINTER_DISCOVERY_JOB_NOT_LEASED")
    let run ← s.run job.operationId
    ensure (run.agentBindingId = binding.id)
      (printerProfileRejected "PRINTER_DISCOVERY_JOB_BINDING_MISMATCH")
    ensure (∀ row ∈ s.observations.rows, row.discoveryRunId ≠ run.id)
      (printerProfileRejected "PRINTER_DISCOVERY_RESULT_ALREADY_PARTIAL")
    storeResult platform trace now job run parsed s

/-- The run of a failure. -/
def PrinterDiscoveryRunRecord.fail (run : PrinterDiscoveryRunRecord) (now : ℤ) (code : String) :
    PrinterDiscoveryRunRecord :=
  { run with state := .failed, completedAt := some now, safeErrorCode := some code }

/-- The job of a failure. -/
def AgentJobRecord.fail (job : AgentJobRecord) (code resultSha256 : String) : AgentJobRecord :=
  { job with
    state := .completed
    lastErrorCode := some code
    resultSha256 := some resultSha256
    leaseExpiresAt := none }

/-- `PRINTER_DISCOVERY_COMPLETED` of a run that failed. -/
def failedEvent (trace : Trace) (bindingId runId code : String) : PrinterEvent where
  eventType := "PRINTER_DISCOVERY_COMPLETED"
  subjectId := bindingId
  userId := none
  success := false
  trace
  key := .failed runId code
  metadata := [("binding_id", bindingId), ("state", RunState.value .failed),
    ("discovery_request_id", runId), ("printer_count", "0"), ("safe_reason_code", code)]

/-- `fail_agent_job`. -/
def failAgentJob (trace : Trace) (now : ℤ) (jobId machineBindingId safeErrorCode : String)
    (s : ProfileState) : Except PyError ProfileState := do
  requirePrinting platform
  let binding ← s.binding machineBindingId
  let job ← s.job jobId binding.id
  ensure (job.Leased now) (printerProfileRejected "PRINTER_DISCOVERY_JOB_NOT_LEASED")
  let run ← s.run job.operationId
  let code := ((if safeErrorCode = "" then "PRINTER_DISCOVERY_FAILED" else safeErrorCode).take
    80).toString
  let s := { s with
    runs := s.runs.put (run.fail now code)
    jobs := s.jobs.put (job.fail code (platform.failureHash code)) }
  s.audit (failedEvent trace binding.id run.id code)

/-! ## Approval -/

/-- `_observation_domain`: the observation as it is read back. -/
def PrinterDiscoveryObservationRecord.domain (row : PrinterDiscoveryObservationRecord) :
    Except PyError PrinterObservation :=
  PrinterObservation.fromMapping platform.capabilityHash { row.observation with
    evidence := { row.observation.evidence with
      capabilities := platform.readBack row.observation.evidence.capabilities } }

/-- The state of a profile whose evidence is approved. -/
def PrinterObservation.approvedState (o : PrinterObservation) : ProfileStatus :=
  if o.basicCompatible then .active else .incompatible

/-- The event of an approval. -/
def approvalEvent (trace : Trace) (userId : ℤ) (profile : PrinterProfileRecord)
    (eventType : String) : PrinterEvent where
  eventType
  subjectId := profile.id
  userId := some userId
  success := true
  trace
  key := .approved profile.id eventType profile.capabilityRevision
  metadata := [("printer_profile_id", profile.id), ("binding_id", profile.agentBindingId),
    ("state", profile.state.value), ("capability_hash", profile.evidence.capabilityHash),
    ("dpi_x", s!"{profile.evidence.capabilities.dpiX}"),
    ("dpi_y", s!"{profile.evidence.capabilities.dpiY}"),
    ("media_width_mm", s!"{profile.evidence.capabilities.mediaWidthMm}"),
    ("media_height_mm", s!"{profile.evidence.capabilities.mediaHeightMm}"),
    ("capability_revision", s!"{profile.capabilityRevision}")]

/-- A profile that is made by an approval. -/
def newProfile (id bindingId : String) (userId observedAt : ℤ) (o : PrinterObservation) :
    PrinterProfileRecord where
  id
  agentBindingId := bindingId
  agentPrinterId := o.agentPrinterId
  evidence := o.evidence
  capabilityRevision := 1
  state := o.approvedState
  lastSeenAt := observedAt
  createdByUserId := some userId

/-- A profile that adopts the evidence of an observation. -/
def PrinterProfileRecord.adopt (profile : PrinterProfileRecord) (observedAt : ℤ)
    (o : PrinterObservation) : PrinterProfileRecord :=
  { profile with
    evidence := o.evidence
    capabilityRevision := profile.capabilityRevision + 1
    state := o.approvedState
    lastSeenAt := observedAt }

/-- `approve_observation`, with the identifier drawn for a new profile. -/
def approveObservation (trace : Trace) (now : ℤ) (observationId : String × String)
    (newId : String) (userId : ℤ) (s : ProfileState) : Except PyError ProfileState := do
  requirePrinting platform
  let row ← found (s.observations.find? observationId) ⟨.keyError, observationId.2⟩
  let o ← row.domain platform
  ensure (o.availabilityState = .available)
    (printerProfileRejected "PRINTER_NOT_AVAILABLE_FOR_APPROVAL")
  let binding ← s.binding row.agentBindingId
  validateDiscoveryBinding platform now binding
  match s.profileOf binding.id o.agentPrinterId with
  | none =>
    let profile := newProfile newId binding.id userId row.observation.observedAt o
    let profiles ← found (s.profiles.insert profile) ⟨.integrityError, ""⟩
    { s with profiles }.audit (approvalEvent trace userId profile "PRINTER_PROFILE_CREATED")
  | some old =>
    let profile := old.adopt row.observation.observedAt o
    { s with profiles := s.profiles.put profile }.audit
      (approvalEvent trace userId profile "PRINTER_PROFILE_UPDATED")

/-- `disable_profile`. -/
def disableProfile (trace : Trace) (profileId : String) (userId : ℤ) (s : ProfileState) :
    Except PyError ProfileState := do
  requirePrinting platform
  let row ← found (s.profiles.find? profileId) ⟨.keyError, profileId⟩
  let profile := { row with state := .disabled }
  { s with profiles := s.profiles.put profile }.audit {
    eventType := "PRINTER_PROFILE_DISABLED"
    subjectId := profile.id
    userId := some userId
    success := true
    trace
    key := .disabled profile.id profile.capabilityRevision
    metadata := [("printer_profile_id", profile.id), ("binding_id", profile.agentBindingId),
      ("state", profile.state.value), ("capability_revision", s!"{profile.capabilityRevision}")] }

end Wbcz.PrinterProfiles
