import Wbcz.Printing.Jobs

/-!
# Physical printing

`PhysicalPrintingService`: what the agent that renders a label and gives it to the spooler of
Windows reports to the server, and the explicit reprint of a label whose outcome is unknown.
-/

namespace Wbcz.Printing

open Fallible (ensure found)

/-- `PhysicalExecutionRejected`. -/
def physicalRejected (code : String) : PyError :=
  ⟨.other "PhysicalExecutionRejected", Text.take 96 code⟩

section Checks

variable (platform : Platform) (session : Session) (s : PrintingState)

/-- `_require_gate`. -/
def requireGate : Except PyError Unit := do
  ensure (platform.config.printingEnabled = true) (physicalRejected "PRINTING_DISABLED")
  ensure (platform.config.printExecutionEnabled = true)
    (physicalRejected "PRINT_EXECUTION_DISABLED")
  ensure (platform.config.production = false)
    (physicalRejected "PRODUCTION_PRINT_EXECUTION_BLOCKED")

/-- `_binding`. -/
def physicalBinding (bindingId : String) : Except PyError AgentBinding := do
  let row ← found ((s.bindings.find? bindingId).filter fun row =>
      session.owns row.organisationId row.participantId)
    (physicalRejected "AGENT_BINDING_NOT_FOUND")
  ensure (row.state = .active ∧ row.compatible = true)
    (physicalRejected "AGENT_BINDING_NOT_ACTIVE")
  ensure (fresh platform session row = true) (physicalRejected "AGENT_BINDING_NOT_FRESH")
  ensure (physicalCapability ∈ row.supportedCapabilities)
    (physicalRejected "PRINTING_PHYSICAL_V1_REQUIRED")
  .ok row

/-- The rows that belong to an execution. -/
structure PhysicalGraph where
  job : PrintJob
  item : PrintJobItem
  reservation : DeliveryReservation
  version : TemplateVersion
  stored : StoredFullKmItem
  profile : PrinterProfile

/-- The reservation of an execution. -/
def executionReservation (executionId : String) : Option DeliveryReservation :=
  s.reservations.rows.find? fun row =>
    row.printExecutionId = executionId && session.owns row.organisationId row.participantId

/-- The profile of the printer of an execution. -/
def executionProfile (execution : PrintExecution) : Option PrinterProfile :=
  (execution.printerProfileId.filter fun id => id ≠ "").bind (profileOf session s)

/-- The rows of an execution, each of which has to be there. -/
def graphRows (execution : PrintExecution) : Except PyError PhysicalGraph := do
  let job ← found (jobOf session s execution.printJobId)
    (physicalRejected "PHYSICAL_EXECUTION_GRAPH_INVALID")
  let item ← found (itemOf session s execution.printJobItemId execution.printJobId)
    (physicalRejected "PHYSICAL_EXECUTION_GRAPH_INVALID")
  let reservation ← found (executionReservation session s execution.id)
    (physicalRejected "PHYSICAL_EXECUTION_GRAPH_INVALID")
  let version ← found (versionOf session s execution.templateVersionId)
    (physicalRejected "PHYSICAL_EXECUTION_GRAPH_INVALID")
  let stored ← found (storedOf session s execution.storedFullKmItemId)
    (physicalRejected "PHYSICAL_EXECUTION_GRAPH_INVALID")
  let profile ← found (executionProfile session s execution)
    (physicalRejected "PHYSICAL_EXECUTION_GRAPH_INVALID")
  .ok ⟨job, item, reservation, version, stored, profile⟩

/-- The profile of an execution is the one that it was authorised for. -/
def checkProfile (execution : PrintExecution) (profile : PrinterProfile) :
    Except PyError Unit := do
  ensure (profile.agentBindingId = execution.agentBindingId)
    (physicalRejected "PRINTER_PROFILE_AGENT_BINDING_MISMATCH")
  ensure (profile.active = true) (physicalRejected "PRINTER_PROFILE_NOT_ACTIVE")
  ensure (execution.printerProfileFingerprint = some profile.localPrinterFingerprint)
    (physicalRejected "PRINTER_PROFILE_FINGERPRINT_CHANGED")

/-- `_graph`. -/
def graph (execution : PrintExecution) : Except PyError PhysicalGraph := do
  let rows ← graphRows session s execution
  ensure (rows.item.storedFullKmItemId = rows.stored.id)
    (physicalRejected "PHYSICAL_STORED_ITEM_CONFLICT")
  ensure (rows.reservation.state = .acknowledged)
    (physicalRejected "PHYSICAL_PAYLOAD_NOT_ACKNOWLEDGED")
  ensure (rows.reservation.payloadSha256 = execution.payloadSha256 ∧
      rows.item.payloadHash = execution.payloadSha256)
    (physicalRejected "PHYSICAL_PAYLOAD_HASH_CONFLICT")
  checkProfile execution rows.profile
  checkLayout platform rows.version (physicalRejected "PHYSICAL_LAYOUT_HASH_CONFLICT")
  ensure (rows.version.layoutSha256 = execution.layoutSha256)
    (physicalRejected "PHYSICAL_LAYOUT_HASH_CONFLICT")
  checkCompatible platform session s rows.profile.id rows.version.id physicalRejected
  .ok rows

/-- The execution that an agent reports on. -/
def reportedExecution (executionId machineBindingId : String) :
    Except PyError PrintExecution := do
  requireGate platform
  let _ ← physicalBinding platform session s machineBindingId
  found (executionOf session s executionId) ⟨.keyError, executionId⟩

/-- What the agent says of what it prints. -/
structure SpoolEvidence where
  payloadSha256 : String
  layoutSha256 : String
  printerProfileId : String
  printerProfileFingerprint : String
  deriving DecidableEq, Repr

/-- The evidence is that of the execution. -/
def SpoolEvidence.Matches (evidence : SpoolEvidence) (execution : PrintExecution)
    (profile : PrinterProfile) : Prop :=
  evidence.payloadSha256 = execution.payloadSha256 ∧
    evidence.layoutSha256 = execution.layoutSha256 ∧ evidence.printerProfileId = profile.id ∧
    evidence.printerProfileFingerprint = profile.localPrinterFingerprint

instance (evidence : SpoolEvidence) (execution : PrintExecution) (profile : PrinterProfile) :
    Decidable (evidence.Matches execution profile) :=
  inferInstanceAs (Decidable (_ ∧ _))

/-- `RENDERER_VERSION`. -/
def rendererVersion : String := "sellari-libdmtx-raster-v1"

/-- The checks of `mark_rendered`. -/
def renderable (executionId machineBindingId : String) (evidence : SpoolEvidence)
    (renderer decoder : String) : Except PyError (PrintExecution × PhysicalGraph) := do
  let execution ← reportedExecution platform session s executionId machineBindingId
  ensure (execution.agentBindingId = machineBindingId ∧ execution.state = .payloadDelivered)
    (physicalRejected "PHYSICAL_RENDER_TRANSITION_NOT_ALLOWED")
  let rows ← graph platform session s execution
  ensure (evidence.Matches execution rows.profile ∧ renderer = rendererVersion)
    (physicalRejected "PHYSICAL_RENDER_EVIDENCE_MISMATCH")
  ensure (decoder ≠ "" ∧ decoder.length ≤ 64) (physicalRejected "DECODER_VERSION_REQUIRED")
  .ok (execution, rows)

/-- The checks of `begin_spool`. -/
def spoolable (executionId machineBindingId : String) (evidence : SpoolEvidence) :
    Except PyError PrintExecution := do
  let execution ← reportedExecution platform session s executionId machineBindingId
  ensure (execution.agentBindingId = machineBindingId ∧ execution.state = .renderedVerified)
    (physicalRejected "SPOOL_BOUNDARY_NOT_ALLOWED")
  let rows ← graph platform session s execution
  ensure (evidence.Matches execution rows.profile)
    (physicalRejected "SPOOL_BOUNDARY_EVIDENCE_MISMATCH")
  .ok execution

end Checks

/-! ## The state of an item and of its job -/

/-- An item with a new state. -/
def movedItem (state : ItemState) (errorCode : Option String) (item : PrintJobItem) :
    PrintJobItem :=
  { item with state, errorCode }

theorem key_movedItem (state : ItemState) (errorCode : Option String) (row : PrintJobItem) :
    (movedItem state errorCode row).key = row.key := rfl

/-- A job with a new state. -/
def movedJob (state : JobState) (job : PrintJob) : PrintJob := { job with state }

theorem key_movedJob (state : JobState) (row : PrintJob) : (movedJob state row).key = row.key :=
  rfl

namespace PrintingState

/-- An item takes a new state. -/
def moveItem (s : PrintingState) (itemId : String) (state : ItemState)
    (errorCode : Option String) : PrintingState :=
  { s with items := s.items.modify itemId (movedItem state errorCode) (key_movedItem _ _) }

/-- A job takes a new state. -/
def moveJob (s : PrintingState) (jobId : String) (state : JobState) : PrintingState :=
  { s with jobs := s.jobs.modify jobId (movedJob state) (key_movedJob _) }

/-- The row of an execution is rewritten. -/
def moveExecution (s : PrintingState) (executionId : String)
    (f : PrintExecution → PrintExecution) (hf : ∀ row, (f row).key = row.key) : PrintingState :=
  { s with executions := s.executions.modify executionId f hf }

end PrintingState

/-! ## The reports of an agent -/

section Reports

variable (platform : Platform) (session : Session)

/-- An execution whose label was rendered. -/
def renderedExecution (renderer : String) (now : ℤ) (execution : PrintExecution) :
    PrintExecution :=
  { execution with
    state := .renderedVerified
    rendererVersion := some renderer
    renderedAt := some now }

theorem key_renderedExecution (renderer : String) (now : ℤ) (row : PrintExecution) :
    (renderedExecution renderer now row).key = row.key := rfl

/-- `mark_rendered`. -/
def markRendered (executionId machineBindingId : String) (evidence : SpoolEvidence)
    (renderer decoder : String) : PrintingTx Unit := do
  let s ← .get
  let (execution, rows) ← Tx.ofExcept
    (renderable platform session s executionId machineBindingId evidence renderer decoder)
  Tx.modify fun s =>
    (s.moveExecution execution.id (renderedExecution renderer session.now)
      (key_renderedExecution _ _)).moveItem rows.item.id .rendered rows.item.errorCode
  session.record "PRINT_RENDER_VERIFIED" execution.printJobId
    ("physical-print:" ++ execution.id ++ ":rendered")

/-- An execution whose label may be on its way to the printer. -/
def submittingExecution (now : ℤ) (execution : PrintExecution) : PrintExecution :=
  { execution with state := .spoolSubmitting, spoolSubmittingAt := some now }

theorem key_submittingExecution (now : ℤ) (row : PrintExecution) :
    (submittingExecution now row).key = row.key := rfl

/-- `begin_spool`. -/
def beginSpool (executionId machineBindingId : String) (evidence : SpoolEvidence) :
    PrintingTx Unit := do
  let s ← .get
  let execution ← Tx.ofExcept
    (spoolable platform session s executionId machineBindingId evidence)
  Tx.modify fun s =>
    s.moveExecution execution.id (submittingExecution session.now) (key_submittingExecution _)
  session.record "PRINT_SPOOL_SUBMITTED" execution.printJobId
    ("physical-print:" ++ execution.id ++ ":spool-submitting")

/-- The states that an agent may report. -/
inductive ResultState where
  | spoolJobCreated
  | spoolerAccepted
  | failedPreSpool
  | blocked
  | unknownAfterSpool
  deriving DecidableEq, Repr

/-- The report of an agent on an execution. -/
structure PhysicalResult where
  state : ResultState
  windowsSpoolJobId : Option ℤ := none
  lastWindowsStatus : Option String := none
  safeErrorCode : Option String := none
  deriving DecidableEq, Repr

/-- `SAFE_WINDOWS_STATUS`. -/
def safeWindowsStatus : List String :=
  ["QUEUED", "PRINTING", "PAUSED", "ERROR", "OFFLINE", "PAPER_OUT", "USER_INTERVENTION",
    "DELETING", "DELETED", "SPOOLER_REPORTED_COMPLETE", "UNKNOWN"]

/-- The status that is kept of the one that was reported. -/
def PhysicalResult.safeStatus (result : PhysicalResult) : String :=
  let status := Text.take 64 (if (result.lastWindowsStatus.getD "") = "" then "UNKNOWN"
    else result.lastWindowsStatus.getD "")
  if status ∈ safeWindowsStatus then status else "UNKNOWN"

/-- The error code that is kept, or another one where none was reported. -/
def PhysicalResult.errorCode (result : PhysicalResult) (otherwise : String) : String :=
  Text.take 96 (if (result.safeErrorCode.getD "") = "" then otherwise
    else result.safeErrorCode.getD "")

/-- The number of a spool job. -/
def spoolJobId (value : Option ℤ) (e : PyError) : Except PyError ℤ :=
  found (value.filter fun id => 0 < id) e

/-- The number that was reported is the one that is recorded, if there is one. -/
def checkSameJob (execution : PrintExecution) (jobId : ℤ) : Except PyError Unit :=
  ensure (execution.windowsSpoolJobId = none ∨ execution.windowsSpoolJobId = some jobId)
    (physicalRejected "WINDOWS_SPOOL_JOB_ID_CONFLICT")

/-- An execution that the spooler has a job for. -/
def createdExecution (jobId : ℤ) (status : String) (now : ℤ) (execution : PrintExecution) :
    PrintExecution :=
  { execution with
    state := .spoolJobCreated
    windowsSpoolJobId := some jobId
    lastWindowsStatus := some status
    spoolJobCreatedAt := execution.spoolJobCreatedAt <|> some now }

theorem key_createdExecution (jobId : ℤ) (status : String) (now : ℤ) (row : PrintExecution) :
    (createdExecution jobId status now row).key = row.key := rfl

/-- An execution of which nobody knows whether it was printed. -/
def unknownExecution (jobId : Option ℤ) (status code : String) (now : ℤ)
    (execution : PrintExecution) : PrintExecution :=
  { execution with
    state := .unknownAfterSpool
    windowsSpoolJobId := jobId <|> execution.windowsSpoolJobId
    spoolJobCreatedAt := if jobId.isSome then execution.spoolJobCreatedAt <|> some now
      else execution.spoolJobCreatedAt
    lastWindowsStatus := some status
    safeErrorCode := some code
    terminalAt := some now }

theorem key_unknownExecution (jobId : Option ℤ) (status code : String) (now : ℤ)
    (row : PrintExecution) : (unknownExecution jobId status code now row).key = row.key := rfl

/-- An execution that the spooler took. -/
def acceptedExecution (status : String) (now : ℤ) (execution : PrintExecution) :
    PrintExecution :=
  { execution with
    state := .spoolerAccepted
    lastWindowsStatus := some status
    spoolerAcceptedAt := some now
    terminalAt := some now }

theorem key_acceptedExecution (status : String) (now : ℤ) (row : PrintExecution) :
    (acceptedExecution status now row).key = row.key := rfl

theorem key_blockedExecution (code : String) (now : ℤ) (row : PrintExecution) :
    (blockedExecution code now row).key = row.key := rfl

/-- What is checked of a report, by the state that it reports. -/
def checkResult (execution : PrintExecution) (result : PhysicalResult) : Except PyError Unit :=
  match result.state with
  | .spoolJobCreated => do
    ensure (execution.state = .spoolSubmitting ∨ execution.state = .spoolJobCreated)
      (physicalRejected "SPOOL_JOB_CREATED_TRANSITION_NOT_ALLOWED")
    let jobId ← spoolJobId result.windowsSpoolJobId
      (physicalRejected "WINDOWS_SPOOL_JOB_ID_REQUIRED")
    checkSameJob execution jobId
  | .failedPreSpool => do
    ensure (execution.state = .payloadDelivered ∨ execution.state = .renderedVerified ∨
      execution.state = .spoolSubmitting) (physicalRejected "FAILED_PRE_SPOOL_NOT_PROVEN")
    ensure (result.windowsSpoolJobId = none ∧ execution.windowsSpoolJobId = none)
      (physicalRejected "FAILED_PRE_SPOOL_NOT_PROVEN")
  | .blocked => do
    ensure (execution.state = .payloadDelivered ∨ execution.state = .renderedVerified)
      (physicalRejected "PHYSICAL_BLOCKED_TRANSITION_NOT_ALLOWED")
    ensure (execution.spoolSubmittingAt = none ∧ execution.windowsSpoolJobId = none)
      (physicalRejected "PHYSICAL_BLOCKED_AFTER_SPOOL_BOUNDARY")
  | .unknownAfterSpool => do
    ensure (execution.state = .spoolSubmitting ∨ execution.state = .spoolJobCreated)
      (physicalRejected "UNKNOWN_AFTER_SPOOL_TRANSITION_NOT_ALLOWED")
    match result.windowsSpoolJobId with
    | none => .ok ()
    | some jobId => do
      ensure (0 < jobId) (physicalRejected "WINDOWS_SPOOL_JOB_ID_INVALID")
      checkSameJob execution jobId
  | .spoolerAccepted => do
    ensure (execution.state = .spoolJobCreated)
      (physicalRejected "SPOOLER_ACCEPTED_TRANSITION_NOT_ALLOWED")
    let jobId ← spoolJobId result.windowsSpoolJobId
      (physicalRejected "WINDOWS_SPOOL_JOB_ID_REQUIRED")
    ensure (execution.windowsSpoolJobId = some jobId)
      (physicalRejected "WINDOWS_SPOOL_JOB_ID_CONFLICT")

/-- The checks of `report_result`. -/
def reportable (s : PrintingState) (executionId machineBindingId : String)
    (result : PhysicalResult) : Except PyError (PrintExecution × PhysicalGraph) := do
  let execution ← reportedExecution platform session s executionId machineBindingId
  ensure (execution.agentBindingId = machineBindingId)
    (physicalRejected "PRINT_EXECUTION_BINDING_MISMATCH")
  let rows ← graph platform session s execution
  checkResult execution result
  .ok (execution, rows)

/-- What a report does to the execution, its item and its job. -/
def PrintingState.applyResult (s : PrintingState) (executionId itemId jobId : String)
    (result : PhysicalResult) (now : ℤ) : PrintingState :=
  match result.state with
  | .spoolJobCreated =>
    s.moveExecution executionId
      (createdExecution (result.windowsSpoolJobId.getD 0) result.safeStatus now)
      (key_createdExecution _ _ _)
  | .failedPreSpool =>
    let code := result.errorCode "PHYSICAL_EXECUTION_FAILED_PRE_SPOOL"
    ((s.moveExecution executionId (failedExecution code now) (key_failedExecution _ _)).moveItem
      itemId .failed (some code)).moveJob jobId .failed
  | .blocked =>
    let code := result.errorCode "PHYSICAL_EXECUTION_BLOCKED"
    ((s.moveExecution executionId (blockedExecution code now) (key_blockedExecution _ _)).moveItem
      itemId .blocked (some code)).moveJob jobId .blocked
  | .unknownAfterSpool =>
    ((s.moveExecution executionId
      (unknownExecution result.windowsSpoolJobId result.safeStatus
        (result.errorCode "UNKNOWN_AFTER_SPOOL") now) (key_unknownExecution _ _ _ _)).moveItem
      itemId .blocked (some "UNKNOWN_AFTER_SPOOL")).moveJob jobId .blocked
  | .spoolerAccepted =>
    (s.moveExecution executionId (acceptedExecution result.safeStatus now)
      (key_acceptedExecution _ _)).moveItem itemId .completed none

/-- The event of a report, and the state that its key names. -/
def ResultState.event : ResultState → String × String
  | spoolJobCreated => ("", "spool_job_created")
  | spoolerAccepted => ("PRINT_SPOOL_ACCEPTED", "spooler_accepted")
  | failedPreSpool => ("PRINT_EXECUTION_FAILED", "failed_pre_spool")
  | blocked => ("PRINT_EXECUTION_FAILED", "blocked")
  | unknownAfterSpool => ("PRINT_EXECUTION_UNKNOWN", "unknown_after_spool")

/-- The event of a job that was printed. -/
def completionEvent (job : PrintJob) : PrintEvent where
  id := session.uuid 0
  printJobId := job.id
  eventType := if job.mode = .initialPrint then "PRINT_JOB_COMPLETED" else "REPRINT_COMPLETED"
  outcome := "SUCCESS"

/-- The event of the completion of a job goes into its table, once. -/
def insertCompletion (job : PrintJob) : PrintingTx Unit := do
  let s ← .get
  if s.events.rows.any fun event =>
      event.printJobId = job.id && (event.eventType = "PRINT_JOB_COMPLETED" ||
        event.eventType = "REPRINT_COMPLETED") && event.outcome = "SUCCESS" then
    pure ()
  else do
    let events ← Tx.ofExcept (found (s.events.insert (completionEvent session job))
      integrityError)
    Tx.modify fun s => { s with events := events }

/-- A job is completed with the last of its items. -/
def completeJob (job : PrintJob) : PrintingTx Unit := do
  let s ← .get
  let remaining := s.items.rows.filter fun item =>
    item.printJobId = job.id && session.owns item.organisationId item.participantId
  if remaining ≠ [] ∧ ∀ item ∈ remaining, item.state = .completed then do
    Tx.modify fun s => s.moveJob job.id .completed
    insertCompletion session job
  else pure ()

/-- What `report_result` does after it wrote the new state. -/
def concludeResult (execution : PrintExecution) (job : PrintJob) (result : PhysicalResult) :
    PrintingTx Unit :=
  match result.state with
  | .spoolJobCreated => pure ()
  | .spoolerAccepted => do
    session.record result.state.event.1 execution.printJobId
      ("physical-print:" ++ execution.id ++ ":" ++ result.state.event.2)
    completeJob session job
  | _ =>
    session.record result.state.event.1 execution.printJobId
      ("physical-print:" ++ execution.id ++ ":" ++ result.state.event.2)

/-- `report_result`. -/
def reportResult (executionId machineBindingId : String) (result : PhysicalResult) :
    PrintingTx Unit := do
  let s ← .get
  let (execution, rows) ← Tx.ofExcept
    (reportable platform session s executionId machineBindingId result)
  Tx.modify fun s => s.applyResult execution.id rows.item.id rows.job.id result session.now
  concludeResult session execution rows.job result

/-- An execution with the status that Windows gave. -/
def observedExecution (status : String) (code : Option String) (execution : PrintExecution) :
    PrintExecution :=
  { execution with
    lastWindowsStatus := some status
    safeErrorCode := if code.getD "" = "" then execution.safeErrorCode
      else code.map (Text.take 96) }

theorem key_observedExecution (status : String) (code : Option String) (row : PrintExecution) :
    (observedExecution status code row).key = row.key := rfl

/-- The checks of `observe_status`. -/
def observable (s : PrintingState) (executionId machineBindingId : String) (jobId : ℤ) :
    Except PyError PrintExecution := do
  let execution ← reportedExecution platform session s executionId machineBindingId
  ensure (execution.agentBindingId = machineBindingId)
    (physicalRejected "PRINT_EXECUTION_BINDING_MISMATCH")
  ensure (execution.windowsSpoolJobId = some jobId)
    (physicalRejected "WINDOWS_SPOOL_JOB_ID_CONFLICT")
  .ok execution

/-- `observe_status`. -/
def observeStatus (executionId machineBindingId : String) (jobId : ℤ) (normalizedState : String)
    (safeErrorCode : Option String) : PrintingTx Unit := do
  let s ← .get
  let execution ← Tx.ofExcept (observable platform session s executionId machineBindingId jobId)
  let status := if normalizedState ∈ safeWindowsStatus then normalizedState else "UNKNOWN"
  Tx.modify fun s =>
    s.moveExecution execution.id (observedExecution status safeErrorCode)
      (key_observedExecution _ _)

/-- The checks of `explicit_reprint_unknown`. -/
def reprintable (s : PrintingState) (executionId : String) (acknowledgeDuplicateRisk : Bool) :
    Except PyError PrintExecution := do
  requireGate platform
  let execution ← found (executionOf session s executionId) ⟨.keyError, executionId⟩
  ensure (execution.state = .unknownAfterSpool)
    (physicalRejected "AMBIGUOUS_REPRINT_REQUIRES_UNKNOWN_EXECUTION")
  ensure (acknowledgeDuplicateRisk = true) (physicalRejected "DUPLICATE_LABEL_RISK_ACK_REQUIRED")
  ensure (execution.printerProfileId.getD "" ≠ "") (physicalRejected "PRINTER_PROFILE_REQUIRED")
  .ok execution

/-- `explicit_reprint_unknown`. -/
def explicitReprintUnknown (executionId : String) (acknowledgeDuplicateRisk : Bool) :
    PrintingTx PrintJob := do
  let s ← .get
  let execution ← Tx.ofExcept (reprintable platform session s executionId acknowledgeDuplicateRisk)
  createPrintJob platform session {
    storedItemIds := [execution.storedFullKmItemId]
    templateVersionId := execution.templateVersionId
    mode := .reprintOriginalTemplate
    printerProfileId := execution.printerProfileId }

end Reports

end Wbcz.Printing
