import Wbcz.Lib.Interaction
import Wbcz.Printing.Boundary
import Wbcz.WindowsAgent.Job

/-!
# The runtime that prints

`PhysicalPrintRuntime` of the printing agent: it renders a label, records what it is about to do
in a table of its own, asks the server for leave to spool, and gives the label to the spooler of
Windows. It is a program: every call to the table, the server, the printers and the spooler is a
step, and it may be lost before any of them.

The mappings that a job comes with are read before; what the renderer, the printers and the
spooler answer is not fixed. The spooler tells of its job once at most, before it returns.
-/

namespace Wbcz.Printing

/-- The exceptions that the runtime tells apart. -/
inductive PrintFailure where
  | replayBlocked (message : String)
  | definitePreSpool (code : String)
  | ambiguousAfterSpool (code : String) (windowsSpoolJobId : Option ℤ)
  | security (message : String)
  | contract (message : String)
  | physical (message : String)
  | unexpected (message : String)
  deriving DecidableEq, Repr

/-! ## The job -/

/-- `PhysicalExecutionControl`. -/
structure PhysicalExecutionControl where
  contractVersion : String
  operation : String
  executionId : String
  printJobItemId : String
  deliveryReservationId : String
  payloadSha256 : String
  layoutSha256 : String
  templateVersionId : String
  printerProfileId : String
  printerProfileFingerprint : String
  agentPrinterId : String
  organisationId : String
  participantId : String
  agentBindingId : String
  printingContractVersion : String
  layoutSchemaVersion : String
  rendererVersion : String
  copies : ℤ

/-- `PhysicalRenderContract`. -/
structure PhysicalRenderContract where
  executionId : String
  layout : Json
  labelWidthMm : Json
  labelHeightMm : Json
  dpiX : ℤ
  dpiY : ℤ
  physicalWidthPx : ℤ
  physicalHeightPx : ℤ
  printableWidthPx : ℤ
  printableHeightPx : ℤ
  offsetXPx : ℤ
  offsetYPx : ℤ
  printerProfileState : String
  printerProfileFingerprint : String
  agentPrinterId : String
  fieldValues : List (String × String)

/-- A label as the renderer drew it. -/
structure PhysicalLabelRaster where
  layoutSha256 : String
  dpi : ℤ
  width : ℤ
  height : ℤ
  pixels : List UInt8
  physicalOffsetXPx : ℤ
  physicalOffsetYPx : ℤ
  printableWidthPx : ℤ
  printableHeightPx : ℤ

/-- What is read of a printer that was resolved. -/
structure LocalResolvedPrinter where
  queueName : String
  dpiX : ℤ
  dpiY : ℤ

/-- `GdiSpoolOutcome`. -/
structure GdiSpoolOutcome where
  windowsSpoolJobId : ℤ
  windowsStatus : String

/-! ## The table of the agent -/

/-- The states of a row of `print_physical_replay`. -/
inductive PhysicalReplayState where
  | renderedVerified
  | spoolSubmitting
  | spoolJobCreated
  | spoolerAccepted
  | failedPreSpool
  | blocked
  | unknownAfterSpool
  deriving DecidableEq, Repr

/-- `_IRREVERSIBLE`. -/
def irreversible : List PhysicalReplayState :=
  [.spoolSubmitting, .spoolJobCreated, .spoolerAccepted, .unknownAfterSpool, .failedPreSpool]

/-- What a row is about. -/
structure ReplayIdentity where
  printJobItemId : String
  deliveryReservationId : String
  payloadSha256 : String
  layoutSha256 : String
  printerProfileId : String
  printerProfileFingerprint : String
  deriving DecidableEq, Repr

/-- A row of `print_physical_replay`. -/
structure PhysicalReplay where
  executionId : String
  identity : ReplayIdentity
  state : PhysicalReplayState
  windowsSpoolJobId : Option ℤ := none
  windowsStatus : Option String := none
  firstSeenAt : ℤ
  updatedAt : ℤ
  safeErrorCode : Option String := none

/-- What is recorded of an execution. -/
structure ReplayEntry where
  executionId : String
  identity : ReplayIdentity
  state : PhysicalReplayState
  windowsSpoolJobId : Option ℤ := none
  windowsStatus : Option String := none
  safeErrorCode : Option String := none

/-- `print_physical_replay`. -/
abbrev ReplayTable := Table PhysicalReplay.executionId

/-- A row as it is rewritten by an entry. -/
def PhysicalReplay.update (entry : ReplayEntry) (now : ℤ) (row : PhysicalReplay) :
    PhysicalReplay :=
  { row with
    state := entry.state
    windowsSpoolJobId := entry.windowsSpoolJobId <|> row.windowsSpoolJobId
    windowsStatus := entry.windowsStatus <|> row.windowsStatus
    updatedAt := now
    safeErrorCode := entry.safeErrorCode }

/-- The row of an entry that is the first of its execution. -/
def ReplayEntry.row (entry : ReplayEntry) (now : ℤ) : PhysicalReplay where
  executionId := entry.executionId
  identity := entry.identity
  state := entry.state
  windowsSpoolJobId := entry.windowsSpoolJobId
  windowsStatus := entry.windowsStatus
  firstSeenAt := now
  updatedAt := now
  safeErrorCode := entry.safeErrorCode

/-- `AgentPhysicalReplayStore.record`. -/
def ReplayTable.record (table : ReplayTable) (entry : ReplayEntry) (now : ℤ) :
    Except PrintFailure ReplayTable :=
  match table.find? entry.executionId with
  | some existing =>
    if existing.identity ≠ entry.identity then
      .error (.replayBlocked "physical replay identity conflict")
    else if existing.state ∈ irreversible ∧ entry.state = .renderedVerified then
      .error (.replayBlocked "physical execution already crossed spool boundary")
    else if existing.state = .spoolerAccepted ∧ entry.state ≠ .spoolerAccepted then
      .error (.replayBlocked "accepted physical execution cannot regress")
    else .ok (table.modify entry.executionId (PhysicalReplay.update entry now) fun _ => rfl)
  | none =>
    match table.insert (entry.row now) with
    | some table' => .ok table'
    | none => .error (.unexpected "IntegrityError")

/-! ## The calls -/

/-- What the spooler answers when a label is submitted: that it has a job for it, or what it
returned or raised. -/
inductive SpoolAnswer where
  | jobCreated (windowsSpoolJobId : ℤ)
  | returned (result : Except PrintFailure GdiSpoolOutcome)

/-- The calls of the runtime. A submission is marked with the execution it is for. -/
inductive RuntimeCall where
  | getReplay (executionId : String)
  | record (entry : ReplayEntry)
  | resolve (agentPrinterId expectedFingerprint : String)
  | render (fullKm : List UInt8) (contract : PhysicalRenderContract)
  | markRendered (executionId : String) (evidence : SpoolEvidence)
      (rendererVersion decoderVersion : String)
  | beginSpool (executionId : String) (evidence : SpoolEvidence)
  | submit (executionId queueName : String) (raster : PhysicalLabelRaster)
  | resume (callback : Except PrintFailure Unit)
  | reportResult (executionId : String) (result : PhysicalResult)

/-- The answers to the calls. -/
def RuntimeAnswer : RuntimeCall → Type
  | .getReplay _ => Except PrintFailure (Option PhysicalReplay)
  | .record _ => Except PrintFailure Unit
  | .resolve _ _ => Except PrintFailure LocalResolvedPrinter
  | .render _ _ => Except PrintFailure (PhysicalLabelRaster × String)
  | .markRendered _ _ _ _ => Except PrintFailure Unit
  | .beginSpool _ _ => Except PrintFailure Unit
  | .submit _ _ _ => SpoolAnswer
  | .resume _ => Except PrintFailure GdiSpoolOutcome
  | .reportResult _ _ => Except PrintFailure Unit

/-- A part of the runtime. -/
abbrev PhysicalRuntime (α : Type) := ExceptT PrintFailure (Program RuntimeCall RuntimeAnswer) α

namespace PhysicalRuntime

/-- Raise. -/
def fail {α : Type} (failure : PrintFailure) : PhysicalRuntime α := throw failure

/-- Raise unless the condition holds. -/
def require (c : Prop) [Decidable c] (failure : PrintFailure) : PhysicalRuntime Unit :=
  if c then pure () else fail failure

def getReplay (executionId : String) : PhysicalRuntime (Option PhysicalReplay) :=
  ExceptT.mk (@Program.perform RuntimeCall RuntimeAnswer (.getReplay executionId))

def record (entry : ReplayEntry) : PhysicalRuntime Unit :=
  ExceptT.mk (@Program.perform RuntimeCall RuntimeAnswer (.record entry))

def resolve (agentPrinterId expectedFingerprint : String) : PhysicalRuntime LocalResolvedPrinter :=
  ExceptT.mk (@Program.perform RuntimeCall RuntimeAnswer
    (.resolve agentPrinterId expectedFingerprint))

def render (fullKm : List UInt8) (contract : PhysicalRenderContract) :
    PhysicalRuntime (PhysicalLabelRaster × String) :=
  ExceptT.mk (@Program.perform RuntimeCall RuntimeAnswer (.render fullKm contract))

def markRendered (executionId : String) (evidence : SpoolEvidence)
    (rendererVersion decoderVersion : String) : PhysicalRuntime Unit :=
  ExceptT.mk (@Program.perform RuntimeCall RuntimeAnswer
    (.markRendered executionId evidence rendererVersion decoderVersion))

def beginSpool (executionId : String) (evidence : SpoolEvidence) : PhysicalRuntime Unit :=
  ExceptT.mk (@Program.perform RuntimeCall RuntimeAnswer (.beginSpool executionId evidence))

def submit (executionId queueName : String) (raster : PhysicalLabelRaster) :
    PhysicalRuntime SpoolAnswer :=
  ExceptT.lift (@Program.perform RuntimeCall RuntimeAnswer
    (.submit executionId queueName raster))

def resume (callback : Except PrintFailure Unit) : PhysicalRuntime GdiSpoolOutcome :=
  ExceptT.mk (@Program.perform RuntimeCall RuntimeAnswer (.resume callback))

def reportResult (executionId : String) (result : PhysicalResult) : PhysicalRuntime Unit :=
  ExceptT.mk (@Program.perform RuntimeCall RuntimeAnswer (.reportResult executionId result))

end PhysicalRuntime

/-! ## The checks of a job -/

/-- `_SHA.fullmatch`. -/
def isSha (text : String) : Bool :=
  text.length = 64 && text.toList.all fun c =>
    Text.isAsciiDigit c || (97 ≤ c.toNat && c.toNat ≤ 102)

open PhysicalRuntime

/-- `PhysicalExecutionControl.validate`. -/
def PhysicalExecutionControl.validate (control : PhysicalExecutionControl) :
    PhysicalRuntime Unit := do
  require (control.contractVersion = "printing-agent-v2" ∧
      control.operation = "PRINT_RENDER_AND_SPOOL")
    (.physical "unsupported physical print operation")
  require (∀ id ∈ [control.executionId, control.printJobItemId, control.deliveryReservationId,
      control.templateVersionId, control.printerProfileId, control.agentPrinterId,
      control.organisationId, control.participantId, control.agentBindingId],
      isToken 160 id = true) (.physical "invalid physical print identifier")
  require (isSha control.payloadSha256 = true ∧ isSha control.layoutSha256 = true)
    (.physical "invalid physical print hash")
  require (isSha control.printerProfileFingerprint = true)
    (.physical "invalid printer profile fingerprint")
  require (control.printingContractVersion = "sellari-printing-contract-v1")
    (.physical "incompatible printing contract version")
  require (control.layoutSchemaVersion = "printing-layout-v1")
    (.physical "incompatible layout schema version")
  require (control.rendererVersion = Printing.rendererVersion)
    (.physical "incompatible renderer version")
  require (control.copies = 1) (.security "physical printing copies must equal 1")

/-- The contract is one for the control and for the payload. -/
def checkContract (sha256 : List UInt8 → String) (control : PhysicalExecutionControl)
    (contract : PhysicalRenderContract) (fullKm : List UInt8) : PhysicalRuntime Unit := do
  require (contract.executionId = control.executionId)
    (.security "render contract execution mismatch")
  require (sha256 fullKm = control.payloadSha256) (.security "physical payload SHA-256 mismatch")
  require (contract.printerProfileState = "ACTIVE") (.physical "printer profile is not ACTIVE")
  require (contract.printerProfileFingerprint = control.printerProfileFingerprint)
    (.security "printer profile fingerprint mismatch")
  require (contract.agentPrinterId = control.agentPrinterId)
    (.security "agent printer ID mismatch")
  require (contract.dpiX = contract.dpiY) (.physical "PRINTER_DPI_UNSUPPORTED")

/-! ## The program -/

namespace PhysicalExecutionControl

variable (control : PhysicalExecutionControl)

/-- What the rows of an execution are about. -/
def identity : ReplayIdentity where
  printJobItemId := control.printJobItemId
  deliveryReservationId := control.deliveryReservationId
  payloadSha256 := control.payloadSha256
  layoutSha256 := control.layoutSha256
  printerProfileId := control.printerProfileId
  printerProfileFingerprint := control.printerProfileFingerprint

/-- An entry about an execution. -/
def entry (state : PhysicalReplayState) (windowsSpoolJobId : Option ℤ := none)
    (windowsStatus safeErrorCode : Option String := none) : ReplayEntry where
  executionId := control.executionId
  identity := control.identity
  state := state
  windowsSpoolJobId := windowsSpoolJobId
  windowsStatus := windowsStatus
  safeErrorCode := safeErrorCode

/-- What the server is told of an execution. -/
def evidence : SpoolEvidence where
  payloadSha256 := control.payloadSha256
  layoutSha256 := control.layoutSha256
  printerProfileId := control.printerProfileId
  printerProfileFingerprint := control.printerProfileFingerprint

end PhysicalExecutionControl

/-- What the runtime returns. -/
structure RuntimeResult where
  state : String
  windowsSpoolJobId : Option ℤ := none
  safeErrorCode : Option String := none
  displayStatus : Option String := none

section Program

variable (sha256 : List UInt8 → String) (control : PhysicalExecutionControl)
  (contract : PhysicalRenderContract) (fullKm : List UInt8)

/-- The printer of the job, with the resolution that the contract counts on. -/
def resolveChecked (failure : PrintFailure) : PhysicalRuntime LocalResolvedPrinter := do
  let resolved ← resolve control.agentPrinterId control.printerProfileFingerprint
  require (resolved.dpiX = contract.dpiX ∧ resolved.dpiY = contract.dpiY) failure
  pure resolved

/-- The label is rendered and verified, and the server and the table are told so. -/
def renderVerified : PhysicalRuntime PhysicalLabelRaster := do
  let _ ← resolveChecked control contract (.physical "PRINTER_PROFILE_DPI_CHANGED")
  let (raster, decoderVersion) ← render fullKm contract
  require (raster.layoutSha256 = control.layoutSha256)
    (.security "physical layout SHA-256 mismatch")
  require (raster.width = contract.physicalWidthPx ∧ raster.height = contract.physicalHeightPx)
    (.contract "final raster does not exactly match approved physical media pixels")
  record (control.entry .renderedVerified)
  PhysicalRuntime.markRendered control.executionId control.evidence Printing.rendererVersion
    decoderVersion
  pure { raster with
    physicalOffsetXPx := contract.offsetXPx
    physicalOffsetYPx := contract.offsetYPx
    printableWidthPx := contract.printableWidthPx
    printableHeightPx := contract.printableHeightPx }

/-- `cross_spool_boundary`. -/
def crossSpoolBoundary : PhysicalRuntime Unit := do
  let existing ← getReplay control.executionId
  match existing with
  | some row =>
    require (row.state = .renderedVerified)
      (if row.state ∈ irreversible then
        .replayBlocked "physical execution already crossed spool boundary"
      else .replayBlocked "render verification must be durably recorded first")
  | none => fail (.replayBlocked "render verification must be durably recorded first")
  record (control.entry .spoolSubmitting)

/-- `on_job_created`. -/
def onJobCreated (jobId : ℤ) : PhysicalRuntime Unit := do
  record (control.entry .spoolJobCreated (some jobId) (some "QUEUED"))
  PhysicalRuntime.reportResult control.executionId
    { state := .spoolJobCreated, windowsSpoolJobId := some jobId,
      lastWindowsStatus := some "QUEUED" }

/-- The printer is resolved once more, and the label is submitted. -/
def submitRaster (raster : PhysicalLabelRaster) : PhysicalRuntime GdiSpoolOutcome := do
  let resolved ← resolveChecked control contract (.definitePreSpool "PRINTER_PROFILE_DPI_CHANGED")
  let answer ← submit control.executionId resolved.queueName raster
  match answer with
  | .returned result => ExceptT.mk (pure result)
  | .jobCreated jobId => do
    -- what the callback raises, it raises inside of the spooler
    let callback ← ExceptT.lift (onJobCreated control jobId).run
    resume callback

/-- The label did not reach the spooler. -/
def concludeFailed (code : String) : PhysicalRuntime RuntimeResult := do
  record (control.entry .failedPreSpool none none (some code))
  PhysicalRuntime.reportResult control.executionId
    { state := .failedPreSpool, safeErrorCode := some code }
  pure { state := "FAILED_PRE_SPOOL", safeErrorCode := some code }

/-- Nobody knows whether the label was printed. -/
def concludeUnknown (code : String) (jobId : Option ℤ) : PhysicalRuntime RuntimeResult := do
  match jobId with
  | some id => record (control.entry .spoolJobCreated (some id) (some "UNKNOWN"))
  | none => pure ()
  record (control.entry .unknownAfterSpool jobId (some "UNKNOWN") (some code))
  PhysicalRuntime.reportResult control.executionId
    { state := .unknownAfterSpool, windowsSpoolJobId := jobId,
      lastWindowsStatus := some "UNKNOWN", safeErrorCode := some code }
  pure { state := "UNKNOWN_AFTER_SPOOL", windowsSpoolJobId := jobId, safeErrorCode := some code }

/-- The spooler took the label. -/
def concludeAccepted (outcome : GdiSpoolOutcome) : PhysicalRuntime RuntimeResult := do
  record (control.entry .spoolJobCreated (some outcome.windowsSpoolJobId)
    (some outcome.windowsStatus))
  record (control.entry .spoolerAccepted (some outcome.windowsSpoolJobId)
    (some outcome.windowsStatus))
  PhysicalRuntime.reportResult control.executionId
    { state := .spoolerAccepted, windowsSpoolJobId := some outcome.windowsSpoolJobId,
      lastWindowsStatus := some outcome.windowsStatus }
  pure { state := "SPOOLER_ACCEPTED", windowsSpoolJobId := some outcome.windowsSpoolJobId,
         displayStatus := some "Отправлено на принтер" }

/-- The label is submitted, with what follows from the exceptions of the spooler. -/
def spool (raster : PhysicalLabelRaster) : PhysicalRuntime RuntimeResult := do
  let submitted ← tryCatch (do
      let outcome ← submitRaster control contract raster
      pure (Sum.inl outcome))
    fun failure =>
      match failure with
      | .definitePreSpool code => do
        let result ← concludeFailed control code
        pure (.inr result)
      | .ambiguousAfterSpool code jobId => do
        let result ← concludeUnknown control code jobId
        pure (.inr result)
      | other => fail other
  match submitted with
  | .inl outcome => concludeAccepted control outcome
  | .inr result => pure result

/-- `_execute_inner`. -/
def executeInner : PhysicalRuntime RuntimeResult := do
  control.validate
  checkContract sha256 control contract fullKm
  let raster ← renderVerified control contract fullKm
  crossSpoolBoundary control
  PhysicalRuntime.beginSpool control.executionId control.evidence
  spool control contract raster

/-- What an exception in front of the spooler is recorded as. -/
def failureState : PrintFailure → PhysicalReplayState × ResultState × String × String
  | .definitePreSpool code => (.failedPreSpool, .failedPreSpool, "FAILED_PRE_SPOOL", code)
  | .security _ => (.blocked, .blocked, "BLOCKED", "PHYSICAL_SECURITY_VALIDATION_FAILED")
  | .contract _ => (.blocked, .blocked, "BLOCKED", "PHYSICAL_RENDER_VALIDATION_FAILED")
  | _ => (.blocked, .blocked, "BLOCKED", "PHYSICAL_PRE_SPOOL_VALIDATION_FAILED")

/-- The exception is recorded and reported, unless the execution is past recall. -/
def recordFailure (failure : PrintFailure) : PhysicalRuntime RuntimeResult := do
  let existing ← getReplay control.executionId
  require (existing.all (fun row => row.state ∉ irreversible) = true) failure
  let (state, reported, text, code) := failureState failure
  record (control.entry state none none (some code))
  PhysicalRuntime.reportResult control.executionId { state := reported, safeErrorCode := some code }
  pure { state := text, safeErrorCode := some code }

/-- `execute`. -/
def execute : PhysicalRuntime RuntimeResult := do
  control.validate
  tryCatch (executeInner sha256 control contract fullKm) fun failure =>
    match failure with
    | .replayBlocked message => fail (.replayBlocked message)
    | .unexpected message => fail (.unexpected message)
    | other => recordFailure control other

end Program

end Wbcz.Printing
