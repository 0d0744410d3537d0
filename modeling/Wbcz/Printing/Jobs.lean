import Wbcz.Printing.Delivery

/-!
# Print jobs and the bindings of agents

`LocalPrintingService.create_print_job`, which puts a job and its items into their tables, and
`AgentBindingService.disable`, which takes a binding and all that hangs on it out of use.
-/

namespace Wbcz.Printing

open Fallible (ensure found)

section Jobs

variable (platform : Platform) (session : Session)

/-- `PrintingUnavailable`. -/
def printingUnavailable (message : String) : PyError := ⟨.other "PrintingUnavailable", message⟩

/-- The participant of a request may use a row of this owner. -/
def visible (owner : Option String) : Bool :=
  owner.all fun participantId => participantId = session.scope.participantId

/-- `_version`. -/
def templateVersion (s : PrintingState) (versionId : String) : Except PyError TemplateVersion :=
  found ((versionOf session s versionId).filter fun row => visible session row.participantId)
    ⟨.keyError, versionId⟩

/-- `_template`. -/
def template (s : PrintingState) (templateId : String) (allowArchived : Bool) :
    Except PyError PrintTemplate := do
  let row ← found ((s.templates.find? templateId).filter fun row =>
    row.organisationId = session.scope.organisationId && visible session row.participantId)
    ⟨.keyError, templateId⟩
  ensure (allowArchived = true ∨ row.active = true) (printingUnavailable "template is archived")
  .ok row

/-- A stored code that can be read from the vault. -/
def printableItem (s : PrintingState) (storedId : String) : Except PyError StoredFullKmItem := do
  let row ← found (storedOf session s storedId) ⟨.keyError, storedId⟩
  match platform.decryptAndVerify row with
  | .ok _ => .ok row
  | .error e =>
    if e.cls = .runtimeError ∨ e.cls = .other "PrintingIntegrityError" then
      .error ⟨.other "PrintingIntegrityError", "item is not printable: " ++ e.message⟩
    else .error e

/-- What a job is asked to print. -/
structure JobRequest where
  storedItemIds : List String
  templateVersionId : String
  mode : PrintMode := .initialPrint
  printerProfileId : Option String := none

/-- The checks of `create_print_job`. -/
def jobContents (s : PrintingState) (request : JobRequest) :
    Except PyError (TemplateVersion × List StoredFullKmItem) := do
  ensure (platform.config.printingEnabled = true)
    (printingUnavailable "local printing capability is disabled")
  ensure (1 ≤ request.storedItemIds.length ∧ request.storedItemIds.length ≤ 1000 ∧
      request.storedItemIds.Nodup)
    ⟨.valueError, "stored_item_ids must contain 1..1000 unique items"⟩
  let version ← templateVersion session s request.templateVersionId
  let _ ← template session s version.templateId
    (decide (request.mode = .reprintOriginalTemplate))
  let items ← request.storedItemIds.mapM (printableItem platform session s)
  .ok (version, items)

/-- The row of a new job. -/
def newJob (request : JobRequest) (version : TemplateVersion) (itemCount : ℕ) : PrintJob where
  id := session.uuid 0
  organisationId := session.scope.organisationId
  participantId := session.scope.participantId
  templateVersionId := version.id
  mode := request.mode
  state := if platform.config.printExecutionEnabled then .readyForAgent else .blocked
  itemCount
  printerProfileId := request.printerProfileId

/-- The row of an item of a new job. -/
def newItem (job : PrintJob) (ordinal : ℕ) (stored : StoredFullKmItem) : PrintJobItem where
  id := session.uuid (ordinal + 1)
  printJobId := job.id
  organisationId := session.scope.organisationId
  participantId := session.scope.participantId
  storedFullKmItemId := stored.id
  ordinal
  payloadHash := stored.fullKmSha256
  state := if platform.config.printExecutionEnabled then .pending else .blocked
  errorCode := if platform.config.printExecutionEnabled then none
    else some "PHYSICAL_PRINT_EXECUTION_DISABLED"

/-- The items of a new job go into their table, from an ordinal on. -/
def insertItems (job : PrintJob) (table : Table PrintJobItem.key) :
    ℕ → List StoredFullKmItem → Except PyError (Table PrintJobItem.key)
  | _, [] => .ok table
  | ordinal, stored :: rest => do
    let table ← found (table.insert (newItem platform session job ordinal stored)) integrityError
    insertItems job table (ordinal + 1) rest

/-- The type of the event of a request. -/
def requestedEvent (mode : PrintMode) : String :=
  if mode = .initialPrint then "PRINT_JOB_REQUESTED" else "REPRINT_REQUESTED"

/-- The event of a new job. -/
def newJobEvent (job : PrintJob) : PrintEvent where
  id := session.uuid (job.itemCount + 1)
  printJobId := job.id
  eventType := requestedEvent job.mode
  outcome := if platform.config.printExecutionEnabled then "PENDING" else "BLOCKED"

/-- A job, its items and its event go into their tables. -/
def insertJob (job : PrintJob) (items : List StoredFullKmItem) : PrintingTx Unit := do
  let s ← .get
  let jobs ← Tx.ofExcept (found (s.jobs.insert job) integrityError)
  let items ← Tx.ofExcept (insertItems platform session job s.items 0 items)
  let events ← Tx.ofExcept (found (s.events.insert (newJobEvent platform session job))
    integrityError)
  Tx.modify fun s => { s with jobs := jobs, items := items, events := events }

/-- `create_print_job`. -/
def createPrintJob (request : JobRequest) : PrintingTx PrintJob := do
  let s ← .get
  let (version, items) ← Tx.ofExcept (jobContents platform session s request)
  let job := newJob platform session request version items.length
  insertJob platform session job items
  session.record (requestedEvent job.mode) job.id ("print-job:" ++ job.id ++ ":requested")
  pure job

end Jobs

section Bindings

variable (session : Session)

/-- `_scope_row`. -/
def scopeRow (s : PrintingState) (bindingId : String) : Except PyError AgentBinding := do
  let row ← found ((s.bindings.find? bindingId).filter fun row =>
    session.owns row.organisationId row.participantId) ⟨.keyError, "agent binding not found"⟩
  ensure (row.state ≠ .archived) ⟨.valueError, "archived binding cannot be disabled"⟩
  .ok row

/-- The keys of a binding that are not given up yet. -/
def liveKeys (s : PrintingState) (bindingId : String) : List EncryptionKey :=
  s.keys.rows.filter fun key =>
    key.agentBindingId = bindingId && (key.state = .active || key.state = .retiring)

/-- The states that end as BLOCKED when the reservation is withdrawn. -/
def unrenderedStates : List ExecutionState :=
  [.requested, .authorized, .payloadAvailable, .payloadIssued, .payloadDelivered]

/-- What the sweep of `disable` makes of an execution of the binding. -/
def sweptExecution (now : ℤ) (execution : PrintExecution) : PrintExecution :=
  if execution.state = .spoolSubmitting ∨ execution.state = .spoolJobCreated then
    { execution with
      state := .unknownAfterSpool
      safeErrorCode := some "AGENT_BINDING_DISABLED_AFTER_SPOOL_BOUNDARY"
      terminalAt := some now }
  else
    blockedExecution "AGENT_BINDING_DISABLED" now execution

/-- An execution after those of a binding were swept. -/
def endedExecution (bindingId : String) (now : ℤ) (execution : PrintExecution) :
    PrintExecution :=
  if execution.agentBindingId = bindingId ∧ execution.state ∈ ExecutionState.nonterminal
    then sweptExecution now execution else execution

theorem key_endedExecution (bindingId : String) (now : ℤ) (row : PrintExecution) :
    (endedExecution bindingId now row).key = row.key := by
  unfold endedExecution sweptExecution
  split
  · split <;> rfl
  · rfl

/-- The executions of a binding that are under way end. -/
def PrintingState.sweepExecutions (s : PrintingState) (bindingId : String) (now : ℤ) :
    PrintingState :=
  { s with
    executions := s.executions.rewrite (endedExecution bindingId now) (key_endedExecution _ _) }

/-- The keys of a list are given up one after another. -/
def revokeKeys (bindingId : String) : List EncryptionKey → PrintingTx Unit
  | [] => pure ()
  | key :: keys => do
    Tx.modify fun s => s.revokeKey key.id session.now
    session.record "PRINT_AGENT_KEY_REVOKED" bindingId ""
    revokeKeys bindingId keys

/-- A binding that is out of use. -/
def disabledBinding (binding : AgentBinding) : AgentBinding :=
  { binding with state := .disabled, isPrimary := false }

theorem key_disabledBinding (row : AgentBinding) : (disabledBinding row).key = row.key := rfl

/-- `AgentBindingService.disable`. -/
def disable (bindingId : String) : PrintingTx Unit := do
  let s ← .get
  let row ← Tx.ofExcept (scopeRow session s bindingId)
  let keys := liveKeys s row.id
  Tx.modify fun s =>
    s.withdraw (keys.map EncryptionKey.id) unrenderedStates "AGENT_BINDING_DISABLED" session.now
  Tx.modify fun s => s.sweepExecutions row.id session.now
  revokeKeys session row.id keys
  Tx.modify fun s =>
    { s with bindings := s.bindings.modify row.id disabledBinding key_disabledBinding }
  session.record "AGENT_BINDING_DISABLED" row.id ""

end Bindings

end Wbcz.Printing
