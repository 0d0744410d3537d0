import Wbcz.WindowsAgent.Runtime
import Wbcz.Lib.Tx

/-!
# The server side of the agent exchange

`VpsAgentJobStore`, `VpsAgentBroker` and `WindowsOutboundAgent` of `windows_agent.py`. The
broker is written over the operations it needs of a write store and a job store, so that
it serves the SQLite stores here and the session-bound ones of the web application.
-/

namespace Wbcz

/-- The states of an agent job. -/
inductive AgentJobState where
  | pending
  | leased
  | completed
  deriving DecidableEq, Repr

/-- What the broker needs of its stores. -/
structure VpsAgentBroker (σ : Type) where
  ownInn : String
  get : String → Tx PyError σ OperationRecord
  acceptSignature : SigningResponse → String → Tx PyError σ Unit
  reserveSubmit : String → Tx PyError σ Unit
  completeSubmit : String → CreateResult → Tx PyError σ Unit
  applyPollStatus : String → Option String → Option Int → Option String → Tx PyError σ Unit
  completeJob : AgentResult → Tx PyError σ Unit

namespace VpsAgentBroker

variable {σ : Type} (sha256 : List UInt8 → String) (broker : VpsAgentBroker σ)
  (result : AgentResult)

/-- The answer of the signer that a write result carries. -/
def signingResponse : SigningResponse where
  operationId := result.operationId
  documentSha256 := result.documentSha256.getD ""
  signatureBase64 := result.signatureBase64.getD ""
  certificateThumbprint := result.certificateThumbprint
  certificateSubject := result.certificateSubject
  certificateInn := result.certificateInn
  certificateValidFrom := result.certificateValidFrom
  certificateValidTo := result.certificateValidTo

/-- Accept the signature of an operation that awaits it. -/
def acceptAwaited (op : OperationRecord) : Tx PyError σ OperationRecord :=
  if op.state = .awaitingSignature then
    if emptyText result.documentSha256 || emptyText result.signatureBase64 then
      Tx.raise ⟨.agentReplayConflict, "write result misses signature/hash"⟩
    else do
      broker.acceptSignature (signingResponse result) broker.ownInn
      broker.get result.operationId
  else pure op

/-- Reserve the submission of a signed operation. -/
def reserveSigned (op : OperationRecord) : Tx PyError σ OperationRecord :=
  if op.state = .signed then do
    broker.reserveSubmit result.operationId
    broker.get result.operationId
  else pure op

/-- The create result that a write result reports. -/
def createResult (category : CreateCategory) : CreateResult where
  category := category
  httpStatus := result.httpStatus.getD 0
  documentId := result.documentId
  bodySha256 := if emptyText result.bodySha256 then sha256 [] else result.bodySha256.getD ""
  contentType := none

/-- The states in which a repeated write result is taken without effect. -/
def appliedStates : List WriteState :=
  [.submitted, .processing, .reconciliationRequired, .succeeded, .failed, .manualReview]

/-- Record the outcome of the create call of an operation that is being submitted. -/
def recordCreate (op : OperationRecord) : Tx PyError σ Unit :=
  if op.state = .submitting then
    match CreateCategory.ofValue? (result.createCategory.getD "") with
    | none => Tx.raise ⟨.agentReplayConflict, "unknown create result category"⟩
    | some category =>
      broker.completeSubmit result.operationId (createResult sha256 result category)
  else if op.state ∉ appliedStates then
    Tx.raise ⟨.agentReplayConflict, "unexpected operation state " ++ op.state.value⟩
  else pure ()

/-- `_apply_write_result`. -/
def applyWriteResult : Tx PyError σ Unit := do
  let op ← broker.get result.operationId
  let op ← broker.acceptAwaited result op
  let op ← broker.reserveSigned result op
  broker.recordCreate sha256 result op

/-- `_apply_poll_result`. -/
def applyPollResult : Tx PyError σ Unit := do
  let op ← broker.get result.operationId
  if op.state = .submitted ∨ op.state = .processing then
    broker.applyPollStatus result.operationId result.remoteStatus result.httpStatus
      result.bodySha256
  else pure ()

/-- The part of `submit_result` before the job is completed. -/
def applyResult : Tx PyError σ Unit :=
  if result.createCategory.isSome then broker.applyWriteResult sha256 result
  else if result.remoteStatus.isSome || result.errorCode = some "POLL_HTTP_ERROR" then
    broker.applyPollResult result
  else pure ()

def submitResult : Tx PyError σ Unit := do
  broker.applyResult sha256 result
  broker.completeJob result

end VpsAgentBroker

/-! ### The SQLite job store -/

/-- A row of `agent_jobs`. -/
structure AgentJobRow where
  job : AgentJob
  payloadSha256 : String
  state : AgentJobState
  resultSha256 : Option String
  createdAt : String

/-- The primary key of a row. -/
abbrev AgentJobRow.key (row : AgentJobRow) : String := row.job.jobId

/-- The table of agent jobs. -/
abbrev VpsAgentJobStore := Table AgentJobRow.key

namespace VpsAgentJobStore

variable (sha256 : List UInt8 → String) (contracts : PayloadContracts) (s : VpsAgentJobStore)

def payloadDigest (job : AgentJob) : String := sha256 (Text.utf8 (Json.canonical job.toJson))

def enqueue (job : AgentJob) (now : String) : Except PyError (AgentJob × VpsAgentJobStore) :=
  match job.validate sha256 contracts with
  | .error e => .error e
  | .ok () =>
    let digest := payloadDigest sha256 job
    match s.rows.find? fun row =>
        row.job.jobType = job.jobType ∧ row.job.operationId = job.operationId with
    | some existing =>
      if existing.payloadSha256 ≠ digest then
        .error ⟨.agentReplayConflict, "same agent operation has different payload"⟩
      else .ok (existing.job, s)
    | none =>
      match s.insert ⟨job, digest, .pending, none, now⟩ with
      | none => .error ⟨.integrityError, ""⟩
      | some s' => .ok (job, s')

/-- The first row comes before the second in the order of delivery. -/
def deliveredBefore (row row' : AgentJobRow) : Bool :=
  row.createdAt < row'.createdAt ||
    (row.createdAt = row'.createdAt && row.job.jobId < row'.job.jobId)

/-- The row that is delivered next. -/
def nextRow : Option AgentJobRow :=
  (s.rows.filter fun row => row.state ≠ .completed).foldl
    (fun best row =>
      match best with
      | none => some row
      | some row' => if deliveredBefore row row' then some row else some row') none

def fetchOne : Option AgentJob × VpsAgentJobStore :=
  match nextRow s with
  | none => (none, s)
  | some row =>
    (some row.job, s.modify row.key (fun row => { row with state := .leased }) fun _ => rfl)

def complete (result : AgentResult) : Except PyError VpsAgentJobStore :=
  match s.find? result.jobId with
  | none => .error ⟨.keyError, "unknown agent job"⟩
  | some row =>
    if row.job.operationId ≠ result.operationId then
      .error ⟨.agentReplayConflict, "result operation_id mismatch"⟩
    else if row.state = .completed then
      if row.resultSha256 ≠ some (result.digest sha256) then
        .error ⟨.agentReplayConflict, "incompatible duplicate agent result"⟩
      else .ok s
    else
      .ok (s.modify result.jobId
        (fun row => { row with
          state := .completed, resultSha256 := some (result.digest sha256) }) fun _ => rfl)

end VpsAgentJobStore

/-- The two stores of the server: each in a database of its own. -/
structure Vps where
  write : WriteStore
  jobs : VpsAgentJobStore

namespace Vps

/-- A transaction on the write store. -/
def onWrite {α : Type} (f : WriteStore → Except PyError (α × WriteStore)) : Tx PyError Vps Unit :=
  Tx.lift fun s => (f s.write).map fun result => ((), { s with write := result.2 })

/-- A transaction on the job store. -/
def onJobs (f : VpsAgentJobStore → Except PyError VpsAgentJobStore) : Tx PyError Vps Unit :=
  Tx.lift fun s => (f s.jobs).map fun jobs => ((), { s with jobs := jobs })

end Vps

/-- The broker over the SQLite stores. -/
def vpsBroker (sha256 : List UInt8 → String) (ownInn : String) : VpsAgentBroker Vps where
  ownInn := ownInn
  get operationId s := (s.write.get operationId, s)
  acceptSignature response ownInn := Vps.onWrite fun w => w.acceptSignature response ownInn
  reserveSubmit operationId := Vps.onWrite fun w => w.reserveSubmit operationId
  completeSubmit operationId result := Vps.onWrite fun w => w.completeSubmit operationId result
  applyPollStatus operationId status httpStatus bodySha256 :=
    Vps.onWrite fun w => w.applyPollStatus operationId status httpStatus bodySha256
  completeJob result := Vps.onJobs fun jobs => jobs.complete sha256 result

/-- `_job_id`. -/
def p0JobId (sha256 : List UInt8 → String) (jobType : AgentJobType)
    (operationId payloadSeed : String) : String :=
  "job_" ++ Text.take 32 (sha256 (Text.utf8
    ("p0-agent:v1:" ++ jobType.value ++ ":" ++ operationId ++ ":" ++ payloadSeed)))

/-- The job that `queue_write` makes of a signing request. -/
def writeJob (sha256 : List UInt8 → String) (jobType : AgentJobType) (request : SigningRequest) :
    AgentJob where
  jobId := p0JobId sha256 jobType request.operationId request.documentSha256
  jobType := jobType
  operationId := request.operationId
  pg := request.pg
  expectedInn := request.expectedInn
  documentType := some request.documentType
  documentSha256 := some request.documentSha256
  productDocumentBase64 := some request.productDocumentBase64

/-- `queue_write`. -/
def Vps.queueWrite (sha256 : List UInt8 → String) (contracts : PayloadContracts) (s : Vps)
    (operationId now : String) : Except PyError (AgentJob × Vps) :=
  match s.write.signingRequest operationId with
  | .error e => .error e
  | .ok request =>
    match AgentJobType.ofDocumentType? request.documentType with
    | none => .error ⟨.valueError, ""⟩
    | some jobType =>
      (s.jobs.enqueue sha256 contracts (writeJob sha256 jobType request) now).map fun result =>
        (result.1, { s with jobs := result.2 })

/-- The job that `queue_poll` makes. -/
def pollJob (sha256 : List UInt8 → String) (ownInn operationId documentId : String) :
    AgentJob where
  jobId := p0JobId sha256 .pollDocument operationId documentId
  jobType := .pollDocument
  operationId := operationId
  pg := p0Pg
  expectedInn := ownInn
  documentId := some documentId

/-- `queue_poll`. -/
def Vps.queuePoll (sha256 : List UInt8 → String) (contracts : PayloadContracts) (s : Vps)
    (ownInn operationId documentId now : String) : Except PyError (AgentJob × Vps) :=
  (s.jobs.enqueue sha256 contracts (pollJob sha256 ownInn operationId documentId) now).map
    fun result => (result.1, { s with jobs := result.2 })

namespace WindowsOutboundAgent

/-- The result `run_once` sends for the outcome of an execution: never the text of an
exception. -/
def resultOf (job : AgentJob) : Except PyError AgentResult → AgentResult
  | .ok result => result
  | .error exc =>
    { jobId := job.jobId
      operationId := job.operationId
      outcome := "MANUAL_REVIEW"
      documentSha256 := job.documentSha256
      errorCode :=
        if exc.cls = .agentProductionWriteDisabled then some "PRODUCTION_WRITE_DISABLED"
        else some exc.cls.name }

/-- `run_once` after a job was fetched: execute it and submit the result. -/
def deliver (sha256 : List UInt8 → String) (contracts : PayloadContracts)
    (executor : WindowsAgentExecutor) (broker : VpsAgentBroker Vps) (replay : ReplayStore) (s : Vps)
    (job : AgentJob) : Except PyError Bool × ReplayStore × Vps :=
  let executed := executor.execute sha256 contracts replay job
  let submitted := broker.submitResult sha256 (resultOf job executed.1) s
  (submitted.1.map fun _ => true, executed.2, submitted.2)

/-- `run_once`. -/
def runOnce (sha256 : List UInt8 → String) (contracts : PayloadContracts)
    (executor : WindowsAgentExecutor) (broker : VpsAgentBroker Vps) (replay : ReplayStore)
    (s : Vps) : Except PyError Bool × ReplayStore × Vps :=
  match VpsAgentJobStore.fetchOne s.jobs with
  | (none, jobs) => (.ok false, replay, { s with jobs := jobs })
  | (some job, jobs) =>
    deliver sha256 contracts executor broker replay { s with jobs := jobs } job

end WindowsOutboundAgent

end Wbcz
