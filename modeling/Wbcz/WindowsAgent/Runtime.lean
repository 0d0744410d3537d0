import Wbcz.WindowsAgent.Job
import Wbcz.WritePipeline.Pipeline

/-!
# The durable agent executor

`WindowsAgentReplayStore` and `DurableWindowsAgentExecutor` of
`windows_agent_runtime.py`: the local table that guards against a second create call, and
the execution of jobs over it. The signer, the session, the transport and the response
parsers belong to the executor and may answer anything or raise.

The replay table keeps a completed result as a value; its `result_json` is the canonical
text of that value.
-/

namespace Wbcz

/-- The states of a replay entry. -/
inductive ReplayState where
  | reserved
  | completed
  deriving DecidableEq, Repr

/-- A row of `windows_agent_write_replay`. -/
structure ReplayRow where
  operationId : String
  documentSha256 : String
  state : ReplayState
  resultSha256 : Option String
  result : Option AgentResult

/-- The local table of write attempts. -/
abbrev ReplayStore := Table ReplayRow.operationId

namespace ReplayStore

variable (sha256 : List UInt8 → String) (s : ReplayStore)

def hashConflict : PyError :=
  ⟨.agentReplayConflict, "operation replay with different immutable document hash"⟩

def unresolved : PyError :=
  ⟨.agentCreateOutcomeUnresolved,
    "previous create attempt outcome is unresolved; duplicate create blocked"⟩

/-- What `inspect` and `claim` make of an existing row. -/
def replay (row : ReplayRow) (documentSha256 : String) : Except PyError AgentResult :=
  if row.documentSha256 ≠ documentSha256 then .error hashConflict
  else
    match row.state, row.result with
    | .completed, some result => .ok result
    | .completed, none => .error ⟨.agentReplayConflict, "completed replay entry misses result"⟩
    | .reserved, _ => .error unresolved

def inspect (operationId documentSha256 : String) : Except PyError (Option AgentResult) :=
  match s.find? operationId with
  | none => .ok none
  | some row => (replay row documentSha256).map some

def claim (operationId documentSha256 : String) :
    Except PyError (Option AgentResult × ReplayStore) :=
  if operationId = "" ∨ documentSha256 = "" then
    .error ⟨.valueError, "operation_id and document_sha256 are required"⟩
  else
    match s.find? operationId with
    | some row => (replay row documentSha256).map fun result => (some result, s)
    | none =>
      match s.insert ⟨operationId, documentSha256, .reserved, none, none⟩ with
      | none => .error ⟨.integrityError, ""⟩
      | some s' => .ok (none, s')

def complete (operationId documentSha256 : String) (result : AgentResult) :
    Except PyError ReplayStore :=
  match s.find? operationId with
  | none => .error ⟨.agentReplayConflict, "write operation was not reserved"⟩
  | some row =>
    if row.documentSha256 ≠ documentSha256 then
      .error ⟨.agentReplayConflict, "write result hash mismatch"⟩
    else if row.state = .completed then
      if row.resultSha256 ≠ some (result.digest sha256) then
        .error ⟨.agentReplayConflict, "incompatible duplicate local result"⟩
      else .ok s
    else
      .ok (s.modify operationId
        (fun row => { row with
          state := .completed
          resultSha256 := some (result.digest sha256)
          result := some result }) fun _ => rfl)

end ReplayStore

/-- An executor with what it talks to. -/
structure WindowsAgentExecutor where
  participantInn : String
  productionWrite : Bool
  signDocumentBytes : AgentJob → Except PyError (String × CertificateMetadata)
  bearerToken : Except PyError String
  createDocument : String → String → String → String → Except PyError HttpResponse
  parseDocumentId : HttpResponse → Except PyError (Option String)
  pollDocument : String → String → Except PyError HttpResponse
  parseStatus : HttpResponse → Except PyError (Option String)
  read : AgentJob → Except PyError AgentResult

namespace WindowsAgentExecutor

variable (sha256 : List UInt8 → String) (contracts : PayloadContracts)
  (executor : WindowsAgentExecutor)

/-- The result of a create request the transport has answered. -/
def writeResult (job : AgentJob) (signature : String) (metadata : CertificateMetadata)
    (response : HttpResponse) : Except PyError AgentResult := do
  let base : AgentResult :=
    { jobId := job.jobId
      operationId := job.operationId
      outcome := ""
      documentSha256 := job.documentSha256
      signatureBase64 := some signature
      certificateThumbprint := metadata.certificateThumbprint
      certificateSubject := metadata.certificateSubject
      certificateInn := metadata.certificateInn
      certificateValidFrom := metadata.certificateValidFrom
      certificateValidTo := metadata.certificateValidTo
      httpStatus := some response.statusCode
      bodySha256 := some (sha256 response.body) }
  if response.statusCode = 200 ∨ response.statusCode = 201 then
    let documentId ← executor.parseDocumentId response
    if truthyText documentId then
      .ok { base with
        outcome := "SUBMITTED"
        createCategory := some CreateCategory.successWithId.value
        documentId := documentId }
    else
      .ok { base with
        outcome := "MANUAL_REVIEW"
        createCategory := some CreateCategory.successContractUnconfirmed.value
        documentId := documentId }
  else
    .ok { base with
      outcome := if response.statusCode ≥ 500 then "MANUAL_REVIEW" else "FAILED"
      createCategory := some (createCategoryOfStatus response.statusCode).value }

/-- The remote part of a write: the token, the create call and the reading of its response. -/
def createRemote (job : AgentJob) (signature : String) (metadata : CertificateMetadata)
    (token : String) : Except PyError AgentResult := do
  let response ← executor.createDocument (job.documentType.getD "")
    (job.productDocumentBase64.getD "") signature token
  executor.writeResult sha256 job signature metadata response

/-- `_write` of the durable executor. -/
def write (s : ReplayStore) (job : AgentJob) : Except PyError AgentResult × ReplayStore :=
  if ¬ executor.productionWrite then
    (.error ⟨.agentProductionWriteDisabled, "production_write=false"⟩, s)
  else
    let documentSha := job.documentSha256.getD ""
    match s.inspect job.operationId documentSha with
    | .error e => (.error e, s)
    | .ok (some previous) => (.ok previous, s)
    | .ok none =>
      match executor.signDocumentBytes job with
      | .error e => (.error e, s)
      | .ok (signature, metadata) =>
        match s.claim job.operationId documentSha with
        | .error e => (.error e, s)
        | .ok (some previous, claimed) => (.ok previous, claimed)
        | .ok (none, claimed) =>
          match executor.bearerToken with
          | .error e => (.error e, claimed)
          | .ok token =>
            match executor.createRemote sha256 job signature metadata token with
            | .error e => (.error e, claimed)
            | .ok result =>
              match claimed.complete sha256 job.operationId documentSha result with
              | .error e => (.error e, claimed)
              | .ok completed => (.ok result, completed)

/-- `_poll`. -/
def poll (job : AgentJob) : Except PyError AgentResult := do
  let token ← executor.bearerToken
  let response ← executor.pollDocument (job.documentId.getD "") token
  let bodySha := sha256 response.body
  if response.statusCode ≠ 200 then
    .ok { jobId := job.jobId, operationId := job.operationId, outcome := "MANUAL_REVIEW",
          httpStatus := some response.statusCode, bodySha256 := some bodySha,
          errorCode := some "POLL_HTTP_ERROR" }
  else
    let status ← executor.parseStatus response
    let outcome :=
      match classifyPollStatus status with
      | .intermediate => "INTERMEDIATE"
      | .terminalSuccess => "RECONCILIATION_REQUIRED"
      | .terminalFailure => "FAILED"
      | .manualReview => "MANUAL_REVIEW"
    .ok { jobId := job.jobId, operationId := job.operationId, outcome := outcome,
          httpStatus := some response.statusCode, remoteStatus := status,
          bodySha256 := some bodySha }

/-- The checks before a job is executed. -/
def checkJob (job : AgentJob) : Except PyError Unit :=
  match job.validate sha256 contracts with
  | .error e => .error e
  | .ok () =>
    if job.expectedInn ≠ executor.participantInn then
      .error ⟨.agentSecurityError, "expected_inn mismatch"⟩
    else .ok ()

/-- The key under which the creation of a report is reserved. -/
def reportCreateKey (job : AgentJob) : String := "m11-report-create:" ++ job.operationId

/-- `_report_create_payload_sha`. -/
def reportCreatePayloadSha (job : AgentJob) : String :=
  sha256 (Text.utf8 (Json.canonical job.toJson))

/-- `execute` of the durable executor. -/
def execute (s : ReplayStore) (job : AgentJob) : Except PyError AgentResult × ReplayStore :=
  match executor.checkJob sha256 contracts job with
  | .error e => (.error e, s)
  | .ok () =>
    if job.jobType = .reportCreate then
      match s.claim (reportCreateKey job) (reportCreatePayloadSha sha256 job) with
      | .error e => (.error e, s)
      | .ok (some previous, claimed) => (.ok previous, claimed)
      | .ok (none, claimed) =>
        match executor.read job with
        | .error e => (.error e, claimed)
        | .ok result =>
          match claimed.complete sha256 (reportCreateKey job) (reportCreatePayloadSha sha256 job)
              result with
          | .error e => (.error e, claimed)
          | .ok completed => (.ok result, completed)
    else
      match job.jobType.family with
      | .write => executor.write sha256 s job
      | .pollDocument => (executor.poll sha256 job, s)
      | _ => (executor.read job, s)

end WindowsAgentExecutor

end Wbcz
