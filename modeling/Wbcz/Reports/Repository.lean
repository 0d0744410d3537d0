import Mathlib.Data.Int.Notation
import Wbcz.Lib.Json
import Wbcz.Lib.Table
import Wbcz.Lib.Text
import Wbcz.Reports.Evidence
import Wbcz.Errors

/-!
# The report jobs and their repository

`SqlReportRepository` of `wbcz_web/repositories/reports.py`: the table of report jobs from
which local workers lease their work, the artifacts they publish, and the changes of state
that end a job. Time is counted in seconds. The event log and the audit history of a report,
which no operation reads, are left out; a write to them that fails rolls the transaction back.
-/

namespace Wbcz.Reports

/-- `ReportOrigin`: `LOCAL` and `TRUE_API_REMOTE`. -/
inductive ReportOrigin where
  | localReport
  | trueApiRemote
  deriving DecidableEq, Repr

/-- `ReportJobState`. -/
inductive ReportJobState where
  | requested
  | queued
  | generating
  | ready
  | failed
  | expired
  | cancelled
  deriving DecidableEq, Repr

/-- A row of `report_jobs`. -/
structure ReportJobRecord where
  id : String
  organisationId : Option String := none
  participantId : Option String := none
  origin : ReportOrigin
  participantInn : String
  reportType : String
  reportSchemaVersion : String
  outputFormat : String
  sensitivityClass : String
  filtersSanitized : Json
  requestFingerprintSha256 : String
  state : ReportJobState
  remoteTaskId : Option String := none
  rawRemoteStatus : Option String := none
  remoteMetadataSanitized : Json := .obj []
  remoteCreateAmbiguous : Bool := false
  requestedAt : ℤ
  startedAt : Option ℤ := none
  completedAt : Option ℤ := none
  leaseOwner : Option String := none
  leaseExpiresAt : Option ℤ := none
  claimedAt : Option ℤ := none
  heartbeatAt : Option ℤ := none
  attemptCount : ℕ := 0
  deliveryCount : ℕ := 0
  semanticRetryCount : ℕ := 0
  retryClassification : Option String := none
  priority : ℤ := 100
  nextAttemptAt : Option ℤ := none
  errorCode : Option String := none
  errorMessageRedacted : Option String := none

/-- The primary key of a row. -/
abbrev ReportJobRecord.key (row : ReportJobRecord) : String := row.id

/-- `ArtifactRole`: `OUTPUT` and `REMOTE_TRUE_API_ARCHIVE`. -/
inductive ArtifactRole where
  | output
  | remoteTrueApiArchive
  deriving DecidableEq, Repr

/-- A row of `report_artifacts`. -/
structure ReportArtifactRecord where
  artifactId : String
  reportJobId : String
  artifactRole : ArtifactRole
  publicationKey : String
  /-- `state == "READY"` -/
  ready : Bool := true
  storageKey : String
  byteSize : ℕ
  sha256 : String
  deletedAt : Option ℤ := none
  deriving DecidableEq, Repr

/-- The primary key of a row. -/
abbrev ReportArtifactRecord.key (row : ReportArtifactRecord) : String := row.artifactId

/-- The tables of the repository. -/
structure ReportStore where
  jobs : Table ReportJobRecord.key
  artifacts : Table ReportArtifactRecord.key

/-- `ClaimedReportJob`: what a worker takes away from a claim. -/
structure ClaimedReportJob where
  jobId : String
  participantInn : String
  reportType : String
  reportSchemaVersion : String
  outputFormat : String
  sensitivityClass : String
  filtersSanitized : Json
  requestFingerprintSha256 : String
  attemptCount : ℕ
  leaseOwner : String
  leaseExpiresAt : ℤ

/-- The arguments of `create_job`. -/
structure ReportRequest where
  origin : ReportOrigin
  organisationId : Option String := none
  participantId : Option String := none
  participantInn : String
  reportType : String
  reportSchemaVersion : String
  outputFormat : String
  sensitivityClass : String
  filtersSanitized : Json := .obj []
  requestFingerprintSha256 : String

namespace ReportJobRecord

/-- The row that `create_job` inserts. -/
def create (id : String) (request : ReportRequest) (now : ℤ) : ReportJobRecord where
  id := id
  organisationId := request.organisationId
  participantId := request.participantId
  origin := request.origin
  participantInn := request.participantInn
  reportType := request.reportType
  reportSchemaVersion := request.reportSchemaVersion
  outputFormat := request.outputFormat
  sensitivityClass := request.sensitivityClass
  filtersSanitized := sanitizeReportEvidence request.filtersSanitized
  requestFingerprintSha256 := request.requestFingerprintSha256
  state := .requested
  requestedAt := now

/-- What was asked for. -/
def asked (row : ReportJobRecord) : ReportRequest where
  origin := row.origin
  organisationId := row.organisationId
  participantId := row.participantId
  participantInn := row.participantInn
  reportType := row.reportType
  reportSchemaVersion := row.reportSchemaVersion
  outputFormat := row.outputFormat
  sensitivityClass := row.sensitivityClass
  filtersSanitized := row.filtersSanitized
  requestFingerprintSha256 := row.requestFingerprintSha256

/-- The rows among which `claim_next` chooses. -/
def claimable (now : ℤ) (row : ReportJobRecord) : Bool :=
  (row.state = .queued && row.nextAttemptAt.all fun at' => at' ≤ now) ||
    (row.state = .generating && row.leaseExpiresAt.any fun expires => expires ≤ now)

/-- The order of the queue: priority, then age, then id. -/
def precedes (row other : ReportJobRecord) : Bool :=
  row.priority < other.priority ||
    (row.priority = other.priority &&
      (row.requestedAt < other.requestedAt ||
        (row.requestedAt = other.requestedAt && row.id ≤ other.id)))

/-- No worker has the row any more. -/
def released (row : ReportJobRecord) : ReportJobRecord :=
  { row with
    leaseOwner := none
    leaseExpiresAt := none }

/-- A row whose output a worker left behind is found finished. -/
def recovered (row : ReportJobRecord) : ReportJobRecord :=
  { row.released with state := .ready }

/-- A row that was delivered too often. -/
def exhausted (row : ReportJobRecord) : ReportJobRecord :=
  { row.released with
    state := .failed
    errorCode := some "ATTEMPT_LIMIT"
    errorMessageRedacted := some "bounded report attempt limit reached" }

/-- The row as the worker that claims it leaves it. -/
def leased (worker : String) (leaseSeconds now : ℤ) (row : ReportJobRecord) : ReportJobRecord :=
  { row with
    state := .generating
    leaseOwner := some worker
    claimedAt := row.claimedAt <|> some now
    heartbeatAt := some now
    leaseExpiresAt := some (now + leaseSeconds)
    deliveryCount := row.deliveryCount + 1
    attemptCount := row.attemptCount + 1
    nextAttemptAt := none
    startedAt := row.startedAt <|> some now }

/-- What the worker is given. -/
def claimed (worker : String) (leaseSeconds now : ℤ) (row : ReportJobRecord) :
    ClaimedReportJob where
  jobId := row.id
  participantInn := row.participantInn
  reportType := row.reportType
  reportSchemaVersion := row.reportSchemaVersion
  outputFormat := row.outputFormat
  sensitivityClass := row.sensitivityClass
  filtersSanitized := row.filtersSanitized
  requestFingerprintSha256 := row.requestFingerprintSha256
  attemptCount := row.attemptCount + 1
  leaseOwner := worker
  leaseExpiresAt := now + leaseSeconds

/-- The row that `mark_ready` leaves. -/
def finished (now : ℤ) (row : ReportJobRecord) : ReportJobRecord :=
  { row.released with
    state := .ready
    completedAt := some now
    heartbeatAt := none }

/-- The row that `schedule_retry` leaves. -/
def retried (classification : String) (availableAt : ℤ) (consumesSemanticAttempt : Bool)
    (errorCode : Option String) (row : ReportJobRecord) : ReportJobRecord :=
  { row.released with
    state := .queued
    retryClassification := some (Text.take 48 classification)
    errorCode := some (Text.take 80 ((errorCode.filter (· ≠ "")).getD classification))
    nextAttemptAt := some availableAt
    heartbeatAt := none
    semanticRetryCount := row.semanticRetryCount + if consumesSemanticAttempt then 1 else 0 }

/-- The row that `fail` leaves. -/
def failedWith (now : ℤ) (code messageRedacted : String) (row : ReportJobRecord) :
    ReportJobRecord :=
  { row.released with
    state := .failed
    errorCode := some (Text.take 80 code)
    errorMessageRedacted := some (Text.take 1000 messageRedacted)
    completedAt := some now
    heartbeatAt := none }

/-- The row that `set_remote_create_ambiguous` leaves. -/
def createAmbiguous (row : ReportJobRecord) : ReportJobRecord :=
  { row with
    remoteCreateAmbiguous := true
    errorCode := some "REMOTE_CREATE_AMBIGUOUS"
    errorMessageRedacted := some "remote create outcome is ambiguous; blind retry prohibited" }

/-- The row that `set_remote_task` leaves. -/
def withRemoteTask (taskId : String) (rawStatus : Option String) (metadata : Json)
    (row : ReportJobRecord) : ReportJobRecord :=
  { row with
    remoteTaskId := some taskId
    rawRemoteStatus := rawStatus
    remoteMetadataSanitized := metadata }

/-- The worker has a lease of the row that has not expired. -/
def HeldBy (row : ReportJobRecord) (worker : String) (now : ℤ) : Prop :=
  row.state = .generating ∧ row.leaseOwner = some worker ∧
    ∃ expires, row.leaseExpiresAt = some expires ∧ now < expires

/-- A row under an unexpired lease is not offered to another worker. -/
theorem HeldBy.not_claimable {row : ReportJobRecord} {worker : String} {now : ℤ}
    (h : row.HeldBy worker now) : row.claimable now = false := by
  obtain ⟨hstate, _, expires, hexpires, hlt⟩ := h
  simp [claimable, hstate, hexpires, hlt]

end ReportJobRecord

namespace ReportStore

variable {s s' : ReportStore}

/-- A store without reports. -/
def empty : ReportStore := ⟨Table.empty, Table.empty⟩

/-- Overwrite the row of a job. -/
def put (s : ReportStore) (row : ReportJobRecord) : ReportStore :=
  { s with jobs := s.jobs.put row }

/-- An operation on the locked row of a job, which must exist. -/
def onRow (s : ReportStore) (jobId : String)
    (f : ReportJobRecord → Except PyError ReportJobRecord) : Except PyError ReportStore :=
  match s.jobs.find? jobId with
  | none => .error ⟨.keyError, jobId⟩
  | some row =>
    match f row with
    | .error e => .error e
    | .ok row' => .ok (s.put { row' with id := row.id })

def createJob (s : ReportStore) (id : String) (request : ReportRequest) (now : ℤ) :
    Except PyError ReportStore :=
  match s.jobs.insert (.create id request now) with
  | none => .error ⟨.integrityError, ""⟩
  | some jobs => .ok { s with jobs := jobs }

def queue (s : ReportStore) (jobId : String) : Except PyError ReportStore :=
  s.onRow jobId fun row =>
    match row.state with
    | .requested => .ok { row with state := .queued }
    | .queued | .generating | .ready => .ok row
    | .failed => .error ⟨.reportError, "report job cannot queue from FAILED"⟩
    | .expired => .error ⟨.reportError, "report job cannot queue from EXPIRED"⟩
    | .cancelled => .error ⟨.reportError, "report job cannot queue from CANCELLED"⟩

/-- `_has_ready_output`. -/
def hasReadyOutput (s : ReportStore) (jobId : String) : Bool :=
  s.artifacts.rows.any fun artifact =>
    artifact.reportJobId = jobId && artifact.artifactRole = .output && artifact.ready &&
      artifact.deletedAt.isNone

/-- The first row of a list in the order of the queue. -/
def firstOf : List ReportJobRecord → Option ReportJobRecord
  | [] => none
  | row :: rows =>
    match firstOf rows with
    | none => some row
    | some best => if row.precedes best then some row else some best

/-- The row that `claim_next` selects: the first one that can be claimed and that no other
transaction has locked. -/
def queueHead (s : ReportStore) (now : ℤ) (locked : String → Bool) : Option ReportJobRecord :=
  firstOf (s.jobs.rows.filter fun row => row.claimable now && !locked row.id)

def claimNext (s : ReportStore) (worker : String) (leaseSeconds : ℤ) (maxAttempts : ℕ) (now : ℤ)
    (locked : String → Bool) : Except PyError (Option ClaimedReportJob × ReportStore) :=
  if worker = "" ∨ leaseSeconds ≤ 0 ∨ maxAttempts = 0 then
    .error ⟨.valueError, "invalid worker lease configuration"⟩
  else
    match s.queueHead now locked with
    | none => .ok (none, s)
    | some row =>
      if s.hasReadyOutput row.id then .ok (none, s.put row.recovered)
      else if maxAttempts ≤ row.attemptCount then .ok (none, s.put row.exhausted)
      else .ok (some (row.claimed worker leaseSeconds now),
        s.put (row.leased worker leaseSeconds now))

/-- `finalize_artifact`: a publication key is used once; publishing the same artifact again
finds it published. -/
def finalizeArtifact (s : ReportStore) (artifact : ReportArtifactRecord) :
    Except PyError ReportStore :=
  match s.artifacts.rows.find? fun existing =>
      existing.publicationKey = artifact.publicationKey with
  | some existing =>
    if existing.reportJobId = artifact.reportJobId ∧ existing.sha256 = artifact.sha256 ∧
        existing.byteSize = artifact.byteSize ∧ existing.storageKey = artifact.storageKey ∧
        existing.ready then .ok s
    else .error ⟨.reportError, "publication key already finalized with different artifact"⟩
  | none =>
    if s.artifacts.rows.any fun existing => existing.storageKey = artifact.storageKey then
      .error ⟨.reportError, "artifact publication conflict"⟩
    else
      match s.artifacts.insert { artifact with ready := true, deletedAt := none } with
      | none => .error ⟨.reportError, "artifact publication conflict"⟩
      | some artifacts =>
        if (s.jobs.find? artifact.reportJobId).isNone then
          .error ⟨.keyError, artifact.reportJobId⟩
        else .ok { s with artifacts := artifacts }

def markReady (s : ReportStore) (jobId : String) (worker : Option String) (now : ℤ) :
    Except PyError ReportStore :=
  s.onRow jobId fun row =>
    if worker.isSome ∧ row.leaseOwner.isSome ∧ row.leaseOwner ≠ worker then
      .error ⟨.reportError, "report lease ownership mismatch"⟩
    else if s.hasReadyOutput jobId = false ∧ row.origin = .localReport then
      .error ⟨.reportError, "local report cannot become READY without finalized OUTPUT artifact"⟩
    else .ok (row.finished now)

def scheduleRetry (s : ReportStore) (jobId classification : String) (availableAt : ℤ)
    (consumesSemanticAttempt : Bool) (errorCode : Option String) : Except PyError ReportStore :=
  s.onRow jobId fun row =>
    if row.state ≠ .generating then
      .error ⟨.reportError, "retry can only be scheduled from GENERATING"⟩
    else .ok (row.retried classification availableAt consumesSemanticAttempt errorCode)

def fail (s : ReportStore) (jobId code messageRedacted : String) (now : ℤ) :
    Except PyError ReportStore :=
  s.onRow jobId fun row => .ok (row.failedWith now code messageRedacted)

def setRemoteCreateAmbiguous (s : ReportStore) (jobId : String) : Except PyError ReportStore :=
  s.onRow jobId fun row => .ok row.createAmbiguous

def setRemoteTask (s : ReportStore) (jobId taskId : String) (rawStatus : Option String)
    (metadata : Json) : Except PyError ReportStore :=
  s.onRow jobId fun row =>
    if row.remoteTaskId.isSome ∧ row.remoteTaskId ≠ some taskId then
      .error ⟨.reportError, "remote task identity conflict"⟩
    else .ok (row.withRemoteTask taskId rawStatus metadata)

/-! ### What the operations change -/

theorem mem_of_firstOf {rows : List ReportJobRecord} {row : ReportJobRecord}
    (h : firstOf rows = some row) : row ∈ rows := by
  induction rows generalizing row with
  | nil => cases h
  | cons first rest ih =>
    rw [firstOf] at h
    cases hrest : firstOf rest with
    | none =>
      rw [hrest] at h
      exact List.mem_cons.mpr (Or.inl (Option.some.inj h).symm)
    | some best =>
      rw [hrest] at h
      have hbest := ih hrest
      dsimp only at h
      split at h
      · exact List.mem_cons.mpr (Or.inl (Option.some.inj h).symm)
      · exact List.mem_cons.mpr (Or.inr (Option.some.inj h ▸ hbest))

/-- The selected row is a stored row that can be claimed. -/
theorem queueHead_spec {now : ℤ} {locked : String → Bool} {row : ReportJobRecord}
    (h : s.queueHead now locked = some row) :
    s.jobs.find? row.id = some row ∧ row.claimable now := by
  have hmem := mem_of_firstOf h
  rw [List.mem_filter, Bool.and_eq_true] at hmem
  exact ⟨Table.find?_of_mem hmem.1, hmem.2.1⟩

theorem find?_put {row row' : ReportJobRecord} {k : String}
    (h : s.jobs.find? row.id = some row') :
    (s.put row).jobs.find? k = if k = row.id then some row else s.jobs.find? k :=
  Table.find?_put h

/-- A locked operation rewrites the row of its job and no other. -/
theorem find?_onRow {jobId : String} {f : ReportJobRecord → Except PyError ReportJobRecord}
    (h : s.onRow jobId f = .ok s') :
    ∃ row row', s.jobs.find? jobId = some row ∧ row.id = jobId ∧ f row = .ok row' ∧
      ∀ k, s'.jobs.find? k =
        if k = row.id then some { row' with id := row.id } else s.jobs.find? k := by
  unfold onRow at h
  split at h
  · cases h
  · rename_i row hrow
    split at h
    · cases h
    · rename_i row' hrow'
      cases h
      have hkey : row.id = jobId := Table.key_of_find? hrow
      subst hkey
      exact ⟨row, row', hrow, rfl, hrow', fun k => find?_put hrow⟩

/-- All that a claim can do: nothing, or one of three rewritings of the selected row. -/
theorem claimNext_cases {worker : String} {leaseSeconds now : ℤ} {maxAttempts : ℕ}
    {locked : String → Bool} {given : Option ClaimedReportJob}
    (h : s.claimNext worker leaseSeconds maxAttempts now locked = .ok (given, s')) :
    (s.queueHead now locked = none ∧ given = none ∧ s' = s) ∨
    ∃ row, s.queueHead now locked = some row ∧
      ((given = none ∧ s' = s.put row.recovered) ∨ (given = none ∧ s' = s.put row.exhausted) ∨
        (0 < leaseSeconds ∧ given = some (row.claimed worker leaseSeconds now) ∧
          s' = s.put (row.leased worker leaseSeconds now))) := by
  unfold claimNext at h
  split at h
  · cases h
  · rename_i hargs
    split at h
    · cases h
      exact .inl ⟨‹_›, rfl, rfl⟩
    · rename_i row hhead
      refine .inr ⟨row, hhead, ?_⟩
      split at h
      · cases h
        exact .inl ⟨rfl, rfl⟩
      · split at h
        · cases h
          exact .inr (.inl ⟨rfl, rfl⟩)
        · cases h
          refine .inr (.inr ⟨?_, rfl, rfl⟩)
          simp only [not_or, Int.not_le] at hargs
          exact hargs.2.1

end ReportStore

end Wbcz.Reports
