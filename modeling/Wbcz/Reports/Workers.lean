import Wbcz.Lib.Transition
import Wbcz.Reports.Repository
import Wbcz.Reports.Retry

/-!
# Report workers

Any number of `ProductionWorkerRuntime` processes of `wbcz_web/services/worker_runtime.py`
work off the report jobs that users request, beside the orchestration of remote reports
(`TrueApiReportOrchestrator`), which keeps its jobs in the same table. A transaction holds
the lock of the row it changes until it commits and is one step here; one that rolls back
changes nothing and is no step. A worker goes on with a claim whenever it likes, also when
the lease of the claim has expired long ago.
-/

namespace Wbcz.Reports

/-- The settings of the workers. -/
structure WorkerConfig where
  leaseSeconds : ℤ
  schedulerMaxAgeSeconds : ℤ

/-- The tables, the clock and the claims that workers have not finished. -/
structure World where
  store : ReportStore
  now : ℤ
  held : List ClaimedReportJob

/-- What the result of an agent makes of the remote report it is about. -/
inductive RemoteOutcome where
  | taskCreated (taskId : String) (rawStatus : Option String) (metadata : Json)
  | createAmbiguous
  | statusObserved (rawStatus : Option String)
  | failed (code messageRedacted : String)
  | archiveReady

/-- What happens next; a worker's claim is given by its place among those that are held. -/
inductive Action where
  | pass (seconds : ℕ)
  | request (id : String) (request : ReportRequest)
  | claim (worker : String) (locked : String → Bool)
  | execute (place : ℕ) (artifact : ReportArtifactRecord)
  | handleFailure (place : ℕ) (exc : WorkerException) (drawn : ℤ)
  | ingest (artifact : ReportArtifactRecord)
  | remoteResult (reportId : String) (outcome : RemoteOutcome)

/-- The steps of the local workers. -/
def Action.byWorker : Action → Bool
  | .claim .. | .execute .. | .handleFailure .. => true
  | _ => false

/-- The report types that are generated locally, and the one that is switched off. -/
def localReportTypes : List String :=
  ["CIS_INVENTORY_STORED_SNAPSHOT", "PRODUCT_REFERENCE_READINESS", "DOCUMENT_LIFECYCLE",
    "TURNOVER_OPERATIONS", "AGGREGATION_OPERATIONS", "EDO_FOUNDATION_STATUS",
    "SUZ_FOUNDATION_STATUS", "WB_RECONCILIATION_EVIDENCE", "OZON_FOUNDATION_STATUS",
    "MANUAL_REVIEW_AND_CONFLICTS", "END_TO_END_RECONCILIATION", "P0_IMPORT_CONTROL_QUALITY"]

/-- The output formats of a report type. -/
def outputFormats (reportType : String) : List String :=
  if reportType = "END_TO_END_RECONCILIATION" then ["CSV", "XLSX", "JSON", "ZIP"]
  else ["CSV", "XLSX", "JSON"]

/-- What `execute_claimed` checks before it reads any data. -/
def checkClaimed (claimed : ClaimedReportJob) : Except PyError Unit :=
  if claimed.reportType ∉ localReportTypes then .error ⟨.valueError, ""⟩
  else if claimed.reportType = "P0_IMPORT_CONTROL_QUALITY" then
    .error ⟨.reportError, "SOURCE_PARTICIPANT_SCOPE_NOT_PROVABLE"⟩
  else if claimed.reportSchemaVersion ≠ "1.0" then
    .error ⟨.valueError, "report schema version mismatch"⟩
  else if claimed.outputFormat ∉ outputFormats claimed.reportType then
    .error ⟨.valueError, "report output format not allowed"⟩
  else .ok ()

/-- What the handler of a result writes to the row of the report. -/
def ReportStore.remoteChange (s : ReportStore) (now : ℤ) (reportId : String) :
    RemoteOutcome → Except PyError ReportStore
  | .taskCreated taskId rawStatus metadata => s.setRemoteTask reportId taskId rawStatus metadata
  | .createAmbiguous =>
    match s.setRemoteCreateAmbiguous reportId with
    | .error e => .error e
    | .ok marked =>
      marked.fail reportId "REMOTE_CREATE_AMBIGUOUS"
        "remote create outcome is ambiguous; operator evidence required" now
  | .statusObserved rawStatus =>
    s.onRow reportId fun row => .ok { row with rawRemoteStatus := rawStatus }
  | .failed code message => s.fail reportId code message now
  | .archiveReady =>
    if s.artifacts.rows.any fun artifact =>
        artifact.reportJobId = reportId &&
          artifact.artifactRole = ArtifactRole.remoteTrueApiArchive && artifact.ready then
      s.markReady reportId none now
    else
      s.fail reportId "ARTIFACT_INGRESS_NOT_FINALIZED"
        "agent reported upload but backend artifact is not finalized" now

namespace World

/-- No reports and no claims. -/
def initial (now : ℤ) : World := ⟨ReportStore.empty, now, []⟩

variable (config : WorkerConfig) (w : World)

/-- `create_job` and `queue`, in one request. -/
def request (id : String) (request : ReportRequest) : Except PyError World :=
  match w.store.createJob id request w.now with
  | .error e => .error e
  | .ok created =>
    match created.queue id with
    | .error e => .error e
    | .ok store => .ok { w with store := store }

/-- `_claim`. -/
def claim (worker : String) (locked : String → Bool) : Except PyError World :=
  match w.store.claimNext worker config.leaseSeconds 3 w.now locked with
  | .error e => .error e
  | .ok (given, store) => .ok { w with store := store, held := w.held ++ given.toList }

/-- `_execute`, when nothing raises: the output is published and the report is ready. -/
def execute (place : ℕ) (artifact : ReportArtifactRecord) : Except PyError World :=
  match w.held[place]? with
  | none => .error ⟨.lookupError, ""⟩
  | some claimed =>
    match checkClaimed claimed with
    | .error e => .error e
    | .ok () =>
      match w.store.finalizeArtifact
          { artifact with reportJobId := claimed.jobId, artifactRole := .output } with
      | .error e => .error e
      | .ok published =>
        match published.markReady claimed.jobId (some claimed.leaseOwner) w.now with
        | .error e => .error e
        | .ok store => .ok { w with store := store, held := w.held.eraseIdx place }

/-- The change that `_handle_failure` makes to the row it finds. -/
def failureOf (row : ReportJobRecord) (exc : WorkerException) (drawn : ℤ) :
    Except PyError ReportStore :=
  let classification := classifyWorkerException exc
  let decision := retryDecision classification row.semanticRetryCount w.now
    (row.requestedAt + config.schedulerMaxAgeSeconds) drawn
  if decision.retry then
    w.store.scheduleRetry row.id classification.value (w.now + decision.delaySeconds)
      decision.consumesSemanticAttempt (some classification.value)
  else w.store.fail row.id classification.value "worker terminal failure" w.now

/-- `_handle_failure`, after `_execute` has raised and was rolled back. -/
def handleFailure (place : ℕ) (exc : WorkerException) (drawn : ℤ) : Except PyError World :=
  match w.held[place]? with
  | none => .error ⟨.lookupError, ""⟩
  | some claimed =>
    match w.store.jobs.find? claimed.jobId with
    | none => .ok { w with held := w.held.eraseIdx place }
    | some row =>
      match w.failureOf config row exc drawn with
      | .error e => .error e
      | .ok store => .ok { w with store := store, held := w.held.eraseIdx place }

/-- `ingest_stream`: the archive of a remote report arrives. -/
def ingest (artifact : ReportArtifactRecord) : Except PyError World :=
  match w.store.finalizeArtifact { artifact with artifactRole := .remoteTrueApiArchive } with
  | .error e => .error e
  | .ok store => .ok { w with store := store }

/-- `handle_agent_result`: what a result does to the report, whose job an orchestrator made. -/
def remoteResult (reportId : String) (outcome : RemoteOutcome) : Except PyError World :=
  match (w.store.jobs.find? reportId).filter fun row => row.origin = .trueApiRemote with
  | none => .error ⟨.keyError, reportId⟩
  | some _ =>
    match w.store.remoteChange w.now reportId outcome with
    | .error e => .error e
    | .ok store => .ok { w with store := store }

end World

/-- One step; a transaction that raises is rolled back. -/
def step (config : WorkerConfig) (w : World) : Action → Except PyError World
  | .pass seconds => .ok { w with now := w.now + seconds }
  | .request id request => w.request id request
  | .claim worker locked => w.claim config worker locked
  | .execute place artifact => w.execute place artifact
  | .handleFailure place exc drawn => w.handleFailure config place exc drawn
  | .ingest artifact => w.ingest artifact
  | .remoteResult reportId outcome => w.remoteResult reportId outcome

/-! ### What a step changes -/

section Effects

variable {config : WorkerConfig} {w w' : World}

/-- The row of one job is rewritten, and no other. -/
def Rewrites (w w' : World) (row row' : ReportJobRecord) : Prop :=
  w.store.jobs.find? row.id = some row ∧
    ∀ k, w'.store.jobs.find? k = if k = row.id then some row' else w.store.jobs.find? k

theorem finalizeArtifact_jobs {s s' : ReportStore} {artifact : ReportArtifactRecord}
    (h : s.finalizeArtifact artifact = .ok s') : s'.jobs = s.jobs := by
  unfold ReportStore.finalizeArtifact at h
  split at h
  · split at h
    · cases h
      rfl
    · cases h
  · split at h
    · cases h
    · split at h
      · cases h
      · split at h
        · cases h
        · cases h
          rfl

/-- A request adds a report that is queued at once. -/
theorem request_spec {id : String} {request : ReportRequest}
    (h : w.request id request = .ok w') :
    w'.now = w.now ∧ w'.held = w.held ∧ w.store.jobs.find? id = none ∧
      ∃ row, row.id = id ∧ row.asked = (ReportJobRecord.create id request w.now).asked ∧
        row.state = .queued ∧ row.leaseOwner = none ∧
        ∀ k, w'.store.jobs.find? k = if k = id then some row else w.store.jobs.find? k := by
  unfold World.request at h
  split at h
  · cases h
  · rename_i created hcreate
    split at h
    · cases h
    · rename_i store hqueue
      cases h
      unfold ReportStore.createJob at hcreate
      split at hcreate
      · cases hcreate
      · rename_i jobs hinsert
        cases hcreate
        obtain ⟨row, row', hrow, hkey, hrow', hfind⟩ := ReportStore.find?_onRow hqueue
        have hnew := (Table.insert_eq_some hinsert).1
        have hself := Table.find?_insert_self hinsert
        have : row = .create id request w.now := Option.some.inj (hrow.symm.trans hself)
        subst this
        cases hrow'
        refine ⟨rfl, rfl, hnew, { ReportJobRecord.create id request w.now with state := .queued },
          rfl, rfl, rfl, rfl, fun k => ?_⟩
        rw [hfind]
        change (if k = id then _ else _) = if k = id then _ else _
        split
        · rfl
        · exact Table.find?_insert_ne hinsert ‹_›

theorem execute_spec {place : ℕ} {artifact : ReportArtifactRecord}
    (h : w.execute place artifact = .ok w') :
    ∃ claimed row, w.held[place]? = some claimed ∧ row.id = claimed.jobId ∧
      Rewrites w w' row (row.finished w.now) ∧ w'.now = w.now ∧
      w'.held = w.held.eraseIdx place := by
  unfold World.execute at h
  split at h
  · cases h
  · rename_i claimed hclaimed
    split at h
    · cases h
    · split at h
      · cases h
      · rename_i published hpublished
        split at h
        · cases h
        · rename_i store hready
          cases h
          have hjobs := finalizeArtifact_jobs hpublished
          obtain ⟨row, row', hrow, hkey, hrow', hfind⟩ := ReportStore.find?_onRow hready
          rw [hjobs] at hrow
          split at hrow'
          · cases hrow'
          · split at hrow'
            · cases hrow'
            · cases hrow'
              refine ⟨claimed, row, hclaimed, hkey, ⟨hkey ▸ hrow, fun k => ?_⟩, rfl, rfl⟩
              rw [hfind, hjobs]
              rfl

theorem failureOf_spec {row : ReportJobRecord} {exc : WorkerException} {drawn : ℤ}
    {store : ReportStore} (hrow : w.store.jobs.find? row.id = some row)
    (h : w.failureOf config row exc drawn = .ok store) :
    ∃ row', (∀ k, store.jobs.find? k = if k = row.id then some row' else w.store.jobs.find? k) ∧
      row'.asked = row.asked ∧
      ((row.state = .generating ∧ row'.state = .queued) ∨ row'.state = .failed) := by
  unfold World.failureOf at h
  simp only at h
  split at h
  · obtain ⟨row₀, row', hrow₀, -, hrow', hfind⟩ := ReportStore.find?_onRow h
    obtain rfl : row₀ = row := Option.some.inj (hrow₀.symm.trans hrow)
    split at hrow'
    · cases hrow'
    · cases hrow'
      rename_i hstate
      exact ⟨_, hfind, rfl, .inl ⟨not_not.mp hstate, rfl⟩⟩
  · obtain ⟨row₀, row', hrow₀, -, hrow', hfind⟩ := ReportStore.find?_onRow h
    obtain rfl : row₀ = row := Option.some.inj (hrow₀.symm.trans hrow)
    cases hrow'
    exact ⟨_, hfind, rfl, .inr rfl⟩

theorem handleFailure_spec {place : ℕ} {exc : WorkerException} {drawn : ℤ}
    (h : w.handleFailure config place exc drawn = .ok w') :
    ∃ claimed, w.held[place]? = some claimed ∧ w'.now = w.now ∧
      w'.held = w.held.eraseIdx place ∧
      ((w.store.jobs.find? claimed.jobId = none ∧ w'.store = w.store) ∨
        ∃ row row', row.id = claimed.jobId ∧ Rewrites w w' row row' ∧
          row'.asked = row.asked ∧
          ((row.state = .generating ∧ row'.state = .queued) ∨ row'.state = .failed)) := by
  unfold World.handleFailure at h
  split at h
  · cases h
  · rename_i claimed hclaimed
    refine ⟨claimed, hclaimed, ?_⟩
    split at h
    · cases h
      exact ⟨rfl, rfl, .inl ⟨‹_›, rfl⟩⟩
    · rename_i row hrow
      have hkey : row.id = claimed.jobId := Table.key_of_find? hrow
      split at h
      · cases h
      · rename_i store hstore
        cases h
        rw [← hkey] at hrow
        obtain ⟨row', hfind, hasked, hstate⟩ := failureOf_spec hrow hstore
        exact ⟨rfl, rfl, .inr ⟨row, row', hkey, ⟨hrow, hfind⟩, hasked, hstate⟩⟩

/-- Every change that a result of an agent makes is to the row of its report. -/
theorem remoteChange_spec {s s' : ReportStore} {now : ℤ} {reportId : String}
    {outcome : RemoteOutcome} (h : s.remoteChange now reportId outcome = .ok s') :
    ∃ row row', s.jobs.find? reportId = some row ∧ row.id = reportId ∧
      row'.asked = row.asked ∧
      ∀ k, s'.jobs.find? k = if k = row.id then some row' else s.jobs.find? k := by
  unfold ReportStore.remoteChange at h
  cases outcome with
  | taskCreated taskId rawStatus metadata =>
    obtain ⟨row, row', hrow, hkey, hrow', hfind⟩ := ReportStore.find?_onRow h
    split at hrow'
    · cases hrow'
    · cases hrow'
      exact ⟨row, row.withRemoteTask taskId rawStatus metadata, hrow, hkey, rfl, hfind⟩
  | createAmbiguous =>
    simp only at h
    split at h
    · cases h
    · rename_i marked hmarked
      obtain ⟨row, row', hrow, hkey, hrow', hfind⟩ := ReportStore.find?_onRow hmarked
      obtain ⟨row₁, row₁', hrow₁, hkey₁, hrow₁', hfind₁⟩ := ReportStore.find?_onRow h
      cases hrow'
      cases hrow₁'
      rw [hfind, if_pos hkey.symm] at hrow₁
      cases hrow₁
      refine ⟨row, row.createAmbiguous.failedWith now "REMOTE_CREATE_AMBIGUOUS"
        "remote create outcome is ambiguous; operator evidence required", hrow, hkey, rfl,
        fun k => ?_⟩
      rw [hfind₁, hfind]
      change (if k = row.id then _ else if k = row.id then _ else _) = if k = row.id then _ else _
      split
      · rfl
      · rfl
  | statusObserved rawStatus =>
    obtain ⟨row, row', hrow, hkey, hrow', hfind⟩ := ReportStore.find?_onRow h
    cases hrow'
    exact ⟨row, { row with rawRemoteStatus := rawStatus }, hrow, hkey, rfl, hfind⟩
  | failed code message =>
    obtain ⟨row, row', hrow, hkey, hrow', hfind⟩ := ReportStore.find?_onRow h
    cases hrow'
    exact ⟨row, row.failedWith now code message, hrow, hkey, rfl, hfind⟩
  | archiveReady =>
    simp only at h
    split at h
    · obtain ⟨row, row', hrow, hkey, hrow', hfind⟩ := ReportStore.find?_onRow h
      split at hrow'
      · cases hrow'
      · split at hrow'
        · cases hrow'
        · cases hrow'
          exact ⟨row, row.finished now, hrow, hkey, rfl, hfind⟩
    · obtain ⟨row, row', hrow, hkey, hrow', hfind⟩ := ReportStore.find?_onRow h
      cases hrow'
      exact ⟨row, row.failedWith now "ARTIFACT_INGRESS_NOT_FINALIZED"
        "agent reported upload but backend artifact is not finalized", hrow, hkey, rfl, hfind⟩

/-- A result of an agent rewrites the row of a remote report. -/
theorem remoteResult_spec {reportId : String} {outcome : RemoteOutcome}
    (h : w.remoteResult reportId outcome = .ok w') :
    w'.now = w.now ∧ w'.held = w.held ∧ ∃ row row', row.id = reportId ∧
      row.origin = .trueApiRemote ∧ row'.asked = row.asked ∧ Rewrites w w' row row' := by
  unfold World.remoteResult at h
  split at h
  · cases h
  · rename_i found hfound
    split at h
    · cases h
    · rename_i store hstore
      cases h
      obtain ⟨row, row', hrow, hkey, hasked, hfind⟩ := remoteChange_spec hstore
      rw [hrow, Option.filter_eq_some_iff] at hfound
      refine ⟨rfl, rfl, row, row', hkey, ?_, hasked, hkey ▸ hrow, hfind⟩
      obtain ⟨rfl, hremote⟩ : row = found ∧ _ := ⟨Option.some.inj hfound.1, hfound.2⟩
      simpa using hremote

/-- A claim does nothing, or rewrites the row it selects and may hand it to the worker. -/
theorem claim_spec {worker : String} {locked : String → Bool}
    (h : w.claim config worker locked = .ok w') :
    w'.now = w.now ∧
      ((w.store.queueHead w.now locked = none ∧ w'.store = w.store ∧ w'.held = w.held) ∨
        ∃ row row', w.store.queueHead w.now locked = some row ∧ Rewrites w w' row row' ∧
          row'.asked = row.asked ∧
          ((w'.held = w.held ∧ (row' = row.recovered ∨ row' = row.exhausted)) ∨
            (0 < config.leaseSeconds ∧ row' = row.leased worker config.leaseSeconds w.now ∧
              w'.held = w.held ++ [row.claimed worker config.leaseSeconds w.now]))) := by
  unfold World.claim at h
  split at h
  · cases h
  · rename_i given store hclaim
    cases h
    refine ⟨rfl, ?_⟩
    rcases ReportStore.claimNext_cases hclaim with ⟨hnone, rfl, rfl⟩ | ⟨row, hhead, hcase⟩
    · exact .inl ⟨hnone, rfl, by simp⟩
    · have hrow := (ReportStore.queueHead_spec hhead).1
      refine .inr ?_
      rcases hcase with ⟨rfl, rfl⟩ | ⟨rfl, rfl⟩ | ⟨hlease, rfl, rfl⟩
      · exact ⟨row, row.recovered, hhead, ⟨hrow, fun k => ReportStore.find?_put hrow⟩, rfl,
          .inl ⟨by simp, .inl rfl⟩⟩
      · exact ⟨row, row.exhausted, hhead, ⟨hrow, fun k => ReportStore.find?_put hrow⟩, rfl,
          .inl ⟨by simp, .inr rfl⟩⟩
      · exact ⟨row, row.leased worker config.leaseSeconds w.now, hhead,
          ⟨hrow, fun k => ReportStore.find?_put hrow⟩, rfl, .inr ⟨hlease, rfl, rfl⟩⟩

theorem ingest_spec {artifact : ReportArtifactRecord} (h : w.ingest artifact = .ok w') :
    w'.now = w.now ∧ w'.held = w.held ∧ w'.store.jobs = w.store.jobs := by
  unfold World.ingest at h
  split at h
  · cases h
  · rename_i store hstore
    cases h
    exact ⟨rfl, rfl, finalizeArtifact_jobs hstore⟩

/-- Every step keeps the rows it finds, with what was asked for. -/
theorem step_asked {a : Action} (h : step config w a = .ok w') {k : String}
    {row : ReportJobRecord} (hrow : w.store.jobs.find? k = some row) :
    ∃ row', w'.store.jobs.find? k = some row' ∧ row'.asked = row.asked := by
  have same : w'.store.jobs = w.store.jobs →
      ∃ row', w'.store.jobs.find? k = some row' ∧ row'.asked = row.asked := by
    intro hjobs
    exact ⟨row, by rw [hjobs, hrow], rfl⟩
  have rewritten : ∀ r r', Rewrites w w' r r' → r'.asked = r.asked →
      ∃ row', w'.store.jobs.find? k = some row' ∧ row'.asked = row.asked := by
    rintro r r' ⟨hr, hfind⟩ hasked
    rw [hfind]
    split
    · rename_i hk
      subst hk
      obtain rfl : r = row := Option.some.inj (hr.symm.trans hrow)
      exact ⟨r', rfl, hasked⟩
    · exact ⟨row, hrow, rfl⟩
  cases a with
  | pass seconds =>
    cases h
    exact same rfl
  | request id request =>
    obtain ⟨-, -, hnew, row', -, -, -, -, hfind⟩ := request_spec h
    rw [hfind]
    split
    · rename_i hk
      subst hk
      rw [hnew] at hrow
      cases hrow
    · exact ⟨row, hrow, rfl⟩
  | claim worker locked =>
    obtain ⟨-, ⟨-, hstore, -⟩ | ⟨r, r', -, hrewrites, hasked, -⟩⟩ := claim_spec h
    · exact same (congrArg ReportStore.jobs hstore)
    · exact rewritten r r' hrewrites hasked
  | execute place artifact =>
    obtain ⟨claimed, r, -, -, hrewrites, -⟩ := execute_spec h
    exact rewritten r _ hrewrites rfl
  | handleFailure place exc drawn =>
    obtain ⟨claimed, -, -, -, ⟨-, hstore⟩ | ⟨r, r', -, hrewrites, hasked, -⟩⟩ :=
      handleFailure_spec h
    · exact same (congrArg ReportStore.jobs hstore)
    · exact rewritten r r' hrewrites hasked
  | ingest artifact => exact same (ingest_spec h).2.2
  | remoteResult reportId outcome =>
    obtain ⟨-, -, r, r', -, -, hasked, hrewrites⟩ := remoteResult_spec h
    exact rewritten r r' hrewrites hasked

/-- A claim is held already, or the step is the one that hands it out. -/
theorem held_step {a : Action} (h : step config w a = .ok w') {claimed : ClaimedReportJob}
    (hclaimed : claimed ∈ w'.held) :
    claimed ∈ w.held ∨ ∃ worker locked row row', a = .claim worker locked ∧
      w.store.queueHead w.now locked = some row ∧ row'.asked = row.asked ∧
      w'.store.jobs.find? row.id = some row' ∧
      claimed = row.claimed worker config.leaseSeconds w.now := by
  cases a with
  | pass seconds =>
    cases h
    exact .inl hclaimed
  | request id request =>
    rw [(request_spec h).2.1] at hclaimed
    exact .inl hclaimed
  | claim worker locked =>
    obtain ⟨-, ⟨-, -, hheld⟩ | ⟨row, row', hsel, hrewrites, hasked, hcase⟩⟩ := claim_spec h
    · rw [hheld] at hclaimed
      exact .inl hclaimed
    · rcases hcase with ⟨hheld, -⟩ | ⟨-, -, hheld⟩
      · rw [hheld] at hclaimed
        exact .inl hclaimed
      · rw [hheld, List.mem_append, List.mem_singleton] at hclaimed
        refine hclaimed.imp id fun heq =>
          ⟨worker, locked, row, row', rfl, hsel, hasked, ?_, heq⟩
        rw [hrewrites.2]
        exact if_pos rfl
  | execute place artifact =>
    obtain ⟨-, -, -, -, -, -, hheld⟩ := execute_spec h
    rw [hheld] at hclaimed
    exact .inl (List.mem_of_mem_eraseIdx hclaimed)
  | handleFailure place exc drawn =>
    obtain ⟨-, -, -, hheld, -⟩ := handleFailure_spec h
    rw [hheld] at hclaimed
    exact .inl (List.mem_of_mem_eraseIdx hclaimed)
  | ingest artifact =>
    rw [(ingest_spec h).2.1] at hclaimed
    exact .inl hclaimed
  | remoteResult reportId outcome =>
    rw [(remoteResult_spec h).2.1] at hclaimed
    exact .inl hclaimed

end Effects

end Wbcz.Reports
