import Wbcz.Reports.Leases

/-!
# Retries that are granted, and deliveries that are counted

`_handle_failure` asks the retry policy, which counts the retries of a job by the class of its
failures; `claim_next` counts every delivery of the job, and gives up after three. A worker that
drains puts its job back as well, and the next delivery counts like any other. Between the two
counters a retry that was granted can be dropped.

## Main results

* `attempts_eq_deliveries` — the attempts of a job are its deliveries
* `Settled.step` — a report with an output is ready or has failed
* `granted_retry_executed_iff` — a granted retry is executed again exactly when the job was handed
  out fewer than three times before
* `granted_retry_dropped` — the third retry of a storage failure is never executed
-/

namespace Wbcz.Reports

open Transition (Run)

/-! ## Drains -/

/-- The row that `release_for_drain` leaves. -/
def ReportJobRecord.drained (now : ℤ) (row : ReportJobRecord) : ReportJobRecord :=
  { row.released with
    state := .queued
    heartbeatAt := none
    nextAttemptAt := some now }

def ReportStore.releaseForDrain (s : ReportStore) (jobId worker : String) (now : ℤ) :
    Except PyError ReportStore :=
  s.onRow jobId fun row =>
    if row.state ≠ .generating ∨ row.leaseOwner ≠ some worker then
      .error ⟨.reportError, "report lease ownership mismatch"⟩
    else .ok (row.drained now)

/-- What a worker does next. -/
inductive WorkerAction where
  | act (a : Action)
  | drain (jobId worker : String)

/-- One step of the workers, of which any may drain. -/
def workerStep (config : WorkerConfig) (w : World) : WorkerAction → Except PyError World
  | .act a => step config w a
  | .drain jobId worker =>
    match w.store.releaseForDrain jobId worker w.now with
    | .error e => .error e
    | .ok store => .ok { w with store := store }

/-! ## Deliveries -/

/-- The job that a step hands to a worker. -/
def given (w w' : World) : Option String :=
  (w'.held[w.held.length]?).map ClaimedReportJob.jobId

/-- A step, and the job that it handed to a worker. -/
structure Delivery where
  action : WorkerAction
  given : Option String

/-- The steps, as a relation over what is seen. -/
def DeliveryStep (config : WorkerConfig) (w : World) (e : Delivery) (w' : World) : Prop :=
  workerStep config w e.action = .ok w' ∧ e.given = given w w'

/-- How often a job was handed to a worker. -/
def deliveries (jobId : String) (events : List Delivery) : ℕ :=
  events.countP fun e => e.given = some jobId

/-- The attempts that the row of a job has counted. -/
def ReportStore.attempts (s : ReportStore) (jobId : String) : ℕ :=
  ((s.jobs.find? jobId).map ReportJobRecord.attemptCount).getD 0

/-- A claim of a worker whose execution has failed is put back for a retry that the policy
grants. -/
def Grants (config : WorkerConfig) (w : World) (jobId : String) (w' : World) : Prop :=
  ∃ place exc drawn claimed row, step config w (.handleFailure place exc drawn) = .ok w' ∧
    w.held[place]? = some claimed ∧ claimed.jobId = jobId ∧
    w.store.jobs.find? jobId = some row ∧
    (retryDecision (classifyWorkerException exc) row.semanticRetryCount w.now
      (row.requestedAt + config.schedulerMaxAgeSeconds) drawn).retry = true

/-- The next claim takes a job. -/
def Takes (w : World) (locked : String → Bool) (jobId : String) : Prop :=
  (w.store.queueHead w.now locked).map ReportJobRecord.id = some jobId

/-- A job is handed to a worker, which is generating it. -/
def ExecutedAgain (w : World) (jobId : String) (w' : World) : Prop :=
  given w w' = some jobId ∧
    (w'.store.jobs.find? jobId).map ReportJobRecord.state = some .generating

/-- A job has failed for its attempts. -/
def AttemptLimit (jobId : String) (w' : World) : Prop :=
  ∃ row, w'.store.jobs.find? jobId = some row ∧ row.state = .failed ∧
    row.errorCode = some "ATTEMPT_LIMIT"

section Attempts

variable {s s' : ReportStore} {config : WorkerConfig} {w w' : World} {k jobId : String}

/-- An operation on a row that counts no attempt. -/
theorem attempts_onRow {f : ReportJobRecord → Except PyError ReportJobRecord}
    (hf : ∀ row row', f row = .ok row' → row'.attemptCount = row.attemptCount)
    (h : s.onRow jobId f = .ok s') (k : String) : s'.attempts k = s.attempts k := by
  obtain ⟨row, row', hrow, hkey, hrow', hfind⟩ := ReportStore.find?_onRow h
  rw [ReportStore.attempts, hfind, ReportStore.attempts]
  by_cases hk : k = row.id
  · rw [if_pos hk, hk, hkey, hrow, Option.map_some, Option.map_some]
    exact hf row row' hrow'
  · rw [if_neg hk]

theorem attempts_createJob {id : String} {request : ReportRequest} {now : ℤ}
    (h : s.createJob id request now = .ok s') (k : String) : s'.attempts k = s.attempts k := by
  unfold ReportStore.createJob at h
  split at h
  · cases h
  · rename_i jobs hinsert
    cases h
    unfold ReportStore.attempts
    by_cases hk : k = id
    · have hnew := (Table.insert_eq_some hinsert).1
      have hself := Table.find?_insert_self hinsert
      subst hk
      change ((jobs.find? k).map _).getD 0 = ((s.jobs.find? k).map _).getD 0
      change s.jobs.find? k = none at hnew
      change jobs.find? k = _ at hself
      rw [hself, hnew]
      rfl
    · rw [Table.find?_insert_ne hinsert hk]

theorem attempts_queue (h : s.queue jobId = .ok s') (k : String) :
    s'.attempts k = s.attempts k := by
  refine attempts_onRow (fun row row' hrow => ?_) h k
  split at hrow <;> cases hrow <;> rfl

theorem attempts_markReady {worker : Option String} {now : ℤ}
    (h : s.markReady jobId worker now = .ok s') (k : String) : s'.attempts k = s.attempts k := by
  refine attempts_onRow (fun row row' hrow => ?_) h k
  split at hrow
  · cases hrow
  · split at hrow
    · cases hrow
    · cases hrow
      rfl

theorem attempts_fail {code message : String} {now : ℤ}
    (h : s.fail jobId code message now = .ok s') (k : String) : s'.attempts k = s.attempts k :=
  attempts_onRow (fun row row' hrow => by cases hrow; rfl) h k

theorem attempts_scheduleRetry {classification : String} {at' : ℤ} {consumes : Bool}
    {code : Option String} (h : s.scheduleRetry jobId classification at' consumes code = .ok s')
    (k : String) : s'.attempts k = s.attempts k := by
  refine attempts_onRow (fun row row' hrow => ?_) h k
  split at hrow
  · cases hrow
  · cases hrow
    rfl

theorem attempts_remoteChange {now : ℤ} {outcome : RemoteOutcome}
    (h : s.remoteChange now jobId outcome = .ok s') (k : String) :
    s'.attempts k = s.attempts k := by
  cases outcome with
  | taskCreated taskId rawStatus metadata =>
    refine attempts_onRow (fun row row' hrow => ?_) h k
    split at hrow
    · cases hrow
    · cases hrow
      rfl
  | createAmbiguous =>
    simp only [ReportStore.remoteChange] at h
    split at h
    · cases h
    · rename_i marked hmarked
      rw [attempts_fail h, attempts_onRow (fun row row' hrow => by cases hrow; rfl) hmarked]
  | statusObserved rawStatus =>
    simp only [ReportStore.remoteChange] at h
    exact attempts_onRow (fun row row' hrow => by cases hrow; rfl) h k
  | failed code message => exact attempts_fail h k
  | archiveReady =>
    simp only [ReportStore.remoteChange] at h
    split at h
    · exact attempts_markReady h k
    · exact attempts_fail h k

theorem attempts_of_jobs (h : s'.jobs = s.jobs) (k : String) : s'.attempts k = s.attempts k := by
  rw [ReportStore.attempts, ReportStore.attempts, h]

/-- A claim counts an attempt of the job that it hands out, and of no other. -/
theorem attempts_claimNext {worker : String} {leaseSeconds now : ℤ} {maxAttempts : ℕ}
    {locked : String → Bool} {claimed : Option ClaimedReportJob}
    (h : s.claimNext worker leaseSeconds maxAttempts now locked = .ok (claimed, s')) (k : String) :
    s'.attempts k = s.attempts k +
      if claimed.map ClaimedReportJob.jobId = some k then 1 else 0 := by
  rcases ReportStore.claimNext_cases h with ⟨-, rfl, rfl⟩ | ⟨row, hhead, hcase⟩
  · simp
  · have hrow := (ReportStore.queueHead_spec hhead).1
    -- whatever becomes of the row, the others are as they were
    have hput : ∀ row' : ReportJobRecord, row'.id = row.id →
        (s.put row').attempts k = if k = row.id then row'.attemptCount else s.attempts k := by
      intro row' hid
      rw [← hid] at hrow
      rw [ReportStore.attempts, ReportStore.find?_put hrow, hid]
      split <;> rfl
    have hself : s.attempts row.id = row.attemptCount := by
      rw [ReportStore.attempts, hrow]
      rfl
    have hkept : ∀ row' : ReportJobRecord, row'.id = row.id →
        row'.attemptCount = row.attemptCount → (s.put row').attempts k = s.attempts k := by
      intro row' hid hcount
      rw [hput row' hid]
      split
      · rename_i hk
        rw [hk, hself, hcount]
      · rfl
    rcases hcase with ⟨rfl, rfl⟩ | ⟨rfl, rfl⟩ | ⟨-, rfl, rfl⟩
    · rw [hkept row.recovered rfl rfl]
      simp
    · rw [hkept row.exhausted rfl rfl]
      simp
    · have hid : (some (row.claimed worker leaseSeconds now)).map ClaimedReportJob.jobId =
          some row.id := rfl
      rw [hput (row.leased worker leaseSeconds now) rfl, hid]
      by_cases hk : k = row.id
      · rw [if_pos hk, hk, hself, if_pos rfl]
        rfl
      · rw [if_neg hk, if_neg fun heq => hk (Option.some.inj heq).symm]
        rfl

theorem given_of_append {claimed : Option ClaimedReportJob}
    (h : w'.held = w.held ++ claimed.toList) :
    given w w' = claimed.map ClaimedReportJob.jobId := by
  rw [given, h]
  cases claimed <;> simp

/-- A step that adds no claim hands nothing out. -/
theorem given_of_length (h : w'.held.length ≤ w.held.length) : given w w' = none := by
  rw [given, List.getElem?_eq_none h]
  rfl

/-- Only a delivery counts an attempt. -/
theorem attempts_step {a : WorkerAction} (h : workerStep config w a = .ok w') (k : String) :
    w'.store.attempts k = w.store.attempts k + if given w w' = some k then 1 else 0 := by
  -- what hands nothing out counts nothing
  have quiet : w'.held.length ≤ w.held.length → w'.store.attempts k = w.store.attempts k →
      w'.store.attempts k = w.store.attempts k + if given w w' = some k then 1 else 0 := by
    intro hheld hsame
    rw [given_of_length hheld, if_neg (by simp), hsame, Nat.add_zero]
  cases a with
  | drain jobId worker =>
    simp only [workerStep] at h
    split at h
    · cases h
    · rename_i store hstore
      cases h
      refine quiet le_rfl (attempts_onRow (fun row row' hrow => ?_) hstore k)
      split at hrow
      · cases hrow
      · cases hrow
        rfl
  | act a =>
    simp only [workerStep] at h
    cases a with
    | pass seconds =>
      cases h
      exact quiet le_rfl rfl
    | request id request =>
      refine quiet (congrArg List.length (request_spec h).2.1).le ?_
      simp only [step, World.request] at h
      split at h
      · cases h
      · rename_i created hcreate
        split at h
        · cases h
        · rename_i store hqueue
          cases h
          rw [attempts_queue hqueue, attempts_createJob hcreate]
    | claim worker locked =>
      simp only [step, World.claim] at h
      split at h
      · cases h
      · rename_i claimed store hclaim
        cases h
        rw [given_of_append rfl]
        exact attempts_claimNext hclaim k
    | execute place artifact =>
      obtain ⟨-, -, -, -, -, -, hheld⟩ := execute_spec h
      refine quiet (by rw [hheld]; exact List.length_eraseIdx_le ..) ?_
      simp only [step, World.execute] at h
      split at h
      · cases h
      · split at h
        · cases h
        · split at h
          · cases h
          · rename_i published hpublished
            split at h
            · cases h
            · rename_i store hready
              cases h
              rw [attempts_markReady hready, attempts_of_jobs (finalizeArtifact_jobs hpublished)]
    | handleFailure place exc drawn =>
      obtain ⟨-, -, -, hheld, -⟩ := handleFailure_spec h
      refine quiet (by rw [hheld]; exact List.length_eraseIdx_le ..) ?_
      simp only [step, World.handleFailure] at h
      split at h
      · cases h
      · split at h
        · cases h
          rfl
        · split at h
          · cases h
          · rename_i store hstore
            cases h
            simp only [World.failureOf] at hstore
            split at hstore
            · exact attempts_scheduleRetry hstore k
            · exact attempts_fail hstore k
    | ingest artifact =>
      obtain ⟨-, hheld, hjobs⟩ := ingest_spec h
      exact quiet (congrArg List.length hheld).le (attempts_of_jobs hjobs k)
    | remoteResult reportId outcome =>
      refine quiet (congrArg List.length (remoteResult_spec h).2.1).le ?_
      simp only [step, World.remoteResult] at h
      split at h
      · cases h
      · split at h
        · cases h
        · rename_i store hstore
          cases h
          exact attempts_remoteChange hstore k

/-- The attempts of a job are its deliveries. -/
theorem attempts_eq_deliveries {now : ℤ} {events : List Delivery}
    (run : Run (DeliveryStep config) (World.initial now) events w) (jobId : String) :
    w.store.attempts jobId = deliveries jobId events := by
  refine run.history (fun events w => w.store.attempts jobId = deliveries jobId events) rfl ?_
  intro events event w w' hw hstep
  rw [attempts_step hstep.1, hw, deliveries, deliveries, List.countP_append, ← hstep.2]
  simp only [List.countP_singleton, decide_eq_true_eq]

end Attempts

/-! ## Outputs -/

/-- The report is ready or has failed. -/
def ReportJobRecord.closed (row : ReportJobRecord) : Bool :=
  row.state = .ready || row.state = .failed

/-- A report with an output is stored, and is ready or has failed. -/
def Settled (s : ReportStore) : Prop :=
  ∀ k, s.hasReadyOutput k = true → ∃ row, s.jobs.find? k = some row ∧ row.closed = true

section Settled

variable {s s' : ReportStore} {config : WorkerConfig} {w w' : World} {jobId : String}

theorem artifacts_onRow {f : ReportJobRecord → Except PyError ReportJobRecord}
    (h : s.onRow jobId f = .ok s') : s'.artifacts = s.artifacts := by
  unfold ReportStore.onRow at h
  split at h
  · cases h
  · split at h
    · cases h
    · cases h
      rfl

theorem hasReadyOutput_congr (h : s'.artifacts = s.artifacts) (k : String) :
    s'.hasReadyOutput k = s.hasReadyOutput k := by
  rw [ReportStore.hasReadyOutput, ReportStore.hasReadyOutput, h]

/-- An operation on a row keeps closed reports closed. -/
theorem Settled.onRow {f : ReportJobRecord → Except PyError ReportJobRecord} (hs : Settled s)
    (hf : ∀ row row', f row = .ok row' → row.closed = true → row'.closed = true)
    (h : s.onRow jobId f = .ok s') : Settled s' := by
  obtain ⟨row, row', hrow, hkey, hrow', hfind⟩ := ReportStore.find?_onRow h
  intro k hk
  rw [hasReadyOutput_congr (artifacts_onRow h)] at hk
  obtain ⟨r, hr, hclosed⟩ := hs k hk
  rw [hfind]
  by_cases hself : k = row.id
  · rw [hself, hkey, hrow] at hr
    cases hr
    rw [if_pos hself]
    exact ⟨_, rfl, hf row row' hrow' hclosed⟩
  · rw [if_neg hself]
    exact ⟨r, hr, hclosed⟩

theorem Settled.fail (hs : Settled s) {code message : String} {now : ℤ}
    (h : s.fail jobId code message now = .ok s') : Settled s' :=
  hs.onRow (fun row row' hrow _ => by cases hrow; rfl) h

/-- Only a report that is generating is put back. -/
theorem Settled.scheduleRetry (hs : Settled s) {classification : String} {at' : ℤ}
    {consumes : Bool} {code : Option String}
    (h : s.scheduleRetry jobId classification at' consumes code = .ok s') : Settled s' := by
  refine hs.onRow (fun row row' hrow hclosed => ?_) h
  split at hrow
  · cases hrow
  · rename_i hgenerating
    rw [ReportJobRecord.closed, not_not.mp hgenerating] at hclosed
    cases hclosed

theorem Settled.releaseForDrain (hs : Settled s) {worker : String} {now : ℤ}
    (h : s.releaseForDrain jobId worker now = .ok s') : Settled s' := by
  refine hs.onRow (fun row row' hrow hclosed => ?_) h
  split at hrow
  · cases hrow
  · rename_i hheld
    rw [ReportJobRecord.closed, not_not.mp fun hne => hheld (.inl hne)] at hclosed
    cases hclosed

/-- A report that becomes ready is closed, whatever its outputs were. -/
theorem Settled.markReady {worker : Option String} {now : ℤ}
    (hs : ∀ k ≠ jobId, s.hasReadyOutput k = true →
      ∃ row, s.jobs.find? k = some row ∧ row.closed = true)
    (h : s.markReady jobId worker now = .ok s') : Settled s' := by
  have hartifacts := artifacts_onRow h
  obtain ⟨row, row', hrow, hkey, hrow', hfind⟩ := ReportStore.find?_onRow h
  have hfinished : row' = row.finished now := by
    split at hrow'
    · cases hrow'
    · split at hrow'
      · cases hrow'
      · cases hrow'
        rfl
  intro k hk
  rw [hasReadyOutput_congr hartifacts] at hk
  rw [hfind, hfinished]
  by_cases hself : k = row.id
  · rw [if_pos hself]
    exact ⟨_, rfl, rfl⟩
  · rw [if_neg hself]
    exact hs k (hkey ▸ hself) hk

theorem Settled.createJob (hs : Settled s) {id : String} {request : ReportRequest} {now : ℤ}
    (h : s.createJob id request now = .ok s') : Settled s' := by
  unfold ReportStore.createJob at h
  split at h
  · cases h
  · rename_i jobs hinsert
    cases h
    intro k hk
    obtain ⟨row, hrow, hclosed⟩ := hs k hk
    exact ⟨row, Table.find?_insert_of_some hinsert hrow, hclosed⟩

/-- An output that is published is one of the report it is published for. -/
theorem hasReadyOutput_finalizeArtifact {artifact : ReportArtifactRecord} {k : String}
    (h : s.finalizeArtifact artifact = .ok s') (hk : s'.hasReadyOutput k = true) :
    s.hasReadyOutput k = true ∨ (artifact.artifactRole = .output ∧ k = artifact.reportJobId) := by
  unfold ReportStore.finalizeArtifact at h
  split at h
  · split at h
    · cases h
      exact .inl hk
    · cases h
  · split at h
    · cases h
    · split at h
      · cases h
      · rename_i artifacts hinsert
        split at h
        · cases h
        · cases h
          simp only [ReportStore.hasReadyOutput, List.any_eq_true, Bool.and_eq_true,
            decide_eq_true_eq] at hk ⊢
          obtain ⟨stored, hstored, hmatch⟩ := hk
          rcases (Table.mem_insert hinsert).mp hstored with hold | rfl
          · exact .inl ⟨stored, hold, hmatch⟩
          · exact .inr ⟨hmatch.1.1.2, hmatch.1.1.1.symm⟩

/-- All that a claim makes of the report that it selects. -/
theorem claimNext_head {worker : String} {leaseSeconds now : ℤ} {maxAttempts : ℕ}
    {locked : String → Bool} {claimed : Option ClaimedReportJob} {row : ReportJobRecord}
    (hhead : s.queueHead now locked = some row)
    (h : s.claimNext worker leaseSeconds maxAttempts now locked = .ok (claimed, s')) :
    (s.hasReadyOutput row.id = true ∧ s' = s.put row.recovered) ∨
    (s.hasReadyOutput row.id = false ∧ maxAttempts ≤ row.attemptCount ∧ claimed = none ∧
      s' = s.put row.exhausted) ∨
    (s.hasReadyOutput row.id = false ∧ row.attemptCount < maxAttempts ∧
      claimed = some (row.claimed worker leaseSeconds now) ∧
      s' = s.put (row.leased worker leaseSeconds now)) := by
  unfold ReportStore.claimNext at h
  split at h
  · cases h
  · rw [hhead] at h
    dsimp only at h
    split at h
    · rename_i hready
      cases h
      exact .inl ⟨hready, rfl⟩
    · rename_i hready
      have hnone : s.hasReadyOutput row.id = false := by simpa using hready
      split at h
      · rename_i hlimit
        cases h
        exact .inr (.inl ⟨hnone, hlimit, rfl, rfl⟩)
      · rename_i hlimit
        cases h
        exact .inr (.inr ⟨hnone, by omega, rfl, rfl⟩)

/-- A row is rewritten that has no output, or becomes closed. -/
theorem Settled.put (hs : Settled s) {row row' : ReportJobRecord}
    (hrow : s.jobs.find? row.id = some row) (hid : row'.id = row.id)
    (h : s.hasReadyOutput row.id = true → row'.closed = true) : Settled (s.put row') := by
  intro k hk
  have hstored : s.jobs.find? row'.id = some row := by rw [hid, hrow]
  rw [ReportStore.find?_put hstored]
  split
  · rename_i hself
    rw [hself, hid] at hk
    exact ⟨row', rfl, h hk⟩
  · exact hs k hk

theorem Settled.claimNext (hs : Settled s) {worker : String} {leaseSeconds now : ℤ}
    {maxAttempts : ℕ} {locked : String → Bool} {claimed : Option ClaimedReportJob}
    (h : s.claimNext worker leaseSeconds maxAttempts now locked = .ok (claimed, s')) :
    Settled s' := by
  rcases ReportStore.claimNext_cases h with ⟨-, -, rfl⟩ | ⟨row, hhead, -⟩
  · exact hs
  · have hrow := (ReportStore.queueHead_spec hhead).1
    rcases claimNext_head hhead h with ⟨-, rfl⟩ | ⟨-, -, -, rfl⟩ | ⟨hnone, -, -, rfl⟩
    · exact hs.put hrow rfl fun _ => rfl
    · exact hs.put hrow rfl fun _ => rfl
    · refine hs.put hrow rfl fun hready => ?_
      rw [hnone] at hready
      cases hready

theorem Settled.remoteChange (hs : Settled s) {now : ℤ} {outcome : RemoteOutcome}
    (h : s.remoteChange now jobId outcome = .ok s') : Settled s' := by
  cases outcome with
  | taskCreated taskId rawStatus metadata =>
    refine hs.onRow (fun row row' hrow hclosed => ?_) h
    split at hrow
    · cases hrow
    · cases hrow
      exact hclosed
  | createAmbiguous =>
    simp only [ReportStore.remoteChange] at h
    split at h
    · cases h
    · rename_i marked hmarked
      exact (hs.onRow (fun row row' hrow hclosed => by cases hrow; exact hclosed) hmarked).fail h
  | statusObserved rawStatus =>
    simp only [ReportStore.remoteChange] at h
    exact hs.onRow (fun row row' hrow hclosed => by cases hrow; exact hclosed) h
  | failed code message => exact hs.fail h
  | archiveReady =>
    simp only [ReportStore.remoteChange] at h
    split at h
    · exact Settled.markReady (fun k _ => hs k) h
    · exact hs.fail h

/-- Every step keeps the reports with an output closed. -/
theorem Settled.step (hs : Settled w.store) {a : WorkerAction}
    (h : workerStep config w a = .ok w') : Settled w'.store := by
  cases a with
  | drain jobId worker =>
    simp only [workerStep] at h
    split at h
    · cases h
    · rename_i store hstore
      cases h
      exact hs.releaseForDrain hstore
  | act a =>
    simp only [workerStep] at h
    cases a with
    | pass seconds =>
      cases h
      exact hs
    | request id request =>
      simp only [Reports.step, World.request] at h
      split at h
      · cases h
      · rename_i created hcreate
        split at h
        · cases h
        · rename_i store hqueue
          cases h
          refine (hs.createJob hcreate).onRow (fun row row' hrow hclosed => ?_) hqueue
          split at hrow
          · rename_i hrequested
            rw [ReportJobRecord.closed, hrequested] at hclosed
            cases hclosed
          all_goals cases hrow
          all_goals exact hclosed
    | claim worker locked =>
      simp only [Reports.step, World.claim] at h
      split at h
      · cases h
      · rename_i claimed store hclaim
        cases h
        exact hs.claimNext hclaim
    | execute place artifact =>
      simp only [Reports.step, World.execute] at h
      split at h
      · cases h
      · rename_i claimed hclaimed
        split at h
        · cases h
        · split at h
          · cases h
          · rename_i published hpublished
            split at h
            · cases h
            · rename_i store hready
              cases h
              -- the output is published and its report made ready in one transaction
              refine Settled.markReady (fun k hne hk => ?_) hready
              rw [finalizeArtifact_jobs hpublished]
              rcases hasReadyOutput_finalizeArtifact hpublished hk with hk | ⟨-, hk⟩
              · exact hs k hk
              · exact absurd hk hne
    | handleFailure place exc drawn =>
      simp only [Reports.step, World.handleFailure] at h
      split at h
      · cases h
      · split at h
        · cases h
          exact hs
        · split at h
          · cases h
          · rename_i store hstore
            cases h
            simp only [World.failureOf] at hstore
            split at hstore
            · exact hs.scheduleRetry hstore
            · exact hs.fail hstore
    | ingest artifact =>
      simp only [Reports.step, World.ingest] at h
      split at h
      · cases h
      · rename_i store hstore
        cases h
        intro k hk
        rw [finalizeArtifact_jobs hstore]
        rcases hasReadyOutput_finalizeArtifact hstore hk with hk | ⟨hrole, -⟩
        · exact hs k hk
        · cases hrole
    | remoteResult reportId outcome =>
      simp only [Reports.step, World.remoteResult] at h
      split at h
      · cases h
      · split at h
        · cases h
        · rename_i store hstore
          cases h
          exact hs.remoteChange hstore

theorem Settled.run {now : ℤ} {events : List Delivery}
    (run : Run (DeliveryStep config) (World.initial now) events w) : Settled w.store := by
  refine run.invariant (fun w => Settled w.store) ?_ fun event w w' hw hstep => hw.step hstep.1
  intro k hk
  cases hk

end Settled

/-! ## Granted retries -/

section Retries

variable {config : WorkerConfig} {w w' : World} {jobId : String}

/-- A granted retry leaves its job in the queue, with the attempts it had. -/
theorem Grants.queued (h : Grants config w jobId w') :
    (∃ row, w'.store.jobs.find? jobId = some row ∧ row.state = .queued) ∧
      w'.store.attempts jobId = w.store.attempts jobId := by
  obtain ⟨place, exc, drawn, claimed, row, hstep, hclaimed, rfl, hrow, hretry⟩ := h
  have hkey : row.id = claimed.jobId := Table.key_of_find? hrow
  simp only [step, World.handleFailure, hclaimed, hrow] at hstep
  split at hstep
  · cases hstep
  · rename_i store hstore
    cases hstep
    simp only [World.failureOf, hretry, if_true] at hstore
    refine ⟨?_, attempts_scheduleRetry hstore claimed.jobId⟩
    obtain ⟨row₀, row', hrow₀, hkey₀, hrow', hfind⟩ := ReportStore.find?_onRow hstore
    split at hrow'
    · cases hrow'
    · cases hrow'
      refine ⟨_, (hfind claimed.jobId).trans (if_pos (hkey.symm.trans hkey₀.symm)), rfl⟩

/-- A report in the queue that a claim takes is handed out, or given up after three attempts. -/
theorem claim_takes {worker : String} {locked : String → Bool} {row : ReportJobRecord}
    (hsettled : Settled w.store) (hrow : w.store.jobs.find? jobId = some row)
    (hqueued : row.state = .queued) (htakes : Takes w locked jobId)
    (h : w.claim config worker locked = .ok w') :
    (w.store.attempts jobId < 3 ∧ ExecutedAgain w jobId w' ∧ ¬ AttemptLimit jobId w') ∨
    (3 ≤ w.store.attempts jobId ∧ ¬ ExecutedAgain w jobId w' ∧ AttemptLimit jobId w') := by
  obtain ⟨head, hhead, hid⟩ := Option.map_eq_some_iff.mp htakes
  have hstored := (ReportStore.queueHead_spec hhead).1
  rw [hid] at hstored
  obtain rfl : row = head := Option.some.inj (hrow.symm.trans hstored)
  have hattempts : w.store.attempts jobId = row.attemptCount := by
    rw [ReportStore.attempts, hrow]
    rfl
  -- a report in the queue has no output
  have hnone : w.store.hasReadyOutput row.id = false := by
    by_contra hready
    obtain ⟨r, hr, hclosed⟩ := hsettled row.id (by simpa using hready)
    rw [hid, hrow] at hr
    cases hr
    rw [ReportJobRecord.closed, hqueued] at hclosed
    cases hclosed
  subst hid
  unfold World.claim at h
  split at h
  · cases h
  · rename_i claimed store hclaim
    cases h
    rcases claimNext_head hhead hclaim with ⟨hready, -⟩ | ⟨-, hlimit, rfl, rfl⟩ |
      ⟨-, hbelow, rfl, rfl⟩
    · rw [hnone] at hready
      cases hready
    · have hfind : (w.store.put row.exhausted).jobs.find? row.id = some row.exhausted :=
        (@ReportStore.find?_put _ row.exhausted row row.id hrow).trans (if_pos rfl)
      refine .inr ⟨by omega, ?_, row.exhausted, hfind, rfl, rfl⟩
      rintro ⟨hgiven, -⟩
      rw [given_of_append rfl] at hgiven
      cases hgiven
    · have hfind : (w.store.put (row.leased worker config.leaseSeconds w.now)).jobs.find? row.id =
          some (row.leased worker config.leaseSeconds w.now) :=
        (@ReportStore.find?_put _ (row.leased worker config.leaseSeconds w.now) row row.id
          hrow).trans (if_pos rfl)
      refine .inl ⟨by omega, ⟨?_, by rw [hfind]; rfl⟩, ?_⟩
      · rw [given_of_append rfl]
        rfl
      rintro ⟨r, hr, hstate, -⟩
      rw [hfind] at hr
      cases hr
      cases hstate

/-- In every run of the workers: the claim that takes a job after a granted retry, while the job
is still as the retry has left it, executes it again exactly when the job was handed out fewer than
three times up to the failure; otherwise the claim fails it for its attempts. -/
theorem granted_retry_executed_iff {now : ℤ} {before between : List Delivery} {w₁ w₂ w₃ w₄ : World}
    {worker : String} {locked : String → Bool}
    (run : Run (DeliveryStep config) (World.initial now) before w₁)
    (hgrant : Grants config w₁ jobId w₂) (rest : Run (DeliveryStep config) w₂ between w₃)
    (hwaits : w₃.store.jobs.find? jobId = w₂.store.jobs.find? jobId)
    (htakes : Takes w₃ locked jobId) (hclaim : w₃.claim config worker locked = .ok w₄) :
    (ExecutedAgain w₃ jobId w₄ ∧ ¬ AttemptLimit jobId w₄) ↔ deliveries jobId before < 3 := by
  obtain ⟨⟨row, hrow, hqueued⟩, hsame⟩ := hgrant.queued
  have hsettled : Settled w₂.store := by
    obtain ⟨place, exc, drawn, -, -, hstep, -⟩ := hgrant
    exact @Settled.step config w₁ w₂ (Settled.run run) (.act (.handleFailure place exc drawn)) hstep
  have hsettled₃ : Settled w₃.store :=
    rest.invariant (fun w => Settled w.store) hsettled fun _ _ _ hw hstep => hw.step hstep.1
  have hattempts : w₃.store.attempts jobId = deliveries jobId before := by
    rw [ReportStore.attempts, hwaits, ← ReportStore.attempts, hsame]
    exact attempts_eq_deliveries run jobId
  rw [← hattempts]
  rcases claim_takes hsettled₃ (hwaits.trans hrow) hqueued htakes hclaim with
    ⟨hbelow, hexecuted, hlimit⟩ | ⟨habove, hexecuted, -⟩
  · exact iff_of_true ⟨hexecuted, hlimit⟩ hbelow
  · exact iff_of_false (fun h => hexecuted h.1) (by omega)

/-! ### Three failures of the storage -/

/-- A worker takes the report, and its storage fails; the retry is due a second later. -/
def storageFailure : List WorkerAction :=
  [.act (.claim "worker:a" fun _ => false), .act (.handleFailure 0 .storage 1), .act (.pass 1)]

/-- The reports after a list of actions. -/
def afterActions (actions : List WorkerAction) : World :=
  Transition.exec (workerStep defaultConfig) (World.initial 0) actions

/-- What is seen of the actions of a list that are accepted. -/
def seen (config : WorkerConfig) (w : World) : List WorkerAction → List Delivery
  | [] => []
  | a :: actions =>
    match workerStep config w a with
    | .ok w' => ⟨a, given w w'⟩ :: seen config w' actions
    | .error _ => seen config w actions

/-- Every list of actions is a run through what is seen of it. -/
theorem seen_run (w : World) (actions : List WorkerAction) :
    Run (DeliveryStep config) w (seen config w actions)
      (Transition.exec (workerStep config) w actions) := by
  induction actions generalizing w with
  | nil => exact .nil
  | cons a actions ih =>
    rw [seen, Transition.exec, Transition.call]
    cases h : workerStep config w a with
    | error e => exact ih w
    | ok w' =>
      have hfirst : Run (DeliveryStep config) w [⟨a, given w w'⟩] w' := Run.single ⟨h, rfl⟩
      exact hfirst.append (ih w')

/-- The report is requested, and its generation fails `n` times before it is claimed again. -/
def beforeFailure (n : ℕ) : List WorkerAction :=
  .act (.request "rpt_1" foundationStatusRequest) ::
    (List.replicate n storageFailure).flatten ++ [.act (.claim "worker:a" fun _ => false)]

/-- The reports after a further failure, and a second later. -/
def failedAt (n : ℕ) : World :=
  afterActions (beforeFailure n ++ [.act (.handleFailure 0 .storage 1)])

def dueAt (n : ℕ) : World := { failedAt n with now := (failedAt n).now + 1 }

theorem due_run (n : ℕ) : Run (DeliveryStep defaultConfig) (failedAt n) [⟨.act (.pass 1), none⟩]
    (dueAt n) := by
  refine Run.single ⟨rfl, ?_⟩
  exact (@given_of_length (failedAt n) (dueAt n) le_rfl).symm

theorem granted_retry_executed_iff_sample :
    ∃ w₃ w₄, w₃.claim defaultConfig "worker:a" (fun _ => false) = .ok w₄ ∧
      ExecutedAgain w₃ "rpt_1" w₄ ∧ ¬ AttemptLimit "rpt_1" w₄ := by
  have hgrant : Grants defaultConfig (afterActions (beforeFailure 0)) "rpt_1" (failedAt 0) :=
    ⟨0, .storage, 1, _, _, rfl, rfl, rfl, rfl, by decide⟩
  have htakes : Takes (dueAt 0) (fun _ => false) "rpt_1" := rfl
  have hclaim : (dueAt 0).claim defaultConfig "worker:a" (fun _ => false) =
      .ok (afterActions (beforeFailure 1)) := rfl
  refine ⟨dueAt 0, afterActions (beforeFailure 1), hclaim, ?_⟩
  exact (granted_retry_executed_iff (seen_run _ (beforeFailure 0)) hgrant (due_run 0) rfl htakes
    hclaim).mpr (by decide)

/-- The third retry of a storage failure is granted, and the claim that takes the report fails it
for its attempts. -/
theorem granted_retry_dropped :
    ¬ ∀ (config : WorkerConfig) (now : ℤ) (before between : List Delivery) (w₁ w₂ w₃ w₄ : World)
      (jobId worker : String) (locked : String → Bool),
      Run (DeliveryStep config) (World.initial now) before w₁ → Grants config w₁ jobId w₂ →
      Run (DeliveryStep config) w₂ between w₃ →
      w₃.store.jobs.find? jobId = w₂.store.jobs.find? jobId → Takes w₃ locked jobId →
      w₃.claim config worker locked = .ok w₄ →
        ExecutedAgain w₃ jobId w₄ ∧ ¬ AttemptLimit jobId w₄ := by
  intro h
  have hgrant : Grants defaultConfig (afterActions (beforeFailure 2)) "rpt_1" (failedAt 2) :=
    ⟨0, .storage, 1, _, _, rfl, rfl, rfl, rfl, by decide⟩
  have htakes : Takes (dueAt 2) (fun _ => false) "rpt_1" := rfl
  have hclaim : (dueAt 2).claim defaultConfig "worker:a" (fun _ => false) =
      .ok (afterActions (beforeFailure 3)) := rfl
  have hexecuted := h defaultConfig 0 _ _ _ _ _ _ "rpt_1" "worker:a" _
    (seen_run _ (beforeFailure 2)) hgrant (due_run 2) rfl htakes hclaim
  have hnone : given (dueAt 2) (afterActions (beforeFailure 3)) = none := by decide
  exact absurd (hnone.symm.trans hexecuted.1.1) (by simp)

end Retries

end Wbcz.Reports
