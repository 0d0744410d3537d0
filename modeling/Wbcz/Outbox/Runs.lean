import Wbcz.Outbox.Heads

/-!
# A row of the outbox along a run

Any number of agents lease the rows of the outbox through either channel. A row keeps the job it was
asked for; its lease only moves on, so that no agent is given the job of another that still holds
it; and its result is the last thing that is written to it.
-/

namespace Wbcz.Outbox

open Fallible (bind_eq_ok guard_eq_ok toOption_eq_some)
open Wbcz.Audit (sampleUuid)
open Wbcz.Web (AgentPrincipal EnqueueOptions)

namespace AgentJobRow

variable (row : AgentJobRow)

/-- The columns of a row agree with its state. -/
structure Consistent : Prop where
  pending : row.state = .pending ↔ row.deliveryCount = 0 ∧ row.state ≠ .completed
  leased : row.leaseExpiresAt.isSome ↔ row.state = .leased
  digest : row.resultSha256.isSome ↔ row.state = .completed
  result : row.resultJson.isSome ↔ row.state = .completed

/-- A row as it was asked for: without its tenant and without what agents did with it. -/
def asked : AgentJobRow :=
  { row with
    organisationId := none
    participantId := none
    state := .pending
    leaseExpiresAt := none
    deliveryCount := 0
    lastErrorCode := none
    resultSha256 := none
    resultJson := none }

/-- What agents did with a row. -/
def outcome : AgentJobState × ℕ × Option String × Option String × Option Json :=
  (row.state, row.deliveryCount, row.lastErrorCode, row.resultSha256, row.resultJson)

/-- A later row of the same job. -/
structure Onward (row' : AgentJobRow) : Prop where
  asked : row'.asked = row.asked
  delivered : row.deliveryCount ≤ row'.deliveryCount
  completed : row.state = .completed → row'.outcome = row.outcome
  leased : ∀ expires ∈ row.leaseExpiresAt,
    row'.state = .completed ∨ ∃ expires' ∈ row'.leaseExpiresAt, expires ≤ expires'

/-- What a step writes to a row. -/
inductive Written (runtime : Runtime) : AgentJobRow → Prop
  | leased {now : ℤ} (hdue : OutboxState.due now row = true) :
    Written runtime (OutboxState.leasedRow (now + runtime.jobLeaseSeconds) row)
  | finished (hopen : row.state ≠ .completed) (resultSha256 : String) (resultJson : Json)
      (errorCode : Option String) :
    Written runtime (OutboxState.finishedRow resultSha256 resultJson errorCode row)
  | assigned (organisationId participantId : String) :
    Written runtime (assignedRow organisationId participantId row)

variable {row} {row' row'' : AgentJobRow} {runtime : Runtime} {now : ℤ}

theorem Onward.refl (row : AgentJobRow) : row.Onward row :=
  ⟨rfl, le_rfl, fun _ => rfl, fun expires h => .inr ⟨expires, h, le_rfl⟩⟩

theorem Onward.jobId (h : row.Onward row') : row'.jobId = row.jobId := by
  have hasked := congrArg AgentJobRow.jobId h.asked
  exact hasked

theorem Onward.state (h : row.Onward row') (hcompleted : row.state = .completed) :
    row'.state = .completed := (congrArg Prod.fst (h.completed hcompleted)).trans hcompleted

theorem Onward.trans (h : row.Onward row') (h' : row'.Onward row'') : row.Onward row'' where
  asked := h'.asked.trans h.asked
  delivered := h.delivered.trans h'.delivered
  completed hcompleted := (h'.completed (h.state hcompleted)).trans (h.completed hcompleted)
  leased expires hexpires := by
    rcases h.leased expires hexpires with hcompleted | ⟨expires', hexpires', hle⟩
    · exact .inl (h'.state hcompleted)
    · refine (h'.leased expires' hexpires').imp_right ?_
      rintro ⟨expires'', hexpires'', hle'⟩
      exact ⟨expires'', hexpires'', hle.trans hle'⟩

/-- A row that may be leased waits for an agent, or its lease is over. -/
theorem Consistent.of_due (h : row.Consistent) (hdue : OutboxState.due now row = true) :
    row.state ≠ .completed ∧ ∀ expires ∈ row.leaseExpiresAt, expires ≤ now := by
  simp only [OutboxState.due, Bool.and_eq_true, Bool.or_eq_true, decide_eq_true_eq] at hdue
  rcases hdue.2 with hpending | ⟨hleased, hover⟩
  · refine ⟨by simp [hpending], fun expires hexpires => ?_⟩
    have hsome : row.state = .leased := h.leased.mp (Option.isSome_of_mem hexpires)
    simp [hpending] at hsome
  · refine ⟨by simp [hleased], fun expires hexpires => ?_⟩
    simpa [Option.mem_def.mp hexpires] using hover

theorem Written.consistent (h : row.Written runtime row') (hrow : row.Consistent) :
    row'.Consistent := by
  cases h with
  | leased hdue =>
    have hopen := (hrow.of_due hdue).1
    have hdigest := mt hrow.digest.mp hopen
    have hresult := mt hrow.result.mp hopen
    exact ⟨by simp [OutboxState.leasedRow], by simp [OutboxState.leasedRow],
      by simpa [OutboxState.leasedRow] using hdigest, by simpa [OutboxState.leasedRow] using hresult⟩
  | finished hopen resultSha256 resultJson errorCode =>
    constructor <;> simp [OutboxState.finishedRow]
  | assigned => exact ⟨hrow.pending, hrow.leased, hrow.digest, hrow.result⟩

theorem Written.onward (hlease : 15 ≤ runtime.jobLeaseSeconds) (hrow : row.Consistent)
    (h : row.Written runtime row') : row.Onward row' := by
  cases h with
  | @leased now hdue =>
    obtain ⟨hopen, hover⟩ := hrow.of_due hdue
    refine ⟨rfl, Nat.le_succ _, fun hcompleted => absurd hcompleted hopen, fun expires hexpires =>
      .inr ⟨_, rfl, ?_⟩⟩
    have := hover expires hexpires
    omega
  | finished hopen => exact ⟨rfl, le_rfl, fun h => absurd h hopen, fun _ _ => .inl rfl⟩
  | assigned =>
    exact ⟨rfl, le_rfl, fun _ => rfl, fun expires h => .inr ⟨expires, h, le_rfl⟩⟩

end AgentJobRow

/-! ## What a step does to the rows -/

section Step

variable {runtime : Runtime} {s s' : OutboxState} {action : OutboxAction}

/-- The rows after a step: those before, one more that nobody has leased, or one of them with
what the step writes to it. -/
inductive JobsStep (runtime : Runtime) (t t' : Table AgentJobRow.key) : Prop
  | kept (h : t' = t)
  | inserted {row : AgentJobRow} (hrow : row.Consistent) (h : t.insert row = some t')
  | written {jobId : String} {f : AgentJobRow → AgentJobRow} (hf : ∀ row, (f row).key = row.key)
      (hwritten : ∀ row ∈ t, row.jobId = jobId → row.Written runtime (f row))
      (h : t' = t.modify jobId f hf)

/-- A row of the table is written where the step has found it. -/
theorem JobsStep.of_mem {t t' : Table AgentJobRow.key} {row : AgentJobRow}
    {f : AgentJobRow → AgentJobRow} (hf : ∀ row, (f row).key = row.key) (hrow : row ∈ t)
    (hwritten : row.Written runtime (f row)) (h : t' = t.modify row.jobId f hf) :
    JobsStep runtime t t' :=
  .written hf (fun _ hother hid => Table.eq_of_key_eq hrow hother hid.symm ▸ hwritten) h

theorem insertJob_jobs {row : AgentJobRow} (hrow : row.Consistent)
    (h : s.insertJob row = .ok s') : JobsStep runtime s.jobs s'.jobs := by
  obtain ⟨-, h⟩ := guard_eq_ok.mp h
  split at h
  · cases h
  · cases h
    exact .inserted hrow ‹_›

theorem consistent_new {row : AgentJobRow} (hstate : row.state = .pending)
    (hcount : row.deliveryCount = 0) (hlease : row.leaseExpiresAt = none)
    (hdigest : row.resultSha256 = none) (hresult : row.resultJson = none) : row.Consistent := by
  constructor <;> simp [hstate, hcount, hlease, hdigest, hresult]

theorem enqueue_jobs {request : OutboxRequest} {job stored : AgentJob} {options : EnqueueOptions}
    (h : s.enqueue runtime request job options = .ok (stored, s')) :
    JobsStep runtime s.jobs s'.jobs := by
  simp only [OutboxState.enqueue, bind_eq_ok] at h
  obtain ⟨⟨⟩, -, bindingId, -, h⟩ := h
  split at h
  · simp only [bind_eq_ok] at h
    obtain ⟨_, _, _, _, hs'⟩ := h
    cases hs'
    exact .kept rfl
  · split at h
    · simp only [guard_eq_ok, bind_eq_ok] at h
      obtain ⟨-, _, _, hs'⟩ := h
      cases hs'
      exact .kept rfl
    · simp only [OutboxState.enqueueNew, bind_eq_ok] at h
      obtain ⟨inserted, hinsert, recorded, hrecorded, hs'⟩ := h
      cases hs'
      rw [trail_jobs hrecorded]
      exact insertJob_jobs (consistent_new rfl rfl rfl rfl rfl) hinsert

theorem requestDiscovery_jobs {request : OutboxRequest} {bindingId : String} {userId : ℤ}
    {run : PrinterDiscoveryRun}
    (h : s.requestDiscovery runtime request bindingId userId = .ok (run, s')) :
    JobsStep runtime s.jobs s'.jobs := by
  obtain ⟨found, -, h⟩ := bind_eq_ok.mp h
  split at h
  · cases h
    exact .kept rfl
  · rw [OutboxState.createDiscovery] at h
    split at h
    · cases h
    next runs hruns =>
      simp only [bind_eq_ok] at h
      obtain ⟨inserted, hinsert, recorded, hrecorded, hs'⟩ := h
      cases hs'
      rw [append_jobs hrecorded]
      change JobsStep runtime (OutboxState.jobs { s with runs := runs }) inserted.jobs
      exact insertJob_jobs (consistent_new rfl rfl rfl rfl rfl) hinsert

/-- A lease of the first channel finds nothing, or takes a row that is due. -/
theorem fetchOne_cases {request : OutboxRequest} {principal : AgentPrincipal}
    {result : Option AgentJob} (h : s.fetchOne runtime request principal = .ok (result, s')) :
    result = none ∧ s' = s ∨ ∃ row ∈ s.jobs, ∃ job, OutboxState.due request.now row = true ∧
      jobOfPayload row.payloadJson = .ok job ∧ result = some job ∧
      s'.jobs = (s.lease runtime request row).jobs := by
  rcases fetchOne_eq_ok.mp h with ⟨-, hnone, hsame⟩ | ⟨row, job, hhead, hclaim, hjob, hsome⟩
  · exact .inl ⟨hnone, hsame⟩
  · have hmem := List.argmin_mem hhead
    simp only [List.mem_filter, Bool.and_eq_true] at hmem
    exact .inr ⟨row, hmem.1, job, hmem.2.1.2, hjob, hsome, claim_jobs hclaim⟩

/-- And so does one of the printing channel. -/
theorem fetchDiscovery_cases {request : OutboxRequest} {bindingId : String}
    {result : Option AgentJobRow}
    (h : s.fetchDiscovery runtime request bindingId = .ok (result, s')) :
    result = none ∧ s' = s ∨ ∃ row ∈ s.jobs, OutboxState.due request.now row = true ∧
      result = some row ∧ s'.jobs = (s.lease runtime request row).jobs := by
  obtain ⟨found, -, h⟩ := bind_eq_ok.mp h
  split at h
  · cases h
    exact .inl ⟨rfl, rfl⟩
  next row hfirst =>
    simp only [bind_eq_ok, guard_eq_ok] at h
    obtain ⟨run, -, -, hs'⟩ := h
    cases hs'
    have hmem := List.argmin_mem hfirst
    simp only [List.mem_filter, Bool.and_eq_true] at hmem
    exact .inr ⟨row, hmem.1, hmem.2.1.2, rfl, rfl⟩

/-- A lease writes to the row it takes. -/
theorem lease_jobs {request : OutboxRequest} {row : AgentJobRow} (hrow : row ∈ s.jobs)
    (hdue : OutboxState.due request.now row = true)
    (hjobs : s'.jobs = (s.lease runtime request row).jobs) : JobsStep runtime s.jobs s'.jobs :=
  .of_mem (OutboxState.key_leasedRow _) hrow (.leased hdue) hjobs

theorem discoveryJob_eq_ok {scope : Web.TenantContext} {bindingId jobId : String}
    {row : AgentJobRow} (h : s.discoveryJob scope bindingId jobId = .ok row) : row ∈ s.jobs := by
  rw [OutboxState.discoveryJob] at h
  split at h
  · cases h
  · cases h
    exact Table.mem_of_find? (Option.filter_eq_some_iff.mp ‹_›).1

/-- The end of a discovery writes to the row of its job. -/
theorem finish_jobs {row : AgentJobRow} {run : PrinterDiscoveryRun} {state : DiscoveryState}
    {resultSha256 : String} {resultJson : Json} {errorCode : Option String} (hrow : row ∈ s.jobs)
    (hopen : row.state ≠ .completed) : JobsStep runtime s.jobs
      (s.finish row run state resultSha256 resultJson errorCode).jobs :=
  .of_mem (OutboxState.key_finishedRow resultSha256 resultJson errorCode) hrow
    (.finished hopen resultSha256 resultJson errorCode) rfl

/-- What any step does to the rows. -/
theorem OutboxStep.jobs (step : OutboxStep runtime s action s') :
    JobsStep runtime s.jobs s'.jobs := by
  cases step with
  | enqueue hpayload henqueue => exact enqueue_jobs henqueue
  | fetchOne hfetch =>
    rcases fetchOne_cases hfetch with ⟨-, rfl⟩ | ⟨row, hrow, job, hdue, -, -, hjobs⟩
    · exact .kept rfl
    · exact lease_jobs hrow hdue hjobs
  | complete hcomplete =>
    rw [OutboxState.complete] at hcomplete
    split at hcomplete
    · cases hcomplete
    next row hfound =>
      obtain ⟨-, hrest⟩ := guard_eq_ok.mp hcomplete
      split at hrest
      · cases (guard_eq_ok.mp hrest).2
        exact .kept rfl
      next hopen =>
        cases hrest
        have hfind := (Option.filter_eq_some_iff.mp hfound).1
        rw [← Table.key_of_find? hfind]
        exact .of_mem (OutboxState.key_completedRow runtime _) (Table.mem_of_find? hfind)
          (.finished hopen _ _ none) rfl
  | requestDiscovery hrequest => exact requestDiscovery_jobs hrequest
  | fetchDiscovery hfetch =>
    rcases fetchDiscovery_cases hfetch with ⟨-, rfl⟩ | ⟨row, hrow, hdue, -, hjobs⟩
    · exact .kept rfl
    · exact lease_jobs hrow hdue hjobs
  | completeDiscovery hcomplete =>
    simp only [OutboxState.completeDiscovery, bind_eq_ok] at hcomplete
    obtain ⟨found, -, row, hrow, hrest⟩ := hcomplete
    split at hrest
    · split at hrest
      · cases hrest
        exact .kept rfl
      · cases hrest
    next hopen =>
      simp only [guard_eq_ok, bind_eq_ok] at hrest
      obtain ⟨-, run, -, -, hs'⟩ := hrest
      cases hs'
      exact finish_jobs (discoveryJob_eq_ok hrow) hopen
  | failDiscovery hfail =>
    simp only [OutboxState.failDiscovery, bind_eq_ok, guard_eq_ok] at hfail
    obtain ⟨found, -, row, hrow, hleased, run, -, hs'⟩ := hfail
    cases hs'
    refine finish_jobs (discoveryJob_eq_ok hrow) fun hcompleted => hleased ?_
    simp [OutboxState.isLeased, hcompleted]
  | assignTenant jobId organisationId participantId =>
    exact .written (key_assignedRow _ _) (fun row _ _ => .assigned organisationId participantId) rfl
  | audit haudit => exact .kept rfl

end Step

/-! ## Runs -/

section Runs

variable {runtime : Runtime} {s s' s'' : OutboxState} {actions : List OutboxAction}
  {action : OutboxAction} {row : AgentJobRow} {now now' : ℤ} {jobId : String}

/-- All rows agree with their states. -/
def OutboxState.Consistent (s : OutboxState) : Prop := ∀ row ∈ s.jobs, row.Consistent

theorem OutboxStep.consistent (h : s.Consistent) (step : OutboxStep runtime s action s') :
    s'.Consistent := by
  intro row hrow
  cases step.jobs with
  | kept hjobs => exact h row (hjobs ▸ hrow)
  | inserted hnew hinsert =>
    rcases (Table.mem_insert hinsert).mp hrow with hrow | rfl
    · exact h row hrow
    · exact hnew
  | written hf hwritten hjobs =>
    rw [hjobs, Table.mem_modify] at hrow
    rcases hrow with ⟨hrow, -⟩ | ⟨before, hbefore, hid, rfl⟩
    · exact h row hrow
    · exact (hwritten before hbefore hid).consistent (h before hbefore)

/-- Along every run the columns of the rows agree with their states. -/
theorem run_consistent (run : Transition.Run (OutboxStep runtime) .initial actions s) :
    s.Consistent :=
  run.invariant OutboxState.Consistent (fun _ hrow => absurd hrow Table.not_mem_empty)
    fun _ _ _ => OutboxStep.consistent

/-- A step takes no row away, and moves it on. -/
theorem OutboxStep.onward (hlease : 15 ≤ runtime.jobLeaseSeconds) (h : s.Consistent)
    (step : OutboxStep runtime s action s') (hrow : row ∈ s.jobs) :
    ∃ row' ∈ s'.jobs, row.Onward row' := by
  cases step.jobs with
  | kept hjobs => exact ⟨row, hjobs ▸ hrow, .refl row⟩
  | inserted hnew hinsert =>
    exact ⟨row, (Table.mem_insert hinsert).mpr (.inl hrow), .refl row⟩
  | @written id f hf hwritten hjobs =>
    rw [hjobs]
    by_cases hid : row.jobId = id
    · exact ⟨f row, Table.mem_modify.mpr (.inr ⟨row, hrow, hid, rfl⟩),
        (hwritten row hrow hid).onward hlease (h row hrow)⟩
    · exact ⟨row, Table.mem_modify.mpr (.inl ⟨hrow, hid⟩), .refl row⟩

theorem run_onward (hlease : 15 ≤ runtime.jobLeaseSeconds) (h : s.Consistent)
    (run : Transition.Run (OutboxStep runtime) s actions s') (hrow : row ∈ s.jobs) :
    s'.Consistent ∧ ∃ row' ∈ s'.jobs, row.Onward row' := by
  refine run.invariant (fun s' => s'.Consistent ∧ ∃ row' ∈ s'.jobs, row.Onward row')
    ⟨h, row, hrow, .refl row⟩ ?_
  rintro _ s' s'' ⟨hconsistent, row', hrow', honward⟩ step
  obtain ⟨row'', hrow'', honward'⟩ := step.onward hlease hconsistent hrow'
  exact ⟨step.consistent hconsistent, row'', hrow'', honward.trans honward'⟩

/-- A job that one of the two channels hands out to an agent, and when. -/
inductive Delivery (runtime : Runtime) (s : OutboxState) :
    OutboxAction → ℤ → String → OutboxState → Prop
  | fetchOne {request : OutboxRequest} {principal : AgentPrincipal} {job : AgentJob}
      {s' : OutboxState} (h : s.fetchOne runtime request principal = .ok (some job, s')) :
      Delivery runtime s (.fetchOne request principal) request.now job.jobId s'
  | fetchDiscovery {request : OutboxRequest} {bindingId : String} {row : AgentJobRow}
      {s' : OutboxState} (h : s.fetchDiscovery runtime request bindingId = .ok (some row, s')) :
      Delivery runtime s (.fetchDiscovery request bindingId) request.now row.jobId s'

theorem Delivery.step (h : Delivery runtime s action now jobId s') :
    OutboxStep runtime s action s' := by
  cases h with
  | fetchOne h => exact .fetchOne h
  | fetchDiscovery h => exact .fetchDiscovery h

/-- The job that is handed out is that of a row that is due, which is leased. -/
theorem Delivery.spec (hholds : s.Holds runtime) (h : Delivery runtime s action now jobId s') :
    ∃ row ∈ s.jobs, row.jobId = jobId ∧ OutboxState.due now row = true ∧
      OutboxState.leasedRow (now + runtime.jobLeaseSeconds) row ∈ s'.jobs := by
  have hleased : ∀ (request : OutboxRequest) (row : AgentJobRow), row ∈ s.jobs →
      s'.jobs = (s.lease runtime request row).jobs →
      OutboxState.leasedRow (request.now + runtime.jobLeaseSeconds) row ∈ s'.jobs := by
    intro request row hrow hjobs
    rw [hjobs, OutboxState.lease, Table.mem_modify]
    exact .inr ⟨row, hrow, rfl, rfl⟩
  cases h with
  | fetchOne h =>
    obtain ⟨hnone, -⟩ | ⟨row, hrow, job, hdue, hjob, hsome, hjobs⟩ := fetchOne_cases h
    · cases hnone
    cases hsome
    refine ⟨row, hrow, ?_, hdue, hleased _ row hrow hjobs⟩
    -- a discovery job is not read, and a typed job is read with the id of its row
    rcases hholds row hrow with ⟨typed, htyped⟩ | ⟨-, runId, hpayload⟩
    · rw [htyped.payload, jobOfPayload_toJson htyped.readPayload] at hjob
      cases hjob
      exact htyped.jobId
    · rw [hpayload, jobOfPayload_discoveryPayload] at hjob
      cases hjob
  | fetchDiscovery h =>
    obtain ⟨hnone, -⟩ | ⟨row, hrow, hdue, hsome, hjobs⟩ := fetchDiscovery_cases h
    · cases hnone
    cases hsome
    exact ⟨_, hrow, rfl, hdue, hleased _ _ hrow hjobs⟩

/-- What was returned for a job stays as it is, and the job is not handed out again. -/
theorem completed_final {before : List OutboxAction} (hlease : 15 ≤ runtime.jobLeaseSeconds)
    (reach : Transition.Run (OutboxStep runtime) .initial before s) (hrow : row ∈ s.jobs)
    (hcompleted : row.state = .completed)
    (run : Transition.Run (OutboxStep runtime) s actions s') :
    (∃ row' ∈ s'.jobs, row'.asked = row.asked ∧ row'.outcome = row.outcome) ∧
      ∀ action now s'', ¬ Delivery runtime s' action now row.jobId s'' := by
  obtain ⟨hconsistent, row', hrow', honward⟩ := run_onward hlease (run_consistent reach) run hrow
  refine ⟨⟨row', hrow', honward.asked, honward.completed hcompleted⟩, ?_⟩
  intro action now s'' hdelivery
  obtain ⟨other, hother, hid, hdue, -⟩ := hdelivery.spec (run_holds (reach.append run))
  obtain rfl := Table.eq_of_key_eq hother hrow' (hid.trans honward.jobId.symm)
  exact ((hconsistent other hother).of_due hdue).1 (honward.state hcompleted)

/-- No agent is given a job while the lease of another lasts, whatever happens between the two
and whatever clocks they go by. What it is given then is the same job, counted once more. -/
theorem delivery_after_lease {before : List OutboxAction} {action' : OutboxAction}
    {t : OutboxState} (hlease : 15 ≤ runtime.jobLeaseSeconds)
    (reach : Transition.Run (OutboxStep runtime) .initial before s)
    (first : Delivery runtime s action now jobId s')
    (run : Transition.Run (OutboxStep runtime) s' actions s'')
    (second : Delivery runtime s'' action' now' jobId t) :
    now + runtime.jobLeaseSeconds ≤ now' ∧ ∃ row ∈ s'.jobs, ∃ row' ∈ t.jobs,
      row.jobId = jobId ∧ row'.asked = row.asked ∧ row.deliveryCount < row'.deliveryCount := by
  have reach' := reach.snoc first.step
  obtain ⟨row, hrow, rfl, -, hleased⟩ := first.spec (run_holds reach)
  obtain ⟨hconsistent, row', hrow', honward⟩ :=
    run_onward hlease (run_consistent reach') run hleased
  obtain ⟨other, hother, hid, hdue, hagain⟩ := second.spec (run_holds (reach'.append run))
  obtain rfl := Table.eq_of_key_eq hother hrow' (hid.trans honward.jobId.symm)
  refine ⟨?_, _, hleased, _, hagain, rfl, honward.asked, Nat.lt_succ_of_le honward.delivered⟩
  -- the lease has moved on, but the second delivery finds it over
  obtain ⟨hopen, hover⟩ := (hconsistent other hother).of_due hdue
  rcases honward.leased _ rfl with hcompleted | ⟨expires, hexpires, hle⟩
  · exact absurd hcompleted hopen
  · exact hle.trans (hover expires hexpires)

end Runs

/-! ## A discovery that is asked for twice -/

/-- The printing agent of the participant. -/
def agentAt (now : ℤ) : OutboxRequest := sampleRequest none (sampleUuid 'd' (by decide +kernel)) now

def sampleDigest : String := String.ofList (List.replicate 64 'a')

/-- The agent that has fetched a discovery may fetch it again when its lease is over, or end it. -/
theorem agent_session : ∃ row s',
    discoveryState.fetchDiscovery sampleRuntime (agentAt 1) "binding" = .ok (some row, s') ∧
    (∃ row' s'', s'.fetchDiscovery sampleRuntime (agentAt 100) "binding" = .ok (some row', s'') ∧
      row'.jobId = row.jobId) ∧
    ∃ s'', s'.completeDiscovery sampleRuntime (agentAt 2) "binding" row.jobId sampleDigest 0 =
      .ok s'' ∧ ∃ row' ∈ s''.jobs, row'.state = .completed := by
  have hany : ((discoveryState.fetchDiscovery sampleRuntime (agentAt 1) "binding").toOption.any
      fun r => r.1.any fun row =>
        ((r.2.fetchDiscovery sampleRuntime (agentAt 100) "binding").toOption.any fun r' =>
          r'.1.any fun row' => row'.jobId = row.jobId) &&
        ((r.2.completeDiscovery sampleRuntime (agentAt 2) "binding" row.jobId sampleDigest
          0).toOption.any fun s => s.jobs.rows.any fun row' => row'.state = .completed)) = true := by
    decide +kernel
  simp only [Option.any_eq_true, Bool.and_eq_true, List.any_eq_true, decide_eq_true_eq,
    toOption_eq_some, Prod.exists] at hany
  obtain ⟨_, s', hfirst, row, rfl, ⟨_, s'', hsecond, row', rfl, hid⟩, ended, hended, hrow⟩ := hany
  exact ⟨row, s', hfirst, ⟨row', s'', hsecond, hid⟩, ended, hended, hrow⟩

theorem discovery_reached : Transition.Run (OutboxStep sampleRuntime) .initial
    [.requestDiscovery discoveryRequest "binding" 7] discoveryState :=
  Transition.Run.single (.requestDiscovery discovery_accepted)

theorem completed_final_sample : ∃ (s s' : OutboxState) (row : AgentJobRow), row ∈ s.jobs ∧
    row.state = .completed ∧ (∃ row' ∈ s'.jobs, row'.asked = row.asked ∧
      row'.outcome = row.outcome) ∧
    ∀ action now s'', ¬ Delivery sampleRuntime s' action now row.jobId s'' := by
  obtain ⟨_, s', hfetch, -, s, hended, row, hrow, hcompleted⟩ := agent_session
  have reach := (discovery_reached.snoc (.fetchDiscovery hfetch)).snoc (.completeDiscovery hended)
  have step : OutboxStep sampleRuntime s _ _ := .assignTenant row.jobId "org" "part"
  exact ⟨s, _, row, hrow, hcompleted,
    completed_final (by decide) reach hrow hcompleted (Transition.Run.single step)⟩

theorem delivery_after_lease_sample : ∃ (s' t : OutboxState) (jobId : String),
    1 + sampleRuntime.jobLeaseSeconds ≤ 100 ∧ ∃ row ∈ s'.jobs, ∃ row' ∈ t.jobs,
      row.jobId = jobId ∧ row'.asked = row.asked ∧ row.deliveryCount < row'.deliveryCount := by
  obtain ⟨row, s', hfirst, ⟨row', t, hsecond, hid⟩, -⟩ := agent_session
  have second : Delivery sampleRuntime s' _ 100 row'.jobId t := .fetchDiscovery hsecond
  exact ⟨s', t, row.jobId,
    delivery_after_lease (by decide) discovery_reached (.fetchDiscovery hfirst) .nil (hid ▸ second)⟩

end Wbcz.Outbox
