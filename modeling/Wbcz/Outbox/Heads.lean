import Wbcz.Audit.Appends
import Wbcz.Audit.Chain
import Wbcz.Lib.Transition
import Wbcz.Outbox.Channels

/-!
# What stands at the head of the outbox

Every row that is in the table holds a typed job or a discovery job, whatever happened to it
since. A typed job at the head is leased and delivered; a discovery job there makes the request
fail, and since the request is rolled back it stays where it is, in front of the jobs behind it.
-/

namespace Wbcz.Outbox

open Fallible (bind_eq_ok exists_of_map_snd guard_eq_ok toOption_eq_some)
open Wbcz.Audit (AuditAction AuditChain AuditStep)
open Wbcz.Web (AgentPrincipal EnqueueOptions TenantContext)

/-- What happens to the outbox. -/
inductive OutboxAction where
  | enqueue (request : OutboxRequest) (job : AgentJob) (options : EnqueueOptions)
  | fetchOne (request : OutboxRequest) (principal : AgentPrincipal)
  | complete (principal : AgentPrincipal) (result : AgentResult)
  | requestDiscovery (request : OutboxRequest) (bindingId : String) (userId : ℤ)
  | fetchDiscovery (request : OutboxRequest) (bindingId : String)
  | completeDiscovery (request : OutboxRequest) (bindingId jobId resultSha256 : String)
      (printerCount : ℕ)
  | failDiscovery (request : OutboxRequest) (bindingId jobId safeErrorCode : String)
  | assignTenant (jobId organisationId participantId : String)
  | audit (organisationId : String) (action : AuditAction)

/-- A row of the time before tenants, given to the tenant of the bootstrap. -/
def assignedRow (organisationId participantId : String) (row : AgentJobRow) : AgentJobRow :=
  { row with organisationId := some organisationId, participantId := some participantId }

theorem key_assignedRow (organisationId participantId : String) (row : AgentJobRow) :
    (assignedRow organisationId participantId row).key = row.key := rfl

section Steps

variable (runtime : Runtime)

/-- The accepted operations of both channels, the bootstrap of the tenants, and the appends of
all other services to the audit chains. A refused operation leaves everything as it was. A typed
job has no payload where it has none: the JSON `null` is not one. -/
inductive OutboxStep : OutboxState → OutboxAction → OutboxState → Prop
  | enqueue {s s' : OutboxState} {request : OutboxRequest} {job stored : AgentJob}
      {options : EnqueueOptions} (hpayload : job.readPayload ≠ some .null)
      (h : s.enqueue runtime request job options = .ok (stored, s')) :
      OutboxStep s (.enqueue request job options) s'
  | fetchOne {s s' : OutboxState} {request : OutboxRequest} {principal : AgentPrincipal}
      {job : Option AgentJob} (h : s.fetchOne runtime request principal = .ok (job, s')) :
      OutboxStep s (.fetchOne request principal) s'
  | complete {s s' : OutboxState} {principal : AgentPrincipal} {result : AgentResult}
      (h : s.complete runtime principal result = .ok s') :
      OutboxStep s (.complete principal result) s'
  | requestDiscovery {s s' : OutboxState} {request : OutboxRequest} {bindingId : String}
      {userId : ℤ} {run : PrinterDiscoveryRun}
      (h : s.requestDiscovery runtime request bindingId userId = .ok (run, s')) :
      OutboxStep s (.requestDiscovery request bindingId userId) s'
  | fetchDiscovery {s s' : OutboxState} {request : OutboxRequest} {bindingId : String}
      {row : Option AgentJobRow}
      (h : s.fetchDiscovery runtime request bindingId = .ok (row, s')) :
      OutboxStep s (.fetchDiscovery request bindingId) s'
  | completeDiscovery {s s' : OutboxState} {request : OutboxRequest}
      {bindingId jobId resultSha256 : String} {printerCount : ℕ}
      (h : s.completeDiscovery runtime request bindingId jobId resultSha256 printerCount =
        .ok s') :
      OutboxStep s (.completeDiscovery request bindingId jobId resultSha256 printerCount) s'
  | failDiscovery {s s' : OutboxState} {request : OutboxRequest}
      {bindingId jobId safeErrorCode : String}
      (h : s.failDiscovery runtime request bindingId jobId safeErrorCode = .ok s') :
      OutboxStep s (.failDiscovery request bindingId jobId safeErrorCode) s'
  | assignTenant {s : OutboxState} (jobId organisationId participantId : String) :
      OutboxStep s (.assignTenant jobId organisationId participantId)
        { s with
          jobs := s.jobs.modify jobId (assignedRow organisationId participantId)
            (key_assignedRow organisationId participantId) }
  | audit {s : OutboxState} {organisationId : String} {action : AuditAction} {chain : AuditChain}
      (h : AuditStep runtime.digests (some organisationId) (s.chains organisationId) action
        (some chain)) :
      OutboxStep s (.audit organisationId action)
        { s with chains := Function.update s.chains organisationId (some chain) }

/-! ## What the rows hold -/

/-- The row holds a typed job that is valid. -/
structure AgentJobRow.Typed (row : AgentJobRow) (job : AgentJob) : Prop where
  jobId : row.jobId = job.jobId
  jobType : row.jobType = job.jobType.value
  payload : row.payloadJson = job.toJson
  readPayload : job.readPayload ≠ some .null
  valid : job.validate runtime.digests.sha256 runtime.contracts = .ok ()

/-- The row holds a discovery job. -/
structure AgentJobRow.Discovery (row : AgentJobRow) : Prop where
  jobType : row.jobType = "PRINTER_DISCOVERY"
  payload : ∃ runId, row.payloadJson = discoveryPayload runId

/-- The row holds a typed job or a discovery job. -/
def AgentJobRow.Holds (row : AgentJobRow) : Prop :=
  (∃ job, AgentJobRow.Typed runtime row job) ∨ row.Discovery

/-- All rows hold one of the two. -/
def OutboxState.Holds (s : OutboxState) : Prop := ∀ row ∈ s.jobs, row.Holds runtime

end Steps

section Holds

variable {runtime : Runtime} {request : OutboxRequest} {s s' : OutboxState}
  {principal : AgentPrincipal} {row row' : AgentJobRow} {job : AgentJob}

/-- No typed job has the type of the discovery jobs. -/
theorem value_ne_discovery (jobType : AgentJobType) : jobType.value ≠ "PRINTER_DISCOVERY" := by
  cases jobType <;> decide

/-- What a row holds is a matter of its id, its type and its payload. -/
theorem AgentJobRow.Holds.congr (h : row.Holds runtime) (hid : row'.jobId = row.jobId)
    (htype : row'.jobType = row.jobType) (hpayload : row'.payloadJson = row.payloadJson) :
    row'.Holds runtime := by
  rcases h with ⟨job, htyped⟩ | ⟨hdiscovery, hrun⟩
  · exact .inl ⟨job, hid.trans htyped.jobId, htype.trans htyped.jobType,
      hpayload.trans htyped.payload, htyped.readPayload, htyped.valid⟩
  · exact .inr ⟨htype.trans hdiscovery, hpayload ▸ hrun⟩

theorem holds_initial : OutboxState.initial.Holds runtime := by
  intro row hrow
  exact absurd hrow Table.not_mem_empty

theorem holds_of_jobs (h : s.Holds runtime) (hjobs : s'.jobs = s.jobs) : s'.Holds runtime := by
  intro row hrow
  exact h row (hjobs ▸ hrow)

/-- Rewriting a row keeps what the rows hold when the row keeps its type and its payload. -/
theorem holds_modify {jobId : String} {f : AgentJobRow → AgentJobRow}
    (hf : ∀ row, (f row).key = row.key) (h : s.Holds runtime)
    (htype : ∀ row, (f row).jobType = row.jobType)
    (hpayload : ∀ row, (f row).payloadJson = row.payloadJson)
    (hjobs : s'.jobs = s.jobs.modify jobId f hf) : s'.Holds runtime := by
  intro row hrow
  rw [hjobs, Table.mem_modify] at hrow
  rcases hrow with ⟨hrow, -⟩ | ⟨row', hrow', -, rfl⟩
  · exact h row hrow
  · exact (h row' hrow').congr (hf row') (htype row') (hpayload row')

theorem holds_lease (h : s.Holds runtime) : (s.lease runtime request row).Holds runtime :=
  holds_modify (OutboxState.key_leasedRow _) h (fun _ => rfl) (fun _ => rfl) rfl

theorem holds_finish {run : PrinterDiscoveryRun} {state : DiscoveryState} {resultSha256 : String}
    {resultJson : Json} {errorCode : Option String} (h : s.Holds runtime) :
    (s.finish row run state resultSha256 resultJson errorCode).Holds runtime :=
  holds_modify (OutboxState.key_finishedRow _ _ _) h (fun _ => rfl) (fun _ => rfl) rfl

/-- A row that is inserted has to hold one of the two. -/
theorem holds_insertJob (h : s.Holds runtime) (hrow : row.Holds runtime)
    (hinsert : s.insertJob row = .ok s') : s'.Holds runtime := by
  rw [OutboxState.insertJob, guard_eq_ok] at hinsert
  obtain ⟨-, hinsert⟩ := hinsert
  split at hinsert
  · cases hinsert
  · rename_i jobs hjobs
    cases hinsert
    intro other hother
    rcases (Table.mem_insert hjobs).mp hother with hother | rfl
    · exact h other hother
    · exact hrow

theorem append_jobs {organisationId : String} {call : Audit.AppendCall}
    (h : s.append runtime request organisationId call = .ok s') : s'.jobs = s.jobs := by
  obtain ⟨appended, -, hs'⟩ := bind_eq_ok.mp h
  cases hs'
  rfl

theorem trail_jobs {call : String → String → Audit.AppendCall}
    (h : s.trail runtime request row call = .ok s') : s'.jobs = s.jobs := by
  rw [OutboxState.trail] at h
  split at h
  · cases h
    rfl
  · exact append_jobs (guard_eq_ok.mp h).2

theorem claim_jobs (h : s.claim runtime request principal row = .ok s') :
    s'.jobs = (s.lease runtime request row).jobs := trail_jobs h

/-- The row of a valid job holds it. -/
theorem holds_enqueuedRow {bindingId : Option String} {options : EnqueueOptions}
    (hpayload : job.readPayload ≠ some .null)
    (hvalid : job.validate runtime.digests.sha256 runtime.contracts = .ok ()) :
    (OutboxState.enqueuedRow runtime request bindingId job options).Holds runtime :=
  .inl ⟨job, rfl, rfl, rfl, hpayload, hvalid⟩

theorem holds_discoveryRow {run : PrinterDiscoveryRun} :
    (OutboxState.discoveryRow runtime request run).Holds runtime :=
  .inr ⟨rfl, run.id, rfl⟩

theorem holds_enqueue {stored : AgentJob} {options : EnqueueOptions} (h : s.Holds runtime)
    (hpayload : job.readPayload ≠ some .null)
    (henqueue : s.enqueue runtime request job options = .ok (stored, s')) :
    s'.Holds runtime := by
  simp only [OutboxState.enqueue, bind_eq_ok] at henqueue
  obtain ⟨⟨⟩, hvalid, bindingId, -, hrest⟩ := henqueue
  split at hrest
  · simp only [bind_eq_ok] at hrest
    obtain ⟨_, _, _, _, hs'⟩ := hrest
    cases hs'
    exact h
  · split at hrest
    · simp only [guard_eq_ok, bind_eq_ok] at hrest
      obtain ⟨-, _, _, hs'⟩ := hrest
      cases hs'
      exact h
    · simp only [OutboxState.enqueueNew, bind_eq_ok] at hrest
      obtain ⟨inserted, hinsert, recorded, hrecorded, hs'⟩ := hrest
      cases hs'
      exact holds_of_jobs (holds_insertJob h (holds_enqueuedRow hpayload hvalid) hinsert)
        (trail_jobs hrecorded)

theorem holds_requestDiscovery {bindingId : String} {userId : ℤ} {run : PrinterDiscoveryRun}
    (h : s.Holds runtime)
    (hrequest : s.requestDiscovery runtime request bindingId userId = .ok (run, s')) :
    s'.Holds runtime := by
  obtain ⟨found, -, hrest⟩ := bind_eq_ok.mp hrequest
  split at hrest
  · cases hrest
    exact h
  · rw [OutboxState.createDiscovery] at hrest
    split at hrest
    · cases hrest
    · rename_i runs hruns
      simp only [bind_eq_ok] at hrest
      obtain ⟨inserted, hinsert, recorded, hrecorded, hs'⟩ := hrest
      cases hs'
      have hruns : OutboxState.Holds runtime { s with runs := runs } := h
      exact holds_of_jobs (holds_insertJob hruns holds_discoveryRow hinsert)
        (append_jobs hrecorded)

/-- A lease gives nothing where nothing is due, and else the job of the head. -/
theorem fetchOne_eq_ok {result : Option AgentJob} :
    s.fetchOne runtime request principal = .ok (result, s') ↔
      (s.head request principal = none ∧ result = none ∧ s' = s) ∨
        ∃ row job, s.head request principal = some row ∧
          s.claim runtime request principal row = .ok s' ∧
          jobOfPayload row.payloadJson = .ok job ∧ result = some job := by
  rw [OutboxState.fetchOne]
  cases hhead : s.head request principal with
  | none => simp [eq_comm]
  | some row =>
    simp only [bind_eq_ok, Except.ok.injEq, Prod.mk.injEq, reduceCtorEq, false_and,
      false_or, Option.some.injEq]
    constructor
    · rintro ⟨claimed, hclaimed, job, hjob, rfl, rfl⟩
      exact ⟨row, job, rfl, hclaimed, hjob, rfl⟩
    · rintro ⟨row', job, rfl, hclaimed, hjob, rfl⟩
      exact ⟨s', hclaimed, job, hjob, rfl, rfl⟩

/-- Every step keeps what the rows hold. -/
theorem OutboxStep.holds {action : OutboxAction} (h : s.Holds runtime)
    (step : OutboxStep runtime s action s') : s'.Holds runtime := by
  cases step with
  | enqueue hpayload henqueue => exact holds_enqueue h hpayload henqueue
  | fetchOne hfetch =>
    rcases fetchOne_eq_ok.mp hfetch with ⟨-, -, rfl⟩ | ⟨row, job, -, hclaim, -, -⟩
    · exact h
    · exact holds_of_jobs (holds_lease h) (claim_jobs hclaim)
  | complete hcomplete =>
    rw [OutboxState.complete] at hcomplete
    split at hcomplete
    · cases hcomplete
    · obtain ⟨-, hrest⟩ := guard_eq_ok.mp hcomplete
      split at hrest
      · cases (guard_eq_ok.mp hrest).2
        exact h
      · cases hrest
        exact holds_modify (OutboxState.key_completedRow runtime _) h (fun _ => rfl) (fun _ => rfl) rfl
  | requestDiscovery hrequest => exact holds_requestDiscovery h hrequest
  | fetchDiscovery hfetch =>
    obtain ⟨found, -, hrest⟩ := bind_eq_ok.mp hfetch
    split at hrest
    · cases hrest
      exact h
    · simp only [bind_eq_ok, guard_eq_ok] at hrest
      obtain ⟨run, -, -, hs'⟩ := hrest
      cases hs'
      exact holds_lease h
  | completeDiscovery hcomplete =>
    simp only [OutboxState.completeDiscovery, bind_eq_ok] at hcomplete
    obtain ⟨found, -, row, -, hrest⟩ := hcomplete
    split at hrest
    · split at hrest
      · cases hrest
        exact h
      · cases hrest
    · simp only [guard_eq_ok, bind_eq_ok] at hrest
      obtain ⟨-, run, -, -, hs'⟩ := hrest
      cases hs'
      exact holds_finish h
  | failDiscovery hfail =>
    simp only [OutboxState.failDiscovery, bind_eq_ok, guard_eq_ok] at hfail
    obtain ⟨found, -, row, -, -, run, -, hs'⟩ := hfail
    cases hs'
    exact holds_finish h
  | assignTenant jobId organisationId participantId =>
    exact holds_modify (key_assignedRow _ _) h (fun _ => rfl) (fun _ => rfl) rfl
  | audit haudit => exact h

/-- Along every run the rows hold typed jobs or discovery jobs. -/
theorem run_holds {actions : List OutboxAction}
    (run : Transition.Run (OutboxStep runtime) .initial actions s) : s.Holds runtime :=
  run.invariant (OutboxState.Holds runtime) holds_initial fun _ _ _ => OutboxStep.holds

end Holds

/-! ## The head -/

section Head

variable {runtime : Runtime} {request : OutboxRequest} {s s' : OutboxState}
  {principal : AgentPrincipal} {scope : TenantContext} {row : AgentJobRow} {job : AgentJob}

/-- A lease leaves the outbox as it is where nothing is due, and else leases a row of the
binding and gives the valid job that the row holds. -/
def Delivers (runtime : Runtime) (request : OutboxRequest) (principal : AgentPrincipal)
    (s : OutboxState) : Prop :=
  s.fetchOne runtime request principal = .ok (none, s) ∨
    ∃ row ∈ s.jobs, ∃ job s', row.agentBindingId.isSome ∧
      row.agentBindingId = principal.bindingId ∧ AgentJobRow.Typed runtime row job ∧
      s.fetchOne runtime request principal = .ok (some job, s') ∧
      s'.jobs = (s.lease runtime request row).jobs

/-- The audit service takes the event of the lease of a row. -/
def Recorded (runtime : Runtime) (request : OutboxRequest) (principal : AgentPrincipal)
    (scope : TenantContext) (s : OutboxState) (row : AgentJobRow) : Prop :=
  ∃ appended, Audit.append runtime.digests request.pseudonymizer request.directory request.draws
    (claimedCall principal
      (OutboxState.leasedRow (request.now + runtime.jobLeaseSeconds) row) scope.organisationId
      scope.participantId) (s.chains scope.organisationId) = .ok appended

/-- The head is a row that the agent may lease. -/
theorem head_spec (h : s.head request principal = some row) :
    row ∈ s.jobs ∧ OutboxState.leases principal row = true := by
  have hmem := List.argmin_mem h
  simp only [List.mem_filter, Bool.and_eq_true] at hmem
  exact ⟨hmem.1, hmem.2.1.1⟩

theorem bindTenantScope_eq_ok {dir : Web.Directory} {organisationId participantId : String}
    (h : dir.bindTenantScope organisationId participantId = .ok scope) :
    organisationId ≠ "" ∧ participantId ≠ "" ∧ scope.organisationId = organisationId ∧
      scope.participantId = participantId := by
  rw [Web.Directory.bindTenantScope, guard_eq_ok, not_or] at h
  obtain ⟨⟨horganisation, hparticipant⟩, h⟩ := h
  split at h
  · cases h
  · cases (guard_eq_ok.mp h).2
    exact ⟨horganisation, hparticipant, rfl, rfl⟩

/-- An authenticated agent has a binding and a tenant. -/
theorem authenticate_eq_ok {dir : Web.Directory} {sha256 : List UInt8 → String} {token : String}
    (h : dir.authenticate sha256 token = .ok (principal, scope)) :
    principal.bindingId.isSome ∧ principal.organisationId = some scope.organisationId ∧
      principal.participantId = some scope.participantId ∧ scope.organisationId ≠ "" ∧
      scope.participantId ≠ "" := by
  obtain ⟨digest, -, h⟩ := bind_eq_ok.mp h
  split at h
  · cases h
  · obtain ⟨-, h⟩ := guard_eq_ok.mp h
    obtain ⟨bound, hbound, hresult⟩ := bind_eq_ok.mp h
    cases hresult
    obtain ⟨horganisation, hparticipant, hsame, hsame'⟩ := bindTenantScope_eq_ok hbound
    exact ⟨rfl, congrArg some hsame.symm, congrArg some hsame'.symm, hsame ▸ horganisation,
      hsame' ▸ hparticipant⟩

/-- The rows an authenticated agent may lease are those of its binding and its tenant. -/
theorem leases_eq_true (hbinding : principal.bindingId.isSome)
    (h : OutboxState.leases principal row = true) :
    row.agentBindingId = principal.bindingId ∧ row.organisationId = principal.organisationId ∧
      row.participantId = principal.participantId := by
  obtain ⟨bindingId, hid⟩ := Option.isSome_iff_exists.mp hbinding
  rw [OutboxState.leases, hid] at h
  simp only [Bool.and_eq_true, decide_eq_true_eq] at h
  exact ⟨h.1.1.trans hid.symm, h.1.2, h.2⟩

/-- A row of the tenant is leased when the audit service takes the event of the lease. -/
theorem claim_iff_recorded (horganisation : row.organisationId = some scope.organisationId)
    (hparticipant : row.participantId = some scope.participantId)
    (hnonempty : scope.organisationId ≠ "") (hnonempty' : scope.participantId ≠ "") :
    (∃ s', s.claim runtime request principal row = .ok s') ↔
      Recorded runtime request principal scope s row := by
  have hclaim : s.claim runtime request principal row =
      (s.lease runtime request row).append runtime request scope.organisationId
        (claimedCall principal (OutboxState.leasedRow (request.now + runtime.jobLeaseSeconds) row)
          scope.organisationId scope.participantId) := by
    simp only [OutboxState.claim, OutboxState.trail, OutboxState.leasedRow, horganisation,
      hparticipant, truthyText, Option.isNone_some, Option.getD_some, decide_eq_true_eq,
      hnonempty, hnonempty', ne_eq, not_false_eq_true, not_true_eq_false, or_self, if_false,
      Bool.false_eq_true, and_self]
  rw [hclaim]
  constructor
  · rintro ⟨s', happend⟩
    obtain ⟨appended, happended, -⟩ := bind_eq_ok.mp happend
    exact ⟨appended, happended⟩
  · rintro ⟨appended, happended⟩
    exact ⟨_, bind_eq_ok.mpr ⟨appended, happended, rfl⟩⟩

theorem jobOfPayload_typed (h : AgentJobRow.Typed runtime row job) :
    jobOfPayload row.payloadJson = .ok job := by
  rw [h.payload]
  exact jobOfPayload_toJson h.readPayload

/-- A discovery job at the head fails every request for a job. -/
theorem fetchOne_discovery (hhead : s.head request principal = some row) (h : row.Discovery) :
    ∃ e, s.fetchOne runtime request principal = .error e := by
  cases hresult : s.fetchOne runtime request principal with
  | error e => exact ⟨e, rfl⟩
  | ok result =>
    obtain ⟨runId, hpayload⟩ := h.payload
    rcases fetchOne_eq_ok.mp hresult with ⟨hnone, -⟩ | ⟨row', job, hrow', -, hjob, -⟩
    · rw [hhead] at hnone
      cases hnone
    · cases hhead.symm.trans hrow'
      rw [hpayload, jobOfPayload_discoveryPayload] at hjob
      cases hjob

/-- In every reachable state the lease of an authenticated agent delivers exactly when the head
of its rows, if there is one, is no discovery job and the audit service takes the event. -/
theorem delivers_iff {actions : List OutboxAction} {token : String}
    (reach : Transition.Run (OutboxStep runtime) .initial actions s)
    (hauth : request.web.authenticate runtime.digests.sha256 token = .ok (principal, scope)) :
    Delivers runtime request principal s ↔
      ∀ row, s.head request principal = some row →
        row.jobType ≠ "PRINTER_DISCOVERY" ∧ Recorded runtime request principal scope s row := by
  obtain ⟨hbinding, horganisation, hparticipant, hnonempty, hnonempty'⟩ :=
    authenticate_eq_ok hauth
  have hclaims : ∀ row, s.head request principal = some row →
      ((∃ s', s.claim runtime request principal row = .ok s') ↔
        Recorded runtime request principal scope s row) := by
    intro row hhead
    obtain ⟨-, hrowOrganisation, hrowParticipant⟩ := leases_eq_true hbinding (head_spec hhead).2
    exact claim_iff_recorded (hrowOrganisation.trans horganisation)
      (hrowParticipant.trans hparticipant) hnonempty hnonempty'
  constructor
  · intro hdelivers row hhead
    have hresult : ∃ result s', s.fetchOne runtime request principal = .ok (result, s') := by
      rcases hdelivers with hnone | ⟨-, -, job, s', -, -, -, hsome, -⟩
      · exact ⟨_, _, hnone⟩
      · exact ⟨_, _, hsome⟩
    obtain ⟨result, s', hfetch⟩ := hresult
    rcases fetchOne_eq_ok.mp hfetch with ⟨hnone, -⟩ | ⟨row', job, hrow', hclaim, -, -⟩
    · rw [hhead] at hnone
      cases hnone
    · cases hhead.symm.trans hrow'
      refine ⟨?_, (hclaims row hhead).mp ⟨s', hclaim⟩⟩
      intro htype
      rcases run_holds reach row (head_spec hhead).1 with ⟨job', htyped⟩ | hdiscovery
      · exact value_ne_discovery job'.jobType (htyped.jobType.symm.trans htype)
      · obtain ⟨e, herror⟩ := @fetchOne_discovery runtime _ _ _ _ hhead hdiscovery
        rw [herror] at hfetch
        cases hfetch
  · intro hcondition
    cases hhead : s.head request principal with
    | none => exact .inl (fetchOne_eq_ok.mpr (.inl ⟨hhead, rfl, rfl⟩))
    | some row =>
      obtain ⟨htype, hrecorded⟩ := hcondition row hhead
      obtain ⟨s', hclaim⟩ := (hclaims row hhead).mpr hrecorded
      obtain ⟨hrow, hleases⟩ := head_spec hhead
      have hsame := (leases_eq_true hbinding hleases).1
      rcases run_holds reach row hrow with ⟨job, htyped⟩ | hdiscovery
      · exact .inr ⟨row, hrow, job, s', hsame ▸ hbinding, hsame, htyped,
          fetchOne_eq_ok.mpr (.inr ⟨row, job, hhead, hclaim, jobOfPayload_typed htyped, rfl⟩),
          claim_jobs hclaim⟩
      · exact absurd hdiscovery.jobType htype

end Head

/-! ## What goes through -/

section Parts

variable {runtime : Runtime} {request : OutboxRequest} {s : OutboxState} {scope : TenantContext}
  {jobs : Table AgentJobRow.key} {chain : AuditChain}

/-- A discovery is requested when its run and its job are inserted and its event appended. -/
theorem requestDiscovery_of_parts {bindingId : String} {userId : ℤ} {binding : PrintingBinding}
    {run : PrinterDiscoveryRun} {runs : Table PrinterDiscoveryRun.key}
    (hrun : run = OutboxState.newRun request scope binding.id)
    (hfound : OutboxState.discoveryBinding runtime request bindingId = .ok (scope, binding))
    (hopen : s.openRun scope binding.id = none) (hruns : s.runs.insert run = some runs)
    (hfits : (OutboxState.discoveryRow runtime request run).fits = true)
    (hjobs : s.jobs.insert (OutboxState.discoveryRow runtime request run) = some jobs)
    (happend : ∃ receipt, Audit.append runtime.digests request.pseudonymizer request.directory
      request.draws (discoveryRequestedCall request userId run) (s.chains run.organisationId) =
        .ok (receipt, chain)) :
    s.requestDiscovery runtime request bindingId userId = .ok (run,
      { jobs := jobs, runs := runs
        chains := Function.update s.chains run.organisationId (some chain) }) := by
  obtain ⟨receipt, happend⟩ := happend
  subst hrun
  simp only [OutboxState.requestDiscovery, OutboxState.createDiscovery, OutboxState.insertJob,
    OutboxState.append, hfound, hopen, hruns, hfits, hjobs, happend, bind, Except.bind,
    not_true_eq_false, if_false]

/-- A job of a tenant is enqueued when its row is inserted and its event appended. -/
theorem enqueue_of_parts {job : AgentJob} {options : EnqueueOptions} {bindingId : Option String}
    {row : AgentJobRow} (hrow : row = OutboxState.enqueuedRow runtime request bindingId job options)
    (hscope : request.tenant = some scope) (horganisation : scope.organisationId ≠ "")
    (hparticipant : scope.participantId ≠ "")
    (hvalid : job.validate runtime.digests.sha256 runtime.contracts = .ok ())
    (hbinding : request.web.jobBinding request.tenant job.jobType = .ok bindingId)
    (hstored : s.storedJob request job.jobId = none) (hprior : s.priorWrite job = none)
    (hfits : row.fits = true) (hjobs : s.jobs.insert row = some jobs)
    (happend : ∃ receipt, Audit.append runtime.digests request.pseudonymizer request.directory
      request.draws (createdCall request.tenant row scope.organisationId scope.participantId)
      (s.chains scope.organisationId) = .ok (receipt, chain)) :
    s.enqueue runtime request job options = .ok (job, { s with
      jobs := jobs
      chains := Function.update s.chains scope.organisationId (some chain) }) := by
  obtain ⟨receipt, happend⟩ := happend
  have horg : row.organisationId = some scope.organisationId := by simp [hrow, hscope,
    OutboxState.enqueuedRow]
  have hpart : row.participantId = some scope.participantId := by simp [hrow, hscope,
    OutboxState.enqueuedRow]
  have htrail : OutboxState.trail runtime request { s with jobs := jobs } row
      (createdCall request.tenant row) = .ok { s with
        jobs := jobs
        chains := Function.update s.chains scope.organisationId (some chain) } := by
    simp only [OutboxState.trail, horg, hpart, OutboxState.append, bind, Except.bind]
    simp [truthyText, horganisation, hparticipant, happend]
  simp only [OutboxState.enqueue, OutboxState.enqueueNew, OutboxState.insertJob, hvalid, hbinding,
    hstored, hprior, ← hrow, hfits, hjobs, htrail, bind, Except.bind, not_true_eq_false, if_false]

end Parts

/-! ## A discovery in front of a poll -/

section Sample

open Wbcz.Audit (AppendCall Draws InsertArguments Opened Uuid4 canonicalUuid sampleDraws
  sampleUuid uuidText)
open Wbcz.Web (AgentBindingRecord)

def sampleRuntime : Runtime where
  digests := ⟨Sha256.hexdigest, Sha256.hmacHexdigest⟩
  contracts := fun _ _ => none
  jobLeaseSeconds := 90
  printingEnabled := true
  agentHealthStaleSeconds := 180

def sampleToken : String := String.ofList (List.replicate 43 't')

/-- The primary binding of a participant. -/
def sampleBinding : AgentBindingRecord where
  id := "binding"
  organisationId := "org"
  participantId := "part"
  credentialHash := Sha256.hexdigest (Text.utf8 ("m14-agent-credential:v1:" ++ sampleToken))
  state := .active
  isPrimary := true
  compatible := true
  supportedJobTypes := []

def sampleOrganisation : Web.Directory where
  config := ⟨none, false, "7700000000", 1, 2, 4, by decide, by decide⟩
  bootstrapped := true
  bindings := [sampleBinding]
  activeOrganisations := ["org"]
  participants := [⟨"part", "org", "7700000000", true, true⟩]
  events := []
  imports := []
  runs := []

theorem sampleKey_size : ∀ k, some (List.replicate 32 (7 : UInt8)) = some k → 32 ≤ k.length := by
  simp

/-- A request for the participant. -/
def sampleRequest (userId : Option ℤ) (eventId : Uuid4) (now : ℤ) : OutboxRequest where
  tenant := some ⟨userId, "org", "part", "7700000000"⟩
  requestId := some "req"
  correlationId := some "req"
  causationId := none
  pseudonymizer := ⟨some (List.replicate 32 7), "audit-v1", sampleKey_size⟩
  directory := Audit.sampleDirectory
  web := sampleOrganisation
  bindings := [⟨sampleBinding, some 0, [OutboxState.discoveryCapability]⟩]
  locked := []
  draws := { sampleDraws with eventId := eventId }
  runId := sampleUuid 'a' (by decide +kernel)
  now := now

def discoveryRequest : OutboxRequest :=
  sampleRequest (some 7) (sampleUuid 'b' (by decide +kernel)) 0

def pollRequest : OutboxRequest := sampleRequest none (sampleUuid 'c' (by decide +kernel)) 1

def agentRequest : OutboxRequest := sampleRequest none (sampleUuid '9' (by decide +kernel)) 2

/-- A poll for the document of an operation. -/
def samplePoll : AgentJob where
  jobId := "job"
  jobType := .pollDocument
  operationId := "operation"
  pg := p0Pg
  expectedInn := "7700000000"
  documentId := some "document"

def samplePrincipal : AgentPrincipal := ⟨some "binding", some "org", some "part", "7700000000"⟩

def sampleScope : TenantContext := ⟨some 7, "org", "part", "7700000000"⟩

/-- The run of the discovery and the event of its request. -/
def sampleRun : PrinterDiscoveryRun := OutboxState.newRun discoveryRequest sampleScope "binding"

def discoveryCall : AppendCall := discoveryRequestedCall discoveryRequest 7 sampleRun

theorem discovery_registered :
    (Audit.auditEventRegistry discoveryCall.eventType).isSome = true := by decide +kernel

theorem discovery_snapshot : (Audit.userSnapshot Audit.sampleDirectory
    (Option.get _ discovery_registered) 7 discoveryCall.tenant).toOption.isSome = true := by
  decide +kernel

def discoveryArguments : InsertArguments :=
  discoveryCall.arguments (Option.get _ discovery_registered) (Option.get _ discovery_snapshot)
    discoveryCall.metadata sampleDraws.now

theorem discovery_sanitized : Audit.sanitizeMetadata discoveryRequest.pseudonymizer
    sampleRuntime.digests (some "org") discoveryCall.metadata = .ok discoveryCall.metadata :=
  Audit.sanitizeMetadata_plain (show 3 ≤ 100 by decide) (by decide +kernel) rfl
    (by decide +kernel) (by decide +kernel)

theorem discovery_prepared : Audit.prepareAppend sampleRuntime.digests
    discoveryRequest.pseudonymizer Audit.sampleDirectory discoveryRequest.draws.now discoveryCall =
      .ok discoveryArguments := by
  have huser : Audit.userSnapshot Audit.sampleDirectory (Option.get _ discovery_registered) 7
      discoveryCall.tenant = .ok (Option.get _ discovery_snapshot) :=
    toOption_eq_some.mp (Option.some_get _).symm
  have hactor : Audit.actorSnapshot discoveryRequest.pseudonymizer sampleRuntime.digests
      Audit.sampleDirectory (Option.get _ discovery_registered) discoveryCall.actor
      discoveryCall.tenant discoveryCall.metadata =
        .ok (Option.get _ discovery_snapshot, discoveryCall.metadata) := by
    rw [Audit.actorSnapshot, if_neg (by decide +kernel)]
    exact bind_eq_ok.mpr ⟨_, huser, rfl⟩
  exact Audit.prepareAppend_eq_arguments (Option.some_get _).symm (by decide +kernel)
    (by decide +kernel) (by decide +kernel) hactor discovery_sanitized
    (Audit.subjectOf_plain (by decide +kernel) (by decide) rfl) rfl rfl (by decide +kernel)

theorem genesis_isSome : (Audit.resolveChain sampleRuntime.digests discoveryRequest.pseudonymizer
    Audit.sampleDirectory discoveryRequest.draws discoveryCall.tenant none).toOption.isSome =
      true := by
  simp only [Audit.resolveChain, Audit.insertLocked, Audit.insertRow, Audit.insertNew,
    Audit.maybeCheckpointLocked, Audit.payloadHash_eq]
  decide +kernel

def genesisChain : AuditChain := Option.get _ genesis_isSome

theorem genesisChain_eq : Audit.resolveChain sampleRuntime.digests
    discoveryRequest.pseudonymizer Audit.sampleDirectory discoveryRequest.draws
    discoveryCall.tenant none = .ok genesisChain :=
  toOption_eq_some.mp (Option.some_get genesis_isSome).symm

theorem discovery_isSome : ((Audit.insertLocked sampleRuntime.digests
    discoveryRequest.pseudonymizer Audit.sampleDirectory discoveryRequest.draws
    discoveryRequest.draws.eventId discoveryArguments genesisChain).toOption.map
      Prod.snd).isSome = true := by
  simp only [genesisChain, Audit.resolveChain, Audit.insertLocked, Audit.insertRow, Audit.insertNew,
    Audit.maybeCheckpointLocked, Audit.payloadHash_eq]
  decide +kernel

/-- The chain with the event of the request. -/
def discoveryChain : AuditChain := Option.get _ discovery_isSome

theorem discovery_appended : ∃ receipt, Audit.append sampleRuntime.digests
    discoveryRequest.pseudonymizer Audit.sampleDirectory discoveryRequest.draws discoveryCall
    none = .ok (receipt, discoveryChain) := by
  obtain ⟨receipt, h⟩ := exists_of_map_snd (Option.some_get discovery_isSome).symm
  exact ⟨receipt, (Audit.append_eq discovery_prepared genesisChain_eq rfl rfl).trans h⟩

theorem discoveryChain_opened : Opened sampleRuntime.digests discoveryChain := by
  obtain ⟨receipt, h⟩ := discovery_appended
  exact (Audit.Opened.append (by simp) h).1

/-- The row of the poll and the event of it. -/
def pollRow : AgentJobRow :=
  OutboxState.enqueuedRow sampleRuntime pollRequest (some "binding") samplePoll
    { purpose := "POLL", availableAt := 1 }

example : pollRow.jobType = "POLL_DOCUMENT" := by decide +kernel

def pollCall : AppendCall := createdCall pollRequest.tenant pollRow "org" "part"

theorem poll_registered : (Audit.auditEventRegistry pollCall.eventType).isSome = true := by
  decide +kernel

def pollArguments : InsertArguments :=
  pollCall.arguments (Option.get _ poll_registered) {} pollCall.metadata sampleDraws.now

theorem poll_sanitized : Audit.sanitizeMetadata pollRequest.pseudonymizer sampleRuntime.digests
    (some "org") pollCall.metadata = .ok pollCall.metadata :=
  Audit.sanitizeMetadata_plain (show 4 ≤ 100 by decide) (by decide +kernel) rfl
    (by decide +kernel) (by decide +kernel)

theorem poll_prepared : Audit.prepareAppend sampleRuntime.digests pollRequest.pseudonymizer
    Audit.sampleDirectory pollRequest.draws.now pollCall = .ok pollArguments := by
  have hactor : Audit.actorSnapshot pollRequest.pseudonymizer sampleRuntime.digests
      Audit.sampleDirectory (Option.get _ poll_registered) pollCall.actor pollCall.tenant
      pollCall.metadata = .ok ({}, pollCall.metadata) := by
    rw [Audit.actorSnapshot, if_neg (by decide +kernel)]
    rfl
  exact Audit.prepareAppend_eq_arguments (Option.some_get _).symm (by decide +kernel)
    (by decide +kernel) (by decide +kernel) hactor poll_sanitized
    (Audit.subjectOf_plain (by decide +kernel) (by decide) rfl) rfl rfl (by decide +kernel)

theorem poll_isSome : ((Audit.insertLocked sampleRuntime.digests pollRequest.pseudonymizer
    Audit.sampleDirectory pollRequest.draws pollRequest.draws.eventId pollArguments
    discoveryChain).toOption.map Prod.snd).isSome = true := by
  simp only [discoveryChain, genesisChain, Audit.resolveChain, Audit.insertLocked, Audit.insertRow,
    Audit.insertNew, Audit.maybeCheckpointLocked, Audit.payloadHash_eq]
  decide +kernel

theorem poll_appended : ∃ receipt, Audit.append sampleRuntime.digests pollRequest.pseudonymizer
    Audit.sampleDirectory pollRequest.draws pollCall (some discoveryChain) =
      .ok (receipt, Option.get _ poll_isSome) := by
  obtain ⟨receipt, h⟩ := exists_of_map_snd (Option.some_get poll_isSome).symm
  exact ⟨receipt, (Audit.append_eq poll_prepared
    (Audit.resolveChain_opened discoveryChain_opened _) rfl rfl).trans h⟩

example : sampleRun.id = discoveryRequest.runId.text := by decide +kernel

/-- The rows of the discovery and of the poll. -/
theorem discoveryRow_isSome : (OutboxState.initial.jobs.insert
    (OutboxState.discoveryRow sampleRuntime discoveryRequest sampleRun)).isSome = true := rfl

theorem sampleRun_isSome : (OutboxState.initial.runs.insert sampleRun).isSome = true := rfl

def discoveryState : OutboxState where
  jobs := Option.get _ discoveryRow_isSome
  runs := Option.get _ sampleRun_isSome
  chains := Function.update OutboxState.initial.chains "org" (some discoveryChain)

theorem pollRow_isSome : (discoveryState.jobs.insert pollRow).isSome = true := by decide +kernel

def pollState : OutboxState :=
  { discoveryState with
    jobs := Option.get _ pollRow_isSome
    chains := Function.update discoveryState.chains "org" (some (Option.get _ poll_isSome)) }

theorem discovery_accepted : OutboxState.initial.requestDiscovery sampleRuntime discoveryRequest
    "binding" 7 = .ok (sampleRun, discoveryState) := by
  have hfound : OutboxState.discoveryBinding sampleRuntime discoveryRequest "binding" =
      .ok (sampleScope, ⟨sampleBinding, some 0, [OutboxState.discoveryCapability]⟩) := rfl
  have hfits : (OutboxState.discoveryRow sampleRuntime discoveryRequest sampleRun).fits = true := by
    simp only [AgentJobRow.fits, Bool.and_eq_true]
    exact ⟨by decide +kernel, Web.fitsString_hexdigest _⟩
  exact requestDiscovery_of_parts rfl hfound rfl (Option.some_get sampleRun_isSome).symm
    hfits (Option.some_get discoveryRow_isSome).symm discovery_appended

theorem poll_accepted : discoveryState.enqueue sampleRuntime pollRequest samplePoll
    { purpose := "POLL", availableAt := 1 } = .ok (samplePoll, pollState) := by
  have hscope : pollRequest.tenant = some ⟨none, "org", "part", "7700000000"⟩ := rfl
  have hstored : discoveryState.storedJob pollRequest samplePoll.jobId = none :=
    Option.isNone_iff_eq_none.mp (by decide +kernel)
  have hchain : discoveryState.chains "org" = some discoveryChain := by
    simp only [discoveryState, Function.update_self]
  have hfits : pollRow.fits = true := by
    simp only [AgentJobRow.fits, Bool.and_eq_true]
    exact ⟨by decide +kernel, Web.fitsString_hexdigest _⟩
  exact enqueue_of_parts rfl hscope (by decide) (by decide) (by decide +kernel)
    (by decide +kernel) hstored rfl hfits (Option.some_get pollRow_isSome).symm
    (hchain.symm ▸ poll_appended)

/-- The types of the rows that are due for the agent, and that of the one at the head. -/
def sampleHead (s : OutboxState) : List String × Option String :=
  (s.jobs.rows.map AgentJobRow.jobType,
    (s.head agentRequest samplePrincipal).map AgentJobRow.jobType)

theorem sampleHead_congr {s s' : OutboxState} (h : s.jobs = s'.jobs) :
    sampleHead s = sampleHead s' := by
  simp only [sampleHead, OutboxState.head, h]

theorem pollState_head :
    sampleHead pollState = (["PRINTER_DISCOVERY", "POLL_DOCUMENT"], some "PRINTER_DISCOVERY") := by
  have hhead : sampleHead ⟨pollState.jobs, .empty, fun _ => none⟩ =
      (["PRINTER_DISCOVERY", "POLL_DOCUMENT"], some "PRINTER_DISCOVERY") := by decide +kernel
  exact (sampleHead_congr rfl).trans hhead

theorem samplePrincipal_authenticated :
    agentRequest.web.authenticate sampleRuntime.digests.sha256 sampleToken =
      .ok (samplePrincipal, ⟨none, "org", "part", "7700000000"⟩) :=
  toOption_eq_some.mp (by decide +kernel)

/-- The discovery is at the head, and the poll is behind it. -/
theorem sampleSession_spec : ∃ (actions : List OutboxAction) (s : OutboxState) (row : AgentJobRow),
    Transition.Run (OutboxStep sampleRuntime) .initial actions s ∧
      s.jobs.rows.map AgentJobRow.jobType = ["PRINTER_DISCOVERY", "POLL_DOCUMENT"] ∧
      s.head agentRequest samplePrincipal = some row ∧ row.Discovery := by
  obtain ⟨htypes, htype⟩ := Prod.mk.inj pollState_head
  obtain ⟨row, hrow, htype⟩ := Option.map_eq_some_iff.mp htype
  have reach : Transition.Run (OutboxStep sampleRuntime) .initial _ pollState :=
    (Transition.Run.single (.requestDiscovery discovery_accepted)).snoc
      (.enqueue (by simp [samplePoll]) poll_accepted)
  refine ⟨_, pollState, row, reach, htypes, hrow, ?_⟩
  rcases run_holds reach row (head_spec hrow).1 with ⟨job, htyped⟩ | hdiscovery
  · exact absurd (htyped.jobType.symm.trans htype) (value_ne_discovery job.jobType)
  · exact hdiscovery

theorem delivers_iff_sample : ∃ (s : OutboxState),
    Delivers sampleRuntime agentRequest samplePrincipal s ↔
      ∀ row, s.head agentRequest samplePrincipal = some row →
        row.jobType ≠ "PRINTER_DISCOVERY" ∧
          Recorded sampleRuntime agentRequest samplePrincipal ⟨none, "org", "part", "7700000000"⟩
            s row := by
  obtain ⟨actions, s, -, reach, -⟩ := sampleSession_spec
  exact ⟨s, delivers_iff reach samplePrincipal_authenticated⟩

/-- The discovery of the printers of a participant keeps a poll behind it from the agent. -/
theorem discovery_blocks_poll :
    ∃ (actions : List OutboxAction) (s : OutboxState),
      Transition.Run (OutboxStep sampleRuntime) .initial actions s ∧
      agentRequest.web.authenticate sampleRuntime.digests.sha256 sampleToken =
        .ok (samplePrincipal, ⟨none, "org", "part", "7700000000"⟩) ∧
      s.jobs.rows.map AgentJobRow.jobType = ["PRINTER_DISCOVERY", "POLL_DOCUMENT"] ∧
      (∃ e, s.fetchOne sampleRuntime agentRequest samplePrincipal = .error e) ∧
      ¬ Delivers sampleRuntime agentRequest samplePrincipal s := by
  obtain ⟨actions, s, row, reach, htypes, hhead, hdiscovery⟩ := sampleSession_spec
  obtain ⟨e, herror⟩ := @fetchOne_discovery sampleRuntime _ _ _ _ hhead hdiscovery
  refine ⟨actions, s, reach, samplePrincipal_authenticated, htypes, ⟨e, herror⟩, ?_⟩
  rintro (hnone | ⟨-, -, job, s', -, -, -, hsome, -⟩)
  · rw [herror] at hnone
    cases hnone
  · rw [herror] at hsome
    cases hsome

end Sample

end Wbcz.Outbox
