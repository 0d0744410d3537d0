import Wbcz.Lib.Transition
import Wbcz.PrinterProfiles.Loops

/-!
# Histories of discovery and approval

The calls of the service in any order, for any number of agents, with the bindings of the agents
changing in between. A call that raises is not a step: its transaction is rolled back.
-/

namespace Wbcz.PrinterProfiles

open Transition (Run)
open Fallible (found bind_eq_ok ensure_eq_ok found_eq_ok)

/-! ## What the calls do -/

section Calls

variable {platform : Platform} {trace : Trace} {now userId : ℤ}
  {runId jobId bindingId newId profileId code : String} {observationId : String × String}
  {os : List PrinterObservation} {s s' : ProfileState} {event : PrinterEvent}

theorem audit_eq_ok (h : s.audit event = .ok s') : ∃ events,
    s.events.record auditEventKeyConflict event = .ok events ∧ s' = { s with events } := by
  obtain ⟨events, hevents, h⟩ := bind_eq_ok.mp h
  cases h
  exact ⟨events, hevents, rfl⟩

theorem job_eq_ok {job : AgentJobRecord} (h : s.job jobId bindingId = .ok job) :
    job ∈ s.jobs ∧ job.jobId = jobId ∧ job.agentBindingId = bindingId := by
  obtain ⟨hfind, hbinding⟩ := Option.filter_eq_some_iff.mp (found_eq_ok.mp h)
  exact ⟨Table.mem_of_find? hfind, Table.key_of_find? hfind, of_decide_eq_true hbinding⟩

theorem run_eq_ok {run : PrinterDiscoveryRunRecord} (h : s.run runId = .ok run) :
    run ∈ s.runs ∧ run.id = runId := by
  have hfind := found_eq_ok.mp h
  exact ⟨Table.mem_of_find? hfind, Table.key_of_find? hfind⟩

theorem binding_eq_ok {binding : AgentBindingRecord} (h : s.binding bindingId = .ok binding) :
    binding.id = bindingId := Table.key_of_find? (found_eq_ok.mp h)

/-- What is parsed is what was reported, and is valid. -/
theorem parsed_eq {parsed : List PrinterObservation}
    (h : os.mapM (PrinterObservation.fromMapping platform.capabilityHash) = .ok parsed) :
    parsed = os ∧ ∀ o ∈ os, o.validate platform.capabilityHash = .ok () := by
  induction os generalizing parsed with
  | nil =>
    cases h
    exact ⟨rfl, fun _ h => absurd h List.not_mem_nil⟩
  | cons o os ih =>
    rw [List.mapM_cons] at h
    obtain ⟨first, hfirst, h⟩ := bind_eq_ok.mp h
    obtain ⟨rest, hrest, h⟩ := bind_eq_ok.mp h
    cases h
    obtain ⟨rfl, hvalid⟩ := PrinterObservation.fromMapping_eq_ok hfirst
    obtain ⟨rfl, hvalids⟩ := ih hrest
    refine ⟨rfl, fun o' ho' => ?_⟩
    rcases List.mem_cons.mp ho' with rfl | ho'
    · exact hvalid
    · exact hvalids o' ho'

/-- A run that is requested is there already, or it is a new one with its job. -/
theorem requestDiscovery_spec
    (h : requestDiscovery platform trace now runId bindingId userId s = .ok s') : s' = s ∨
      ∃ run job runs jobs event events, s.runs.insert run = some runs ∧
        s.jobs.insert job = some jobs ∧ run.id = job.operationId ∧
        run.agentBindingId = job.agentBindingId ∧ event.key = .requested run.id ∧
        s.events.record auditEventKeyConflict event = .ok events ∧
        s' = { s with runs, jobs, events } := by
  obtain ⟨_, -, h⟩ := bind_eq_ok.mp h
  obtain ⟨binding, -, h⟩ := bind_eq_ok.mp h
  obtain ⟨_, -, h⟩ := bind_eq_ok.mp h
  split at h
  · cases h
    exact .inl rfl
  · obtain ⟨runs, hruns, h⟩ := bind_eq_ok.mp h
    obtain ⟨jobs, hjobs, h⟩ := bind_eq_ok.mp h
    obtain ⟨events, hevents, rfl⟩ := audit_eq_ok h
    exact .inr ⟨_, _, runs, jobs, _, events, found_eq_ok.mp hruns,
      found_eq_ok.mp hjobs, rfl, rfl, rfl, hevents, rfl⟩

/-- Leasing a job changes neither its run nor its binding. -/
theorem fetchAgentJob_spec (h : fetchAgentJob platform now bindingId s = .ok s') : s' = s ∨
    ∃ job run expiresAt, job ∈ s.jobs ∧ run ∈ s.runs ∧ job.state ≠ .completed ∧ s' = { s with
      jobs := s.jobs.put (job.lease now expiresAt)
      runs := s.runs.put { run with state := .running } } := by
  obtain ⟨_, -, h⟩ := bind_eq_ok.mp h
  obtain ⟨binding, -, h⟩ := bind_eq_ok.mp h
  obtain ⟨_, -, h⟩ := bind_eq_ok.mp h
  split at h
  · cases h
    exact .inl rfl
  · rename_i job hjob
    obtain ⟨run, hrun, h⟩ := bind_eq_ok.mp h
    obtain ⟨_, -, h⟩ := bind_eq_ok.mp h
    cases h
    have hleasable := of_decide_eq_true (List.find?_some hjob :)
    refine .inr ⟨job, run, _, List.mem_of_find?_eq_some hjob, (run_eq_ok hrun).1, ?_, rfl⟩
    intro hcompleted
    simp [AgentJobRecord.leasable, hcompleted] at hleasable

/-- The result of a job that is completed changes nothing. -/
theorem completeAgentJob_replay {job : AgentJobRecord} (hjob : s.job jobId bindingId = .ok job)
    (hstate : job.state = .completed)
    (h : completeAgentJob platform trace now jobId bindingId os s = .ok s') : s' = s := by
  obtain ⟨_, -, h⟩ := bind_eq_ok.mp h
  obtain ⟨binding, hbinding, h⟩ := bind_eq_ok.mp h
  obtain ⟨_, -, h⟩ := bind_eq_ok.mp h
  rw [binding_eq_ok hbinding] at h
  obtain ⟨found, hfound, h⟩ := bind_eq_ok.mp h
  cases hjob.symm.trans hfound
  obtain ⟨_, -, h⟩ := bind_eq_ok.mp h
  obtain ⟨parsed, -, h⟩ := bind_eq_ok.mp h
  obtain ⟨_, -, h⟩ := bind_eq_ok.mp h
  rw [if_pos hstate] at h
  obtain ⟨_, -, h⟩ := bind_eq_ok.mp h
  cases h
  rfl

/-- The checks that a result passes before it is stored. -/
structure Reportable (platform : Platform) (now : ℤ) (bindingId : String) (job : AgentJobRecord)
    (run : PrinterDiscoveryRunRecord) (os : List PrinterObservation) (s : ProfileState) :
    Prop where
  leased : job.Leased now
  job_mem : job ∈ s.jobs
  job_binding : job.agentBindingId = bindingId
  run_mem : run ∈ s.runs
  run_id : run.id = job.operationId
  run_binding : run.agentBindingId = bindingId
  distinct : (os.map PrinterObservation.agentPrinterId).Nodup
  valid : ∀ o ∈ os, o.validate platform.capabilityHash = .ok ()
  new : ∀ row ∈ s.observations, row.discoveryRunId ≠ run.id

/-- The result of another job is stored. -/
theorem completeAgentJob_spec {job : AgentJobRecord} (hjob : s.job jobId bindingId = .ok job)
    (hstate : job.state ≠ .completed)
    (h : completeAgentJob platform trace now jobId bindingId os s = .ok s') :
    ∃ run, Reportable platform now bindingId job run os s ∧
      storeResult platform trace now job run os s = .ok s' := by
  obtain ⟨_, -, h⟩ := bind_eq_ok.mp h
  obtain ⟨binding, hbinding, h⟩ := bind_eq_ok.mp h
  obtain ⟨_, -, h⟩ := bind_eq_ok.mp h
  rw [binding_eq_ok hbinding] at h
  obtain ⟨found, hfound, h⟩ := bind_eq_ok.mp h
  cases hjob.symm.trans hfound
  obtain ⟨_, -, h⟩ := bind_eq_ok.mp h
  obtain ⟨parsed, hparsed, h⟩ := bind_eq_ok.mp h
  obtain ⟨hsame, hvalid⟩ := parsed_eq hparsed
  rw [hsame, if_neg hstate] at h
  obtain ⟨_, hdistinct, h⟩ := bind_eq_ok.mp h
  obtain ⟨_, hleased, h⟩ := bind_eq_ok.mp h
  obtain ⟨run, hrun, h⟩ := bind_eq_ok.mp h
  obtain ⟨_, hbindings, h⟩ := bind_eq_ok.mp h
  obtain ⟨_, hnew, h⟩ := bind_eq_ok.mp h
  obtain ⟨hmem, -, hjobBinding⟩ := job_eq_ok hjob
  obtain ⟨hrun, hrunId⟩ := run_eq_ok hrun
  exact ⟨run, ⟨ensure_eq_ok.mp hleased, hmem, hjobBinding, hrun, hrunId,
    ensure_eq_ok.mp hbindings, ensure_eq_ok.mp hdistinct, hvalid,
    ensure_eq_ok.mp hnew⟩, h⟩

/-- A failure that is accepted ends the run of a leased job. -/
theorem failAgentJob_spec
    (h : failAgentJob platform trace now jobId bindingId code s = .ok s') :
    ∃ job run code events, job ∈ s.jobs ∧ job.Leased now ∧ run ∈ s.runs ∧
      run.id = job.operationId ∧
      s.events.record auditEventKeyConflict (failedEvent trace bindingId run.id code) =
        .ok events ∧
      s' = { s with
        runs := s.runs.put (run.fail now code)
        jobs := s.jobs.put (job.fail code (platform.failureHash code))
        events } := by
  obtain ⟨_, -, h⟩ := bind_eq_ok.mp h
  obtain ⟨binding, hbinding, h⟩ := bind_eq_ok.mp h
  obtain ⟨job, hjob, h⟩ := bind_eq_ok.mp h
  obtain ⟨_, hleased, h⟩ := bind_eq_ok.mp h
  obtain ⟨run, hrun, h⟩ := bind_eq_ok.mp h
  obtain ⟨events, hevents, rfl⟩ := audit_eq_ok h
  rw [binding_eq_ok hbinding] at hevents
  obtain ⟨hrun, hrunId⟩ := run_eq_ok hrun
  exact ⟨job, run, _, events, (job_eq_ok hjob).1, ensure_eq_ok.mp hleased, hrun, hrunId,
    hevents, rfl⟩

/-- An approval makes a profile of a printer that had none, or changes the one it had. -/
theorem approveObservation_spec
    (h : approveObservation platform trace now observationId newId userId s = .ok s') :
    ∃ row o event events, row ∈ s.observations ∧ row.id = observationId ∧
      row.domain platform = .ok o ∧ o.availabilityState = .available ∧ event.key.runOf = none ∧
      s.events.record auditEventKeyConflict event = .ok events ∧
      ((∃ profiles, s.profileOf row.agentBindingId o.agentPrinterId = none ∧
          s.profiles.insert
            (newProfile newId row.agentBindingId userId row.observation.observedAt o) =
              some profiles ∧
          s' = { s with profiles, events }) ∨
        ∃ old, s.profileOf row.agentBindingId o.agentPrinterId = some old ∧
          s' = { s with
            profiles := s.profiles.put (old.adopt row.observation.observedAt o)
            events }) := by
  obtain ⟨_, -, h⟩ := bind_eq_ok.mp h
  obtain ⟨row, hrow, h⟩ := bind_eq_ok.mp h
  obtain ⟨o, ho, h⟩ := bind_eq_ok.mp h
  obtain ⟨_, havailable, h⟩ := bind_eq_ok.mp h
  obtain ⟨binding, hbinding, h⟩ := bind_eq_ok.mp h
  obtain ⟨_, -, h⟩ := bind_eq_ok.mp h
  have hrow := found_eq_ok.mp hrow
  have havailable := ensure_eq_ok.mp havailable
  rw [binding_eq_ok hbinding] at h
  split at h
  · rename_i hnone
    obtain ⟨profiles, hprofiles, h⟩ := bind_eq_ok.mp h
    obtain ⟨events, hevents, rfl⟩ := audit_eq_ok h
    exact ⟨row, o, _, events, Table.mem_of_find? hrow, Table.key_of_find? hrow, ho, havailable,
      rfl, hevents, .inl ⟨profiles, hnone, found_eq_ok.mp hprofiles, rfl⟩⟩
  · rename_i old hold
    obtain ⟨events, hevents, rfl⟩ := audit_eq_ok h
    exact ⟨row, o, _, events, Table.mem_of_find? hrow, Table.key_of_find? hrow, ho, havailable,
      rfl, hevents, .inr ⟨old, hold, rfl⟩⟩

/-- Disabling a profile changes nothing else. -/
theorem disableProfile_spec (h : disableProfile platform trace profileId userId s = .ok s') :
    ∃ profile event events, profile ∈ s.profiles ∧ profile.id = profileId ∧
      event.key.runOf = none ∧ s.events.record auditEventKeyConflict event = .ok events ∧
      s' = { s with profiles := s.profiles.put { profile with state := .disabled }, events } := by
  obtain ⟨_, -, h⟩ := bind_eq_ok.mp h
  obtain ⟨profile, hprofile, h⟩ := bind_eq_ok.mp h
  obtain ⟨events, hevents, rfl⟩ := audit_eq_ok h
  have hprofile := found_eq_ok.mp hprofile
  exact ⟨profile, _, events, Table.mem_of_find? hprofile, Table.key_of_find? hprofile, rfl,
    hevents, rfl⟩

end Calls

/-! ## Histories -/

/-- A call that succeeded, with what it was about. -/
inductive ProfileLabel where
  | bindingsChanged
  | requested
  | fetched
  /-- A result of a run was stored. -/
  | reported (bindingId runId : String) (os : List PrinterObservation)
  /-- A result that was stored is sent once more. -/
  | replayed
  | failed
  | approved (observationId : String × String)
  | disabled (profileId : String)
  deriving DecidableEq

/-- A call that succeeds, or a change of the bindings. -/
inductive ProfileStep (platform : Platform) (s : ProfileState) :
    ProfileLabel → ProfileState → Prop
  | bindingsChanged {bindings} : ProfileStep platform s .bindingsChanged { s with bindings }
  | requested {trace now runId bindingId userId s'} :
      requestDiscovery platform trace now runId bindingId userId s = .ok s' →
      ProfileStep platform s .requested s'
  | fetched {now bindingId s'} : fetchAgentJob platform now bindingId s = .ok s' →
      ProfileStep platform s .fetched s'
  | reported {trace now jobId bindingId os job s'} : s.job jobId bindingId = .ok job →
      job.state ≠ .completed →
      completeAgentJob platform trace now jobId bindingId os s = .ok s' →
      ProfileStep platform s (.reported bindingId job.operationId os) s'
  | replayed {trace now jobId bindingId os job s'} : s.job jobId bindingId = .ok job →
      job.state = .completed →
      completeAgentJob platform trace now jobId bindingId os s = .ok s' →
      ProfileStep platform s .replayed s'
  | failed {trace now jobId bindingId code s'} :
      failAgentJob platform trace now jobId bindingId code s = .ok s' →
      ProfileStep platform s .failed s'
  | approved {trace now observationId newId userId s'} :
      approveObservation platform trace now observationId newId userId s = .ok s' →
      ProfileStep platform s (.approved observationId) s'
  | disabled {trace profileId userId s'} :
      disableProfile platform trace profileId userId s = .ok s' →
      ProfileStep platform s (.disabled profileId) s'

/-- The invariant: a job has the run of its operation, for the same binding; rows and events name
runs that are there; a job that is not completed has left neither; and a binding has one profile
of a printer. -/
structure ProfileInv (s : ProfileState) : Prop where
  runOfJob : ∀ job ∈ s.jobs, ∃ run ∈ s.runs, run.id = job.operationId ∧
    run.agentBindingId = job.agentBindingId
  runOfRow : ∀ row ∈ s.observations, ∃ run ∈ s.runs, run.id = row.discoveryRunId
  runOfEvent : ∀ event ∈ s.events, ∀ runId, event.key.runOf = some runId →
    ∃ run ∈ s.runs, run.id = runId
  openRows : ∀ job ∈ s.jobs, job.state ≠ .completed →
    ∀ row ∈ s.observations, row.discoveryRunId ≠ job.operationId
  openEvents : ∀ job ∈ s.jobs, job.state ≠ .completed →
    ∀ event ∈ s.events, event.key.runOf ≠ some job.operationId
  pairs : UniquePairs s.profiles

theorem ProfileInv.initial : ProfileInv .initial where
  runOfJob := fun _ h => absurd h Table.not_mem_empty
  runOfRow := fun _ h => absurd h Table.not_mem_empty
  runOfEvent := fun _ h => absurd h Table.not_mem_empty
  openRows := fun _ h => absurd h Table.not_mem_empty
  openEvents := fun _ h => absurd h Table.not_mem_empty
  pairs := fun _ h => absurd h Table.not_mem_empty

section Invariant

variable {platform : Platform} {trace : Trace} {now : ℤ} {s s' : ProfileState}
  {label : ProfileLabel} {labels : List ProfileLabel} {event : PrinterEvent}

/-- Recording an event of no run leaves the events of the runs. -/
theorem runOf_record {log log' : Table PrinterEvent.key}
    (h : log.record auditEventKeyConflict event = .ok log') {e : PrinterEvent} (he : e ∈ log')
    {runId : String} (hrun : e.key.runOf = some runId) (hnone : event.key.runOf ≠ some runId) :
    e ∈ log := by
  rcases ((Table.record_eq_ok h).2 e).mp he with hold | hnew
  · exact hold
  · rw [hnew] at hrun
    exact absurd hrun hnone

/-- A step that changes profiles and events, and records nothing for a run. -/
theorem ProfileInv.of_profiles (inv : ProfileInv s) {profiles : Table PrinterProfileRecord.id}
    {events : Table PrinterEvent.key} (hpairs : UniquePairs profiles)
    (hnone : event.key.runOf = none)
    (hevents : s.events.record auditEventKeyConflict event = .ok events) :
    ProfileInv { s with profiles, events } where
  runOfJob := inv.runOfJob
  runOfRow := inv.runOfRow
  runOfEvent := fun e he runId hrun =>
    inv.runOfEvent e (runOf_record hevents he hrun (by simp [hnone])) runId hrun
  openRows := inv.openRows
  openEvents := fun job hjob hstate e he hrun =>
    inv.openEvents job hjob hstate e (runOf_record hevents he hrun (by simp [hnone])) hrun
  pairs := hpairs

/-- A run is there after it was changed. -/
theorem mem_runs_put {runs : Table PrinterDiscoveryRunRecord.id}
    {run run' other : PrinterDiscoveryRunRecord} (hrun : run ∈ runs) (hid : run'.id = run.id)
    (hbinding : run'.agentBindingId = run.agentBindingId) (hother : other ∈ runs) :
    ∃ r ∈ runs.put run', r.id = other.id ∧ r.agentBindingId = other.agentBindingId := by
  have hfind : runs.find? run'.id = some run := hid ▸ Table.find?_of_mem hrun
  by_cases heq : other.id = run'.id
  · obtain rfl := Table.eq_of_key_eq hother hrun (heq.trans hid)
    exact ⟨run', (Table.mem_put_of_find? hfind).mpr (.inr rfl), hid, hbinding⟩
  · exact ⟨other, (Table.mem_put_of_find? hfind).mpr (.inl ⟨hother, heq⟩), rfl, rfl⟩

theorem jobId_congr {job job' : AgentJobRecord} (h : job.operationId = job'.operationId) :
    job.jobId = job'.jobId := congrArg ("printer-discovery-" ++ ·) h

/-- A job after one was changed. -/
theorem mem_jobs_put {jobs : Table AgentJobRecord.jobId} {job job' other : AgentJobRecord}
    (hjob : job ∈ jobs) (hid : job'.operationId = job.operationId)
    (hother : other ∈ jobs.put job') :
    (other ∈ jobs ∧ other.operationId ≠ job.operationId) ∨ other = job' := by
  have hfind : jobs.find? job'.jobId = some job := by
    rw [jobId_congr hid]
    exact Table.find?_of_mem hjob
  rcases (Table.mem_put_of_find? hfind).mp hother with ⟨hmem, hne⟩ | hsame
  · exact .inl ⟨hmem, fun heq => hne (jobId_congr (heq.trans hid.symm))⟩
  · exact .inr hsame

theorem ProfileInv.requested (inv : ProfileInv s) {run : PrinterDiscoveryRunRecord}
    {job : AgentJobRecord} {runs : Table PrinterDiscoveryRunRecord.id}
    {jobs : Table AgentJobRecord.jobId} {events : Table PrinterEvent.key}
    (hruns : s.runs.insert run = some runs) (hjobs : s.jobs.insert job = some jobs)
    (hid : run.id = job.operationId) (hbinding : run.agentBindingId = job.agentBindingId)
    (hkey : event.key = .requested run.id)
    (hevents : s.events.record auditEventKeyConflict event = .ok events) :
    ProfileInv { s with runs, jobs, events } := by
  have hnone : event.key.runOf = none := by rw [hkey, EventKey.runOf]
  have hold : ∀ r ∈ s.runs, r ∈ runs := fun r hr => (Table.mem_insert hruns).mpr (.inl hr)
  have hnew := Table.find?_eq_none_iff.mp (Table.insert_eq_some hruns).1
  constructor
  · intro other hother
    rcases (Table.mem_insert hjobs).mp hother with hother | rfl
    · obtain ⟨r, hr, h⟩ := inv.runOfJob other hother
      exact ⟨r, hold r hr, h⟩
    · exact ⟨run, (Table.mem_insert hruns).mpr (.inr rfl), hid, hbinding⟩
  · intro row hrow
    obtain ⟨r, hr, h⟩ := inv.runOfRow row hrow
    exact ⟨r, hold r hr, h⟩
  · intro e he runId hrun
    have he := runOf_record hevents he hrun (by simp [hnone])
    obtain ⟨r, hr, h⟩ := inv.runOfEvent e he runId hrun
    exact ⟨r, hold r hr, h⟩
  · intro other hother hstate row hrow
    rcases (Table.mem_insert hjobs).mp hother with hother | rfl
    · exact inv.openRows other hother hstate row hrow
    · -- the run is a new one
      obtain ⟨r, hr, h⟩ := inv.runOfRow row hrow
      exact fun heq => hnew r hr (h.trans (heq.trans hid.symm))
  · intro other hother hstate e he hrun
    have he := runOf_record hevents he hrun (by simp [hnone])
    rcases (Table.mem_insert hjobs).mp hother with hother | rfl
    · exact inv.openEvents other hother hstate e he hrun
    · obtain ⟨r, hr, h⟩ := inv.runOfEvent e he _ hrun
      exact hnew r hr (h.trans hid.symm)
  · exact inv.pairs

/-- A change of a job and its run, with what is stored and recorded for the run alone. -/
theorem ProfileInv.ended (inv : ProfileInv s) {job job' : AgentJobRecord}
    {run run' : PrinterDiscoveryRunRecord} (hjob : job ∈ s.jobs) (hrun : run ∈ s.runs)
    (hrunId : run.id = job.operationId) (hruns : s'.runs = s.runs.put run')
    (hjobs : s'.jobs = s.jobs.put job') (hid : job'.operationId = job.operationId)
    (hbinding : job'.agentBindingId = job.agentBindingId) (hid' : run'.id = run.id)
    (hbinding' : run'.agentBindingId = run.agentBindingId) (hstate : job'.state = .completed)
    (hrows : ∀ row ∈ s'.observations, row ∈ s.observations ∨ row.discoveryRunId = run.id)
    (hevents : ∀ e ∈ s'.events, e ∈ s.events ∨ e.key.runOf = none ∨ e.key.runOf = some run.id)
    (hpairs : UniquePairs s'.profiles) : ProfileInv s' := by
  have hkept : ∀ r ∈ s.runs, ∃ r' ∈ s'.runs, r'.id = r.id ∧ r'.agentBindingId = r.agentBindingId :=
    fun r hr => hruns ▸ mem_runs_put hrun hid' hbinding' hr
  have hrunKept : ∃ r ∈ s'.runs, r.id = run.id := by
    obtain ⟨r, hr, h, -⟩ := hkept run hrun
    exact ⟨r, hr, h⟩
  have hother : ∀ other ∈ s'.jobs, (other ∈ s.jobs ∧ other.operationId ≠ job.operationId) ∨
      other = job' := fun other h => mem_jobs_put hjob hid (hjobs ▸ h)
  constructor
  · intro other h
    rcases hother other h with ⟨hmem, -⟩ | rfl
    · obtain ⟨r, hr, hrid, hrb⟩ := inv.runOfJob other hmem
      obtain ⟨r', hr', hid'', hb''⟩ := hkept r hr
      exact ⟨r', hr', hid''.trans hrid, hb''.trans hrb⟩
    · obtain ⟨r, hr, hrid, hrb⟩ := inv.runOfJob job hjob
      obtain ⟨r', hr', hid'', hb''⟩ := hkept r hr
      exact ⟨r', hr', (hid''.trans hrid).trans hid.symm, (hb''.trans hrb).trans hbinding.symm⟩
  · intro row h
    rcases hrows row h with hrow | hrow
    · obtain ⟨r, hr, hrid⟩ := inv.runOfRow row hrow
      obtain ⟨r', hr', hid'', -⟩ := hkept r hr
      exact ⟨r', hr', hid''.trans hrid⟩
    · rw [hrow]
      exact hrunKept
  · intro e h runId hrunOf
    rcases hevents e h with he | he | he
    · obtain ⟨r, hr, hrid⟩ := inv.runOfEvent e he runId hrunOf
      obtain ⟨r', hr', hid'', -⟩ := hkept r hr
      exact ⟨r', hr', hid''.trans hrid⟩
    · cases he.symm.trans hrunOf
    · cases he.symm.trans hrunOf
      exact hrunKept
  · intro other h hopen row hrow
    rcases hother other h with ⟨hmem, hne⟩ | rfl
    · rcases hrows row hrow with hrow | hrow
      · exact inv.openRows other hmem hopen row hrow
      · exact fun heq => hne (heq.symm.trans (hrow.trans hrunId))
    · exact absurd hstate hopen
  · intro other h hopen e he hrunOf
    rcases hother other h with ⟨hmem, hne⟩ | rfl
    · rcases hevents e he with he | he | he
      · exact inv.openEvents other hmem hopen e he hrunOf
      · cases he.symm.trans hrunOf
      · exact hne (Option.some.inj (hrunOf.symm.trans (he.trans (congrArg some hrunId))))
    · exact absurd hstate hopen
  · exact hpairs

theorem ProfileInv.fetched (inv : ProfileInv s) {job : AgentJobRecord}
    {run : PrinterDiscoveryRunRecord} {expiresAt : ℤ} (hjob : job ∈ s.jobs) (hrun : run ∈ s.runs)
    (hstate : job.state ≠ .completed) :
    ProfileInv { s with
      jobs := s.jobs.put (job.lease now expiresAt)
      runs := s.runs.put { run with state := .running } } := by
  have hkept : ∀ r ∈ s.runs, ∃ r' ∈ s.runs.put { run with state := .running },
      r'.id = r.id ∧ r'.agentBindingId = r.agentBindingId :=
    fun r hr => mem_runs_put hrun rfl rfl hr
  -- a job that is leased is one that was not completed before
  have hother : ∀ other ∈ s.jobs.put (job.lease now expiresAt), ∃ old ∈ s.jobs,
      old.operationId = other.operationId ∧ old.agentBindingId = other.agentBindingId ∧
      (other.state ≠ .completed → old.state ≠ .completed) := by
    intro other h
    rcases @mem_jobs_put s.jobs job (job.lease now expiresAt) other hjob rfl h with
      ⟨hmem, -⟩ | rfl
    · exact ⟨other, hmem, rfl, rfl, fun h => h⟩
    · exact ⟨job, hjob, rfl, rfl, fun _ => hstate⟩
  constructor
  · intro other h
    obtain ⟨old, hold, hid, hbinding, -⟩ := hother other h
    obtain ⟨r, hr, hrid, hrb⟩ := inv.runOfJob old hold
    obtain ⟨r', hr', hid', hb'⟩ := hkept r hr
    exact ⟨r', hr', (hid'.trans hrid).trans hid, (hb'.trans hrb).trans hbinding⟩
  · intro row hrow
    obtain ⟨r, hr, hrid⟩ := inv.runOfRow row hrow
    obtain ⟨r', hr', hid', -⟩ := hkept r hr
    exact ⟨r', hr', hid'.trans hrid⟩
  · intro e he runId hrunOf
    obtain ⟨r, hr, hrid⟩ := inv.runOfEvent e he runId hrunOf
    obtain ⟨r', hr', hid', -⟩ := hkept r hr
    exact ⟨r', hr', hid'.trans hrid⟩
  · intro other h hopen row hrow
    obtain ⟨old, hold, hid, -, hopen'⟩ := hother other h
    exact hid ▸ inv.openRows old hold (hopen' hopen) row hrow
  · intro other h hopen e he
    obtain ⟨old, hold, hid, -, hopen'⟩ := hother other h
    exact hid ▸ inv.openEvents old hold (hopen' hopen) e he
  · exact inv.pairs

theorem ProfileInv.approved (inv : ProfileInv s) {trace : Trace} {now userId : ℤ}
    {observationId : String × String} {newId : String}
    (h : approveObservation platform trace now observationId newId userId s = .ok s') :
    ProfileInv s' := by
  obtain ⟨row, o, event, events, -, -, -, -, hnone, hevents, hprofiles⟩ := approveObservation_spec h
  rcases hprofiles with ⟨profiles, hfree, hinsert, rfl⟩ | ⟨old, hold, rfl⟩
  · refine inv.of_profiles ?_ hnone hevents
    have hfree := profileOf_eq_none.mp hfree
    intro p hp q hq hbinding hprinter
    rcases (Table.mem_insert hinsert).mp hp with hp | rfl
    · rcases (Table.mem_insert hinsert).mp hq with hq | rfl
      · exact inv.pairs p hp q hq hbinding hprinter
      · exact absurd hprinter (hfree p hp hbinding)
    · rcases (Table.mem_insert hinsert).mp hq with hq | rfl
      · exact absurd hprinter.symm (hfree q hq hbinding.symm)
      · rfl
  · obtain ⟨hmem, -, -⟩ := profileOf_eq_some hold
    have hput := @mem_put_iff old (old.adopt row.observation.observedAt o) s.profiles hmem rfl
    refine inv.of_profiles ?_ hnone hevents
    refine inv.pairs.map (fun p => if p = old then old.adopt row.observation.observedAt o else p)
      (fun p => ?_) fun r => hput
    split_ifs with heq
    · rw [heq]
      exact ⟨rfl, rfl⟩
    · exact ⟨rfl, rfl⟩

/-- Every step keeps the invariant. -/
theorem ProfileStep.inv (inv : ProfileInv s) (step : ProfileStep platform s label s') :
    ProfileInv s' := by
  cases step with
  | bindingsChanged =>
    exact ⟨inv.runOfJob, inv.runOfRow, inv.runOfEvent, inv.openRows, inv.openEvents, inv.pairs⟩
  | requested h =>
    rcases requestDiscovery_spec h with rfl | ⟨run, job, runs, jobs, event, events, hruns, hjobs,
      hid, hbinding, hkey, hevents, rfl⟩
    · exact inv
    · exact inv.requested hruns hjobs hid hbinding hkey hevents
  | fetched h =>
    rcases fetchAgentJob_spec h with rfl | ⟨job, run, expiresAt, hjob, hrun, hstate, rfl⟩
    · exact inv
    · exact inv.fetched hjob hrun hstate
  | reported hjob hstate h =>
    obtain ⟨run, checks, h⟩ := completeAgentJob_spec hjob hstate h
    have stored := storeResult_spec inv.pairs checks.distinct checks.new h
    refine inv.ended checks.job_mem checks.run_mem checks.run_id stored.runs stored.jobs rfl rfl
      rfl rfl rfl (fun row hrow => ?_) (fun e he => ?_)
      (inv.pairs.map _ (fun p => afterResult_keeps) stored.profiles)
    · rcases (stored.observations row).mp hrow with hrow | ⟨o, -, rfl⟩
      · exact .inl hrow
      · exact .inr rfl
    · rcases stored.events e he with he | he | he
      · exact .inl he
      · obtain ⟨o, -, p, -, hevent⟩ := mem_observationEvents he
        exact .inr (.inl (observe_event_key hevent).1)
      · exact .inr (.inr he)
  | replayed hjob hstate h =>
    rw [completeAgentJob_replay hjob hstate h]
    exact inv
  | failed h =>
    obtain ⟨job, run, code, events, hjob, -, hrun, hrunId, hevents, rfl⟩ := failAgentJob_spec h
    refine inv.ended hjob hrun hrunId rfl rfl rfl rfl rfl rfl rfl (fun row hrow => .inl hrow)
      (fun e he => ?_) inv.pairs
    rcases ((Table.record_eq_ok hevents).2 e).mp he with he | rfl
    · exact .inl he
    · exact .inr (.inr rfl)
  | approved h => exact inv.approved h
  | disabled h =>
    obtain ⟨profile, event, events, hmem, -, hnone, hevents, rfl⟩ := disableProfile_spec h
    have hput := @mem_put_iff profile { profile with state := .disabled } s.profiles hmem rfl
    refine inv.of_profiles ?_ hnone hevents
    refine inv.pairs.map (fun p => if p = profile then { profile with state := .disabled } else p)
      (fun p => ?_) fun r => hput
    split_ifs with heq
    · rw [heq]
      exact ⟨rfl, rfl⟩
    · exact ⟨rfl, rfl⟩

theorem inv_of_run (run : Run (ProfileStep platform) .initial labels s) : ProfileInv s :=
  run.invariant ProfileInv .initial fun _ _ _ inv step => step.inv inv

end Invariant

end Wbcz.PrinterProfiles
