import Wbcz.PrinterProfiles.Runs

/-!
# When a discovery comes to its end

The audit takes an event again under its key only when it is the same event. What is recorded of a
printer that is observed has a key made of the profile and what was observed, and both may come
again: a printer that is unavailable once more, as it was before, is recorded under the key of the
time before, in another request. The call that reports it is rolled back, and so is every later
one of the same job. The key of a printer that is not observed names the run, and does not come
again.
-/

namespace Wbcz.PrinterProfiles

open Transition (Run)
open Fallible (ensure found bind_eq_ok ensure_eq_ok found_eq_ok raised raised_eq_some
  toOption_eq_some)

section Completion

variable {platform : Platform} {trace : Trace} {now : ℤ} {jobId bindingId : String}
  {os : List PrinterObservation} {s s' : ProfileState} {job : AgentJobRecord}
  {labels : List ProfileLabel}

/-- The agent may report, and not too many printers. -/
structure Admitted (platform : Platform) (now : ℤ) (bindingId : String)
    (os : List PrinterObservation) (s : ProfileState) : Prop where
  printing : platform.printingEnabled = true
  binding : ∃ binding, s.bindings.find? bindingId = some binding ∧
    validateDiscoveryBinding platform now binding = .ok ()
  size : os.length ≤ 64

/-- No event is there under the key of a printer that has become unavailable, or has changed, but
the one that would be recorded. -/
def Recordable (trace : Trace) (bindingId : String) (os : List PrinterObservation)
    (s : ProfileState) : Prop :=
  ∀ o ∈ os, ∀ p ∈ s.profiles, p.agentBindingId = bindingId →
    p.agentPrinterId = o.agentPrinterId → p.state ≠ .disabled →
    (o.availabilityState ≠ .available → p.state ≠ .missing →
      ∀ event ∈ s.events, event.key = .missing p.id o.evidence.capabilityHash →
        event = unavailableEvent trace p o) ∧
    (o.availabilityState = .available → p.matches o = false → p.state ≠ .stale →
      ∀ event ∈ s.events, event.key = .stale p.id o.evidence.localPrinterFingerprint →
        event = changedEvent trace p o)

theorem recordable_iff (unique : UniquePairs s.profiles) : Recordable trace bindingId os s ↔
    ∀ event ∈ observationEvents trace bindingId s os, s.events.Accepts event := by
  constructor
  · intro recordable event hevent
    obtain ⟨o, ho, p, hp, hevent⟩ := mem_observationEvents hevent
    obtain ⟨hmem, hbinding, hprinter⟩ := profileOf_eq_some hp
    obtain ⟨hdisabled, ⟨havailable, hmissing, rfl⟩ | ⟨havailable, hmatches, hstale, rfl⟩⟩ :=
      observe_event_iff.mp hevent
    · exact (recordable o ho p hmem hbinding hprinter hdisabled).1 havailable hmissing
    · exact (recordable o ho p hmem hbinding hprinter hdisabled).2 havailable hmatches hstale
  · intro haccepts o ho p hmem hbinding hprinter hdisabled
    have hp := (profileOf_iff unique).mpr ⟨hmem, hbinding, hprinter⟩
    have hrecorded : ∀ event, (p.observe trace o).2 = some event →
        event ∈ observationEvents trace bindingId s os := by
      intro event hevent
      refine List.mem_filterMap.mpr ⟨o, ho, ?_⟩
      rw [hp, Option.bind_some, hevent]
    constructor
    · intro havailable hmissing
      exact haccepts _ (hrecorded _ (observe_event_iff.mpr
        ⟨hdisabled, .inl ⟨havailable, hmissing, rfl⟩⟩))
    · intro havailable hmatches hstale
      exact haccepts _ (hrecorded _ (observe_event_iff.mpr
        ⟨hdisabled, .inr ⟨havailable, hmatches, hstale, rfl⟩⟩))

/-- Valid observations are read as they are. -/
theorem parsed_of_valid
    (hvalid : ∀ o ∈ os, o.fromMapping platform.capabilityHash = .ok o) :
    os.mapM (PrinterObservation.fromMapping platform.capabilityHash) = .ok os := by
  induction os with
  | nil => rfl
  | cons o os ih =>
    rw [List.mapM_cons]
    refine bind_eq_ok.mpr ⟨o, hvalid o List.mem_cons_self, ?_⟩
    have hrest := ih fun o' ho' => hvalid o' (List.mem_cons_of_mem _ ho')
    exact bind_eq_ok.mpr ⟨os, hrest, rfl⟩

theorem AgentJobRecord.Leased.not_completed (hleased : job.Leased now) :
    job.state ≠ .completed := by
  rw [hleased.1]
  exact nofun

/-- A result is stored by an agent that may report. -/
theorem admitted_of_complete
    (h : completeAgentJob platform trace now jobId bindingId os s = .ok s') :
    Admitted platform now bindingId os s := by
  obtain ⟨_, hprinting, h⟩ := bind_eq_ok.mp h
  obtain ⟨binding, hbinding, h⟩ := bind_eq_ok.mp h
  obtain ⟨_, hvalid, h⟩ := bind_eq_ok.mp h
  obtain ⟨_, -, h⟩ := bind_eq_ok.mp h
  obtain ⟨_, hsize, -⟩ := bind_eq_ok.mp h
  exact ⟨ensure_eq_ok.mp hprinting,
    ⟨binding, found_eq_ok.mp hbinding, hvalid⟩,
    ensure_eq_ok.mp hsize⟩

/-- The run of a leased job is there, and nothing is stored of it yet. -/
theorem ProfileInv.run_of_leased (inv : ProfileInv s) (hjob : s.job jobId bindingId = .ok job)
    (hleased : job.Leased now) : ∃ run, s.run job.operationId = .ok run ∧
      run.agentBindingId = bindingId ∧ (∀ row ∈ s.observations, row.discoveryRunId ≠ run.id) ∧
      ∀ event ∈ s.events, event.key.runOf ≠ some run.id := by
  obtain ⟨hmem, -, hjobBinding⟩ := job_eq_ok hjob
  obtain ⟨run, hrun, hrunId, hrunBinding⟩ := inv.runOfJob job hmem
  refine ⟨run, found_eq_ok.mpr (hrunId ▸ Table.find?_of_mem hrun),
    hrunBinding.trans hjobBinding, ?_, ?_⟩
  · exact fun row hrow => hrunId ▸ inv.openRows job hmem hleased.not_completed row hrow
  · exact fun event hevent => hrunId ▸ inv.openEvents job hmem hleased.not_completed event hevent

/-- A result that passes the checks of the call is stored. -/
theorem complete_of_admitted (admitted : Admitted platform now bindingId os s)
    (hjob : s.job jobId bindingId = .ok job) (hleased : job.Leased now)
    (hvalid : ∀ o ∈ os, o.fromMapping platform.capabilityHash = .ok o)
    (hdistinct : (os.map PrinterObservation.agentPrinterId).Nodup)
    {run : PrinterDiscoveryRunRecord} (hrun : s.run job.operationId = .ok run)
    (hbinding : run.agentBindingId = bindingId)
    (hnew : ∀ row ∈ s.observations, row.discoveryRunId ≠ run.id)
    (hstore : storeResult platform trace now job run os s = .ok s') :
    completeAgentJob platform trace now jobId bindingId os s = .ok s' := by
  obtain ⟨binding, hfound, hfresh⟩ := admitted.binding
  have hfound : s.binding bindingId = .ok binding := found_eq_ok.mpr hfound
  have hid := binding_eq_ok hfound
  refine bind_eq_ok.mpr ⟨(), ensure_eq_ok.mpr admitted.printing, ?_⟩
  refine bind_eq_ok.mpr ⟨binding, hfound, ?_⟩
  refine bind_eq_ok.mpr ⟨(), hfresh, ?_⟩
  refine bind_eq_ok.mpr ⟨job, hid.symm ▸ hjob, ?_⟩
  refine bind_eq_ok.mpr ⟨(), ensure_eq_ok.mpr admitted.size, ?_⟩
  refine bind_eq_ok.mpr ⟨os, parsed_of_valid hvalid, ?_⟩
  refine bind_eq_ok.mpr ⟨(), ensure_eq_ok.mpr hdistinct, ?_⟩
  rw [if_neg hleased.not_completed]
  refine bind_eq_ok.mpr ⟨(), ensure_eq_ok.mpr hleased, ?_⟩
  refine bind_eq_ok.mpr ⟨run, hrun, ?_⟩
  refine bind_eq_ok.mpr ⟨(), ensure_eq_ok.mpr (hbinding.trans hid.symm), ?_⟩
  exact bind_eq_ok.mpr ⟨(), ensure_eq_ok.mpr hnew, hstore⟩

/-- A leased job is completed by a result exactly if the agent may report it, and no other event
is there under a key of what is recorded. -/
theorem completes_iff (run : Run (ProfileStep platform) .initial labels s)
    (hjob : s.job jobId bindingId = .ok job) (hleased : job.Leased now)
    (hvalid : ∀ o ∈ os, o.fromMapping platform.capabilityHash = .ok o)
    (hdistinct : (os.map PrinterObservation.agentPrinterId).Nodup) :
    (∃ s', completeAgentJob platform trace now jobId bindingId os s = .ok s' ∧
        s'.jobs.find? jobId = some (job.complete (platform.resultHash os))) ↔
      Admitted platform now bindingId os s ∧ Recordable trace bindingId os s := by
  have inv := inv_of_run run
  obtain ⟨hmem, hjobId, hjobBinding⟩ := job_eq_ok hjob
  constructor
  · rintro ⟨s', h, -⟩
    refine ⟨admitted_of_complete h, (recordable_iff inv.pairs).mpr ?_⟩
    obtain ⟨row, checks, hstore⟩ := completeAgentJob_spec hjob hleased.not_completed h
    exact hjobBinding ▸ (storeResult_spec inv.pairs checks.distinct checks.new hstore).recorded
  · rintro ⟨admitted, recordable⟩
    obtain ⟨row, hrun, hrunBinding, hnew, hopen⟩ := inv.run_of_leased hjob hleased
    have hrecorded := (recordable_iff inv.pairs).mp recordable
    obtain ⟨s', hstore⟩ := @storeResult_isOk platform trace now job row os s inv.pairs hdistinct
      hnew hopen (hjobBinding.symm ▸ hrecorded)
    refine ⟨s', complete_of_admitted admitted hjob hleased hvalid hdistinct hrun hrunBinding hnew
      hstore, ?_⟩
    have hput := (storeResult_spec inv.pairs hdistinct hnew hstore).jobs
    have hkey : (job.complete (platform.resultHash os)).jobId = jobId :=
      (jobId_congr rfl).trans hjobId
    have hold : s.jobs.find? (job.complete (platform.resultHash os)).jobId = some job := by
      rw [hkey, ← hjobId]
      exact Table.find?_of_mem hmem
    rw [hput, ← hkey]
    exact Table.find?_put_self hold

end Completion

/-! ## A printer that comes back -/

/-- A digest of one digit. -/
def sampleSha (digit : Char) : String := String.ofList (List.replicate 64 digit)

/-- The hash of the capabilities of the sample printer, with labels of 40 mm or others. -/
def sampleHash (c : Capabilities) (availability : AvailabilityState) : String :=
  if availability ≠ .available then sampleSha '0'
  else if c.mediaHeightMm = 40 then sampleSha '1'
  else sampleSha '2'

def samplePlatform : Platform where
  printingEnabled := true
  agentHealthStaleSeconds := 60
  agentJobLeaseSeconds := 60
  capabilityHash := sampleHash
  resultHash := fun _ => "result"
  failureHash := fun code => code
  readBack := fun capabilities => capabilities

def sampleBinding : AgentBindingRecord where
  id := "binding"
  state := "ACTIVE"
  protocolCompatibilityState := "COMPATIBLE"
  lastSeenAt := some 0
  supportedCapabilities := ["PRINT_DISCOVER_PRINTERS"]

/-- A printer of 300 dpi with labels of the given height. -/
def sampleCapabilities (mediaHeightMm : ℚ) : Capabilities where
  driverNameSanitized := none
  dpiX := 300
  dpiY := 300
  mediaWidthMm := 58
  mediaHeightMm
  orientation := .portrait
  physicalWidthPx := 685
  physicalHeightPx := 472
  printableWidthPx := 600
  printableHeightPx := 300
  offsetXPx := 0
  offsetYPx := 0

def sampleObservation (availability : AvailabilityState) (mediaHeightMm : ℚ) :
    PrinterObservation where
  agentPrinterId := "printer"
  evidence := {
    localPrinterFingerprint := if mediaHeightMm = 40 then sampleSha 'a' else sampleSha 'b'
    displayNameSanitized := "Printer"
    capabilities := sampleCapabilities mediaHeightMm
    capabilityHash := sampleHash (sampleCapabilities mediaHeightMm) availability }
  observedAt := 0
  availabilityState := availability
  safeErrorCode := none

/-- The request of a discovery, and of its result. -/
def sampleTrace (requestId : String) : Trace := ⟨some requestId, some requestId⟩

def sampleStart : Except PyError ProfileState := do
  let bindings ← found (Table.empty.insert sampleBinding) ⟨.integrityError, ""⟩
  return { ProfileState.initial with bindings }

/-- A discovery that is requested and leased. -/
def sampleLease (runId : String) (s : ProfileState) : Except PyError ProfileState := do
  let s ← requestDiscovery samplePlatform (sampleTrace runId) 0 runId "binding" 1 s
  fetchAgentJob samplePlatform 0 "binding" s

/-- The job of a discovery that is leased for the first time. -/
def sampleJob (runId : String) : AgentJobRecord where
  operationId := runId
  agentBindingId := "binding"
  correlationId := some runId
  state := .leased
  availableAt := 0
  leasedAt := some 0
  leaseExpiresAt := some 60
  deliveryCount := 1
  resultSha256 := none
  lastErrorCode := none

/-- The result of a discovery with one printer. -/
def sampleReport (runId : String) (o : PrinterObservation) (s : ProfileState) :
    Except PyError ProfileState :=
  completeAgentJob samplePlatform (sampleTrace runId) 0 ("printer-discovery-" ++ runId) "binding"
    [o] s

/-- A discovery from its request to its result. -/
def sampleDiscovery (runId : String) (o : PrinterObservation) (s : ProfileState) :
    Except PyError ProfileState := do
  let s ← sampleLease runId s
  ensure (s.job ("printer-discovery-" ++ runId) "binding" = .ok (sampleJob runId))
    ⟨.keyError, runId⟩
  sampleReport runId o s

/-- The approval of the observation of a run. -/
def sampleApproval (runId : String) (s : ProfileState) : Except PyError ProfileState :=
  approveObservation samplePlatform (sampleTrace "approval") 0 (runId, "printer") "profile" 1 s

/-- The sample printer is approved, goes and comes back, and one more discovery is leased. -/
def sampleReturn : Except PyError ProfileState := do
  let s ← sampleStart
  let s ← sampleDiscovery "run-1" (sampleObservation .available 40) s
  let s ← sampleApproval "run-1" s
  let s ← sampleDiscovery "run-2" (sampleObservation .unavailable 40) s
  let s ← sampleDiscovery "run-3" (sampleObservation .available 40) s
  sampleLease "run-4" s

section SampleRuns

variable {labels : List ProfileLabel} {runId : String} {o : PrinterObservation}
  {s s' : ProfileState}

theorem sampleStart_run (h : sampleStart = .ok s) :
    Run (ProfileStep samplePlatform) .initial [.bindingsChanged] s := by
  obtain ⟨bindings, -, h⟩ := bind_eq_ok.mp h
  cases h
  exact .single .bindingsChanged

theorem sampleLease_run (run : Run (ProfileStep samplePlatform) .initial labels s)
    (h : sampleLease runId s = .ok s') :
    Run (ProfileStep samplePlatform) .initial (labels ++ [.requested] ++ [.fetched]) s' := by
  obtain ⟨requested, hrequest, hfetch⟩ := bind_eq_ok.mp h
  exact (run.snoc (.requested hrequest)).snoc (.fetched hfetch)

theorem sampleDiscovery_run (run : Run (ProfileStep samplePlatform) .initial labels s)
    (h : sampleDiscovery runId o s = .ok s') :
    Run (ProfileStep samplePlatform) .initial
      (labels ++ [.requested] ++ [.fetched] ++ [.reported "binding" runId [o]]) s' := by
  obtain ⟨leased, hlease, h⟩ := bind_eq_ok.mp h
  obtain ⟨_, hjob, hreport⟩ := bind_eq_ok.mp h
  have hjob := ensure_eq_ok.mp hjob
  exact (sampleLease_run run hlease).snoc (@ProfileStep.reported samplePlatform leased
    (sampleTrace runId) 0 _ "binding" [o] (sampleJob runId) s' hjob nofun hreport)

theorem sampleReturn_run (h : sampleReturn = .ok s) :
    ∃ labels, Run (ProfileStep samplePlatform) .initial labels s := by
  obtain ⟨_, hstart, h⟩ := bind_eq_ok.mp h
  obtain ⟨_, hfirst, h⟩ := bind_eq_ok.mp h
  obtain ⟨_, happrove, h⟩ := bind_eq_ok.mp h
  obtain ⟨_, hsecond, h⟩ := bind_eq_ok.mp h
  obtain ⟨_, hthird, hlease⟩ := bind_eq_ok.mp h
  have approved := (sampleDiscovery_run (sampleStart_run hstart) hfirst).snoc (.approved happrove)
  have returned := sampleDiscovery_run (sampleDiscovery_run approved hsecond) hthird
  exact ⟨_, sampleLease_run returned hlease⟩

end SampleRuns

/-- The printer has gone once more. Its unavailability is under the key of the time before, which
was another request. -/
theorem sampleReturn_eq : sampleReturn.toOption.map (fun s =>
      (s.bindings.find? "binding", s.job "printer-discovery-run-4" "binding",
        raised (sampleReport "run-4" (sampleObservation .unavailable 40) s))) =
    some (some sampleBinding, .ok (sampleJob "run-4"), some auditEventKeyConflict) := by
  decide +kernel

theorem sampleReturn_spec : ∃ labels s, Run (ProfileStep samplePlatform) .initial labels s ∧
    Admitted samplePlatform 0 "binding" [sampleObservation .unavailable 40] s ∧
    s.job "printer-discovery-run-4" "binding" = .ok (sampleJob "run-4") ∧
    sampleReport "run-4" (sampleObservation .unavailable 40) s = .error auditEventKeyConflict := by
  obtain ⟨s, hs, hlook⟩ := Option.map_eq_some_iff.mp sampleReturn_eq
  obtain ⟨labels, run⟩ := sampleReturn_run (toOption_eq_some.mp hs)
  have hbinding := congrArg Prod.fst hlook
  have hjob := congrArg (fun r => r.2.1) hlook
  have hraised := congrArg (fun r => r.2.2) hlook
  exact ⟨labels, s, run, ⟨rfl, ⟨sampleBinding, hbinding, by decide⟩, by decide⟩, hjob,
    raised_eq_some.mp hraised⟩

theorem sampleObservations_valid (o : PrinterObservation)
    (h : o ∈ [sampleObservation .unavailable 40]) :
    o.fromMapping samplePlatform.capabilityHash = .ok o := by
  rw [List.mem_singleton.mp h]
  decide +kernel

/-- A leased job whose result is valid, of one printer that has gone once more, is not
completed. -/
theorem returning_printer_conflicts : ∃ labels s job o,
    Run (ProfileStep samplePlatform) .initial labels s ∧
      s.job "printer-discovery-run-4" "binding" = .ok job ∧ job.Leased 0 ∧
      o.fromMapping samplePlatform.capabilityHash = .ok o ∧
      Admitted samplePlatform 0 "binding" [o] s ∧
      completeAgentJob samplePlatform (sampleTrace "run-4") 0 "printer-discovery-run-4" "binding"
        [o] s = .error auditEventKeyConflict := by
  obtain ⟨labels, s, run, admitted, hjob, hraised⟩ := sampleReturn_spec
  exact ⟨labels, s, sampleJob "run-4", sampleObservation .unavailable 40, run, hjob, by decide,
    sampleObservations_valid _ List.mem_cons_self, admitted, hraised⟩

/-- The agent of the sample may report, and what it reports cannot be recorded. -/
theorem completes_iff_sample : ∃ s, Admitted samplePlatform 0 "binding"
      [sampleObservation .unavailable 40] s ∧
    ¬ Recordable (sampleTrace "run-4") "binding" [sampleObservation .unavailable 40] s := by
  obtain ⟨labels, s, run, admitted, hjob, hraised⟩ := sampleReturn_spec
  refine ⟨s, admitted, fun recordable => ?_⟩
  have hiff := @completes_iff samplePlatform (sampleTrace "run-4") 0 "printer-discovery-run-4"
    "binding" [sampleObservation .unavailable 40] s (sampleJob "run-4") labels run hjob
    (by decide) sampleObservations_valid (List.nodup_singleton _)
  obtain ⟨s', h, -⟩ := hiff.mpr ⟨admitted, recordable⟩
  cases hraised.symm.trans h

end Wbcz.PrinterProfiles
