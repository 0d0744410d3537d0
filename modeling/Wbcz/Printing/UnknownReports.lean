import Wbcz.Printing.Graph

/-!
# Reports of an unknown outcome

An agent that gave a label to the spooler and lost sight of it reports that the outcome is
unknown. Of the rows that the report checks, all are there and agree in every state of a run,
except the profile of the printer: the report is taken just when the profile is still the one that
the label was authorised for.
-/

namespace Wbcz.Printing

open Fallible (ensure found bind_eq_ok ensure_eq_ok found_eq_ok)
open Transition (Run)

/-- A report of an unknown outcome that names no other spool job. -/
structure Truthful (e : PrintExecution) (result : PhysicalResult) : Prop where
  state : result.state = .unknownAfterSpool
  job : ∀ jobId, result.windowsSpoolJobId = some jobId →
    0 < jobId ∧ (e.windowsSpoolJobId = none ∨ e.windowsSpoolJobId = some jobId)

/-- The profile of an execution passes the checks of a report. -/
def ProfileIntact (platform : Platform) (session : Session) (s : PrintingState)
    (e : PrintExecution) : Prop :=
  ∃ profile, executionProfile session s e = some profile ∧ checkProfile e profile = .ok () ∧
    checkCompatible platform session s profile.id e.templateVersionId physicalRejected = .ok ()

/-- The report is accepted and moves the execution. -/
def UnknownTaken (platform : Platform) (session : Session) (s : PrintingState)
    (e : PrintExecution) (result : PhysicalResult) : Prop :=
  ∃ s', reportResult platform session e.id e.agentBindingId result s = (.ok (), s') ∧
    ∃ e' ∈ s'.executions, e'.id = e.id ∧ e'.state = .unknownAfterSpool

/-- The event of a report of an unknown outcome. -/
def unknownEvent (e : PrintExecution) : PrintingAudit :=
  ⟨"PRINT_EXECUTION_UNKNOWN", e.printJobId,
    Text.take 256 ("physical-print:" ++ e.id ++ ":" ++ "unknown_after_spool")⟩

section Graph

variable {platform : Platform} {session : Session} {s s' : PrintingState} {e : PrintExecution}
  {rows : PhysicalGraph} {result : PhysicalResult} {profile : PrinterProfile}

/-- The reservation of an execution is found by its tenant. -/
theorem executionReservation_of_mem (h : DeliveryInv s) (he : e ∈ s.executions)
    (howns : session.owns e.organisationId e.participantId = true) :
    ∃ r ∈ s.reservations, executionReservation session s e.id = some r ∧
      r.printExecutionId = e.id ∧ PairInv e r := by
  obtain ⟨r, hr, hid⟩ := h.reservation e he
  have hpair := h.pair e he r hr hid
  have hfound : (executionReservation session s e.id).isSome = true := by
    refine List.find?_isSome.mpr ⟨r, hr, ?_⟩
    rw [← hpair.organisation, ← hpair.participant, howns]
    simp [hid]
  obtain ⟨row, hrow⟩ := Option.isSome_iff_exists.mp hfound
  have hrowId := List.find?_some hrow
  simp only [Bool.and_eq_true, decide_eq_true_eq] at hrowId
  have hmem : row ∈ s.reservations := List.mem_of_find?_eq_some hrow
  have hsame : row = r := h.unique row hmem r hr (hrowId.1.trans hid)
  exact ⟨r, hr, hsame ▸ hrow, hid.symm, hpair⟩

/-- In a state of a run, only the profile of an execution can be missing. -/
theorem graphRows_of_profile (h : DeliveryInv s) (hbelongs : Belongs platform s e)
    (he : e ∈ s.executions) (howns : session.owns e.organisationId e.participantId = true)
    (hprofile : executionProfile session s e = some profile) :
    ∃ rows, graphRows session s e = .ok rows ∧ rows.profile = profile := by
  obtain ⟨horganisation, hparticipant⟩ := owns_iff.mp howns
  obtain ⟨job, hjob, hjobId, hjobOrganisation, hjobParticipant⟩ := hbelongs.job
  obtain ⟨item, hitem, hitemId, hitemJob, hitemOrganisation, hitemParticipant, -⟩ := hbelongs.item
  obtain ⟨stored, hstored, hstoredId, hstoredOrganisation, hstoredParticipant⟩ := hbelongs.stored
  obtain ⟨version, hversion, hversionId, hversionOrganisation, -⟩ := hbelongs.version
  obtain ⟨r, -, hreservation, -⟩ := executionReservation_of_mem h he howns
  have hjobOf : jobOf session s e.printJobId = some job := jobOf_eq_some.mpr
    ⟨hjob, hjobId, hjobOrganisation.trans horganisation, hjobParticipant.trans hparticipant⟩
  have hitemOf : itemOf session s e.printJobItemId e.printJobId = some item :=
    itemOf_eq_some.mpr ⟨hitem, hitemId, hitemJob, hitemOrganisation.trans horganisation,
      hitemParticipant.trans hparticipant⟩
  have hversionOf : versionOf session s e.templateVersionId = some version :=
    versionOf_eq_some.mpr ⟨hversion, hversionId, hversionOrganisation.trans horganisation⟩
  have hstoredOf : storedOf session s e.storedFullKmItemId = some stored := storedOf_eq_some.mpr
    ⟨hstored, hstoredId, hstoredOrganisation.trans horganisation,
      hstoredParticipant.trans hparticipant⟩
  refine ⟨⟨job, item, r, version, stored, profile⟩, ?_, rfl⟩
  refine bind_eq_ok.mpr ⟨job, found_eq_ok.mpr hjobOf, ?_⟩
  refine bind_eq_ok.mpr ⟨item, found_eq_ok.mpr hitemOf, ?_⟩
  refine bind_eq_ok.mpr ⟨r, found_eq_ok.mpr hreservation, ?_⟩
  refine bind_eq_ok.mpr ⟨version, found_eq_ok.mpr hversionOf, ?_⟩
  refine bind_eq_ok.mpr ⟨stored, found_eq_ok.mpr hstoredOf, ?_⟩
  exact bind_eq_ok.mpr ⟨profile, found_eq_ok.mpr hprofile, rfl⟩

/-- The rows that were found are the rows of the execution, and pass all checks but those of the
profile. -/
theorem checked_of_profile (h : DeliveryInv s) (hbelongs : Belongs platform s e)
    (he : e ∈ s.executions) (hstate : e.state ∈ receivedStates)
    (hrows : graphRows session s e = .ok rows) (hprofile : checkProfile e rows.profile = .ok ())
    (hcompatible : checkCompatible platform session s rows.profile.id e.templateVersionId
      physicalRejected = .ok ()) : Checked platform session s e rows := by
  obtain ⟨-, hitemOf, hreservationOf, hversionOf, hstoredOf, -⟩ := graphRows_spec hrows
  obtain ⟨item, hitem, hitemId, -, -, -, hstored, hpayload⟩ := hbelongs.item
  obtain ⟨version, hversion, hversionId, -, -, hlayout, hcanonical⟩ := hbelongs.version
  obtain ⟨hitemMem, hitemId', -⟩ := itemOf_eq_some.mp hitemOf
  obtain ⟨hversionMem, hversionId', -⟩ := versionOf_eq_some.mp hversionOf
  obtain ⟨-, hstoredId, -⟩ := storedOf_eq_some.mp hstoredOf
  have hsameItem : rows.item = item :=
    Table.eq_of_key_eq hitemMem hitem (hitemId'.trans hitemId.symm)
  have hsameVersion : rows.version = version :=
    Table.eq_of_key_eq hversionMem hversion (hversionId'.trans hversionId.symm)
  have hreservation := List.find?_some hreservationOf
  simp only [Bool.and_eq_true, decide_eq_true_eq] at hreservation
  have hpair := h.pair e he rows.reservation (List.mem_of_find?_eq_some hreservationOf)
    hreservation.1.symm
  refine ⟨hrows, ?_, hpair.received hstate, ⟨hpair.payload.symm, ?_⟩, hprofile, ?_, ?_, ?_⟩
  · rw [hsameItem, hstored, hstoredId]
  · rw [hsameItem, hpayload]
  · rw [checkLayout_eq_ok, hsameVersion]
    exact hcanonical
  · rw [hsameVersion, hlayout]
  · rw [hversionId']
    exact hcompatible

/-- The graph of an execution whose code was received is valid just when its profile is intact. -/
theorem graph_iff_profile (h : DeliveryInv s) (hbelongs : Belongs platform s e)
    (he : e ∈ s.executions) (howns : session.owns e.organisationId e.participantId = true)
    (hstate : e.state ∈ receivedStates) :
    (∃ rows, graph platform session s e = .ok rows) ↔ ProfileIntact platform session s e := by
  constructor
  · rintro ⟨rows, hgraph⟩
    obtain ⟨hrows, -, -, -, hprofile, -, -, hcompatible⟩ := graph_eq_ok.mp hgraph
    obtain ⟨-, -, -, hversion, -, hprofileOf⟩ := graphRows_spec hrows
    obtain ⟨-, hversionId, -⟩ := versionOf_eq_some.mp hversion
    rw [hversionId] at hcompatible
    exact ⟨rows.profile, hprofileOf, hprofile, hcompatible⟩
  · rintro ⟨profile, hprofileOf, hprofile, hcompatible⟩
    obtain ⟨rows, hrows, rfl⟩ := graphRows_of_profile h hbelongs he howns hprofileOf
    exact ⟨rows, graph_eq_ok.mpr (checked_of_profile h hbelongs he hstate hrows hprofile
      hcompatible)⟩

/-- A truthful report passes the check of its result. -/
theorem checkResult_truthful (htruthful : Truthful e result)
    (hstate : e.state = .spoolSubmitting ∨ e.state = .spoolJobCreated) :
    checkResult e result = .ok () := by
  unfold checkResult
  rw [htruthful.state]
  refine bind_eq_ok.mpr ⟨(), ensure_eq_ok.mpr hstate, ?_⟩
  cases hjob : result.windowsSpoolJobId with
  | none => rfl
  | some jobId =>
    obtain ⟨hpositive, hsame⟩ := htruthful.job jobId hjob
    exact bind_eq_ok.mpr ⟨(), ensure_eq_ok.mpr hpositive,
      ensure_eq_ok.mpr hsame⟩

/-- A report by the agent of an execution is checked against its graph. -/
theorem reportable_iff_graph {binding : AgentBinding} (he : e ∈ s.executions)
    (howns : session.owns e.organisationId e.participantId = true)
    (hgate : requireGate platform = .ok ())
    (hbinding : physicalBinding platform session s e.agentBindingId = .ok binding)
    (hcheck : checkResult e result = .ok ()) :
    reportable platform session s e.id e.agentBindingId result = .ok (e, rows) ↔
      graph platform session s e = .ok rows := by
  have hreported : reportedExecution platform session s e.id e.agentBindingId = .ok e := by
    refine bind_eq_ok.mpr ⟨(), hgate, bind_eq_ok.mpr ⟨binding, hbinding, ?_⟩⟩
    exact found_eq_ok.mpr (Option.filter_eq_some_iff.mpr ⟨Table.find?_of_mem he, howns⟩)
  constructor
  · intro h
    exact (reportable_spec h).2.2.1
  · intro h
    refine bind_eq_ok.mpr ⟨e, hreported, ?_⟩
    refine bind_eq_ok.mpr ⟨(), ensure_eq_ok.mpr rfl, ?_⟩
    refine bind_eq_ok.mpr ⟨rows, h, ?_⟩
    exact bind_eq_ok.mpr ⟨(), hcheck, rfl⟩

/-- What a report of an unknown outcome ends with, once it passed its checks. -/
theorem reportResult_unknown (hstate : result.state = .unknownAfterSpool)
    (hreportable : reportable platform session s e.id e.agentBindingId result = .ok (e, rows)) :
    reportResult platform session e.id e.agentBindingId result s =
      (session.audit (unknownEvent e),
        s.applyResult e.id rows.item.id rows.job.id result session.now) := by
  have hends : Tx.Ends (reportResult platform session e.id e.agentBindingId result) s
      fun r s' => (r, s') = (session.audit (unknownEvent e),
        s.applyResult e.id rows.item.id rows.job.id result session.now) := by
    apply Tx.Ends.get
    apply Tx.Ends.read
    · intro error herror
      rw [hreportable] at herror
      cases herror
    rintro ⟨found, foundRows⟩ hfound
    rw [hreportable] at hfound
    cases hfound
    apply Tx.Ends.write
    unfold concludeResult
    rw [hstate]
    exact rfl
  exact hends

/-- A report that was accepted passed its checks. -/
theorem reportable_of_accepted {executionId machineBindingId : String}
    (h : reportResult platform session executionId machineBindingId result s = (.ok (), s')) :
    ∃ e rows, reportable platform session s executionId machineBindingId result =
      .ok (e, rows) := by
  cases hreportable : reportable platform session s executionId machineBindingId result with
  | ok found => exact ⟨found.1, found.2, rfl⟩
  | error error =>
    have hends : Tx.Ends (reportResult platform session executionId machineBindingId result) s
        fun r _ => r = .error error := by
      apply Tx.Ends.get
      apply Tx.Ends.read
      · intro error' herror
        rw [hreportable] at herror
        cases herror
        rfl
      · intro found hfound
        rw [hreportable] at hfound
        cases hfound
    cases hends.of_run h

/-- In a state of a run, a truthful report of an unknown outcome by the agent of the execution is
taken just when the profile of the printer is intact and the audit history takes its event. -/
theorem unknownTaken_iff {labels : List PrintingLabel}
    (run : Run (PrintingStep platform) .initial labels s) (he : e ∈ s.executions)
    (hstate : e.state = .spoolSubmitting ∨ e.state = .spoolJobCreated)
    (howns : session.owns e.organisationId e.participantId = true)
    (hgate : requireGate platform = .ok ()) {binding : AgentBinding}
    (hbinding : physicalBinding platform session s e.agentBindingId = .ok binding)
    (htruthful : Truthful e result) :
    UnknownTaken platform session s e result ↔
      ProfileIntact platform session s e ∧ session.audit (unknownEvent e) = .ok () := by
  have hreceived : e.state ∈ receivedStates := by
    rcases hstate with hstate | hstate <;> rw [hstate] <;> decide
  have hcheck := checkResult_truthful htruthful hstate
  have hgraph := graph_iff_profile (run_deliveryInv run) (run_belongs run e he) he howns hreceived
  constructor
  · rintro ⟨s', hreport, -⟩
    obtain ⟨e', rows, hreportable⟩ := reportable_of_accepted hreport
    obtain ⟨hreported, -, -⟩ := reportable_spec hreportable
    obtain ⟨he', hid, -⟩ := reportedExecution_spec hreported
    rw [Table.eq_of_key_eq he' he hid] at hreportable
    rw [reportResult_unknown htruthful.state hreportable] at hreport
    have hvalid := (reportable_iff_graph he howns hgate hbinding hcheck).mp hreportable
    exact ⟨hgraph.mp ⟨rows, hvalid⟩, congrArg Prod.fst hreport⟩
  · rintro ⟨hprofile, haudit⟩
    obtain ⟨rows, hvalid⟩ := hgraph.mpr hprofile
    have hreportable := (reportable_iff_graph he howns hgate hbinding hcheck).mpr hvalid
    refine ⟨_, (reportResult_unknown htruthful.state hreportable).trans (by rw [haudit]), ?_⟩
    refine ⟨resultExecution result session.now e, ?_, key_resultExecution _ _ _, ?_⟩
    · rw [(applyResult_executions _ _ _ _ _).1]
      simp only [Table.mem_modify_iff_exists]
      exact ⟨e, he, if_pos rfl⟩
    · unfold resultExecution
      rw [htruthful.state]
      rfl

end Graph

/-! ## A label at the printer -/

/-- A printer profile that is disabled. -/
def disabledProfile (profile : PrinterProfile) : PrinterProfile := { profile with active := false }

theorem key_disabledProfile (profile : PrinterProfile) :
    (disabledProfile profile).key = profile.key := rfl

/-- The profiles of printers are around the services. -/
theorem surroundings_profiles (s : PrintingState) (profiles : Table PrinterProfile.key) :
    Surroundings s { s with profiles := profiles } :=
  ⟨rfl, rfl, rfl, rfl, rfl, rfl, fun _ hrow => hrow, fun _ hrow => hrow⟩

/-- The label was given to the spooler. -/
def sampleSpooled : PrintingState := after samplePlatform sampleTables sampleCalls

/-- The profile of the printer is disabled after that. -/
def sampleDisabled : PrintingState :=
  { sampleSpooled with
    profiles := sampleSpooled.profiles.modify "profile" disabledProfile key_disabledProfile }

theorem sampleSpooled_run :
    Run (PrintingStep samplePlatform) .initial
      ([.surroundings] ++ labelsOf samplePlatform sampleTables sampleCalls) sampleSpooled :=
  sampleTables_run.append (run_after _ _ _)

theorem exists_ok_of_isOk {α : Type} {x : Except PyError α} (h : x.isOk = true) :
    ∃ a, x = .ok a := by
  cases x with
  | ok a => exact ⟨a, rfl⟩
  | error e => cases h

theorem unknownTaken_iff_sample :
    ∃ e ∈ sampleSpooled.executions,
      (reportResult samplePlatform (sampleSession 9 "") e.id e.agentBindingId
        { state := .unknownAfterSpool } sampleSpooled).1.isOk = true ∧
      (UnknownTaken samplePlatform (sampleSession 9 "") sampleSpooled e
          { state := .unknownAfterSpool } ↔
        ProfileIntact samplePlatform (sampleSession 9 "") sampleSpooled e ∧
          (sampleSession 9 "").audit (unknownEvent e) = .ok ()) := by
  have hfound : ∃ e ∈ sampleSpooled.executions.rows, e.state = .spoolSubmitting ∧
      (sampleSession 9 "").owns e.organisationId e.participantId = true ∧
      (physicalBinding samplePlatform (sampleSession 9 "") sampleSpooled
        e.agentBindingId).isOk = true ∧
      (reportResult samplePlatform (sampleSession 9 "") e.id e.agentBindingId
        { state := .unknownAfterSpool } sampleSpooled).1.isOk = true := by decide +kernel
  obtain ⟨e, he, hstate, howns, hbinding, haccepted⟩ := hfound
  obtain ⟨binding, hbinding⟩ := exists_ok_of_isOk hbinding
  exact ⟨e, he, haccepted, unknownTaken_iff sampleSpooled_run he (.inl hstate) howns rfl hbinding
    ⟨rfl, fun _ h => by cases h⟩⟩

/-- The profile of the printer is disabled after the label was given to the spooler, and the
report of the unknown outcome is refused. -/
theorem not_unknownTaken_disabled :
    ¬ ∀ platform labels s session e binding result,
      Run (PrintingStep platform) .initial labels s → e ∈ s.executions →
      (e.state = .spoolSubmitting ∨ e.state = .spoolJobCreated) →
      session.owns e.organisationId e.participantId = true → requireGate platform = .ok () →
      physicalBinding platform session s e.agentBindingId = .ok binding → Truthful e result →
      session.audit (unknownEvent e) = .ok () → UnknownTaken platform session s e result := by
  intro h
  have hfound : ∃ e ∈ sampleDisabled.executions.rows, e.state = .spoolSubmitting ∧
      (sampleSession 9 "").owns e.organisationId e.participantId = true ∧
      (physicalBinding samplePlatform (sampleSession 9 "") sampleDisabled
        e.agentBindingId).isOk = true ∧
      (reportResult samplePlatform (sampleSession 9 "") e.id e.agentBindingId
        { state := .unknownAfterSpool } sampleDisabled).1.isOk = false := by decide +kernel
  obtain ⟨e, he, hstate, howns, hbinding, hrefused⟩ := hfound
  obtain ⟨binding, hbinding⟩ := exists_ok_of_isOk hbinding
  have hrun : Run (PrintingStep samplePlatform) .initial
      (([.surroundings] ++ labelsOf samplePlatform sampleTables sampleCalls) ++ [.surroundings])
      sampleDisabled :=
    sampleSpooled_run.append (.single (.surroundings (surroundings_profiles sampleSpooled _)))
  obtain ⟨s', htaken, -⟩ := h samplePlatform _ sampleDisabled (sampleSession 9 "") e binding
    { state := .unknownAfterSpool } hrun he (.inl hstate) howns rfl hbinding
    ⟨rfl, fun _ h => by cases h⟩ rfl
  rw [htaken] at hrefused
  cases hrefused

end Wbcz.Printing
