import Wbcz.Reports.Workers

/-!
# What report workers leave alone, and what they must hold

Two things a local worker must not do: touch a report that the orchestration of remote
reports looks after, and change the state of a report whose lease it no longer has. The
queue and the operations that end a lease check neither, so each holds of the runs in which
the step that goes wrong is not taken.
-/

namespace Wbcz.Reports

/-! ### Remote reports -/

section Remote

variable {config : WorkerConfig} {w w' : World} {a : Action}

/-- The remote reports are as they were. -/
def RemoteUntouched (w w' : World) : Prop :=
  ∀ row, w.store.jobs.find? row.id = some row → row.origin = .trueApiRemote →
    w'.store.jobs.find? row.id = some row

/-- The report at the head of the queue is a local one, when a worker claims. -/
def LocalHead (w : World) : Action → Prop
  | .claim _ locked => ∀ row, w.store.queueHead w.now locked = some row → row.origin = .localReport
  | _ => True

/-- Workers work on local reports only. -/
def HeldLocal (w : World) : Prop :=
  ∀ claimed ∈ w.held, ∃ row, w.store.jobs.find? claimed.jobId = some row ∧
    row.origin = .localReport

theorem HeldLocal.step (hw : HeldLocal w) (hhead : LocalHead w a)
    (h : step config w a = .ok w') : HeldLocal w' := by
  intro claimed hclaimed
  rcases held_step h hclaimed with hheld | ⟨worker, locked, row, row', rfl, hsel, hasked, hrow', rfl⟩
  · obtain ⟨row, hrow, hlocal⟩ := hw claimed hheld
    obtain ⟨row', hrow', hasked⟩ := step_asked h hrow
    exact ⟨row', hrow', (congrArg ReportRequest.origin hasked).trans hlocal⟩
  · exact ⟨row', hrow', (congrArg ReportRequest.origin hasked).trans (hhead row hsel)⟩

/-- Rewriting a local report leaves the remote ones alone. -/
theorem Rewrites.untouched {row row' : ReportJobRecord} (h : Rewrites w w' row row')
    (hlocal : row.origin = .localReport) : RemoteUntouched w w' := by
  intro r hr hremote
  rw [h.2]
  split
  · rename_i hk
    rw [hk, h.1] at hr
    cases hr
    rw [hlocal] at hremote
    cases hremote
  · exact hr

theorem HeldLocal.untouched (hw : HeldLocal w) (hhead : LocalHead w a)
    (h : Reports.step config w a = .ok w') (ha : a.byWorker) : RemoteUntouched w w' := by
  cases a with
  | claim worker locked =>
    obtain ⟨-, ⟨-, hstore, -⟩ | ⟨row, row', hsel, hrewrites, -⟩⟩ := claim_spec h
    · intro r hr _
      rw [hstore, hr]
    · exact hrewrites.untouched (hhead row hsel)
  | execute place artifact =>
    obtain ⟨claimed, row, hclaimed, hkey, hrewrites, -⟩ := execute_spec h
    obtain ⟨r, hr, hlocal⟩ := hw claimed (List.mem_of_getElem? hclaimed)
    obtain rfl : row = r := Option.some.inj (hrewrites.1.symm.trans (hkey ▸ hr))
    exact hrewrites.untouched hlocal
  | handleFailure place exc drawn =>
    obtain ⟨claimed, hclaimed, -, -, ⟨-, hstore⟩ | ⟨row, row', hkey, hrewrites, -⟩⟩ :=
      handleFailure_spec h
    · intro r hr _
      rw [hstore, hr]
    · obtain ⟨r, hr, hlocal⟩ := hw claimed (List.mem_of_getElem? hclaimed)
      obtain rfl : row = r := Option.some.inj (hrewrites.1.symm.trans (hkey ▸ hr))
      exact hrewrites.untouched hlocal
  | pass | request | ingest | remoteResult => cases ha

/-- Whatever a claim makes of the row it selects, it changes it. -/
theorem claim_changes {row row' : ReportJobRecord} {worker : String} {leaseSeconds now : ℤ}
    (hclaimable : row.claimable now)
    (h : (row' = row.recovered ∨ row' = row.exhausted) ∨
      row' = row.leased worker leaseSeconds now) : row' ≠ row := by
  rintro rfl
  have hstate : row'.state = .queued ∨ row'.state = .generating := by
    simp only [ReportJobRecord.claimable, Bool.or_eq_true, Bool.and_eq_true,
      decide_eq_true_eq] at hclaimable
    exact hclaimable.imp And.left And.left
  rcases h with (h | h) | h
  · rw [h] at hstate
    rcases hstate with hstate | hstate <;> cases hstate
  · rw [h] at hstate
    rcases hstate with hstate | hstate <;> cases hstate
  · have hcount := congrArg ReportJobRecord.deliveryCount h
    exact Nat.succ_ne_self _ hcount.symm

theorem localHead_of_untouched (h : step config w a = .ok w')
    (huntouched : a.byWorker → RemoteUntouched w w') : LocalHead w a := by
  cases a with
  | claim worker locked =>
    intro row hsel
    cases horigin : row.origin with
    | localReport => rfl
    | trueApiRemote =>
      obtain ⟨hrow, hclaimable⟩ := ReportStore.queueHead_spec hsel
      have hsame := huntouched rfl row hrow horigin
      obtain ⟨-, ⟨hnone, -⟩ | ⟨r, r', hr, hrewrites, -, hcase⟩⟩ := claim_spec h
      · rw [hnone] at hsel
        cases hsel
      · obtain rfl : r = row := Option.some.inj (hr.symm.trans hsel)
        rw [hrewrites.2, if_pos rfl] at hsame
        have hchange := hcase.imp And.right fun hleased => hleased.2.1
        exact absurd (Option.some.inj hsame) (claim_changes hclaimable hchange)
  | pass | request | execute | handleFailure | ingest | remoteResult => trivial

/-- The runs in which no worker changes a remote report are exactly those in which every
claim finds a local report at the head of the queue, or none. -/
theorem remote_reports_untouched_iff (config : WorkerConfig) (now : ℤ) (as : List Action)
    (w : World) :
    Transition.Run (fun w a w' => step config w a = .ok w' ∧ LocalHead w a)
        (World.initial now) as w ↔
      Transition.Run (fun w a w' => step config w a = .ok w' ∧
        (a.byWorker → RemoteUntouched w w')) (World.initial now) as w := by
  refine Transition.Run.congr HeldLocal ?_ ?_ ?_
  · intro claimed hclaimed
    cases hclaimed
  · intro w a w' hw
    constructor
    · rintro ⟨h, hhead⟩
      exact ⟨h, hw.untouched hhead h⟩
    · rintro ⟨h, huntouched⟩
      exact ⟨h, localHead_of_untouched h huntouched⟩
  · rintro w a w' hw ⟨h, hhead⟩
    exact hw.step hhead h

/-- The settings of a deployment: two minutes for a lease, a day for a report. -/
def defaultConfig : WorkerConfig := ⟨120, 86400⟩

/-- The request for a report of the remote dispenser. -/
def filteredCisRequest : ReportRequest where
  origin := .trueApiRemote
  participantInn := "7700000001"
  reportType := "TRUE_API_FILTERED_CIS_REPORT"
  reportSchemaVersion := "198.0"
  outputFormat := "ZIP"
  sensitivityClass := "MARKING_SENSITIVE"
  requestFingerprintSha256 := "9f86d081884c7d65"

/-- A remote report waits in the queue; the next local worker takes it and fails it. -/
theorem remote_report_taken_by_local_worker :
    ¬ ∀ (config : WorkerConfig) (now : ℤ) (as : List Action) (w : World),
      Transition.Run (Transition.Accepts (step config)) (World.initial now) as w →
        ∀ a w', step config w a = .ok w' → a.byWorker → RemoteUntouched w w' := by
  intro h
  have run := @Transition.run_accepted World Action _ (step defaultConfig) (World.initial 0)
    [.request "rpt_1" filteredCisRequest]
  have claimed := h defaultConfig 0 _ _ run (.claim "worker:a" fun _ => false)
    (Transition.exec (step defaultConfig) (World.initial 0)
      [.request "rpt_1" filteredCisRequest, .claim "worker:a" fun _ => false]) rfl rfl
    { ReportJobRecord.create "rpt_1" filteredCisRequest 0 with state := .queued } rfl rfl
  exact absurd (congrArg (Option.map ReportJobRecord.state) claimed) (by decide)

end Remote

/-! ### Leases -/

section Leases

variable {config : WorkerConfig} {w w' : World} {a : Action}

/-- The lease of a row is the one that was given with the claim. -/
def ClaimedReportJob.Leases (claimed : ClaimedReportJob) (row : ReportJobRecord) : Prop :=
  row.state = .generating ∧ row.leaseOwner = some claimed.leaseOwner ∧
    row.leaseExpiresAt = some claimed.leaseExpiresAt

/-- Every claim that has not expired is the lease of its row, and there is one for a row. -/
structure LeasesHeld (w : World) : Prop where
  leases : ∀ claimed ∈ w.held, w.now < claimed.leaseExpiresAt →
    ∃ row, w.store.jobs.find? claimed.jobId = some row ∧ claimed.Leases row
  single : w.held.Pairwise fun claimed other =>
    claimed.jobId = other.jobId → claimed.leaseExpiresAt ≤ w.now ∨ other.leaseExpiresAt ≤ w.now

/-- A worker finishes with a claim before the claim expires, and no result of an agent is
about a report that a worker has leased. -/
def Timely (w : World) : Action → Prop
  | .execute place _ | .handleFailure place _ _ =>
    ∀ claimed, w.held[place]? = some claimed → w.now < claimed.leaseExpiresAt
  | .remoteResult reportId _ =>
    ∀ row worker, w.store.jobs.find? reportId = some row → ¬ row.HeldBy worker w.now
  | _ => True

/-- The claim that a step of a worker ends. -/
def endedClaim (w : World) : Action → Option ClaimedReportJob
  | .execute place _ | .handleFailure place _ _ => w.held[place]?
  | _ => none

/-- A worker that ends a claim changes the state of a report only while it has the lease of
the report, a claim changes only reports that nobody has leased, and no step of a worker
changes the state of a ready report. -/
structure OnlyHolderChanges (w : World) (a : Action) (w' : World) : Prop where
  ended : ∀ claimed, endedClaim w a = some claimed → ∀ k row row',
    w.store.jobs.find? k = some row → w'.store.jobs.find? k = some row' →
      row'.state ≠ row.state → row.HeldBy claimed.leaseOwner w.now
  claimed : ∀ worker locked, a = .claim worker locked → ∀ k row row',
    w.store.jobs.find? k = some row → w'.store.jobs.find? k = some row' →
      row'.state ≠ row.state → ∀ holder, ¬ row.HeldBy holder w.now
  ready : a.byWorker → ∀ k row row', w.store.jobs.find? k = some row →
    w'.store.jobs.find? k = some row' → row.state = .ready → row'.state = .ready

theorem ClaimedReportJob.Leases.heldBy {claimed : ClaimedReportJob} {row : ReportJobRecord}
    {now : ℤ} (h : claimed.Leases row) (hnow : now < claimed.leaseExpiresAt) :
    row.HeldBy claimed.leaseOwner now :=
  ⟨h.1, h.2.1, _, h.2.2, hnow⟩

private theorem rel_of_mem_eraseIdx {α : Type} {R : α → α → Prop} {l : List α} {place : ℕ}
    {x y : α} (h : l.Pairwise R) (hx : l[place]? = some x) (hy : y ∈ l.eraseIdx place) :
    R x y ∨ R y x := by
  obtain ⟨i, hi, hne, rfl⟩ := List.mem_eraseIdx_iff_getElem.mp hy
  obtain ⟨hplace, rfl⟩ := List.getElem?_eq_some_iff.mp hx
  rw [List.pairwise_iff_getElem] at h
  rcases Nat.lt_or_gt_of_ne hne with hlt | hlt
  · exact .inr (h i place hi hplace hlt)
  · exact .inl (h place i hplace hi hlt)

/-- Ending an unexpired claim touches the report of no other unexpired claim. -/
theorem LeasesHeld.other (hw : LeasesHeld w) {place : ℕ} {claimed other : ClaimedReportJob}
    (hclaimed : w.held[place]? = some claimed) (hnow : w.now < claimed.leaseExpiresAt)
    (hother : other ∈ w.held.eraseIdx place) (hexpires : w.now < other.leaseExpiresAt) :
    other.jobId ≠ claimed.jobId := by
  intro hjob
  rcases rel_of_mem_eraseIdx hw.single hclaimed hother with h | h
  · have := h hjob.symm
    omega
  · have := h hjob
    omega

/-- When a claim is given up and at most its report is rewritten, the other claims stay. -/
theorem LeasesHeld.erase (hw : LeasesHeld w) {place : ℕ} {claimed : ClaimedReportJob}
    (hclaimed : w.held[place]? = some claimed) (hnow : w.now < claimed.leaseExpiresAt)
    (hnow' : w'.now = w.now) (hheld : w'.held = w.held.eraseIdx place)
    (hrows : ∀ k, k ≠ claimed.jobId → w'.store.jobs.find? k = w.store.jobs.find? k) :
    LeasesHeld w' := by
  constructor
  · intro other hother hexpires
    rw [hheld] at hother
    rw [hnow'] at hexpires
    rw [hrows _ (hw.other hclaimed hnow hother hexpires)]
    exact hw.leases other (List.mem_of_mem_eraseIdx hother) hexpires
  · rw [hheld, hnow']
    exact hw.single.sublist (List.eraseIdx_sublist _ _)

/-- A step that keeps the claims and rewrites no leased report keeps the leases. -/
theorem LeasesHeld.keep (hw : LeasesHeld w) (hnow : w.now ≤ w'.now) (hheld : w'.held = w.held)
    (hrows : ∀ k row worker, w.store.jobs.find? k = some row → row.HeldBy worker w.now →
      w'.store.jobs.find? k = some row) : LeasesHeld w' := by
  constructor
  · intro claimed hclaimed hexpires
    rw [hheld] at hclaimed
    obtain ⟨row, hrow, hleases⟩ := hw.leases claimed hclaimed (by omega)
    exact ⟨row, hrows _ _ _ hrow (hleases.heldBy (by omega)), hleases⟩
  · rw [hheld]
    refine hw.single.imp fun h hjob => ?_
    have := h hjob
    omega

theorem LeasesHeld.step (hw : LeasesHeld w) (htimely : Timely w a)
    (h : step config w a = .ok w') : LeasesHeld w' := by
  cases a with
  | pass seconds =>
    cases h
    exact hw.keep (Int.le_add_of_nonneg_right (Int.natCast_nonneg _)) rfl fun _ _ _ hrow _ => hrow
  | request id request =>
    obtain ⟨hnow, hheld, hnew, row', -, -, -, -, hfind⟩ := request_spec h
    refine hw.keep (Int.le_of_eq hnow.symm) hheld fun k row worker hrow _ => ?_
    rw [hfind, if_neg, hrow]
    rintro rfl
    rw [hnew] at hrow
    cases hrow
  | claim worker locked =>
    obtain ⟨hnow, ⟨-, hstore, hheld⟩ | ⟨row, row', hsel, hrewrites, -, hcase⟩⟩ := claim_spec h
    · refine hw.keep (Int.le_of_eq hnow.symm) hheld fun k r holder hr _ => ?_
      rw [hstore, hr]
    · have hclaimable := (ReportStore.queueHead_spec hsel).2
      -- the row that is rewritten was under no lease
      have hrows : ∀ k r holder, w.store.jobs.find? k = some r → r.HeldBy holder w.now →
          w'.store.jobs.find? k = some r := by
        intro k r holder hr hholder
        rw [hrewrites.2, if_neg, hr]
        rintro rfl
        obtain rfl : row = r := Option.some.inj (hrewrites.1.symm.trans hr)
        rw [hholder.not_claimable] at hclaimable
        cases hclaimable
      rcases hcase with ⟨hheld, -⟩ | ⟨hlease, rfl, hheld⟩
      · exact hw.keep (Int.le_of_eq hnow.symm) hheld hrows
      · constructor
        · intro claimed hclaimed hexpires
          rw [hheld, List.mem_append, List.mem_singleton] at hclaimed
          rcases hclaimed with hclaimed | rfl
          · obtain ⟨r, hr, hleases⟩ := hw.leases claimed hclaimed (hnow ▸ hexpires)
            exact ⟨r, hrows _ _ _ hr (hleases.heldBy (hnow ▸ hexpires)), hleases⟩
          · refine ⟨row.leased worker config.leaseSeconds w.now, ?_, rfl, rfl, rfl⟩
            rw [hrewrites.2]
            exact if_pos rfl
        · rw [hheld, hnow, List.pairwise_append]
          refine ⟨hw.single, List.pairwise_singleton _ _, ?_⟩
          intro claimed hclaimed new hnew hjob
          rw [List.mem_singleton] at hnew
          subst hnew
          -- an unexpired claim of the same report would have kept it out of the queue
          refine .inl (Int.not_lt.mp fun hexpires => ?_)
          obtain ⟨r, hr, hleases⟩ := hw.leases claimed hclaimed hexpires
          rw [hjob] at hr
          obtain rfl : row = r := Option.some.inj (hrewrites.1.symm.trans hr)
          rw [(hleases.heldBy hexpires).not_claimable] at hclaimable
          cases hclaimable
  | execute place artifact =>
    obtain ⟨claimed, row, hclaimed, hkey, hrewrites, hnow, hheld⟩ := execute_spec h
    refine hw.erase hclaimed (htimely claimed hclaimed) hnow hheld fun k hk => ?_
    rw [hrewrites.2, if_neg (hkey ▸ hk)]
  | handleFailure place exc drawn =>
    obtain ⟨claimed, hclaimed, hnow, hheld, hcase⟩ := handleFailure_spec h
    refine hw.erase hclaimed (htimely claimed hclaimed) hnow hheld fun k hk => ?_
    rcases hcase with ⟨-, hstore⟩ | ⟨row, row', hkey, hrewrites, -⟩
    · rw [hstore]
    · rw [hrewrites.2, if_neg (hkey ▸ hk)]
  | ingest artifact =>
    obtain ⟨hnow, hheld, hjobs⟩ := ingest_spec h
    refine hw.keep (Int.le_of_eq hnow.symm) hheld fun k row worker hrow _ => ?_
    rw [hjobs, hrow]
  | remoteResult reportId outcome =>
    obtain ⟨hnow, hheld, row, row', hkey, -, -, hrewrites⟩ := remoteResult_spec h
    refine hw.keep (Int.le_of_eq hnow.symm) hheld fun k r worker hr hholder => ?_
    rw [hrewrites.2, if_neg, hr]
    rintro rfl
    obtain rfl : row = r := Option.some.inj (hrewrites.1.symm.trans hr)
    exact htimely row worker (hkey ▸ hr) hholder

/-- Only the row that is rewritten changes its state. -/
theorem Rewrites.of_state_ne {r r' row row' : ReportJobRecord} {k : String}
    (h : Rewrites w w' r r') (hrow : w.store.jobs.find? k = some row)
    (hrow' : w'.store.jobs.find? k = some row') (hstate : row'.state ≠ row.state) :
    row = r ∧ row' = r' := by
  rw [h.2] at hrow'
  split at hrow'
  · rename_i hk
    subst hk
    exact ⟨Option.some.inj (hrow.symm.trans h.1), (Option.some.inj hrow').symm⟩
  · rw [hrow] at hrow'
    exact absurd (congrArg ReportJobRecord.state (Option.some.inj hrow').symm) hstate

/-- The claim that a timely step ends is the lease of the row that the step rewrites. -/
theorem LeasesHeld.of_ended (hw : LeasesHeld w) (htimely : Timely w a)
    {claimed : ClaimedReportJob} (hended : endedClaim w a = some claimed) {row : ReportJobRecord}
    (hkey : row.id = claimed.jobId) (hrow : w.store.jobs.find? row.id = some row) :
    row.HeldBy claimed.leaseOwner w.now := by
  have leased : ∀ place : ℕ, w.held[place]? = some claimed → w.now < claimed.leaseExpiresAt →
      row.HeldBy claimed.leaseOwner w.now := by
    intro place hplace hnow
    obtain ⟨r, hr, hleases⟩ := hw.leases claimed (List.mem_of_getElem? hplace) hnow
    obtain rfl : row = r := Option.some.inj (hrow.symm.trans (hkey ▸ hr))
    exact hleases.heldBy hnow
  cases a with
  | execute place artifact => exact leased place hended (htimely claimed hended)
  | handleFailure place exc drawn => exact leased place hended (htimely claimed hended)
  | pass | request | claim | ingest | remoteResult => cases hended

theorem LeasesHeld.onlyHolderChanges (hw : LeasesHeld w) (htimely : Timely w a)
    (h : Reports.step config w a = .ok w') : OnlyHolderChanges w a w' := by
  have ended : ∀ claimed, endedClaim w a = some claimed → ∀ k row row',
      w.store.jobs.find? k = some row → w'.store.jobs.find? k = some row' →
        row'.state ≠ row.state → row.HeldBy claimed.leaseOwner w.now := by
    intro claimed hended k row row' hrow hrow' hstate
    cases a with
    | execute place artifact =>
      obtain ⟨c, r, hc, hkey, hrewrites, -⟩ := execute_spec h
      obtain ⟨rfl, rfl⟩ := hrewrites.of_state_ne hrow hrow' hstate
      obtain rfl : c = claimed := Option.some.inj (hc.symm.trans hended)
      exact hw.of_ended htimely hended hkey hrewrites.1
    | handleFailure place exc drawn =>
      obtain ⟨c, hc, -, -, ⟨-, hstore⟩ | ⟨r, r', hkey, hrewrites, -⟩⟩ := handleFailure_spec h
      · rw [hstore, hrow] at hrow'
        exact absurd (congrArg ReportJobRecord.state (Option.some.inj hrow').symm) hstate
      · obtain ⟨rfl, rfl⟩ := hrewrites.of_state_ne hrow hrow' hstate
        obtain rfl : c = claimed := Option.some.inj (hc.symm.trans hended)
        exact hw.of_ended htimely hended hkey hrewrites.1
    | pass | request | claim | ingest | remoteResult => cases hended
  have claimable : ∀ worker locked, a = .claim worker locked → ∀ k row row',
      w.store.jobs.find? k = some row → w'.store.jobs.find? k = some row' →
        row'.state ≠ row.state → row.claimable w.now := by
    rintro worker locked rfl k row row' hrow hrow' hstate
    obtain ⟨-, ⟨-, hstore, -⟩ | ⟨r, r', hsel, hrewrites, -⟩⟩ := claim_spec h
    · rw [hstore, hrow] at hrow'
      exact absurd (congrArg ReportJobRecord.state (Option.some.inj hrow').symm) hstate
    · obtain ⟨rfl, rfl⟩ := hrewrites.of_state_ne hrow hrow' hstate
      exact (ReportStore.queueHead_spec hsel).2
  refine ⟨ended, ?_, ?_⟩
  · intro worker locked ha k row row' hrow hrow' hstate holder hholder
    have hclaimable := claimable worker locked ha k row row' hrow hrow' hstate
    rw [hholder.not_claimable] at hclaimable
    cases hclaimable
  · intro ha k row row' hrow hrow' hready
    by_contra hne
    have hstate : row'.state ≠ row.state := fun heq => hne (heq.trans hready)
    cases a with
    | claim worker locked =>
      have hclaimable := claimable worker locked rfl k row row' hrow hrow' hstate
      simp [ReportJobRecord.claimable, hready] at hclaimable
    | execute place artifact =>
      obtain ⟨c, r, hc, -⟩ := execute_spec h
      have hheld := ended c hc k row row' hrow hrow' hstate
      exact absurd (hready.symm.trans hheld.1) (by decide)
    | handleFailure place exc drawn =>
      obtain ⟨c, hc, -⟩ := handleFailure_spec h
      have hheld := ended c hc k row row' hrow hrow' hstate
      exact absurd (hready.symm.trans hheld.1) (by decide)
    | pass | request | ingest | remoteResult => cases ha

/-- While workers finish before their claims expire, only the holder of the unexpired lease
of a report changes its state, and a ready report stays ready. -/
theorem only_lease_holder_changes (config : WorkerConfig) (now : ℤ) {as : List Action} {w : World}
    (run : Transition.Run (fun w a w' => step config w a = .ok w' ∧ Timely w a)
      (World.initial now) as w) {a : Action} {w' : World} (h : step config w a = .ok w')
    (htimely : Timely w a) : OnlyHolderChanges w a w' := by
  have hw : LeasesHeld w := by
    refine run.invariant LeasesHeld ?_ fun a w w' hw hstep => hw.step hstep.2 hstep.1
    exact ⟨fun claimed hclaimed => absurd hclaimed List.not_mem_nil, .nil⟩
  exact hw.onlyHolderChanges htimely h

/-- The request for a report on stored data. -/
def foundationStatusRequest : ReportRequest where
  origin := .localReport
  participantInn := "7700000001"
  reportType := "OZON_FOUNDATION_STATUS"
  reportSchemaVersion := "1.0"
  outputFormat := "CSV"
  sensitivityClass := "NORMAL"
  requestFingerprintSha256 := "9f86d081884c7d65"

/-- The output of a worker. -/
def foundationStatusArtifact : ReportArtifactRecord where
  artifactId := "art_1"
  reportJobId := "rpt_1"
  artifactRole := .output
  publicationKey := "2c26b46b68ffc68f"
  storageKey := "reports/2c26b46b"
  byteSize := 64
  sha256 := "fcde2b2edba56bf4"

/-- A report is requested and claimed, and its generation fails in time. -/
def claimedInTime : World :=
  Transition.exec (step defaultConfig) (World.initial 0)
    [.request "rpt_1" foundationStatusRequest, .claim "worker:a" fun _ => false]

theorem only_lease_holder_changes_sample :
    OnlyHolderChanges claimedInTime (.handleFailure 0 .database 1)
      (Transition.exec (step defaultConfig) claimedInTime [.handleFailure 0 .database 1]) := by
  have run : Transition.Run (fun w a w' => step defaultConfig w a = .ok w' ∧ Timely w a)
      (World.initial 0) [.request "rpt_1" foundationStatusRequest, .claim "worker:a" fun _ => false]
      claimedInTime := .snoc (.snoc .nil ⟨rfl, trivial⟩) ⟨rfl, trivial⟩
  refine only_lease_holder_changes defaultConfig 0 run rfl ?_
  intro claimed hclaimed
  obtain rfl := Option.some.inj hclaimed
  decide

/-- A worker loses its lease to another one, which finishes the report. -/
def finishedByOther : List Action :=
  [.request "rpt_1" foundationStatusRequest, .claim "worker:a" fun _ => false, .pass 121,
    .claim "worker:b" fun _ => false, .execute 1 foundationStatusArtifact]

/-- The worker that lost its lease runs out of time and fails the ready report. -/
theorem ready_report_failed_by_late_worker :
    ¬ ∀ (config : WorkerConfig) (now : ℤ) (as : List Action) (w : World),
      Transition.Run (Transition.Accepts (step config)) (World.initial now) as w →
        ∀ a w', step config w a = .ok w' → OnlyHolderChanges w a w' := by
  intro h
  have run := @Transition.run_accepted World Action _ (step defaultConfig) (World.initial 0)
    finishedByOther
  have late := h defaultConfig 0 _ _ run (.handleFailure 0 .artifactLimitExceeded 0)
    (Transition.exec (step defaultConfig) (World.initial 0)
      (finishedByOther ++ [.handleFailure 0 .artifactLimitExceeded 0])) rfl
  have before : (((Transition.exec (step defaultConfig) (World.initial 0)
      finishedByOther).store.jobs.find? "rpt_1").map (·.state)) = some .ready := by decide
  have after : (((Transition.exec (step defaultConfig) (World.initial 0)
      (finishedByOther ++ [.handleFailure 0 .artifactLimitExceeded 0])).store.jobs.find?
        "rpt_1").map (·.state)) = some .failed := by decide
  obtain ⟨row, hrow, hready⟩ := Option.map_eq_some_iff.mp before
  obtain ⟨row', hrow', hfailed⟩ := Option.map_eq_some_iff.mp after
  exact absurd (hfailed.symm.trans (late.ready rfl "rpt_1" row row' hrow hrow' hready)) (by decide)

end Leases

end Wbcz.Reports
