import Wbcz.Printing.Boundary

/-!
# The rows that an execution points to

Job, item, stored code and version of an execution are there and belong to its tenant; the hashes
that the execution took over from them are still theirs. Nothing that the services do or that
changes around them takes these rows away.
-/

namespace Wbcz.Printing

open Transition (Run)

/-- A job as it was, but for its state. -/
structure SameJob (job job' : PrintJob) : Prop where
  id : job'.id = job.id
  organisation : job'.organisationId = job.organisationId
  participant : job'.participantId = job.participantId

/-- An item as it was, but for its state. -/
structure SameItem (item item' : PrintJobItem) : Prop where
  id : item'.id = item.id
  job : item'.printJobId = item.printJobId
  organisation : item'.organisationId = item.organisationId
  participant : item'.participantId = item.participantId
  stored : item'.storedFullKmItemId = item.storedFullKmItemId
  payload : item'.payloadHash = item.payloadHash

/-- Jobs and items stay but for their state, stored codes and versions stay. -/
structure RowsKept (s s' : PrintingState) : Prop where
  jobs : ∀ job ∈ s.jobs, ∃ job' ∈ s'.jobs, SameJob job job'
  items : ∀ item ∈ s.items, ∃ item' ∈ s'.items, SameItem item item'
  stored : ∀ row ∈ s.stored, row ∈ s'.stored
  versions : ∀ row ∈ s.versions, row ∈ s'.versions

/-- The rows of an execution. -/
structure Belongs (platform : Platform) (s : PrintingState) (e : PrintExecution) : Prop where
  job : ∃ job ∈ s.jobs, job.id = e.printJobId ∧ job.organisationId = e.organisationId ∧
    job.participantId = e.participantId
  item : ∃ item ∈ s.items, item.id = e.printJobItemId ∧ item.printJobId = e.printJobId ∧
    item.organisationId = e.organisationId ∧ item.participantId = e.participantId ∧
    item.storedFullKmItemId = e.storedFullKmItemId ∧ item.payloadHash = e.payloadSha256
  stored : ∃ row ∈ s.stored, row.id = e.storedFullKmItemId ∧
    row.organisationId = e.organisationId ∧ row.participantId = e.participantId
  version : ∃ row ∈ s.versions, row.id = e.templateVersionId ∧
    row.organisationId = e.organisationId ∧
    (row.participantId.all fun owner => owner = e.participantId) = true ∧
    row.layoutSha256 = e.layoutSha256 ∧
    platform.canonicalLayoutSha256 row.layoutJson row.labelWidthMm row.labelHeightMm =
      .ok row.layoutSha256

section Rows

variable {platform : Platform} {kind : MoveKind} {s s' s'' : PrintingState}
  {e e' : PrintExecution}

theorem SameJob.refl {job : PrintJob} : SameJob job job := ⟨rfl, rfl, rfl⟩

theorem SameItem.refl {item : PrintJobItem} : SameItem item item := ⟨rfl, rfl, rfl, rfl, rfl, rfl⟩

theorem RowsKept.trans (h : RowsKept s s') (h' : RowsKept s' s'') : RowsKept s s'' where
  jobs job hjob := by
    obtain ⟨job', hjob', hsame⟩ := h.jobs job hjob
    obtain ⟨job'', hjob'', hsame'⟩ := h'.jobs job' hjob'
    exact ⟨job'', hjob'', hsame'.id.trans hsame.id, hsame'.organisation.trans hsame.organisation,
      hsame'.participant.trans hsame.participant⟩
  items item hitem := by
    obtain ⟨item', hitem', hsame⟩ := h.items item hitem
    obtain ⟨item'', hitem'', hsame'⟩ := h'.items item' hitem'
    exact ⟨item'', hitem'', hsame'.id.trans hsame.id, hsame'.job.trans hsame.job,
      hsame'.organisation.trans hsame.organisation, hsame'.participant.trans hsame.participant,
      hsame'.stored.trans hsame.stored, hsame'.payload.trans hsame.payload⟩
  stored row hrow := h'.stored row (h.stored row hrow)
  versions row hrow := h'.versions row (h.versions row hrow)

/-- Items and jobs that are rewritten but for their states are kept. -/
theorem rowsKept_of_rewritten {f : PrintJobItem → PrintJobItem} {g : PrintJob → PrintJob}
    (hitems : ∀ item ∈ s.items, f item ∈ s'.items) (hf : ∀ item, SameItem item (f item))
    (hjobs : ∀ job ∈ s.jobs, g job ∈ s'.jobs) (hg : ∀ job, SameJob job (g job))
    (hstored : s'.stored = s.stored) (hversions : s'.versions = s.versions) : RowsKept s s' where
  jobs job hjob := ⟨g job, hjobs job hjob, hg job⟩
  items item hitem := ⟨f item, hitems item hitem, hf item⟩
  stored _ h := hstored ▸ h
  versions _ h := hversions ▸ h

/-- A state with the same jobs, items, stored codes and versions. -/
theorem rowsKept_of_eq (hjobs : s'.jobs = s.jobs) (hitems : s'.items = s.items)
    (hstored : s'.stored = s.stored) (hversions : s'.versions = s.versions) : RowsKept s s' :=
  rowsKept_of_rewritten (f := id) (g := id) (fun _ h => hitems ▸ h) (fun _ => .refl)
    (fun _ h => hjobs ▸ h) (fun _ => .refl) hstored hversions

/-! ### What a report makes of item and job -/

/-- What a report makes of the item. -/
def reportedItem (result : PhysicalResult) : PrintJobItem → PrintJobItem :=
  match result.state with
  | .spoolJobCreated => id
  | .failedPreSpool =>
    movedItem .failed (some (result.errorCode "PHYSICAL_EXECUTION_FAILED_PRE_SPOOL"))
  | .blocked => movedItem .blocked (some (result.errorCode "PHYSICAL_EXECUTION_BLOCKED"))
  | .unknownAfterSpool => movedItem .blocked (some "UNKNOWN_AFTER_SPOOL")
  | .spoolerAccepted => movedItem .completed none

/-- What a report makes of the job. -/
def reportedJob : ResultState → PrintJob → PrintJob
  | .spoolJobCreated => id
  | .failedPreSpool => movedJob .failed
  | .blocked => movedJob .blocked
  | .unknownAfterSpool => movedJob .blocked
  | .spoolerAccepted => id

theorem sameItem_reportedItem (result : PhysicalResult) (item : PrintJobItem) :
    SameItem item (reportedItem result item) := by
  unfold reportedItem
  cases result.state <;> exact ⟨rfl, rfl, rfl, rfl, rfl, rfl⟩

theorem sameJob_reportedJob (state : ResultState) (job : PrintJob) :
    SameJob job (reportedJob state job) := by
  cases state <;> exact ⟨rfl, rfl, rfl⟩

section Reports

variable {executionId itemId jobId : String} {result : PhysicalResult} {now : ℤ}

/-- The items after a report. -/
theorem mem_applyResult_items {item' : PrintJobItem} :
    item' ∈ (s.applyResult executionId itemId jobId result now).items ↔
      ∃ item ∈ s.items, (if item.id = itemId then reportedItem result item else item) = item' := by
  rcases result with ⟨state, windowsSpoolJobId, status, code⟩
  cases state with
  | spoolJobCreated => simp [PrintingState.applyResult, PrintingState.moveExecution, reportedItem]
  | _ =>
    simp only [PrintingState.applyResult, PrintingState.moveExecution, PrintingState.moveItem,
      PrintingState.moveJob, Table.mem_modify_iff_exists]
    exact Iff.rfl

/-- The jobs after a report. -/
theorem mem_applyResult_jobs {job' : PrintJob} :
    job' ∈ (s.applyResult executionId itemId jobId result now).jobs ↔
      ∃ job ∈ s.jobs, (if job.id = jobId then reportedJob result.state job else job) = job' := by
  rcases result with ⟨state, windowsSpoolJobId, status, code⟩
  cases state with
  | spoolJobCreated => simp [PrintingState.applyResult, PrintingState.moveExecution, reportedJob]
  | spoolerAccepted =>
    simp [PrintingState.applyResult, PrintingState.moveExecution, PrintingState.moveItem,
      reportedJob]
  | _ =>
    simp only [PrintingState.applyResult, PrintingState.moveExecution, PrintingState.moveItem,
      PrintingState.moveJob, Table.mem_modify_iff_exists]
    exact Iff.rfl

theorem applyResult_stored :
    (s.applyResult executionId itemId jobId result now).stored = s.stored ∧
      (s.applyResult executionId itemId jobId result now).versions = s.versions := by
  rcases result with ⟨state, windowsSpoolJobId, status, code⟩
  cases state <;> exact ⟨rfl, rfl⟩

theorem rowsKept_applyResult :
    RowsKept s (s.applyResult executionId itemId jobId result now) := by
  refine rowsKept_of_rewritten (f := fun item => if item.id = itemId then reportedItem result item
    else item) (g := fun job => if job.id = jobId then reportedJob result.state job else job)
    (fun item hitem => mem_applyResult_items.mpr ⟨item, hitem, rfl⟩) (fun item => ?_)
    (fun job hjob => mem_applyResult_jobs.mpr ⟨job, hjob, rfl⟩) (fun job => ?_)
    applyResult_stored.1 applyResult_stored.2
  · split
    · exact sameItem_reportedItem result item
    · exact .refl
  · split
    · exact sameJob_reportedJob result.state job
    · exact .refl

end Reports

/-- An item that takes a new state. -/
theorem rowsKept_moveItem (itemId : String) (state : ItemState) (code : Option String) :
    RowsKept s (s.moveItem itemId state code) where
  jobs job hjob := ⟨job, hjob, .refl⟩
  items item hitem := by
    simp only [PrintingState.moveItem, Table.mem_modify_iff_exists]
    refine ⟨_, ⟨item, hitem, rfl⟩, ?_⟩
    split
    · exact ⟨rfl, rfl, rfl, rfl, rfl, rfl⟩
    · exact .refl
  stored _ h := h
  versions _ h := h

/-- A job that takes a new state. -/
theorem rowsKept_moveJob (jobId : String) (state : JobState) :
    RowsKept s (s.moveJob jobId state) where
  jobs job hjob := by
    simp only [PrintingState.moveJob, Table.mem_modify_iff_exists]
    refine ⟨_, ⟨job, hjob, rfl⟩, ?_⟩
    split
    · exact ⟨rfl, rfl, rfl⟩
    · exact .refl
  items item hitem := ⟨item, hitem, .refl⟩
  stored _ h := h
  versions _ h := h

theorem Move.rowsKept (move : Move platform s kind s') : RowsKept s s' := by
  cases move with
  | render =>
    refine RowsKept.trans ?_ (rowsKept_moveItem _ _ _)
    exact rowsKept_of_eq rfl rfl rfl rfl
  | report => exact rowsKept_applyResult
  | complete => exact rowsKept_moveJob _ _
  | insertJob _ _ hjobs hitems =>
    refine ⟨fun job hjob => ⟨job, (Table.mem_insert hjobs).mpr (.inl hjob), .refl⟩,
      fun item hitem => ⟨item, (insertItems_spec hitems).1 item hitem, .refl⟩, ?_, ?_⟩
    · exact fun _ h => h
    · exact fun _ h => h
  | _ => exact rowsKept_of_eq rfl rfl rfl rfl

/-- The rows of an execution stay its rows. -/
theorem Belongs.kept (h : Belongs platform s e) (hrows : RowsKept s s')
    (he : SameExecution e e') : Belongs platform s' e' where
  job := by
    obtain ⟨job, hjob, hid, horganisation, hparticipant⟩ := h.job
    obtain ⟨job', hjob', hsame⟩ := hrows.jobs job hjob
    refine ⟨job', hjob', ?_, ?_, ?_⟩
    · rw [hsame.id, hid, he.job]
    · rw [hsame.organisation, horganisation, he.organisation]
    · rw [hsame.participant, hparticipant, he.participant]
  item := by
    obtain ⟨item, hitem, hid, hjob, horganisation, hparticipant, hstored, hpayload⟩ := h.item
    obtain ⟨item', hitem', hsame⟩ := hrows.items item hitem
    refine ⟨item', hitem', ?_, ?_, ?_, ?_, ?_, ?_⟩
    · rw [hsame.id, hid, he.item]
    · rw [hsame.job, hjob, he.job]
    · rw [hsame.organisation, horganisation, he.organisation]
    · rw [hsame.participant, hparticipant, he.participant]
    · rw [hsame.stored, hstored, he.stored]
    · rw [hsame.payload, hpayload, he.payload]
  stored := by
    obtain ⟨row, hrow, hid, horganisation, hparticipant⟩ := h.stored
    refine ⟨row, hrows.stored row hrow, ?_, ?_, ?_⟩
    · rw [hid, he.stored]
    · rw [horganisation, he.organisation]
    · rw [hparticipant, he.participant]
  version := by
    obtain ⟨row, hrow, hid, horganisation, howner, hlayout, hcanonical⟩ := h.version
    refine ⟨row, hrows.versions row hrow, ?_, ?_, ?_, ?_, hcanonical⟩
    · rw [hid, he.version]
    · rw [horganisation, he.organisation]
    · rw [he.participant]
      exact howner
    · rw [hlayout, he.layout]

end Rows

/-! ## New executions -/

section Tenant

variable {platform : Platform} {session : Session} {s s' : PrintingState} {kind : MoveKind}

theorem owns_iff {organisationId participantId : String} :
    session.owns organisationId participantId = true ↔
      organisationId = session.scope.organisationId ∧
        participantId = session.scope.participantId := by
  rw [Session.owns, Bool.and_eq_true, decide_eq_true_eq, decide_eq_true_eq]

theorem jobOf_eq_some {jobId : String} {job : PrintJob} :
    jobOf session s jobId = some job ↔ job ∈ s.jobs ∧ job.id = jobId ∧
      job.organisationId = session.scope.organisationId ∧
        job.participantId = session.scope.participantId := by
  rw [jobOf, Option.filter_eq_some_iff, Table.find?_eq_some_iff, owns_iff, and_assoc]

theorem itemOf_eq_some {itemId jobId : String} {item : PrintJobItem} :
    itemOf session s itemId jobId = some item ↔ item ∈ s.items ∧ item.id = itemId ∧
      item.printJobId = jobId ∧ item.organisationId = session.scope.organisationId ∧
        item.participantId = session.scope.participantId := by
  rw [itemOf, Option.filter_eq_some_iff, Table.find?_eq_some_iff, Bool.and_eq_true,
    decide_eq_true_eq, owns_iff, and_assoc]

theorem storedOf_eq_some {storedId : String} {row : StoredFullKmItem} :
    storedOf session s storedId = some row ↔ row ∈ s.stored ∧ row.id = storedId ∧
      row.organisationId = session.scope.organisationId ∧
        row.participantId = session.scope.participantId := by
  rw [storedOf, Option.filter_eq_some_iff, Table.find?_eq_some_iff, owns_iff, and_assoc]

theorem versionOf_eq_some {versionId : String} {row : TemplateVersion} :
    versionOf session s versionId = some row ↔ row ∈ s.versions ∧ row.id = versionId ∧
      row.organisationId = session.scope.organisationId := by
  rw [versionOf, Option.filter_eq_some_iff, Table.find?_eq_some_iff, decide_eq_true_eq, and_assoc]

/-- The layout of a version has the hash that was recorded. -/
theorem checkLayout_eq_ok {version : TemplateVersion} {e : PyError} :
    checkLayout platform version e = .ok () ↔
      platform.canonicalLayoutSha256 version.layoutJson version.labelWidthMm
        version.labelHeightMm = .ok version.layoutSha256 := by
  unfold checkLayout
  cases hlayout : platform.canonicalLayoutSha256 version.layoutJson version.labelWidthMm
      version.labelHeightMm with
  | error e' => exact ⟨fun h => (by cases h), fun h => (by cases h)⟩
  | ok layoutHash =>
    constructor
    · intro h
      rw [Fallible.ensure_eq_ok.mp h]
    · intro h
      cases h
      exact Fallible.ensure_eq_ok.mpr rfl

/-- The rows of a new execution. -/
theorem belongs_of_authorized {target : Authorization} {graph : AuthorizationGraph}
    (h : Authorized platform session s target graph) :
    Belongs platform s (newExecution session s target graph) := by
  obtain ⟨hjob, -, hjobOrganisation, hjobParticipant⟩ := jobOf_eq_some.mp h.job
  obtain ⟨hitem, -, hitemJob, hitemOrganisation, hitemParticipant⟩ := itemOf_eq_some.mp h.item
  obtain ⟨-, hstored, hversion, howner, hlayout, -⟩ := authorizationGraph_spec h.graph
  obtain ⟨hstored, hstoredId, hstoredOrganisation, hstoredParticipant⟩ :=
    storedOf_eq_some.mp hstored
  obtain ⟨hversion, -, hversionOrganisation⟩ := versionOf_eq_some.mp hversion
  refine ⟨⟨_, hjob, rfl, hjobOrganisation, hjobParticipant⟩, ?_, ?_, ?_⟩
  · exact ⟨_, hitem, rfl, hitemJob, hitemOrganisation, hitemParticipant, hstoredId.symm, rfl⟩
  · exact ⟨_, hstored, rfl, hstoredOrganisation, hstoredParticipant⟩
  · exact ⟨_, hversion, rfl, hversionOrganisation, howner, rfl, checkLayout_eq_ok.mp hlayout⟩

/-- The rows of every execution are there. -/
def AllBelong (platform : Platform) (s : PrintingState) : Prop :=
  ∀ e ∈ s.executions, Belongs platform s e

theorem Move.allBelong (h : DeliveryInv s) (hs : AllBelong platform s)
    (move : Move platform s kind s') : AllBelong platform s' := by
  intro e' he'
  have hrows := move.rowsKept
  rcases move.pairs h with ⟨f, g, hrewritten⟩ | ⟨hauthorized, hexecutions, -⟩
  · obtain ⟨e, he, rfl⟩ := (hrewritten.executions e').mp he'
    obtain ⟨r, -, -, step⟩ := hrewritten.execution h he
    exact (hs e he).kept hrows step.sameExecution
  · rcases (Table.mem_insert hexecutions).mp he' with he | rfl
    · exact (hs e' he).kept hrows .refl
    · exact (belongs_of_authorized hauthorized).kept hrows .refl

theorem Surroundings.rowsKept (around : Surroundings s s') : RowsKept s s' where
  jobs job hjob := ⟨job, around.jobs ▸ hjob, .refl⟩
  items item hitem := ⟨item, around.items ▸ hitem, .refl⟩
  stored := around.stored
  versions := around.versions

/-- The rows of every execution are there in every state of a run. -/
theorem run_belongs {labels : List PrintingLabel}
    (run : Run (PrintingStep platform) .initial labels s) : AllBelong platform s := by
  have hrun := run_invariant run (fun t => DeliveryInv t ∧ AllBelong platform t)
    ⟨deliveryInv_initial, fun _ he => absurd he Table.not_mem_empty⟩ ?_ ?_
  · exact hrun.2
  · rintro t t' ⟨ht, hbelong⟩ around
    refine ⟨ht.surroundings around, fun e he => ?_⟩
    rw [around.executions] at he
    exact (hbelong e he).kept around.rowsKept .refl
  · rintro kind t t' ⟨ht, hbelong⟩ move
    exact ⟨ht.move move, move.allBelong ht hbelong⟩

end Tenant

end Wbcz.Printing
