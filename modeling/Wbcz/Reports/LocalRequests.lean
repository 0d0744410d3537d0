import Wbcz.Lib.CanonicalJson
import Wbcz.Reports.LocalSources
import Wbcz.Reports.Workers

/-!
# Requests for local reports

`ReportJobService.request_local` and `SynchronousReportExecutor.execute_claimed` of
`wbcz_web/services/reports.py`. A request is validated, its filters are sanitized, stored and
fingerprinted; a worker that claims the job reads the stored filters back and selects the rows.
-/

namespace Wbcz.Reports

/-! ## Requests -/

/-- The filters of a request. -/
structure ReportFilters where
  fields : List (String × Json)
  keys : (fields.map Prod.fst).Nodup
  floats : Json.FloatTexts (.obj fields)

/-- The filters as a value. -/
def ReportFilters.value (filters : ReportFilters) : Json := .obj filters.fields

/-- The filters as they are stored. -/
def ReportFilters.sanitized (filters : ReportFilters) : Json :=
  sanitizeReportEvidence filters.value

/-- The arguments of `request_local`. -/
structure LocalReportCall where
  reportType : LocalReportType
  outputFormat : String
  filters : ReportFilters
  sensitivityMode : Option String := none

/-- The tenant of a session. -/
structure TenantScope where
  organisationId : String
  participantId : String
  participantInn : String

/-- The payload of `canonical_request_fingerprint`. -/
def requestPayload (reportType reportSchemaVersion : String)
    (participantScope normalizedFilters : Json)
    (outputFormat sensitivityMode snapshotPolicyVersion : String) : Json :=
  .obj [("report_type", .str reportType), ("report_schema_version", .str reportSchemaVersion),
    ("participant_scope", participantScope), ("normalized_filters", normalizedFilters),
    ("output_format", .str outputFormat), ("sensitivity_mode", .str sensitivityMode),
    ("snapshot_policy_version", .str snapshotPolicyVersion)]

/-- `canonical_request_fingerprint`. -/
def canonicalRequestFingerprint (reportType reportSchemaVersion : String)
    (participantScope normalizedFilters : Json)
    (outputFormat sensitivityMode snapshotPolicyVersion : String) : String :=
  Sha256.hexdigest <| Text.utf8 <| Json.canonical <|
    requestPayload reportType reportSchemaVersion participantScope normalizedFilters outputFormat
      sensitivityMode snapshotPolicyVersion

/-- The scope of a participant in a fingerprint. -/
def participantScope (inn : String) : Json := .obj [("participant_inn", .str inn)]

/-- The fingerprint that `request_local` takes. -/
def requestFingerprint (inn : String) (call : LocalReportCall) : String :=
  let definition := localReportCatalog call.reportType
  canonicalRequestFingerprint call.reportType.value definition.schemaVersion
    (participantScope inn) call.filters.sanitized call.outputFormat
    (call.sensitivityMode.getD definition.sensitivity) "m11-v1"

/-- What the fingerprint is taken of. -/
def LocalReportCall.payload (inn : String) (call : LocalReportCall) : Json :=
  let definition := localReportCatalog call.reportType
  requestPayload call.reportType.value definition.schemaVersion
    (participantScope inn) call.filters.sanitized call.outputFormat
    (call.sensitivityMode.getD definition.sensitivity) "m11-v1"

theorem requestFingerprint_eq (inn : String) (call : LocalReportCall) :
    requestFingerprint inn call = Sha256.hexdigest (Text.utf8 (call.payload inn).canonical) := rfl

/-- A filter of another participant is given. -/
def otherParticipant (inn : String) (filters : List (String × Json)) : Bool :=
  let value := (Json.obj filters).get "participant_inn"
  !value.isNull && value.str? ≠ some inn

/-- A filter is given that the report has not. -/
def unknownFilter (reportType : LocalReportType) (filters : List (String × Json)) : Bool :=
  filters.any fun field => !((localReportCatalog reportType).allowedFilters.contains field.1)

/-- `request_local` as far as `create_job`, which also asks for the tenant. -/
def localRequest (inn : String) (scope : Option TenantScope) (bootstrapped : Bool)
    (call : LocalReportCall) : Except PyError ReportRequest :=
  let definition := localReportCatalog call.reportType
  let request : ReportRequest :=
    { origin := .localReport
      organisationId := scope.map TenantScope.organisationId
      participantId := scope.map TenantScope.participantId
      participantInn := inn
      reportType := call.reportType.value
      reportSchemaVersion := definition.schemaVersion
      outputFormat := call.outputFormat
      sensitivityClass := definition.sensitivity
      filtersSanitized := call.filters.sanitized
      requestFingerprintSha256 := requestFingerprint inn call }
  match definition.disabledReason with
  | some reason => .error ⟨.reportError, reason⟩
  | none =>
    if call.outputFormat ∉ definition.outputFormats then
      .error ⟨.valueError, "unsupported report output format"⟩
    else if unknownFilter call.reportType call.filters.fields then
      .error ⟨.valueError, "unsupported report filters"⟩
    else if otherParticipant inn call.filters.fields then
      .error ⟨.reportError, "participant filter does not match report scope"⟩
    else if call.sensitivityMode.any (· ≠ definition.sensitivity) then
      .error ⟨.reportError, "caller cannot change report sensitivity mode"⟩
    else
      match scope with
      | some tenant =>
        if tenant.participantInn ≠ inn then
          .error ⟨.reportError, "report participant must match active tenant scope"⟩
        else .ok request
      | none =>
        if bootstrapped then
          .error ⟨.reportError, "post-bootstrap report jobs require tenant scope"⟩
        else .ok request

/-- What an artifact was made of. -/
structure ReuseKey where
  requestFingerprint : String
  snapshotHash : String
  schemaVersion : String
  format : String
  deriving DecidableEq

/-- `artifact_reuse_allowed`. -/
def artifactReuseAllowed (old new : ReuseKey) (ready expiredOrDeleted : Bool) : Bool :=
  ready && !expiredOrDeleted && old.requestFingerprint = new.requestFingerprint &&
    old.snapshotHash = new.snapshotHash && old.schemaVersion = new.schemaVersion &&
    old.format = new.format

/-- What a request that is accepted stores. -/
structure ReportRequest.Stores (request : ReportRequest) (inn : String) (call : LocalReportCall) :
    Prop where
  known : unknownFilter call.reportType call.filters.fields = false
  own : otherParticipant inn call.filters.fields = false
  mode : call.sensitivityMode.getD (localReportCatalog call.reportType).sensitivity =
    (localReportCatalog call.reportType).sensitivity
  participantInn : request.participantInn = inn
  reportType : request.reportType = call.reportType.value
  filtersSanitized : request.filtersSanitized = call.filters.sanitized
  fingerprint : request.requestFingerprintSha256 = requestFingerprint inn call

theorem localRequest_spec {inn : String} {scope : Option TenantScope} {bootstrapped : Bool}
    {call : LocalReportCall} {request : ReportRequest}
    (h : localRequest inn scope bootstrapped call = .ok request) : request.Stores inn call := by
  have hstores : ∀ request' : ReportRequest, request'.participantInn = inn →
      request'.reportType = call.reportType.value →
      request'.filtersSanitized = call.filters.sanitized →
      request'.requestFingerprintSha256 = requestFingerprint inn call →
      ¬unknownFilter call.reportType call.filters.fields = true →
      ¬otherParticipant inn call.filters.fields = true →
      ¬call.sensitivityMode.any (· ≠ (localReportCatalog call.reportType).sensitivity) = true →
      request'.Stores inn call := by
    intro request' hinn htype hfilters hfingerprint hunknown hother hmode
    refine ⟨Bool.eq_false_iff.mpr hunknown, Bool.eq_false_iff.mpr hother, ?_, hinn, htype,
      hfilters, hfingerprint⟩
    cases hsensitivity : call.sensitivityMode with
    | none => rfl
    | some mode => simpa [hsensitivity] using hmode
  unfold localRequest at h
  dsimp only at h
  split at h
  · cases h
  · cases scope with
    | none =>
      split_ifs at h with hformat hunknown hother hmode
      cases h
      exact hstores _ rfl rfl rfl rfl hunknown hother hmode
    | some tenant =>
      dsimp only at h
      split_ifs at h with hformat hunknown hother hmode
      cases h
      exact hstores _ rfl rfl rfl rfl hunknown hother hmode

/-! ## Generation -/

/-- `LocalReportType(value)`. -/
def localReportType? (value : String) : Option LocalReportType :=
  [.cisInventoryStoredSnapshot, .productReferenceReadiness, .documentLifecycle,
    .turnoverOperations, .aggregationOperations, .edoFoundationStatus, .suzFoundationStatus,
    .wbReconciliationEvidence, .ozonFoundationStatus, .manualReviewAndConflicts,
    .endToEndReconciliation, .p0ImportControlQuality].find? fun reportType =>
      LocalReportType.value reportType = value

/-- The fields of an object; none of another value. -/
def fieldsOf : Json → List (String × Json)
  | .obj fields => fields
  | _ => []

section Generation

variable (sameNumber : Json → Json → Bool) (containerText : Json → String)

/-- The rows that filters select from a source. -/
def selectRows (filters : List (String × Json)) (source : List SourceRow) :
    List (List (String × Json)) :=
  (source.filter (SourceRow.satisfies sameNumber filters)).map SourceRow.row

/-- `LocalReportSourceRegistry.rows`. -/
def registryRows (db : ReportDatabase) (inn : String) (reportType : LocalReportType)
    (filters : List (String × Json)) : Except PyError (List (List (String × Json))) :=
  match (localReportCatalog reportType).disabledReason with
  | some reason => .error ⟨.reportError, reason⟩
  | none =>
    if unknownFilter reportType filters then .error ⟨.reportError, "unsupported report filters"⟩
    else if otherParticipant inn filters then
      .error ⟨.reportError, "participant filter does not match report scope"⟩
    else .ok (selectRows sameNumber (filters.filter fun field => field.1 ≠ "participant_inn")
      (sourceRows containerText db inn reportType))

/-- `{column: row.get(column) for column in columns}`. -/
def renderRow (columns : List String) (row : List (String × Json)) : List (String × Json) :=
  columns.map fun column => (column, (Json.obj row).get column)

/-- The rows of the report that `execute_claimed` makes: a snapshot is taken and rendered. -/
def generatedRows (db : ReportDatabase) (inn : String) (maxRows : ℕ)
    (claimed : ClaimedReportJob) : Except PyError (List (List (String × Json))) := do
  if claimed.participantInn ≠ inn then
    .error ⟨.other "PermissionError", "participant isolation mismatch"⟩
  else
    checkClaimed claimed
    match localReportType? claimed.reportType with
    | none => .error ⟨.valueError, ""⟩
    | some reportType =>
      let rows ← registryRows sameNumber containerText db inn reportType
        (fieldsOf claimed.filtersSanitized)
      if rows.length > maxRows then .error ⟨.reportError, "snapshot row ceiling exceeded"⟩
      else if claimed.outputFormat = "ZIP" then
        .error ⟨.reportError, "ZIP requires render_zip_manifest over an existing artifact"⟩
      else .ok (rows.map (renderRow (localReportCatalog reportType).columns))

/-- The column that a filter is about. -/
def filterColumn : LocalReportType → String → String
  | .cisInventoryStoredSnapshot, "state" => "raw_state"
  | .documentLifecycle, "state" | .wbReconciliationEvidence, "state" => "local_project_state"
  | .turnoverOperations, "state" | .aggregationOperations, "state" => "reconciliation_state"
  | .endToEndReconciliation, "result" => "final_reconciliation_result"
  | _, name => name

/-- The row satisfies every filter: null asks for nothing. -/
def rowSatisfies (reportType : LocalReportType) (filters row : List (String × Json)) : Bool :=
  filters.all fun filter =>
    filter.2.isNull || equal sameNumber filter.2 ((Json.obj row).get (filterColumn reportType filter.1))

/-- The rows of a source that satisfy the filters. -/
def satisfyingRows (db : ReportDatabase) (inn : String) (reportType : LocalReportType)
    (filters : List (String × Json)) : List (List (String × Json)) :=
  ((sourceRows containerText db inn reportType).map SourceRow.row).filter
    (rowSatisfies sameNumber reportType filters)

/-- The rows that a request asks for. -/
def requestedRows (db : ReportDatabase) (inn : String) (call : LocalReportCall) :
    List (List (String × Json)) :=
  satisfyingRows sameNumber containerText db inn call.reportType call.filters.fields

end Generation

/-! ## What a worker works on -/

section Runs

variable {config : WorkerConfig} {w w' : World}

/-- A claim is for what was asked for. -/
structure ClaimedReportJob.Asks (claimed : ClaimedReportJob) (request : ReportRequest) : Prop where
  participantInn : claimed.participantInn = request.participantInn
  reportType : claimed.reportType = request.reportType
  outputFormat : claimed.outputFormat = request.outputFormat
  filtersSanitized : claimed.filtersSanitized = request.filtersSanitized

/-- Every claim is for what was asked for. -/
def HeldAsked (w : World) : Prop :=
  ∀ claimed ∈ w.held, ∃ row, w.store.jobs.find? claimed.jobId = some row ∧
    claimed.Asks row.asked

theorem HeldAsked.step {a : Action} (hw : HeldAsked w) (h : step config w a = .ok w') :
    HeldAsked w' := by
  intro claimed hclaimed
  rcases held_step h hclaimed with hheld | ⟨worker, locked, row, row', rfl, hsel, hasked, hrow', rfl⟩
  · obtain ⟨row, hrow, hasks⟩ := hw claimed hheld
    obtain ⟨row', hrow', hasked⟩ := step_asked h hrow
    exact ⟨row', hrow', hasked ▸ hasks⟩
  · exact ⟨row', hrow', hasked ▸ ⟨rfl, rfl, rfl, rfl⟩⟩

/-- The steps of a run. -/
abbrev Steps (config : WorkerConfig) (w : World) (a : Action) (w' : World) : Prop :=
  Reports.step config w a = .ok w'

/-- What was asked for stays. -/
theorem asked_of_run {as : List Action} (run : Transition.Run (Steps config) w as w') {id : String}
    {row : ReportJobRecord} (hrow : w.store.jobs.find? id = some row) :
    ∃ row', w'.store.jobs.find? id = some row' ∧ row'.asked = row.asked := by
  refine run.invariant
    (fun v => ∃ row', v.store.jobs.find? id = some row' ∧ row'.asked = row.asked) ⟨row, hrow, rfl⟩ ?_
  rintro a v v' ⟨row', hrow', hasked⟩ hstep
  obtain ⟨row'', hrow'', hasked'⟩ := step_asked hstep hrow'
  exact ⟨row'', hrow'', hasked'.trans hasked⟩

/-- A worker works on what was asked for, however many steps later. -/
theorem claimed_asks {now : ℤ} {before after : List Action} {w₁ w₂ : World} {id : String}
    {request : ReportRequest} (hbefore : Transition.Run (Steps config) (World.initial now) before w)
    (hrequest : w.request id request = .ok w₁)
    (hafter : Transition.Run (Steps config) w₁ after w₂) {claimed : ClaimedReportJob}
    (hclaimed : claimed ∈ w₂.held) (hid : claimed.jobId = id) :
    claimed.Asks (ReportJobRecord.create id request w.now).asked := by
  have hheld : HeldAsked w₂ := by
    have hstep : Steps config w (.request id request) w₁ := hrequest
    have hrun := (hbefore.snoc hstep).append hafter
    refine hrun.invariant HeldAsked ?_ fun a v v' hv hstep => hv.step hstep
    exact fun claimed hclaimed => absurd hclaimed List.not_mem_nil
  obtain ⟨row, hrow, hasks⟩ := hheld claimed hclaimed
  obtain ⟨-, -, -, created, -, hcreated, -, -, hfind⟩ := request_spec hrequest
  have hcreatedRow : w₁.store.jobs.find? id = some created := (hfind id).trans (if_pos rfl)
  obtain ⟨row', hrow', hasked⟩ := asked_of_run hafter hcreatedRow
  rw [hid, hrow', Option.some.injEq] at hrow
  rwa [← hrow, hasked, hcreated] at hasks

end Runs

end Wbcz.Reports
