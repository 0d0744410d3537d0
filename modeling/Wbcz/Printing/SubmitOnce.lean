import Wbcz.Printing.PrintRuntime

/-!
# A label is submitted once

Any number of runtimes work over one table of an agent and one server, are started for the same
execution again and again, and are lost at any moment. The server does whatever else it does.
The leave to spool is given once for an execution, and a runtime submits a label once for each
leave that it was given.

A runtime learns of the leave from the server alone: the call returns when the server gave it,
and raises otherwise, also where the leave was given and the answer was lost.
-/

namespace Wbcz.Printing

open Transition (Run)
open Program (Quiet Spends quiet_mk)

/-! ## The system -/

/-- The tables of the server, and the table of the agent. -/
structure SharedState where
  server : PrintingState
  table : ReplayTable

/-- A call raises. -/
def RuntimeCall.raise (failure : PrintFailure) : (call : RuntimeCall) → RuntimeAnswer call
  | .getReplay _ => .error failure
  | .record _ => .error failure
  | .resolve _ _ => .error failure
  | .render _ _ => .error failure
  | .markRendered _ _ _ _ => .error failure
  | .beginSpool _ _ => .error failure
  | .submit _ _ _ => .returned (.error failure)
  | .resume _ => .error failure
  | .reportResult _ _ => .error failure

/-- What a call is answered, and what it does to the shared state. Every call may raise, also
where it did what it was to do: then that was a change of the surroundings, or of the table. -/
inductive Answers (platform : Platform) (state : SharedState) :
    (call : RuntimeCall) → RuntimeAnswer call → SharedState → Prop
  | found {executionId} :
      Answers platform state (.getReplay executionId) (.ok (state.table.find? executionId)) state
  | recorded {entry now table} : state.table.record entry now = .ok table →
      Answers platform state (.record entry) (.ok ()) { state with table }
  | notRecorded {entry now failure} : state.table.record entry now = .error failure →
      Answers platform state (.record entry) (.error failure) state
  | recordedAndRaised {entry now table failure} : state.table.record entry now = .ok table →
      Answers platform state (.record entry) (.error failure) { state with table }
  | resolved {agentPrinterId fingerprint printer} :
      Answers platform state (.resolve agentPrinterId fingerprint) (.ok printer) state
  | rendered {fullKm contract raster} :
      Answers platform state (.render fullKm contract) (.ok raster) state
  | markedRendered {executionId evidence renderer decoder session bindingId server} :
      PrintingStep platform state.server (.call session
        (.markRendered executionId bindingId evidence renderer decoder) true) server →
      Answers platform state (.markRendered executionId evidence renderer decoder) (.ok ())
        { state with server }
  | begun {executionId evidence session bindingId server} :
      PrintingStep platform state.server
        (.call session (.beginSpool executionId bindingId evidence) true) server →
      Answers platform state (.beginSpool executionId evidence) (.ok ()) { state with server }
  | submitted {executionId queueName raster answer} :
      Answers platform state (.submit executionId queueName raster) answer state
  | resumed {callback answer} : Answers platform state (.resume callback) answer state
  | reported {executionId result session bindingId server} :
      PrintingStep platform state.server
        (.call session (.reportResult executionId bindingId result) true) server →
      Answers platform state (.reportResult executionId result) (.ok ()) { state with server }
  | raised {call failure} : Answers platform state call (call.raise failure) state

/-- What the server does by itself, and for others. -/
def Around (platform : Platform) (state state' : SharedState) : Prop :=
  state'.table = state.table ∧ ∃ label, PrintingStep platform state.server label state'.server

/-- A runtime is started for a job. -/
def Starts (sha256 : List UInt8 → String)
    (program : Program RuntimeCall RuntimeAnswer (Except PrintFailure RuntimeResult)) : Prop :=
  ∃ control contract fullKm, program = (execute sha256 control contract fullKm).run

/-- The runtimes, their table and their server. -/
abbrev RuntimeStep (platform : Platform) :=
  SystemStep (Around platform) (Answers platform) (Starts platform.sha256)

/-- A leave to spool an execution is a permit, a submission of its label uses it up. -/
def gate (executionId : String) : Permits RuntimeCall RuntimeAnswer where
  grants call answer :=
    match call, answer with
    | .beginSpool id _, .ok () => decide (id = executionId)
    | _, _ => false
  uses call :=
    match call with
    | .submit id _ _ => decide (id = executionId)
    | _ => false

/-- The step submits the label of the execution. -/
def submits (executionId : String) : SystemLabel RuntimeCall RuntimeAnswer → Bool :=
  SystemLabel.uses (gate executionId)

/-- In the step a runtime learns that it has leave to spool the execution. -/
def acknowledges (executionId : String) : SystemLabel RuntimeCall RuntimeAnswer → Bool :=
  SystemLabel.grants (gate executionId)

/-! ## A runtime -/

section Program

variable {x : String} {control : PhysicalExecutionControl} {contract : PhysicalRenderContract}
  {fullKm : List UInt8} {sha256 : List UInt8 → String}

theorem quiet_require (c : Prop) [Decidable c] (failure : PrintFailure) :
    Quiet (gate x) (PhysicalRuntime.require c failure) := by
  unfold PhysicalRuntime.require
  by_cases hc : c
  · rw [if_pos hc]
    exact quiet_mk (.ok ())
  · rw [if_neg hc]
    exact quiet_mk (.error failure)

/-- A value in a program. -/
theorem quiet_pure {α : Type} (a : α) : Quiet (gate x) (pure a : PhysicalRuntime α) :=
  quiet_mk (.ok a)

theorem quiet_fail {α : Type} (failure : PrintFailure) :
    Quiet (gate x) (PhysicalRuntime.fail failure : PhysicalRuntime α) :=
  quiet_mk (.error failure)

/-! ### The calls that are no submissions and ask for no leave -/

theorem quiet_getReplay (executionId : String) :
    Quiet (gate x) (PhysicalRuntime.getReplay executionId) :=
  fun _ => Program.within_perform rfl (fun _ => rfl) fun _ => rfl

theorem quiet_record (entry : ReplayEntry) : Quiet (gate x) (PhysicalRuntime.record entry) :=
  fun _ => Program.within_perform rfl (fun _ => rfl) fun _ => rfl

theorem quiet_resolve (agentPrinterId fingerprint : String) :
    Quiet (gate x) (PhysicalRuntime.resolve agentPrinterId fingerprint) :=
  fun _ => Program.within_perform rfl (fun _ => rfl) fun _ => rfl

theorem quiet_render (fullKm : List UInt8) (contract : PhysicalRenderContract) :
    Quiet (gate x) (PhysicalRuntime.render fullKm contract) :=
  fun _ => Program.within_perform rfl (fun _ => rfl) fun _ => rfl

theorem quiet_markRendered (executionId : String) (evidence : SpoolEvidence)
    (renderer decoder : String) :
    Quiet (gate x) (PhysicalRuntime.markRendered executionId evidence renderer decoder) :=
  fun _ => Program.within_perform rfl (fun _ => rfl) fun _ => rfl

theorem quiet_resume (callback : Except PrintFailure Unit) :
    Quiet (gate x) (PhysicalRuntime.resume callback) :=
  fun _ => Program.within_perform rfl (fun _ => rfl) fun _ => rfl

theorem quiet_reportResult (executionId : String) (result : PhysicalResult) :
    Quiet (gate x) (PhysicalRuntime.reportResult executionId result) :=
  fun _ => Program.within_perform rfl (fun _ => rfl) fun _ => rfl

/-! ### The parts of the runtime -/

theorem quiet_validate : Quiet (gate x) control.validate := by
  apply (quiet_require _ _).bind
  intro _
  apply (quiet_require _ _).bind
  intro _
  apply (quiet_require _ _).bind
  intro _
  apply (quiet_require _ _).bind
  intro _
  apply (quiet_require _ _).bind
  intro _
  apply (quiet_require _ _).bind
  intro _
  apply (quiet_require _ _).bind
  intro _
  exact quiet_require _ _

theorem quiet_checkContract : Quiet (gate x) (checkContract sha256 control contract fullKm) := by
  apply (quiet_require _ _).bind
  intro _
  apply (quiet_require _ _).bind
  intro _
  apply (quiet_require _ _).bind
  intro _
  apply (quiet_require _ _).bind
  intro _
  apply (quiet_require _ _).bind
  intro _
  exact quiet_require _ _

theorem quiet_resolveChecked (failure : PrintFailure) :
    Quiet (gate x) (resolveChecked control contract failure) := by
  apply (quiet_resolve _ _).bind
  intro resolved
  apply (quiet_require _ _).bind
  intro _
  exact quiet_pure resolved

theorem quiet_renderVerified : Quiet (gate x) (renderVerified control contract fullKm) := by
  apply (quiet_resolveChecked _).bind
  intro _
  apply (quiet_render _ _).bind
  rintro ⟨raster, decoderVersion⟩
  apply (quiet_require _ _).bind
  intro _
  apply (quiet_require _ _).bind
  intro _
  apply (quiet_record _).bind
  intro _
  apply (quiet_markRendered _ _ _ _).bind
  intro _
  exact quiet_pure _

theorem quiet_crossSpoolBoundary : Quiet (gate x) (crossSpoolBoundary control) := by
  apply (quiet_getReplay _).bind
  intro existing
  cases existing with
  | none => exact (quiet_fail _).bind fun _ => quiet_record _
  | some row => exact (quiet_require _ _).bind fun _ => quiet_record _

theorem quiet_onJobCreated (jobId : ℤ) : Quiet (gate x) (onJobCreated control jobId) := by
  apply (quiet_record _).bind
  intro _
  exact quiet_reportResult _ _

theorem quiet_concludeFailed (code : String) : Quiet (gate x) (concludeFailed control code) := by
  apply (quiet_record _).bind
  intro _
  apply (quiet_reportResult _ _).bind
  intro _
  exact quiet_pure _

theorem quiet_concludeUnknown (code : String) (jobId : Option ℤ) :
    Quiet (gate x) (concludeUnknown control code jobId) := by
  have hrest : Quiet (gate x) (do
      PhysicalRuntime.record (control.entry .unknownAfterSpool jobId (some "UNKNOWN") (some code))
      PhysicalRuntime.reportResult control.executionId
        { state := .unknownAfterSpool, windowsSpoolJobId := jobId,
          lastWindowsStatus := some "UNKNOWN", safeErrorCode := some code }
      pure { state := "UNKNOWN_AFTER_SPOOL", windowsSpoolJobId := jobId,
             safeErrorCode := some code } : PhysicalRuntime RuntimeResult) := by
    apply (quiet_record _).bind
    intro _
    apply (quiet_reportResult _ _).bind
    intro _
    exact quiet_pure _
  cases jobId with
  | none => exact hrest
  | some id => exact (quiet_record _).bind fun _ => hrest

theorem quiet_concludeAccepted (outcome : GdiSpoolOutcome) :
    Quiet (gate x) (concludeAccepted control outcome) := by
  apply (quiet_record _).bind
  intro _
  apply (quiet_record _).bind
  intro _
  apply (quiet_reportResult _ _).bind
  intro _
  exact quiet_pure _

theorem quiet_recordFailure (failure : PrintFailure) :
    Quiet (gate x) (recordFailure control failure) := by
  apply (quiet_getReplay _).bind
  intro existing
  apply (quiet_require _ _).bind
  intro _
  apply (quiet_record _).bind
  intro _
  apply (quiet_reportResult _ _).bind
  intro _
  exact quiet_pure _

/-! ### The submission -/

/-- The permits for the label of an execution. -/
def leave (x executionId : String) : ℕ := (decide (executionId = x)).toNat

/-- A submission takes the leave for its execution. -/
theorem submit_spends (executionId queueName : String) (raster : PhysicalLabelRaster) :
    Spends (gate x) (leave x executionId)
      (PhysicalRuntime.submit executionId queueName raster) := by
  refine ⟨fun hused => ?_, fun _ => trivial⟩
  have hid : decide (executionId = x) = true := hused
  rw [leave, hid]
  exact Nat.one_pos

theorem submitRaster_spends (raster : PhysicalLabelRaster) :
    Spends (gate x) (leave x control.executionId) (submitRaster control contract raster) := by
  apply (quiet_resolveChecked _).bind_spends
  intro resolved
  apply (submit_spends _ _ _).bind
  intro answer
  cases answer with
  | returned result => exact quiet_mk result
  | jobCreated jobId =>
    -- the callback runs as a program whose exception is a value
    have hcallback : Quiet (gate x)
        (ExceptT.lift (onJobCreated control jobId).run : PhysicalRuntime _) := by
      intro n
      apply Program.within_bind
      apply Program.within_mono (quiet_onJobCreated jobId n)
      rintro result m rfl
      exact Program.within_ret rfl
    exact hcallback.bind fun callback => quiet_resume callback

theorem spool_spends (raster : PhysicalLabelRaster) :
    Spends (gate x) (leave x control.executionId) (spool control contract raster) := by
  have hsubmit : Spends (gate x) (leave x control.executionId)
      ((do
        let outcome ← submitRaster control contract raster
        pure (Sum.inl outcome)) : PhysicalRuntime (GdiSpoolOutcome ⊕ RuntimeResult)) :=
    (submitRaster_spends raster).bind fun _ => quiet_pure _
  refine Spends.bind (hsubmit.catch fun failure => ?_) fun submitted => ?_
  · cases failure with
    | definitePreSpool code => exact (quiet_concludeFailed code).bind fun _ => quiet_pure _
    | ambiguousAfterSpool code jobId =>
      exact (quiet_concludeUnknown code jobId).bind fun _ => quiet_pure _
    | replayBlocked | security | contract | physical | unexpected => exact quiet_fail _
  · cases submitted with
    | inl outcome => exact quiet_concludeAccepted outcome
    | inr result => exact quiet_pure result

/-- The runtime spools with the leave that it asked for. -/
theorem executeInner_spends :
    Spends (gate x) 0 (executeInner sha256 control contract fullKm) := by
  apply quiet_validate.bind_spends
  intro _
  apply quiet_checkContract.bind_spends
  intro _
  apply quiet_renderVerified.bind_spends
  intro raster
  apply quiet_crossSpoolBoundary.bind_spends
  intro _
  -- the answer of the server is the leave
  apply Program.within_except
  refine ⟨fun hused => absurd hused Bool.false_ne_true, ?_⟩
  rintro (failure | ⟨⟩)
  · exact ⟨fun _ _ => trivial, fun _ hok => nomatch hok⟩
  · refine ⟨fun _ _ => trivial, fun _ _ => ?_⟩
    have hleave : (gate x).after 0 (.beginSpool control.executionId control.evidence) (.ok ()) =
        leave x control.executionId := Nat.zero_add _
    rw [hleave]
    exact spool_spends raster

/-- A runtime that starts without a leave submits what it was given leave for. -/
theorem execute_spends : Spends (gate x) 0 (execute sha256 control contract fullKm) := by
  apply quiet_validate.bind_spends
  intro _
  apply executeInner_spends.catch
  intro failure
  cases failure with
  | replayBlocked | unexpected => exact quiet_fail _
  | definitePreSpool | ambiguousAfterSpool | security | contract | physical =>
    exact quiet_recordFailure _

end Program

/-! ## The server -/

section Server

variable {platform : Platform} {state state' : SharedState} {s s' : PrintingState}
  {call : RuntimeCall} {answer : RuntimeAnswer call} {x : String}

/-- The execution has crossed the spool boundary. -/
def Crossed (s : PrintingState) (x : String) : Prop := ∃ e ∈ s.executions, e.id = x ∧ e.Spooled

/-- What has crossed stays across. -/
theorem PrintingStep.crossed {label : PrintingLabel} (h : DeliveryInv s)
    (step : PrintingStep platform s label s') (hcrossed : Crossed s x) : Crossed s' x := by
  obtain ⟨e, he, rfl, hspooled⟩ := hcrossed
  obtain ⟨e', he', hsame, hkept⟩ := run_execution h (.single step) he
  exact ⟨e', he', hsame.id, hkept hspooled⟩

/-- Leave to spool is given to an execution that has not crossed, and it has crossed then. -/
theorem beginSpool_crossed {session : Session} {bindingId : String} {evidence : SpoolEvidence}
    (h : DeliveryInv s)
    (step : PrintingStep platform s (.call session (.beginSpool x bindingId evidence) true) s') :
    ¬ Crossed s x ∧ Crossed s' x := by
  cases step with
  | accepted hrun =>
    obtain ⟨⟨_, herror⟩, -⟩ | ⟨execution, hmem, hid, hmove⟩ :=
      (beginSpool_ends x bindingId evidence).of_run hrun
    · cases herror
    · cases hmove with
      | @spool session' _ _ _ _ hspoolable =>
        obtain ⟨-, hstate, -⟩ := spoolable_spec hspoolable
        constructor
        · rintro ⟨e, he, hex, hspooled⟩
          have hsame : e = execution := Table.eq_of_key_eq he hmem (hex.trans hid.symm)
          rw [hsame] at hspooled
          -- an execution that waits for the spooler has no moment of crossing
          obtain ⟨r, hr, hreservation⟩ := h.reservation execution hmem
          apply hspooled
          apply (h.pair execution hmem r hr hreservation).unspooled
          rw [hstate]
          decide
        · have hmoved : submittingExecution session'.now execution ∈ s.executions.modify
              execution.id (submittingExecution session'.now) (key_submittingExecution _) :=
            Table.mem_modify_iff_exists.mpr ⟨execution, hmem, if_pos rfl⟩
          exact ⟨_, hmoved, hid, Option.some_ne_none _⟩

/-- A call is a step of the server, or leaves it alone. -/
theorem Answers.server (h : Answers platform state call answer state') :
    state'.server = state.server ∨
      ∃ label, PrintingStep platform state.server label state'.server := by
  cases h with
  | found | recorded | notRecorded | recordedAndRaised | resolved | rendered | submitted
  | resumed | raised => exact .inl rfl
  | markedRendered step | begun step | reported step => exact .inr ⟨_, step⟩

/-- A runtime learns of leave when it is given. -/
theorem Answers.crossed (hinv : DeliveryInv state.server)
    (h : Answers platform state call answer state')
    (hgrants : (gate x).grants call answer = true) :
    ¬ Crossed state.server x ∧ Crossed state'.server x := by
  cases h with
  | begun step =>
    have hid := of_decide_eq_true hgrants
    rw [← hid]
    exact beginSpool_crossed hinv step
  | @raised call failure =>
    cases call <;> exact absurd hgrants Bool.false_ne_true
  | found | recorded | notRecorded | recordedAndRaised | resolved | rendered | submitted
  | resumed | markedRendered | reported => exact absurd hgrants Bool.false_ne_true

/-- What holds of the server: an execution of which a runtime learned that it has leave to spool
has crossed, and no runtime learned it before. -/
structure LeaveInv (x : String) (labels : List (SystemLabel RuntimeCall RuntimeAnswer))
    (s : PrintingState) : Prop where
  tables : DeliveryInv s
  once : labels.countP (acknowledges x) ≤ 1
  crossed : 0 < labels.countP (acknowledges x) → Crossed s x

theorem leaveInv_initial : LeaveInv x [] .initial where
  tables := deliveryInv_initial
  once := Nat.zero_le 1
  crossed h := absurd h (Nat.lt_irrefl 0)

variable {labels : List (SystemLabel RuntimeCall RuntimeAnswer)}
  {label : SystemLabel RuntimeCall RuntimeAnswer}

/-- A step of the server of which no runtime learns. -/
theorem LeaveInv.quiet (h : LeaveInv x labels s) (hlabel : acknowledges x label = false)
    (step : s' = s ∨ ∃ label, PrintingStep platform s label s') :
    LeaveInv x (labels ++ [label]) s' := by
  have hcount : (labels ++ [label]).countP (acknowledges x) =
      labels.countP (acknowledges x) := by
    rw [countP_snoc, hlabel]
    rfl
  obtain rfl | ⟨_, step⟩ := step
  · exact ⟨h.tables, hcount ▸ h.once, hcount ▸ h.crossed⟩
  · refine ⟨step.deliveryInv h.tables, hcount ▸ h.once, fun hpos => ?_⟩
    rw [hcount] at hpos
    exact step.crossed h.tables (h.crossed hpos)

theorem LeaveInv.step {c c' : Configuration SharedState RuntimeCall RuntimeAnswer
      (Except PrintFailure RuntimeResult)} (h : LeaveInv x labels c.shared.server)
    (step : RuntimeStep platform c label c') :
    LeaveInv x (labels ++ [label]) c'.shared.server := by
  cases step with
  | surroundings haround => exact h.quiet rfl (.inr haround.2)
  | started | lost =>
    have hserver : ∀ s, s = s ∨ ∃ label, PrintingStep platform s label s := fun _ => .inl rfl
    exact h.quiet rfl (hserver _)
  | @called _ _ _ _ call answer _ hanswers =>
    by_cases hgrants : (gate x).grants call answer = true
    · obtain ⟨hbefore, hafter⟩ := hanswers.crossed h.tables hgrants
      have hnone : labels.countP (acknowledges x) = 0 := by
        by_contra hsome
        exact hbefore (h.crossed (Nat.pos_of_ne_zero hsome))
      refine ⟨?_, ?_, fun _ => hafter⟩
      · obtain heq | ⟨_, hserver⟩ := hanswers.server
        · rw [heq]
          exact h.tables
        · exact hserver.deliveryInv h.tables
      · rw [countP_snoc, hnone, Nat.zero_add]
        exact Bool.toNat_le _
    · exact h.quiet (eq_false_of_ne_true hgrants) hanswers.server

end Server

/-! ## Runs -/

/-- However the runtimes and the server work together, the label of an execution is submitted at
most once, and only where the server has given leave. -/
theorem submitted_once {platform : Platform}
    {c : Configuration SharedState RuntimeCall RuntimeAnswer (Except PrintFailure RuntimeResult)}
    {labels : List (SystemLabel RuntimeCall RuntimeAnswer)}
    (run : Run (RuntimeStep platform) ⟨⟨.initial, Table.empty⟩, []⟩ labels c)
    (executionId : String) :
    labels.countP (submits executionId) ≤ labels.countP (acknowledges executionId) ∧
      labels.countP (acknowledges executionId) ≤ 1 := by
  constructor
  · apply uses_le_grants _ run
    rintro program ⟨control, contract, fullKm, rfl⟩
    exact execute_spends
  · have hinv : LeaveInv executionId labels c.shared.server :=
      run.history (fun labels c => LeaveInv executionId labels c.shared.server)
        leaveInv_initial fun _ _ _ _ h step => h.step step
    exact hinv.once

/-! ## A run in which a label is submitted -/

/-- A hash of 64 digits. -/
def paddedSha256 (bytes : List UInt8) : String :=
  String.ofList ((List.replicate 64 '0' ++ (sampleSha256 bytes).toList).drop
    (sampleSha256 bytes).length)

/-- The hash of a layout, and of a printer. -/
def sampleHash : String := paddedSha256 []

def hashingPlatform : Platform :=
  { samplePlatform with
    sha256 := paddedSha256
    publicKeyFingerprint := fun key => .ok (paddedSha256 key)
    canonicalLayoutSha256 := fun _ _ _ => .ok sampleHash }

/-- The tables around the services, with hashes of 64 digits. -/
def hashedTables : PrintingState :=
  { sampleTables with
    stored := sampleTables.stored.rewrite
      (fun row => { row with fullKmSha256 := paddedSha256 [1, 2, 3] }) fun _ => rfl
    versions := sampleTables.versions.rewrite
      (fun row => { row with layoutSha256 := sampleHash }) fun _ => rfl
    profiles := sampleTables.profiles.rewrite
      (fun row => { row with localPrinterFingerprint := sampleHash }) fun _ => rfl }

/-- The label is authorised and delivered. -/
def deliveringCalls : List (Session × PrintingAction) :=
  sampleKeyCalls ++
    [(sampleSession 4 "execution", .authorizeDelivery "job0" "job1" none),
      (sampleSession 5 "", .issue "execution1" "binding"),
      (sampleSession 6 "", .acknowledge "execution1" "binding" (paddedSha256 [1, 2, 3]) "context")]

def sampleControl : PhysicalExecutionControl where
  contractVersion := "printing-agent-v2"
  operation := "PRINT_RENDER_AND_SPOOL"
  executionId := "execution0"
  printJobItemId := "job1"
  deliveryReservationId := "execution1"
  payloadSha256 := paddedSha256 [1, 2, 3]
  layoutSha256 := sampleHash
  templateVersionId := "version"
  printerProfileId := "profile"
  printerProfileFingerprint := sampleHash
  agentPrinterId := "printer"
  organisationId := "org"
  participantId := "participant"
  agentBindingId := "binding"
  printingContractVersion := "sellari-printing-contract-v1"
  layoutSchemaVersion := "printing-layout-v1"
  rendererVersion := Printing.rendererVersion
  copies := 1

def sampleContract : PhysicalRenderContract where
  executionId := "execution0"
  layout := .null
  labelWidthMm := .null
  labelHeightMm := .null
  dpiX := 203
  dpiY := 203
  physicalWidthPx := 463
  physicalHeightPx := 320
  printableWidthPx := 463
  printableHeightPx := 320
  offsetXPx := 0
  offsetYPx := 0
  printerProfileState := "ACTIVE"
  printerProfileFingerprint := sampleHash
  agentPrinterId := "printer"
  fieldValues := []

def sampleRaster : PhysicalLabelRaster where
  layoutSha256 := sampleHash
  dpi := 203
  width := 463
  height := 320
  pixels := []
  physicalOffsetXPx := 0
  physicalOffsetYPx := 0
  printableWidthPx := 463
  printableHeightPx := 320

/-- The table is written once. -/
def tableAnswer (state : SharedState) (entry : ReplayEntry) :
    Except PrintFailure Unit × SharedState :=
  match state.table.record entry 7 with
  | .ok table => (.ok (), { state with table })
  | .error failure => (.error failure, state)

/-- The server is called once. -/
def serverAnswer (state : SharedState) (action : PrintingAction) :
    Except PrintFailure Unit × SharedState :=
  match action.run hashingPlatform (sampleSession 7 "") state.server with
  | (.ok (), server) => (.ok (), { state with server })
  | (.error _, _) => (.error (.unexpected "HTTP"), state)

/-- The answers of a table, a server, a renderer and a spooler that work. -/
def answered (state : SharedState) : (call : RuntimeCall) → RuntimeAnswer call × SharedState
  | .getReplay executionId => (.ok (state.table.find? executionId), state)
  | .record entry => tableAnswer state entry
  | .resolve _ _ => (.ok ⟨"queue", 203, 203⟩, state)
  | .render _ _ => (.ok (sampleRaster, "decoder"), state)
  | .markRendered executionId evidence renderer decoder =>
    serverAnswer state (.markRendered executionId "binding" evidence renderer decoder)
  | .beginSpool executionId evidence =>
    serverAnswer state (.beginSpool executionId "binding" evidence)
  | .submit _ _ _ => (.returned (.ok ⟨1, "QUEUED"⟩), state)
  | .resume _ => (.ok ⟨1, "QUEUED"⟩, state)
  | .reportResult executionId result =>
    serverAnswer state (.reportResult executionId "binding" result)

theorem tableAnswer_answers (state : SharedState) (entry : ReplayEntry) :
    Answers hashingPlatform state (.record entry) (tableAnswer state entry).1
      (tableAnswer state entry).2 := by
  unfold tableAnswer
  cases hrecord : state.table.record entry 7 with
  | ok table => exact .recorded hrecord
  | error failure => exact .notRecorded hrecord

/-- An answer of the server is a step of the server, or an exception. -/
theorem serverAnswer_ends {state : SharedState} {action : PrintingAction}
    {P : Except PrintFailure Unit → SharedState → Prop}
    (hok : ∀ server, PrintingStep hashingPlatform state.server
      (.call (sampleSession 7 "") action true) server → P (.ok ()) { state with server })
    (herror : ∀ failure, P (.error failure) state) :
    P (serverAnswer state action).1 (serverAnswer state action).2 := by
  unfold serverAnswer
  rcases hrun : action.run hashingPlatform (sampleSession 7 "") state.server with
    ⟨⟨_⟩ | ⟨⟨⟩⟩, server⟩
  · exact herror _
  · exact hok server (.accepted hrun)

theorem answered_answers (state : SharedState) (call : RuntimeCall) :
    Answers hashingPlatform state call (answered state call).1 (answered state call).2 := by
  cases call with
  | getReplay => exact .found
  | record entry => exact tableAnswer_answers state entry
  | resolve => exact .resolved
  | render => exact .rendered
  | submit => exact .submitted
  | resume => exact .resumed
  | markRendered executionId evidence renderer decoder =>
    have hraised := @Answers.raised hashingPlatform state
      (.markRendered executionId evidence renderer decoder)
    exact serverAnswer_ends (P := Answers hashingPlatform state
      (.markRendered executionId evidence renderer decoder))
      (fun _ step => .markedRendered step) fun _ => hraised
  | beginSpool executionId evidence =>
    have hraised := @Answers.raised hashingPlatform state (.beginSpool executionId evidence)
    exact serverAnswer_ends (P := Answers hashingPlatform state
      (.beginSpool executionId evidence)) (fun _ step => .begun step) fun _ => hraised
  | reportResult executionId result =>
    have hraised := @Answers.raised hashingPlatform state (.reportResult executionId result)
    exact serverAnswer_ends (P := Answers hashingPlatform state
      (.reportResult executionId result)) (fun _ step => .reported step) fun _ => hraised

/-- What the server does meanwhile is no step of a runtime. -/
theorem run_around {platform : Platform} {s s' : PrintingState} {labels : List PrintingLabel}
    (run : Run (PrintingStep platform) s labels s') (table : ReplayTable)
    (programs : List (Program RuntimeCall RuntimeAnswer (Except PrintFailure RuntimeResult))) :
    Run (RuntimeStep platform) ⟨⟨s, table⟩, programs⟩ (labels.map fun _ => .surroundings)
      ⟨⟨s', table⟩, programs⟩ := by
  induction run with
  | nil => exact .nil
  | snoc _ hstep ih =>
    rw [List.map_append]
    exact ih.append (.single (.surroundings ⟨rfl, _, hstep⟩))

theorem hashedTables_around : Surroundings .initial hashedTables :=
  ⟨rfl, rfl, rfl, rfl, rfl, rfl, fun _ hrow => absurd hrow Table.not_mem_empty,
    fun _ hrow => absurd hrow Table.not_mem_empty⟩

/-- The server has delivered the label, and no runtime is there. -/
def deliveredState : SharedState :=
  ⟨after hashingPlatform hashedTables deliveringCalls, Table.empty⟩

def sampleProgram : Program RuntimeCall RuntimeAnswer (Except PrintFailure RuntimeResult) :=
  (execute paddedSha256 sampleControl sampleContract [1, 2, 3]).run

/-- A runtime is given the leave for a label, and submits it. -/
theorem submitted_once_sample :
    ∃ labels c, Run (RuntimeStep hashingPlatform) ⟨⟨.initial, Table.empty⟩, []⟩ labels c ∧
      labels.countP (submits "execution0") = 1 ∧
      labels.countP (submits "execution0") ≤ labels.countP (acknowledges "execution0") ∧
      labels.countP (acknowledges "execution0") ≤ 1 := by
  have hserver := (Run.single (@PrintingStep.surroundings hashingPlatform _ _
    hashedTables_around)).append (run_after _ _ deliveringCalls)
  have hstarted : SystemStep (Around hashingPlatform) (Answers hashingPlatform)
      (Starts hashingPlatform.sha256) ⟨deliveredState, []⟩ .started
      ⟨deliveredState, [sampleProgram]⟩ := .started ⟨_, _, _, rfl⟩
  have run := ((run_around hserver Table.empty []).append (.single hstarted)).append
    (Program.run_driven answered_answers 12 deliveredState sampleProgram [])
  refine ⟨_, _, run, ?_, submitted_once run "execution0"⟩
  rw [List.countP_append, List.countP_append]
  decide +kernel

end Wbcz.Printing
