import Wbcz.Printing.Invariant

/-!
# The spool boundary

An execution that has crossed the spool boundary keeps the moment, and no other execution of its
item crosses it. What is printed once more is an item of its own.
-/

namespace Wbcz.Printing

open Fallible (ensure found bind_eq_ok ensure_eq_ok found_eq_ok)
open Transition (Run)

/-- The execution has crossed the spool boundary. -/
def PrintExecution.Spooled (e : PrintExecution) : Prop := e.spoolSubmittingAt ≠ none

instance (e : PrintExecution) : Decidable e.Spooled := inferInstanceAs (Decidable (_ ≠ none))

section Executions

variable {platform : Platform} {kind : MoveKind} {s s' : PrintingState}
  {e e' e'' : PrintExecution}

theorem SameExecution.refl : SameExecution e e :=
  ⟨rfl, rfl, rfl, rfl, rfl, rfl, rfl, rfl, rfl, rfl, rfl, rfl, rfl⟩

theorem SameExecution.trans (h : SameExecution e e') (h' : SameExecution e' e'') :
    SameExecution e e'' where
  id := h'.id.trans h.id
  organisation := h'.organisation.trans h.organisation
  participant := h'.participant.trans h.participant
  job := h'.job.trans h.job
  item := h'.item.trans h.item
  stored := h'.stored.trans h.stored
  version := h'.version.trans h.version
  binding := h'.binding.trans h.binding
  attempt := h'.attempt.trans h.attempt
  payload := h'.payload.trans h.payload
  layout := h'.layout.trans h.layout
  profile := h'.profile.trans h.profile
  fingerprint := h'.fingerprint.trans h.fingerprint

/-- An execution stays, and where it has crossed the spool boundary it has crossed it for good. -/
theorem Move.execution (h : DeliveryInv s) (move : Move platform s kind s')
    (he : e ∈ s.executions) :
    ∃ e' ∈ s'.executions, SameExecution e e' ∧ (e.Spooled → e'.Spooled) := by
  rcases move.pairs h with ⟨f, g, hrewritten⟩ | ⟨-, hexecutions, -⟩
  · obtain ⟨r, -, -, step⟩ := hrewritten.execution h he
    exact ⟨f e, (hrewritten.executions _).mpr ⟨e, he, rfl⟩, step.sameExecution, step.spooled⟩
  · exact ⟨e, (Table.mem_insert hexecutions).mpr (.inl he), .refl, fun hspooled => hspooled⟩

theorem run_execution {labels : List PrintingLabel} (h : DeliveryInv s)
    (run : Run (PrintingStep platform) s labels s') (he : e ∈ s.executions) :
    ∃ e' ∈ s'.executions, SameExecution e e' ∧ (e.Spooled → e'.Spooled) := by
  have hrun := run_invariant run
    (fun t => DeliveryInv t ∧
      ∃ e' ∈ t.executions, SameExecution e e' ∧ (e.Spooled → e'.Spooled))
    ⟨h, e, he, .refl, fun hspooled => hspooled⟩ ?_ ?_
  · exact hrun.2
  · rintro t t' ⟨ht, e', he', hsame, hspooled⟩ around
    exact ⟨ht.surroundings around, e', around.executions ▸ he', hsame, hspooled⟩
  · rintro kind t t' ⟨ht, e', he', hsame, hspooled⟩ move
    obtain ⟨e'', he'', hsame', hspooled'⟩ := move.execution ht he'
    exact ⟨ht.move move, e'', he'', hsame.trans hsame', fun hs => hspooled' (hspooled hs)⟩

end Executions

/-! ## The items of a new job -/

section Items

variable {platform : Platform} {session : Session} {job : PrintJob} {s s' : PrintingState}

/-- What goes into the table of items: old rows stay, and a new row has a new id. -/
theorem insertItems_spec {stored : List StoredFullKmItem} {ordinal : ℕ}
    {table items : Table PrintJobItem.key}
    (h : insertItems platform session job table ordinal stored = .ok items) :
    (∀ row ∈ table, row ∈ items) ∧
      ∀ row ∈ items, row ∈ table ∨ (∀ old ∈ table, old.id ≠ row.id) ∧
        ∃ n code, code ∈ stored ∧ row = newItem platform session job n code := by
  induction stored generalizing table ordinal with
  | nil =>
    cases h
    exact ⟨fun _ hrow => hrow, fun _ hrow => .inl hrow⟩
  | cons code stored ih =>
    obtain ⟨table', hinsert, h⟩ := bind_eq_ok.mp h
    rw [found_eq_ok] at hinsert
    have hfree := Table.find?_eq_none_iff.mp (Table.insert_eq_some hinsert).1
    obtain ⟨hold, hnew⟩ := ih h
    refine ⟨fun row hrow => hold row ((Table.mem_insert hinsert).mpr (.inl hrow)), ?_⟩
    intro row hrow
    rcases hnew row hrow with hrow | ⟨hne, n, code', hcode', hrow⟩
    · rcases (Table.mem_insert hinsert).mp hrow with hrow | rfl
      · exact .inl hrow
      · exact .inr ⟨hfree, ordinal, code, List.mem_cons_self, rfl⟩
    · refine .inr ⟨fun old hmem => ?_, n, code', List.mem_cons_of_mem _ hcode', hrow⟩
      exact hne old ((Table.mem_insert hinsert).mpr (.inl hmem))

/-- A job is made for one code at least. -/
theorem exists_cons_of_contents {request : JobRequest} {version : TemplateVersion}
    {stored : List StoredFullKmItem}
    (h : jobContents platform session s request = .ok (version, stored)) :
    ∃ code rest, stored = code :: rest := by
  obtain ⟨-, -, h⟩ := bind_eq_ok.mp h
  obtain ⟨_, hcount, h⟩ := bind_eq_ok.mp h
  obtain ⟨version, -, h⟩ := bind_eq_ok.mp h
  obtain ⟨template, -, h⟩ := bind_eq_ok.mp h
  obtain ⟨items, hitems, h⟩ := bind_eq_ok.mp h
  cases h
  rw [ensure_eq_ok] at hcount
  cases hids : request.storedItemIds with
  | nil =>
    rw [hids] at hcount
    exact absurd hcount.1 (by decide)
  | cons id ids =>
    rw [hids, List.mapM_cons] at hitems
    obtain ⟨code, -, hitems⟩ := bind_eq_ok.mp hitems
    obtain ⟨rest, -, hitems⟩ := bind_eq_ok.mp hitems
    cases hitems
    exact ⟨code, rest, rfl⟩

/-- The first item of a new job is there. -/
theorem insertItems_cons {code : StoredFullKmItem} {stored : List StoredFullKmItem} {ordinal : ℕ}
    {table items : Table PrintJobItem.key}
    (h : insertItems platform session job table ordinal (code :: stored) = .ok items) :
    newItem platform session job ordinal code ∈ items ∧
      ∀ old ∈ table, old.id ≠ (newItem platform session job ordinal code).id := by
  obtain ⟨table', hinsert, h⟩ := bind_eq_ok.mp h
  rw [found_eq_ok] at hinsert
  refine ⟨(insertItems_spec h).1 _ ((Table.mem_insert hinsert).mpr (.inr rfl)), ?_⟩
  exact Table.find?_eq_none_iff.mp (Table.insert_eq_some hinsert).1

/-- An explicit reprint leaves the executions alone and has an item of its own. -/
theorem reprint_item {executionId : String} {acknowledgeDuplicateRisk : Bool}
    (step : PrintingStep platform s
      (.call session (.explicitReprintUnknown executionId acknowledgeDuplicateRisk) true) s') :
    s'.executions = s.executions ∧ ∃ item ∈ s'.items, ∀ old ∈ s.items, old.id ≠ item.id := by
  cases step with
  | accepted hrun =>
    obtain ⟨job, s₁, hreprint, hpure⟩ := Tx.bind_eq_ok hrun
    cases hpure
    obtain ⟨⟨_, herror⟩, -⟩ | ⟨job, hmove⟩ :=
      (explicitReprintUnknown_ends executionId acknowledgeDuplicateRisk).of_run hreprint
    · cases herror
    · cases hmove with
      | insertJob hcontents _ _ hitems =>
        obtain ⟨code, rest, rfl⟩ := exists_cons_of_contents hcontents
        obtain ⟨hmem, hnew⟩ := insertItems_cons hitems
        exact ⟨rfl, _, hmem, hnew⟩

/-- An item crosses the spool boundary with one execution at most, at any two moments of a run,
and an explicit reprint has an item of its own. -/
theorem spool_boundary_once {labels labels' : List PrintingLabel}
    (run : Run (PrintingStep platform) .initial labels s)
    (later : Run (PrintingStep platform) s labels' s') :
    (∀ e ∈ s.executions, ∀ e' ∈ s'.executions, e.printJobItemId = e'.printJobItemId →
      e.Spooled → e'.Spooled → e'.id = e.id) ∧
    ∀ session executionId acknowledgeDuplicateRisk s'', PrintingStep platform s'
      (.call session (.explicitReprintUnknown executionId acknowledgeDuplicateRisk) true) s'' →
      s''.executions = s'.executions ∧
        ∃ item ∈ s''.items, ∀ old ∈ s'.items, old.id ≠ item.id := by
  refine ⟨?_, fun _ _ _ _ => reprint_item⟩
  intro e he e' he' hitem hspooled hspooled'
  have h := run_deliveryInv run
  have h' := run_deliveryInv (run.append later)
  -- the execution that crossed first is still there when the other one has crossed
  obtain ⟨e₁, he₁, hsame, hkept⟩ := run_execution h later he
  have heq : e' = e₁ := by
    refine h'.exclusive e' he' e₁ he₁ ?_ (.inr hspooled') (.inr (hkept hspooled))
    rw [← hitem, hsame.item]
  rw [heq, hsame.id]

end Items

/-! ## A run -/

/-- The calls of a list, one after another; what a refused call wrote is kept. -/
def after (platform : Platform) (s : PrintingState) :
    List (Session × PrintingAction) → PrintingState
  | [] => s
  | (session, action) :: calls => after platform (action.run platform session s).2 calls

/-- What the calls of a list were answered. -/
def labelsOf (platform : Platform) (s : PrintingState) :
    List (Session × PrintingAction) → List PrintingLabel
  | [] => []
  | (session, action) :: calls =>
    .call session action (action.run platform session s).1.isOk ::
      labelsOf platform (action.run platform session s).2 calls

/-- A call and what it leaves are a step. -/
theorem PrintingStep.of_run (platform : Platform) (session : Session) (action : PrintingAction)
    (s : PrintingState) :
    PrintingStep platform s (.call session action (action.run platform session s).1.isOk)
      (action.run platform session s).2 := by
  rcases hrun : action.run platform session s with ⟨r, s'⟩
  cases r with
  | ok => exact .accepted hrun
  | error e => exact .refused hrun (.inr rfl)

/-- Calls one after another are a run. -/
theorem run_after (platform : Platform) (s : PrintingState)
    (calls : List (Session × PrintingAction)) :
    Run (PrintingStep platform) s (labelsOf platform s calls) (after platform s calls) := by
  induction calls generalizing s with
  | nil => exact .nil
  | cons call calls ih =>
    obtain ⟨session, action⟩ := call
    exact (Run.single (.of_run platform session action s)).append (ih _)

/-- Calls that meet a condition in every state are a run whose steps meet it. -/
theorem run_calls {platform : Platform} {C : PrintingState → PrintingLabel → Prop}
    {s : PrintingState} {calls : List (Session × PrintingAction)}
    (h : ∀ call ∈ calls, ∀ t accepted, C t (.call call.1 call.2 accepted)) :
    Run (fun s label s' => PrintingStep platform s label s' ∧ C s label) s
      (labelsOf platform s calls) (after platform s calls) := by
  induction calls generalizing s with
  | nil => exact .nil
  | cons call calls ih =>
    have hcall := h call List.mem_cons_self s
    refine (Run.single ⟨.of_run platform call.1 call.2 s, hcall _⟩).append (ih ?_)
    exact fun call' hmem => h call' (List.mem_cons_of_mem _ hmem)

/-- All calls of a list meet a condition. -/
def within (platform : Platform) (C : PrintingState → PrintingLabel → Prop)
    [∀ s label, Decidable (C s label)] (s : PrintingState) :
    List (Session × PrintingAction) → Bool
  | [] => true
  | (session, action) :: calls =>
    decide (C s (.call session action (action.run platform session s).1.isOk)) &&
      within platform C (action.run platform session s).2 calls

/-- Calls that meet a condition are a run whose steps meet it. -/
theorem run_within {platform : Platform} {C : PrintingState → PrintingLabel → Prop}
    [∀ s label, Decidable (C s label)] {s : PrintingState}
    {calls : List (Session × PrintingAction)} (h : within platform C s calls = true) :
    Run (fun s label s' => PrintingStep platform s label s' ∧ C s label) s
      (labelsOf platform s calls) (after platform s calls) := by
  induction calls generalizing s with
  | nil => exact .nil
  | cons call calls ih =>
    obtain ⟨session, action⟩ := call
    rw [within, Bool.and_eq_true, decide_eq_true_eq] at h
    exact (Run.single ⟨.of_run platform session action s, h.1⟩).append (ih h.2)

/-- A hash. -/
def sampleSha256 (bytes : List UInt8) : String :=
  digits (bytes.foldl (fun hash byte => 257 * hash + byte.toNat) 0 % 1000003)

def samplePlatform : Platform where
  config := {}
  sha256 := sampleSha256
  publicKeyFingerprint key := .ok (sampleSha256 key)
  decryptAndVerify _ := .ok [1, 2, 3]
  contextSha256 _ := .ok "context"
  encrypt _ plaintext _ := .ok plaintext
  canonicalLayoutSha256 _ _ _ := .ok "layout"
  evaluateTemplateCompatibility _ _ := .ok "COMPATIBLE"

/-- A request at a moment, with a name for what it makes. -/
def sampleSession (now : ℤ) (name : String) : Session where
  scope := ⟨some 1, "org", "participant", "7700000000"⟩
  now
  uuid n := name ++ digits n
  token := name ++ "0123456789012345678901234567890123456789012"
  audit _ := .ok ()

/-- The tables around the services: an agent with its printer, a stored code, a template. -/
def sampleTables : PrintingState :=
  { PrintingState.initial with
    bindings := ⟨[{ id := "binding", organisationId := "org", participantId := "participant"
                    lastSeenAt := some 0
                    supportedCapabilities := physicalCapability :: requiredCapabilities
                    agentVersion := some "2" }], by simp⟩
    stored := ⟨[{ id := "code", organisationId := "org", participantId := "participant"
                  vaultEntryId := 1, fullKmSha256 := sampleSha256 [1, 2, 3] }], by simp⟩
    templates := ⟨[{ id := "template", organisationId := "org", participantId := none }], by simp⟩
    versions := ⟨[{ id := "version", templateId := "template", organisationId := "org"
                    participantId := none, layoutJson := .null, labelWidthMm := 58
                    labelHeightMm := 40, layoutSha256 := "layout" }], by simp⟩
    profiles := ⟨[{ id := "profile", organisationId := "org", participantId := "participant"
                    agentBindingId := "binding", agentPrinterId := "printer"
                    localPrinterFingerprint := "fingerprint", dpiX := 203, dpiY := 203
                    mediaWidthMm := 58, mediaHeightMm := 40, physicalWidthPx := 463
                    physicalHeightPx := 320, printableWidthPx := 463, printableHeightPx := 320
                    offsetXPx := 0, offsetYPx := 0 }], by simp⟩
    vaults := ⟨[⟨1, 3, 12, 16⟩], by simp⟩ }

/-- The tables around the services come to be without them. -/
theorem sampleTables_around : Surroundings .initial sampleTables :=
  ⟨rfl, rfl, rfl, rfl, rfl, rfl, fun _ hrow => absurd hrow Table.not_mem_empty,
    fun _ hrow => absurd hrow Table.not_mem_empty⟩

theorem sampleTables_run :
    Run (PrintingStep samplePlatform) .initial [.surroundings] sampleTables :=
  .single (.surroundings sampleTables_around)

/-- A job for one label, and the first key of the agent. -/
def sampleKeyCalls : List (Session × PrintingAction) :=
  [(sampleSession 1 "job", .createPrintJob {
      storedItemIds := ["code"], templateVersionId := "version"
      printerProfileId := some "profile" }),
    (sampleSession 2 "intent", .createKeyIntent "binding" .firstRegistration 1),
    (sampleSession 3 "key", .registerPublicKey "binding" (sampleSession 2 "intent").token [9])]

def sampleEvidence : SpoolEvidence :=
  ⟨sampleSha256 [1, 2, 3], "layout", "profile", "fingerprint"⟩

/-- The label is authorised, delivered, rendered and given to the spooler. -/
def sampleCalls : List (Session × PrintingAction) :=
  sampleKeyCalls ++
    [(sampleSession 4 "execution", .authorizeDelivery "job0" "job1" none),
      (sampleSession 5 "", .issue "execution1" "binding"),
      (sampleSession 6 "", .acknowledge "execution1" "binding" (sampleSha256 [1, 2, 3]) "context"),
      (sampleSession 7 "", .markRendered "execution0" "binding" sampleEvidence rendererVersion
        "decoder"),
      (sampleSession 8 "", .beginSpool "execution0" "binding" sampleEvidence)]

/-- The label crosses the spool boundary, and stays across it when it is reported. -/
theorem spool_boundary_once_sample :
    (∃ e ∈ (after samplePlatform sampleTables sampleCalls).executions, e.Spooled) ∧
      ∀ e ∈ (after samplePlatform sampleTables sampleCalls).executions,
        ∀ e' ∈ (after samplePlatform (after samplePlatform sampleTables sampleCalls)
          [(sampleSession 9 "", .reportResult "execution0" "binding"
            { state := .unknownAfterSpool })]).executions,
        e.printJobItemId = e'.printJobItemId → e.Spooled → e'.Spooled → e'.id = e.id := by
  refine ⟨by decide +kernel, ?_⟩
  exact (spool_boundary_once (sampleTables_run.append (run_after _ _ sampleCalls))
    (run_after _ _ _)).1

end Wbcz.Printing
