import Wbcz.Control.Engine
import Wbcz.Lib.Fallible
import Wbcz.Lib.Table

/-!
# The event store of the desktop

`EventStore`: the events of the imported workbooks, the checks of their codes, and for every event
the preview, which is its newest check unless an import has deleted it since. A write is one
transaction of SQLite, and so is a read.

A preview names a check, and checks are never changed: a preview is kept with its check. Nothing
here reads the time stamps and the audit log.
-/

namespace Wbcz.Desktop

open Fallible (ensure found bind_eq_ok found_eq_ok mapM_mem)

/-! ## Rows -/

/-- A row of `imports`. -/
structure ImportRecord where
  fingerprint : String
  filename : String
  partly : Bool
  newEvents : ℕ
  duplicateEvents : ℕ
  rejectedRows : ℕ
  deriving DecidableEq

/-- A row of `events`. -/
structure EventRecord where
  eventId : String
  event : Event
  deriving DecidableEq

/-- A row of `import_rows`: an event, or what was wrong with the row. -/
structure ImportRowRecord where
  fingerprint : String
  rowNumber : ℕ
  content : String ⊕ String
  deriving DecidableEq

/-- A row of `checks`. -/
structure CheckRecord where
  checkId : ℕ
  eventId : String
  source : String
  snapshot : Option KiState
  outcome : Outcome
  deriving DecidableEq

/-- A row of `previews`, with its check. -/
structure PreviewRecord where
  eventId : String
  check : CheckRecord
  deriving DecidableEq

def ImportRecord.key (row : ImportRecord) : String := row.fingerprint

def EventRecord.key (row : EventRecord) : String := row.eventId

/-- The tables. -/
structure EventStore where
  imports : Table ImportRecord.key
  events : Table EventRecord.key
  importRows : List ImportRowRecord
  checks : List CheckRecord
  previews : List PreviewRecord

def EventStore.empty : EventStore := ⟨.empty, .empty, [], [], []⟩

/-- `ParsedWorkbook`, with the ids of its events. -/
structure ParsedWorkbook where
  rows : List (ℕ × EventRecord)
  issues : List (ℕ × String)

structure ImportReport where
  fingerprint : String
  newEvents : ℕ
  duplicateEvents : ℕ
  rejectedRows : ℕ
  repeatedFile : Bool
  deriving DecidableEq, Repr

structure CheckResult where
  checkId : ℕ
  eventId : String
  outcome : Outcome
  deriving DecidableEq, Repr

def integrityError : PyError := ⟨.other "IntegrityError", ""⟩

/-! ## Reading -/

namespace EventStore

variable (store : EventStore)

/-- `existing_import`. -/
def existingImport (fingerprint : String) : Option ImportReport :=
  (store.imports.find? fingerprint).map fun row =>
    { fingerprint, newEvents := 0, duplicateEvents := row.newEvents + row.duplicateEvents
      rejectedRows := row.rejectedRows, repeatedFile := true }

/-- The moments of the events of a code. -/
def datesOf (kiz : String) : List (Option String) :=
  (store.events.rows.filter fun row => row.event.kiz = kiz).map fun row => row.event.occurredAt

/-- `history_order_ambiguous`. -/
def historyOrderAmbiguous (kiz : String) : Bool :=
  let dates := store.datesOf kiz
  2 ≤ dates.length && (dates.any Option.isNone || !decide dates.Nodup)

/-- `get_event`. -/
def getEvent (eventId : String) : Except PyError EventRecord :=
  found (store.events.find? eventId) ⟨.keyError, "Событие не найдено: " ++ eventId⟩

/-- `_event_ids_for_import`. -/
def eventIdsForImport (fingerprint : String) : List String :=
  store.importRows.filterMap fun row =>
    if row.fingerprint = fingerprint then row.content.getLeft? else none

/-- The newest check of an event, as long as its preview stands. -/
def previewOf (eventId : String) : Option CheckRecord :=
  (store.previews.find? fun row => row.eventId = eventId).map PreviewRecord.check

/-! ## Writing -/

/-- A row of `import_rows` is inserted. -/
def insertImportRow (row : ImportRowRecord) : Except PyError EventStore := do
  ensure (∀ other ∈ store.importRows, ¬ (other.fingerprint = row.fingerprint ∧
    other.rowNumber = row.rowNumber)) integrityError
  pure { store with importRows := store.importRows ++ [row] }

/-- The previews of the events of a code are deleted. -/
def deletePreviews (kiz : String) : EventStore :=
  { store with previews := store.previews.filter fun row =>
      !store.events.rows.any fun other => other.eventId = row.eventId && other.event.kiz = kiz }

/-- An event is inserted unless it is there; says whether it was. -/
def insertEvent (row : EventRecord) : Bool × EventStore :=
  match store.events.insert row with
  | some events => (true, { store with events }.deletePreviews row.event.kiz)
  | none => (false, store)

/-- The rows of a workbook; counts those that are new and those that were there. -/
def importRowsOf (fingerprint : String) : List (ℕ × EventRecord) → EventStore →
    Except PyError (ℕ × ℕ × EventStore)
  | [], store => .ok (0, 0, store)
  | (rowNumber, row) :: rows, store => do
    let (isNew, store') := store.insertEvent row
    let store' ← store'.insertImportRow ⟨fingerprint, rowNumber, .inl row.eventId⟩
    let (inserted, duplicates, store'') ← importRowsOf fingerprint rows store'
    pure (inserted + isNew.toNat, duplicates + (!isNew).toNat, store'')

/-- The rows of a workbook that could not be read. -/
def importIssues (fingerprint : String) : List (ℕ × String) → EventStore → Except PyError EventStore
  | [], store => .ok store
  | (rowNumber, message) :: issues, store => do
    let store' ← store.insertImportRow ⟨fingerprint, rowNumber, .inr message⟩
    importIssues fingerprint issues store'

/-- `import_workbook`. -/
def importWorkbook (fingerprint filename : String) (parsed : ParsedWorkbook) :
    Except PyError (ImportReport × EventStore) :=
  match store.existingImport fingerprint with
  | some report => .ok (report, store)
  | none => do
    let imports ← found (store.imports.insert {
      fingerprint, filename, partly := !parsed.issues.isEmpty, newEvents := 0
      duplicateEvents := 0, rejectedRows := parsed.issues.length }) integrityError
    let (inserted, duplicates, store') ←
      importRowsOf fingerprint parsed.rows { store with imports }
    let store'' ← importIssues fingerprint parsed.issues store'
    let counted (row : ImportRecord) : ImportRecord :=
      { row with newEvents := inserted, duplicateEvents := duplicates }
    pure (⟨fingerprint, inserted, duplicates, parsed.issues.length, false⟩,
      { store'' with imports := store''.imports.modify fingerprint counted fun _ => rfl })

/-- `save_check`. -/
def saveCheck (eventId : String) (snapshot : Option KiState) (outcome : Outcome)
    (source : String) : Except PyError (CheckResult × EventStore) := do
  ensure ((store.events.find? eventId).isSome = true) integrityError
  let check : CheckRecord := ⟨store.checks.length + 1, eventId, source, snapshot, outcome⟩
  pure (⟨check.checkId, eventId, outcome⟩,
    { store with
      checks := store.checks ++ [check]
      previews := ⟨eventId, check⟩ ::
        store.previews.filter fun row => row.eventId ≠ eventId })

end EventStore

/-! ## The preview of an operation -/

inductive OperationMode where
  | auto
  | control
  | withdrawOnly
  | returnOnly
  deriving DecidableEq, Repr

/-- The decisions that a mode lets through. -/
def OperationMode.eligible : OperationMode → Decision → Bool
  | .auto, decision => decision.isReady
  | .withdrawOnly, decision => decision = .readyToWithdraw
  | .returnOnly, decision => decision = .readyToReturn
  | .control, _ => false

/-- Why a mode does not let a decision through, where it is the mode that does not. -/
def OperationMode.reason : OperationMode → Option Decision → Option String
  | .withdrawOnly, some .readyToReturn => some "MODE_REQUIRES_RETURN"
  | .returnOnly, some .readyToWithdraw => some "MODE_REQUIRES_WITHDRAW"
  | _, _ => none

structure PreviewItem where
  eventId : String
  kiz : String
  operation : Operation
  decision : Option Decision
  reason : Option String
  deriving DecidableEq

/-- What `operation_preview` tells of the events: those that are included, and the others. -/
structure OperationPreview where
  included : List PreviewItem
  excluded : List PreviewItem

namespace EventStore

variable (store : EventStore)

/-- The item of an event, and whether it is included. -/
def previewItem (mode : OperationMode) (row : EventRecord) : Bool × PreviewItem :=
  let check := store.previewOf row.eventId
  let decision := check.map fun check => check.outcome.decision
  let eligible := decision.any mode.eligible
  let reason := (mode.reason decision).getD
    ((check.map fun check => check.outcome.reason).getD "NOT_CHECKED")
  (eligible, ⟨row.eventId, row.event.kiz, row.event.operation, decision,
    if eligible then none else some reason⟩)

/-- `operation_preview`. -/
def operationPreview (eventIds : List String) (mode : OperationMode)
    (importId : Option String) : Except PyError OperationPreview := do
  ensure (mode ≠ .control)
    ⟨.valueError, "CONTROL is read-only and has no operation preview"⟩
  ensure (∀ fingerprint, importId = some fingerprint →
    ∀ eventId ∈ eventIds, eventId ∈ store.eventIdsForImport fingerprint) ⟨.valueError, ""⟩
  let rows ← eventIds.mapM store.getEvent
  let items := rows.map (store.previewItem mode)
  pure ⟨(items.filter fun item => item.1).map Prod.snd,
    (items.filter fun item => !item.1).map Prod.snd⟩

end EventStore

/-! ## Safe stores -/

section Safe

variable {store store' : EventStore}

/-- No preview is ready for an event of a code whose history is ambiguous. -/
def EventStore.Safe (store : EventStore) : Prop :=
  ∀ preview ∈ store.previews, preview.check.outcome.decision.isReady = true →
    ∀ row ∈ store.events, row.eventId = preview.eventId →
      store.historyOrderAmbiguous row.event.kiz = false

theorem safe_empty : EventStore.empty.Safe := fun _ hpreview => absurd hpreview List.not_mem_nil

/-- The events and the previews are all that matters. -/
theorem EventStore.Safe.congr (h : store.Safe) (hevents : store'.events = store.events)
    (hpreviews : store'.previews = store.previews) : store'.Safe := by
  intro preview hpreview hready row hrow hid
  rw [hpreviews] at hpreview
  rw [hevents] at hrow
  rw [EventStore.historyOrderAmbiguous, EventStore.datesOf, hevents]
  exact h preview hpreview hready row hrow hid

/-! ### Imports -/

/-- A new event does not touch the history of another code. -/
theorem datesOf_insert {row : EventRecord} {events : Table EventRecord.key} {kiz : String}
    (hinsert : store.events.insert row = some events) (hkiz : kiz ≠ row.event.kiz) :
    ({ store with events } : EventStore).datesOf kiz = store.datesOf kiz := by
  unfold EventStore.datesOf
  rw [(Table.insert_eq_some hinsert).2, List.filter_append, List.filter_singleton,
    decide_eq_false (Ne.symm hkiz)]
  simp

/-- A new event deletes the previews of its code. -/
theorem insertEvent_safe (h : store.Safe) (row : EventRecord) : (store.insertEvent row).2.Safe := by
  unfold EventStore.insertEvent
  cases hinsert : store.events.insert row with
  | none => exact h
  | some events =>
    intro preview hpreview hready other hother hid
    obtain ⟨hpreview, hkept⟩ := List.mem_filter.mp hpreview
    have hkiz : other.event.kiz ≠ row.event.kiz := by
      intro hkiz
      rw [Bool.not_eq_true', List.any_eq_false] at hkept
      apply hkept other hother
      rw [hid, hkiz]
      simp
    have hold : other ∈ store.events := by
      rcases (Table.mem_insert hinsert).mp hother with hold | rfl
      · exact hold
      · exact absurd rfl hkiz
    have hsafe := h preview hpreview hready other hold hid
    unfold EventStore.historyOrderAmbiguous at hsafe ⊢
    rw [← datesOf_insert hinsert hkiz] at hsafe
    exact hsafe

theorem insertImportRow_safe (h : store.Safe) {row : ImportRowRecord}
    (hinsert : store.insertImportRow row = .ok store') : store'.Safe := by
  obtain ⟨_, _, hinsert⟩ := bind_eq_ok.mp hinsert
  cases hinsert
  exact h.congr rfl rfl

theorem importRowsOf_safe {fingerprint : String} {rows : List (ℕ × EventRecord)}
    {inserted duplicates : ℕ} (h : store.Safe)
    (himport : EventStore.importRowsOf fingerprint rows store =
      .ok (inserted, duplicates, store')) : store'.Safe := by
  induction rows generalizing store inserted duplicates with
  | nil =>
    cases himport
    exact h
  | cons row rows ih =>
    obtain ⟨next, hnext, himport⟩ := bind_eq_ok.mp himport
    obtain ⟨⟨_, _, last⟩, hlast, himport⟩ := bind_eq_ok.mp himport
    cases himport
    exact ih (insertImportRow_safe (insertEvent_safe h row.2) hnext) hlast

theorem importIssues_safe {fingerprint : String} {issues : List (ℕ × String)} (h : store.Safe)
    (himport : EventStore.importIssues fingerprint issues store = .ok store') : store'.Safe := by
  induction issues generalizing store with
  | nil =>
    cases himport
    exact h
  | cons issue issues ih =>
    obtain ⟨next, hnext, himport⟩ := bind_eq_ok.mp himport
    exact ih (insertImportRow_safe h hnext) himport

/-- An import keeps a store safe. -/
theorem importWorkbook_safe {fingerprint filename : String} {parsed : ParsedWorkbook}
    {report : ImportReport} (h : store.Safe)
    (himport : store.importWorkbook fingerprint filename parsed = .ok (report, store')) :
    store'.Safe := by
  unfold EventStore.importWorkbook at himport
  split at himport
  · cases himport
    exact h
  · obtain ⟨imports, _, himport⟩ := bind_eq_ok.mp himport
    obtain ⟨⟨_, _, next⟩, hrows, himport⟩ := bind_eq_ok.mp himport
    obtain ⟨last, hissues, himport⟩ := bind_eq_ok.mp himport
    cases himport
    have hstart : ({ store with imports } : EventStore).Safe := h.congr rfl rfl
    exact (importIssues_safe (importRowsOf_safe hstart hrows) hissues).congr rfl rfl

/-! ### Checks -/

/-- The history of the code of an event is in order. -/
def EventStore.InOrder (store : EventStore) (eventId : String) : Prop :=
  ∀ row ∈ store.events, row.eventId = eventId →
    store.historyOrderAmbiguous row.event.kiz = false

/-- A check leaves a safe store exactly where it is not ready, or the history is in order. -/
theorem saveCheck_safe_iff {eventId source : String} {snapshot : Option KiState}
    {outcome : Outcome} {result : CheckResult} (h : store.Safe)
    (hsave : store.saveCheck eventId snapshot outcome source = .ok (result, store')) :
    store'.Safe ↔ (outcome.decision.isReady = true → store.InOrder eventId) := by
  obtain ⟨_, _, hsave⟩ := bind_eq_ok.mp hsave
  cases hsave
  constructor
  · intro hsafe hready
    exact hsafe _ List.mem_cons_self hready
  · intro horder preview hpreview hready
    rcases List.mem_cons.mp hpreview with rfl | hold
    · exact horder hready
    · exact h preview (List.mem_filter.mp hold).1 hready

/-! ### The preview of an operation -/

/-- What a mode lets through is ready. -/
theorem ready_of_eligible {mode : OperationMode} {decision : Decision}
    (h : mode.eligible decision = true) : decision.isReady = true := by
  cases mode with
  | auto => exact h
  | control => exact absurd h Bool.false_ne_true
  | withdrawOnly =>
    rw [of_decide_eq_true h]
    rfl
  | returnOnly =>
    rw [of_decide_eq_true h]
    rfl

/-- What a safe store includes in the preview of an operation is in order. -/
theorem operationPreview_safe {eventIds : List String} {mode : OperationMode}
    {importId : Option String} {result : OperationPreview} (h : store.Safe)
    (hresult : store.operationPreview eventIds mode importId = .ok result) :
    ∀ item ∈ result.included, store.historyOrderAmbiguous item.kiz = false := by
  obtain ⟨_, _, hresult⟩ := bind_eq_ok.mp hresult
  obtain ⟨_, _, hresult⟩ := bind_eq_ok.mp hresult
  obtain ⟨rows, hrows, hresult⟩ := bind_eq_ok.mp hresult
  cases hresult
  intro item hitem
  obtain ⟨⟨included, _⟩, hincluded, rfl⟩ := List.mem_map.mp hitem
  obtain ⟨hmem, heligible⟩ := List.mem_filter.mp hincluded
  obtain ⟨row, hrow, hpreviewItem⟩ := List.mem_map.mp hmem
  obtain ⟨eventId, -, hget⟩ := mapM_mem hrows row hrow
  have hevent : row ∈ store.events := Table.mem_of_find? (found_eq_ok.mp hget)
  cases hpreviewItem
  -- the preview that makes the event eligible is a ready one
  cases hcheck : store.previewOf row.eventId with
  | none =>
    rw [hcheck] at heligible
    exact absurd heligible Bool.false_ne_true
  | some check =>
    rw [hcheck] at heligible
    obtain ⟨preview, hpreview, rfl⟩ := Option.map_eq_some_iff.mp hcheck
    have hid := of_decide_eq_true (List.find?_some hpreview :)
    exact h preview (List.mem_of_find?_eq_some hpreview) (ready_of_eligible heligible) row hevent
      hid.symm

end Safe

end Wbcz.Desktop
