import Wbcz.Desktop.EventStore
import Wbcz.Lib.Interaction

/-!
# Checks and imports at the desktop

`DryRunService`, `ImportService` and `UiApplication.check_import` are programs over the store:
every transaction and every question to the registry is a call, any number of them run at a time,
and each may be lost before any call. `check_import` looks at the history of a code after it has
stored what it decided, in another transaction; `check_all` does not look at it.

What the registry and the parser of workbooks answer is not fixed.
-/

namespace Wbcz.Desktop

open Transition (Run)

/-! ## The calls -/

/-- The calls of the programs. -/
inductive StoreCall where
  | existingImport (fingerprint : String)
  | importWorkbook (fingerprint filename : String) (parsed : ParsedWorkbook)
  | audit
  | eventIdsForImport (fingerprint : String)
  | events
  | getEvent (eventId : String)
  | parse (fingerprint : String)
  | prime (kizs : List String)
  | getKiState (kiz : String)
  | saveCheck (eventId : String) (snapshot : Option KiState) (outcome : Outcome) (source : String)
  | historyOrderAmbiguous (kiz : String)

/-- The values of the calls. -/
def StoreCall.Value : StoreCall → Type
  | .existingImport _ => Option ImportReport
  | .importWorkbook _ _ _ => ImportReport
  | .audit => Unit
  | .eventIdsForImport _ => List String
  | .events => List EventRecord
  | .getEvent _ => EventRecord
  | .parse _ => ParsedWorkbook
  | .prime _ => Unit
  | .getKiState _ => KiState
  | .saveCheck _ _ _ _ => CheckResult
  | .historyOrderAmbiguous _ => Bool

/-- Every call gives a value or raises. -/
def StoreAnswer (call : StoreCall) : Type := Except PyError call.Value

/-- A program of the desktop. -/
abbrev DesktopProgram (α : Type) := ExceptT PyError (Program StoreCall StoreAnswer) α

/-- A call in a program. -/
def call (c : StoreCall) : DesktopProgram c.Value :=
  ExceptT.mk (@Program.perform StoreCall StoreAnswer c)

/-- What a call is answered, and what it does to the store. Every call may raise and then has
done nothing. -/
inductive StoreAnswers (store : EventStore) :
    (c : StoreCall) → StoreAnswer c → EventStore → Prop
  | existingImport {fingerprint} : StoreAnswers store (.existingImport fingerprint)
      (.ok (store.existingImport fingerprint)) store
  | importWorkbook {fingerprint filename parsed report store'} :
      store.importWorkbook fingerprint filename parsed = .ok (report, store') →
      StoreAnswers store (.importWorkbook fingerprint filename parsed) (.ok report) store'
  | audit : StoreAnswers store .audit (.ok ()) store
  | eventIdsForImport {fingerprint} : StoreAnswers store (.eventIdsForImport fingerprint)
      (.ok (store.eventIdsForImport fingerprint)) store
  | events : StoreAnswers store .events (.ok store.events.rows) store
  | getEvent {eventId} :
      StoreAnswers store (.getEvent eventId) (store.getEvent eventId) store
  | parse {fingerprint answer} : StoreAnswers store (.parse fingerprint) answer store
  | prime {kizs answer} : StoreAnswers store (.prime kizs) answer store
  | getKiState {kiz answer} : StoreAnswers store (.getKiState kiz) answer store
  | saveCheck {eventId snapshot outcome source result store'} :
      store.saveCheck eventId snapshot outcome source = .ok (result, store') →
      StoreAnswers store (.saveCheck eventId snapshot outcome source) (.ok result) store'
  | historyOrderAmbiguous {kiz} : StoreAnswers store (.historyOrderAmbiguous kiz)
      (.ok (store.historyOrderAmbiguous kiz)) store
  | raised {c : StoreCall} {e : PyError} :
      StoreAnswers store c (Except.error e : Except PyError c.Value) store

/-! ## The programs -/

/-- `ImportService.import_file`, of a file that is not too large. -/
def importFile (fingerprint filename : String) : DesktopProgram ImportReport := do
  let existing ← call (.existingImport fingerprint)
  match existing with
  | some report => do
    call .audit
    pure report
  | none => do
    let parsed ← tryCatch (call (.parse fingerprint)) fun e => do
      call .audit
      throw e
    call (.importWorkbook fingerprint filename parsed)

/-- What a program asks the registry with, and as whom. -/
structure Client where
  live : Bool
  ownInn : String
  source : String

/-- What is stored where the state of a code could not be had. -/
def lookupFailed (e : PyError) : Outcome :=
  ⟨.error, "STATE_LOOKUP_OR_NORMALIZATION_FAILED",
    some (Text.take 2000 (e.cls.name ++ ": " ++ e.message))⟩

/-- `DryRunService.check_event`. -/
def checkEvent (client : Client) (eventId : String) : DesktopProgram CheckResult := do
  let row ← call (.getEvent eventId)
  let answer ← ExceptT.lift (call (.getKiState row.event.kiz)).run
  -- an exception of `decide` is caught as one of the registry is
  let decided : Option KiState × Outcome :=
    match answer with
    | .error e => (none, lookupFailed e)
    | .ok state =>
      match ControlEngine.decide row.event state client.ownInn with
      | .ok outcome => (some state, outcome)
      | .error e => (some state, lookupFailed e)
  call (.saveCheck eventId decided.1 decided.2 client.source)

/-- `DryRunService.check_all`. -/
def checkAll (client : Client) : DesktopProgram (List CheckResult) := do
  ExceptT.mk (pure (ControlEngine.validateOwnerInn client.ownInn))
  let rows ← call .events
  rows.mapM fun row => checkEvent client row.eventId

/-- The outcome of `check_import` for a code with an ambiguous history. -/
def historyGuard : Outcome := ⟨.manualReview, "HISTORY_ORDER_AMBIGUOUS", none⟩

/-- An event is checked, and its check is replaced where the history is ambiguous. -/
def checkGuarded (client : Client) (row : EventRecord) : DesktopProgram CheckResult := do
  let result ← checkEvent client row.eventId
  let ambiguous : Bool ← call (.historyOrderAmbiguous row.event.kiz)
  if ambiguous = true then
    call (.saveCheck row.eventId none historyGuard (client.source ++ "-history-guard"))
  else pure result

/-- The events of an import that are to be checked. -/
def selectedIds (ids : List String) : Option (List String) → Except PyError (List String)
  | none => .ok ids
  | some [] => .error ⟨.valueError, ""⟩
  | some requested =>
    if requested.all (fun eventId => decide (eventId ∈ ids)) then
      .ok (ids.filter fun eventId => decide (eventId ∈ requested))
    else .error ⟨.valueError, ""⟩

/-- `check_import`; gives the results of the checks. -/
def checkImport (client : Client) (fingerprint : String) (requested : Option (List String)) :
    DesktopProgram (List CheckResult) := do
  let ids ← call (.eventIdsForImport fingerprint)
  let selected ← ExceptT.mk (pure (selectedIds ids requested))
  let rows ← selected.mapM fun eventId => call (.getEvent eventId)
  if client.live = true then
    call (.prime (rows.map fun row => row.event.kiz))
  ExceptT.mk (pure (ControlEngine.validateOwnerInn client.ownInn))
  rows.mapM (checkGuarded client)

/-! ## The system -/

/-- A program is started; what it returns is of no interest here. -/
inductive Starts : Program StoreCall StoreAnswer Unit → Prop
  | importFile (fingerprint filename : String) :
      Starts (do let _ ← (importFile fingerprint filename).run; pure ())
  | checkAll (client : Client) : Starts (do let _ ← (checkAll client).run; pure ())
  | checkImport (client : Client) (fingerprint : String) (requested : Option (List String)) :
      Starts (do let _ ← (checkImport client fingerprint requested).run; pure ())

/-- The store, and the programs that are running. -/
abbrev DesktopState := Configuration EventStore StoreCall StoreAnswer Unit

abbrev DesktopLabel := SystemLabel StoreCall StoreAnswer

/-- One step of the system. Nobody else writes to the store. -/
abbrev DesktopStep : DesktopState → DesktopLabel → DesktopState → Prop :=
  SystemStep (fun _ _ => False) StoreAnswers Starts

/-- A step that stores a check that is ready finds the history of the code in order. -/
def ReadyInOrder (store : EventStore) : DesktopLabel → Prop
  | .called (.saveCheck eventId _ outcome _) (.ok _) =>
    outcome.decision.isReady = true → store.InOrder eventId
  | _ => True

/-- From a safe state a step leads to a safe state exactly where it is one in order. -/
theorem DesktopStep.safe_iff {c c' : DesktopState} {label : DesktopLabel} (h : c.shared.Safe)
    (step : DesktopStep c label c') : c'.shared.Safe ↔ ReadyInOrder c.shared label := by
  cases step with
  | surroundings hfalse => exact hfalse.elim
  | started | lost => exact iff_of_true h trivial
  | @called _ _ _ _ c _ _ hanswers =>
    cases hanswers with
    | importWorkbook himport => exact iff_of_true (importWorkbook_safe h himport) trivial
    | saveCheck hsave => exact saveCheck_safe_iff h hsave
    | raised => cases c <;> exact iff_of_true h trivial
    | existingImport | audit | eventIdsForImport | events | getEvent | parse | prime | getKiState
    | historyOrderAmbiguous => exact iff_of_true h trivial

/-! ## Runs -/

/-- No preview is ready for an event of a code whose history is ambiguous, and no preview of an
operation includes such an event. -/
def EventStore.Unambiguous (store : EventStore) : Prop :=
  store.Safe ∧ ∀ eventIds mode importId result,
    store.operationPreview eventIds mode importId = .ok result →
      ∀ item ∈ result.included, store.historyOrderAmbiguous item.kiz = false

/-- A step to a store without ambiguous previews. -/
def StepUnambiguous (c : DesktopState) (label : DesktopLabel) (c' : DesktopState) : Prop :=
  DesktopStep c label c' ∧ c'.shared.Unambiguous

/-- A step that finds the history in order if it stores a ready check. -/
def StepInOrder (c : DesktopState) (label : DesktopLabel) (c' : DesktopState) : Prop :=
  DesktopStep c label c' ∧ ReadyInOrder c.shared label

/-- A sale and a return of one code; of the return the moment is not known. -/
def sampleWorkbook : ParsedWorkbook where
  rows := [(2, ⟨"sale", ⟨"kiz", .sale, some "2025-01-01", some "1", some false⟩⟩),
    (3, ⟨"return", ⟨"kiz", .return, none, none, some false⟩⟩)]
  issues := []

/-- The code was sold at a distance. -/
def sampleState : KiState where
  status := "WITHDRAWN"
  withdrawReason := some "DISTANCE"
  ownerInn := some "1234567890"
  productGroup := some "lp"

/-- What a transaction gives, and the store it leaves. -/
def written {α : Type} (r : Except PyError (α × EventStore)) (store : EventStore) :
    Except PyError α × EventStore :=
  match r with
  | .ok (a, store') => (.ok a, store')
  | .error e => (.error e, store)

theorem written_ends {α : Type} {r : Except PyError (α × EventStore)} {store : EventStore}
    {P : Except PyError α → EventStore → Prop} (hok : ∀ a store', r = .ok (a, store') →
      P (.ok a) store') (herror : ∀ e, P (.error e) store) :
    P (written r store).1 (written r store).2 := by
  rcases r with e | ⟨a, store'⟩
  · exact herror e
  · exact hok a store' rfl

/-- The answers of a store and a registry that work. -/
def answered (store : EventStore) : (c : StoreCall) → StoreAnswer c × EventStore
  | .existingImport fingerprint => (.ok (store.existingImport fingerprint), store)
  | .importWorkbook fingerprint filename parsed =>
    written (store.importWorkbook fingerprint filename parsed) store
  | .audit => (.ok (), store)
  | .eventIdsForImport fingerprint => (.ok (store.eventIdsForImport fingerprint), store)
  | .events => (.ok store.events.rows, store)
  | .getEvent eventId => (store.getEvent eventId, store)
  | .parse _ => (.ok sampleWorkbook, store)
  | .prime _ => (.ok (), store)
  | .getKiState _ => (.ok sampleState, store)
  | .saveCheck eventId snapshot outcome source =>
    written (store.saveCheck eventId snapshot outcome source) store
  | .historyOrderAmbiguous kiz => (.ok (store.historyOrderAmbiguous kiz), store)

theorem answered_answers (store : EventStore) (c : StoreCall) :
    StoreAnswers store c (answered store c).1 (answered store c).2 := by
  cases c with
  | existingImport => exact .existingImport
  | audit => exact .audit
  | eventIdsForImport => exact .eventIdsForImport
  | events => exact .events
  | getEvent => exact .getEvent
  | parse => exact .parse
  | prime => exact .prime
  | getKiState => exact .getKiState
  | historyOrderAmbiguous => exact .historyOrderAmbiguous
  | importWorkbook fingerprint filename parsed =>
    exact written_ends (P := StoreAnswers store (.importWorkbook fingerprint filename parsed))
      (fun _ _ h => .importWorkbook h) fun _ => .raised
  | saveCheck eventId snapshot outcome source =>
    exact written_ends (P := StoreAnswers store (.saveCheck eventId snapshot outcome source))
      (fun _ _ h => .saveCheck h) fun _ => .raised

/-- The check of the return, at the desktop and offline. -/
def sampleCheck : Program StoreCall StoreAnswer Unit := do
  let _ ← (checkImport ⟨false, "1234567890", "offline-ui"⟩ "fingerprint" (some ["return"])).run
  pure ()

def sampleImport : Program StoreCall StoreAnswer Unit := do
  let _ ← (importFile "fingerprint" "sample.xlsx").run
  pure ()

/-- The store with the workbook. -/
def importedStore : EventStore := (sampleImport.driven answered 3 EventStore.empty).2.1

/-- The check is lost after it has stored what it decided. -/
def lostStore : EventStore := (sampleCheck.driven answered 5 importedStore).2.1

end Wbcz.Desktop
