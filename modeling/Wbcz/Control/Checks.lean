import Wbcz.Control.CisInventory

/-!
# Control checks from the results of the agent

`_apply_control_cis_batch`, `_single_state` and the decision of `_apply_control_cis` of
`agent_orchestration.py`: what the server makes of the result of a batch, and of the result
for a single code.

A row of the import comes with its event and with what the order of the marketplace rows says
about it.
-/

namespace Wbcz.Control

open CisInventory ControlEngine

/-- What `resolve_wb_sequence` says about a row. -/
inductive WbSequence where
  | effective
  | superseded
  | ambiguous
  deriving DecidableEq, Repr

/-- `sequence_outcome_for_event`. -/
def sequenceOutcome : WbSequence → Option Outcome
  | .effective => none
  | .superseded => some ⟨.noAction, "SUPERSEDED_BY_LATER_WB_EVENT", none⟩
  | .ambiguous => some ⟨.manualReview, "HISTORY_ORDER_AMBIGUOUS", none⟩

/-- A row of an import. -/
structure EventRecord where
  eventId : String
  event : Event
  sequence : WbSequence

/-- A row of `control_checks`. -/
structure CheckRecord where
  eventId : String
  snapshot : Option KiState
  outcome : Outcome
  deriving DecidableEq, Repr

/-! ### The batch -/

/-- The states read so far, and the codes that have none. -/
structure BatchStates where
  states : String → Option KiState
  failures : List String

/-- `value.get(key)` where it is an object, and no fields otherwise. -/
def objectField (value : Json) (key : String) : Fields :=
  match value.get key with
  | .obj fields => fields
  | _ => []

/-- `str(value or "")`. -/
def textOrEmpty (containerText : Json → String) (value : Json) : String :=
  if value.truthy then pyStr containerText value else ""

/-- The state that an item of the result gives, with its code. -/
def itemState (containerText : Json → String) (requested : List String) (item : Json) :
    Option (String × KiState) :=
  if item.isObj then
    let cis := textOrEmpty containerText (field (objectField item "wire") "requested_cis")
    match item.get "normalized" with
    | .obj normalized =>
      if cis ∈ requested ∧ ¬ (item.get "item_error").truthy then
        some (cis, decisionStateFromCisInfo containerText normalized)
      else none
    | _ => none
  else none

/-- Take the state of an item. -/
def BatchStates.add (containerText : Json → String) (requested : List String)
    (acc : BatchStates) (item : Json) : BatchStates :=
  match itemState containerText requested item with
  | some (cis, state) =>
    ⟨fun kiz => if kiz = cis then some state else acc.states kiz,
      acc.failures.filter fun kiz => kiz ≠ cis⟩
  | none => acc

/-- `read_result.get("items") or []`. -/
def resultItems (readResult : Json) : List Json :=
  match readResult.get "items" with
  | .arr items => items
  | _ => []

/-- The states that the result of a batch gives. -/
def batchStates (containerText : Json → String) (requested : List String) (result : AgentResult) :
    BatchStates :=
  let unread : BatchStates := ⟨fun _ => none, requested⟩
  if result.outcome = "READ_COMPLETED" ∧ (result.readResult.get "type").str? = some "CIS_INFO" then
    (resultItems result.readResult).foldl (BatchStates.add containerText requested) unread
  else unread

/-- The outcome of a row without a state. -/
def lookupFailed (error : String) : Outcome :=
  ⟨.manualReview, "STATE_LOOKUP_OR_NORMALIZATION_FAILED", some error⟩

/-- `result.error_code or "TRUE_API_ITEM_ERROR"`. -/
def errorOr (result : AgentResult) : String :=
  if emptyText result.errorCode then "TRUE_API_ITEM_ERROR" else result.errorCode.getD ""

/-- The outcome of a row of a batch. -/
def batchOutcome (ownInn : String) (result : AgentResult) (read : BatchStates)
    (row : EventRecord) : Except PyError Outcome :=
  match sequenceOutcome row.sequence with
  | some outcome => .ok outcome
  | none =>
    match read.states row.event.kiz with
    | none => .ok (lookupFailed (errorOr result))
    | some snapshot =>
      if row.event.kiz ∈ read.failures then .ok (lookupFailed (errorOr result))
      else decide row.event snapshot ownInn

/-- `_apply_control_cis_batch`: the checks of the rows of the import that have none yet. -/
def applyControlCisBatch (containerText : Json → String) (ownInn : String)
    (requested : List String) (result : AgentResult) (existing : List String)
    (rows : List EventRecord) : Except PyError (List CheckRecord) :=
  let read := batchStates containerText requested result
  (rows.filter fun row => row.eventId ∉ existing ∧ row.event.kiz ∈ requested).mapM fun row =>
    (batchOutcome ownInn result read row).map fun outcome =>
      ⟨row.eventId, read.states row.event.kiz, outcome⟩

/-! ### The single code -/

/-- The result of a `CIS_CHECK` job for one code: `_cis_check`. -/
def cisCheck (containerText : Json → String) (job : AgentJob) (items : List Json) :
    Except PyError AgentResult :=
  if items.length ≠ job.cises.length then
    .error ⟨.other "TrueApiProtocolError", "cises/info result count mismatch"⟩
  else do
    let states ← (job.cises.zip items).mapM fun pair =>
      (TrueApiCisesInfoAdapter.normalize containerText pair.1 pair.2).map fun state =>
        Json.obj [("cis", .str pair.1), ("status", .str state.status),
          ("statusEx", .ofText? state.statusEx), ("withdrawReason", .ofText? state.withdrawReason),
          ("ownerInn", .ofText? state.ownerInn), ("productGroup", .ofText? state.productGroup)]
    .ok { jobId := job.jobId, operationId := job.operationId, outcome := "CIS_CHECKED",
          cises := states }

/-- `_single_state`; the agent sends a text or `None` for every field. -/
def singleState (event : Event) (result : AgentResult) : Except PyError KiState :=
  match result.cises with
  | [item] =>
    if result.outcome ≠ "CIS_CHECKED" then
      .error ⟨.agentReplayConflict, "CIS_CHECK result is incomplete"⟩
    else if (item.get "cis").str? ≠ some event.kiz then
      .error ⟨.agentReplayConflict, "CIS_CHECK returned mismatched KI"⟩
    else
      .ok {
        status := if (item.get "status").truthy then ((item.get "status").str?).getD "" else
          "UNKNOWN:missing"
        statusEx := (item.get "statusEx").str?
        withdrawReason := (item.get "withdrawReason").str?
        ownerInn := (item.get "ownerInn").str?
        productGroup := (item.get "productGroup").str? }
  | _ => .error ⟨.agentReplayConflict, "CIS_CHECK result is incomplete"⟩

/-- The outcome of `_apply_control_cis`. -/
def singleOutcome (ownInn : String) (result : AgentResult) (row : EventRecord) : Outcome :=
  match sequenceOutcome row.sequence with
  | some outcome => outcome
  | none =>
    match (singleState row.event result).bind fun snapshot => decide row.event snapshot ownInn with
    | .ok outcome => outcome
    | .error exc => lookupFailed exc.cls.name

end Wbcz.Control
