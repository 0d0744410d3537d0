import Mathlib.Data.List.Basic
import Wbcz.Lib.Json

/-!
# Reconciling a turnover operation

`OperationReconciliationService.reconcile` of `wbcz/turnover.py` and the side effect on
aggregates of `wbcz/aggregation.py`: what a ledger concludes from the status of a document and
from freshly read codes.
-/

namespace Wbcz.Ledgers

/-- The kinds of turnover operations. -/
inductive TurnoverOperationKind where
  | introduceDomestic
  | introduceFromIndividual
  | introduceImportPreMandatory
  | introduceEaeu
  | introduceRemains
  | introduceContract
  | introduceFts
  | withdraw
  | withdrawDistance
  | returnToCirculation
  | returnRemoteSale
  | remark
  | writeOff
  | cancelWithdrawal
  deriving DecidableEq, Repr

namespace TurnoverOperationKind

/-- The stored text of a kind. -/
def value : TurnoverOperationKind → String
  | introduceDomestic => "INTRODUCE_DOMESTIC"
  | introduceFromIndividual => "INTRODUCE_FROM_INDIVIDUAL"
  | introduceImportPreMandatory => "INTRODUCE_IMPORT_PRE_MANDATORY"
  | introduceEaeu => "INTRODUCE_EAEU"
  | introduceRemains => "INTRODUCE_REMAINS"
  | introduceContract => "INTRODUCE_CONTRACT"
  | introduceFts => "INTRODUCE_FTS"
  | withdraw => "WITHDRAW"
  | withdrawDistance => "WITHDRAW_DISTANCE"
  | returnToCirculation => "RETURN_TO_CIRCULATION"
  | returnRemoteSale => "RETURN_REMOTE_SALE"
  | remark => "REMARK"
  | writeOff => "WRITE_OFF"
  | cancelWithdrawal => "CANCEL_WITHDRAWAL"

def all : List TurnoverOperationKind :=
  [introduceDomestic, introduceFromIndividual, introduceImportPreMandatory, introduceEaeu,
    introduceRemains, introduceContract, introduceFts, withdraw, withdrawDistance,
    returnToCirculation, returnRemoteSale, remark, writeOff, cancelWithdrawal]

/-- `TurnoverOperationKind(text)`. -/
def ofValue? (text : String) : Option TurnoverOperationKind :=
  all.find? fun kind => kind.value = text

theorem ofValue?_value (kind : TurnoverOperationKind) : ofValue? kind.value = some kind := by
  cases kind <;> rfl

theorem value_injective : Function.Injective value := by
  intro kind other h
  have hsame := congrArg ofValue? h
  rw [ofValue?_value, ofValue?_value] at hsame
  exact Option.some.inj hsame

end TurnoverOperationKind

/-- `ReconciliationState`, and `AggregationReconciliationState`, which has the same values. -/
inductive ReconciliationState where
  | pending
  | reconciled
  | manualReview
  deriving DecidableEq, Repr

/-- The stored text of a state. -/
def ReconciliationState.value : ReconciliationState → String
  | .pending => "RECONCILIATION_PENDING"
  | .reconciled => "RECONCILED"
  | .manualReview => "MANUAL_REVIEW"

/-! ## The side effect on aggregates -/

/-- `PackageType`. -/
inductive PackageType where
  | unit
  | group
  | bundle
  | set
  | box
  | atk
  deriving DecidableEq, Repr

/-- `AggregationHistorySemantic`. -/
inductive AggregationHistorySemantic where
  | aggregation
  | disaggregation
  | autoDisaggregation
  | transformation
  | unknown
  deriving DecidableEq, Repr

/-- What was read of the aggregate around a code. -/
structure M5AggregationObservation where
  cis : String
  preParent : Option String
  preParentPackageType : Option PackageType
  postParent : Option String
  targetPackageType : Option PackageType := none
  relationReadComplete : Bool := false
  relationPreserved : Option Bool := none
  historySemantics : List AggregationHistorySemantic := []
  oldStatusRaw : Option String := none
  remarkReplacementConfirmed : Bool := false
  ftsColorSizeException : Bool := false
  deriving DecidableEq, Repr

/-- `AggregationReconciliationResult`. -/
structure AggregationReconciliationResult where
  state : ReconciliationState
  reason : String
  discoveredParentCis : Option String := none
  deriving DecidableEq, Repr

def introductions : List String :=
  ["INTRODUCE_DOMESTIC", "INTRODUCE_FROM_INDIVIDUAL", "INTRODUCE_IMPORT_PRE_MANDATORY",
    "INTRODUCE_EAEU", "INTRODUCE_REMAINS", "INTRODUCE_CONTRACT", "INTRODUCE_FTS"]

namespace M5AggregationObservation

variable (obs : M5AggregationObservation)

/-- The history of the code shows that it left an aggregate. -/
def historyOk : Bool :=
  obs.historySemantics.any fun semantic =>
    semantic = .disaggregation || semantic = .autoDisaggregation

/-- The code is still where it was, or nothing tells how it came to leave. -/
def notLeft : Bool := obs.postParent = obs.preParent || !obs.historyOk

/-- A finding that an operator has to look at. -/
def review (reason : String) : Option AggregationReconciliationResult :=
  some ⟨.manualReview, reason, obs.preParent⟩

/-- What the loop over the observations finds wrong with one of them. -/
def finding (operationKind : String) : Option AggregationReconciliationResult :=
  let parentType := obs.preParentPackageType
  if ¬ obs.relationReadComplete then
    some ⟨.pending, "M5_AGGREGATION_RELATION_REREAD_REQUIRED", obs.preParent⟩
  else if obs.preParent = none then none
  else if operationKind = "CANCEL_WITHDRAWAL" then none
  else if operationKind = "WITHDRAW_DISTANCE" ∨ operationKind ∈ introductions then
    if operationKind = "INTRODUCE_FTS" ∧ obs.ftsColorSizeException then
      if obs.postParent ≠ obs.preParent then
        obs.review "FTS_COLOR_SIZE_RELATION_UNEXPECTEDLY_CHANGED"
      else none
    else if obs.notLeft then obs.review "EXPECTED_AUTO_DISAGGREGATION_NOT_CONFIRMED"
    else none
  else if operationKind = "RETURN_TO_CIRCULATION" ∨ operationKind = "RETURN_REMOTE_SALE" then
    if obs.targetPackageType = some .set ∨ obs.targetPackageType = some .group then
      if obs.relationPreserved ≠ some true then
        obs.review "AGGREGATE_RETURN_RELATION_NOT_PRESERVED"
      else none
    else if obs.notLeft then obs.review "NESTED_RETURN_AUTO_DISAGGREGATION_NOT_CONFIRMED"
    else none
  else if operationKind = "WRITE_OFF" then
    if parentType = some .set then obs.review "WRITE_OFF_KIN_EFFECT_NOT_DOCUMENTED"
    else if (parentType = some .box ∨ parentType = some .atk) ∧ obs.notLeft then
      obs.review "WRITE_OFF_AUTO_DISAGGREGATION_NOT_CONFIRMED"
    else none
  else if operationKind = "REMARK" then
    if parentType = some .set then
      if obs.oldStatusRaw = some "INTRODUCED" then
        if ¬ obs.remarkReplacementConfirmed ∨ obs.postParent ≠ obs.preParent then
          obs.review "KIN_INTRODUCED_REMARK_REPLACEMENT_NOT_CONFIRMED"
        else none
      else if obs.oldStatusRaw = some "RETIRED" then
        if obs.notLeft then obs.review "KIN_RETIRED_REMARK_DISAGGREGATION_NOT_CONFIRMED"
        else none
      else obs.review "KIN_REMARK_SOURCE_STATE_UNKNOWN"
    else if parentType = some .box ∧ obs.notLeft then
      obs.review "KITU_REMARK_AUTO_DISAGGREGATION_NOT_CONFIRMED"
    else none
  else obs.review "M5_AGGREGATION_EFFECT_NOT_MODELLED"

end M5AggregationObservation

/-- `reconcile_m5_aggregation_side_effect`. -/
def reconcileM5AggregationSideEffect (operationKind : String)
    (observations : List M5AggregationObservation) : AggregationReconciliationResult :=
  if observations = [] then ⟨.pending, "M5_AGGREGATION_READBACK_REQUIRED", none⟩
  else
    (observations.findSome? fun obs => obs.finding operationKind).getD
      ⟨.reconciled, "M5_AGGREGATION_EFFECT_CONFIRMED", none⟩

/-! ## The operation -/

/-- What was read of a code. -/
structure CisSnapshot where
  cis : String
  status : Option String
  statusEx : Option String
  ownerInn : Option String
  withdrawReason : Option String
  parent : Option String := none
  packageType : Option String := none
  deriving DecidableEq, Repr

/-- The entry of a snapshot in what a reconciliation observed. -/
def CisSnapshot.observed (item : CisSnapshot) : Json :=
  .obj [("cis", .str item.cis), ("status", .ofText? item.status),
    ("statusEx", .ofText? item.statusEx), ("ownerInn", .ofText? item.ownerInn),
    ("withdrawReason", .ofText? item.withdrawReason), ("parent", .ofText? item.parent),
    ("packageType", .ofText? item.packageType)]

/-- The codes of a cancelled withdrawal with the state they are to be restored to. -/
abbrev ExpectedRestore := List (String × Option String × Option String)

/-- `ReconciliationResult`. -/
structure ReconciliationResult where
  state : ReconciliationState
  documentStatusRaw : Option String
  reason : String
  observed : List Json

section Reconcile

variable (kind : TurnoverOperationKind) (snapshots : List CisSnapshot)
  (expectedRestore : ExpectedRestore)

/-- The code is in circulation, without a special status. -/
def CisSnapshot.plain (item : CisSnapshot) (status : String) : Bool :=
  item.status = some status && (item.statusEx = none || item.statusEx = some "")

/-- The codes are in the state that an operation of their kind leaves. -/
def postconditionHolds : Bool :=
  match kind with
  | .withdrawDistance =>
    snapshots.all fun item => item.status = some "RETIRED" && item.withdrawReason = some "DISTANCE"
  | .returnToCirculation | .returnRemoteSale | .introduceDomestic | .introduceFromIndividual
  | .introduceImportPreMandatory | .introduceEaeu | .introduceRemains | .introduceContract
  | .introduceFts | .remark => snapshots.all fun item => item.plain "INTRODUCED"
  | .writeOff => snapshots.all fun item => item.plain "WRITTEN_OFF"
  | .cancelWithdrawal =>
    !snapshots.isEmpty && snapshots.all fun item =>
      expectedRestore.lookup item.cis = some (item.status, item.withdrawReason)
  | .withdraw => false

/-- The end of `reconcile`, once the codes are in the state the operation leaves: codes that
were in an aggregate have to be shown to have followed. -/
def confirmPostcondition (documentStatusRaw : Option String) (preParentMap : List (String × Json))
    (observations : List M5AggregationObservation) (observed : List Json) :
    ReconciliationResult :=
  if preParentMap.any fun entry => entry.2.truthy then
    if observations = [] then
      ⟨.pending, documentStatusRaw, "AGGREGATION_RECONCILIATION_REQUIRED", observed⟩
    else
      let aggregate := reconcileM5AggregationSideEffect kind.value observations
      if aggregate.state ≠ .reconciled then
        ⟨if aggregate.state = .pending then .pending else .manualReview, documentStatusRaw,
          aggregate.reason, observed⟩
      else ⟨.reconciled, documentStatusRaw, "POSTCONDITION_CONFIRMED", observed⟩
  else ⟨.reconciled, documentStatusRaw, "POSTCONDITION_CONFIRMED", observed⟩

/-- `OperationReconciliationService.reconcile`. -/
def reconcile (operationKind : String) (documentStatusRaw : Option String)
    (snapshots : List CisSnapshot) (expectedRestore : ExpectedRestore)
    (preParentMap : List (String × Json)) (observations : List M5AggregationObservation) :
    ReconciliationResult :=
  match TurnoverOperationKind.ofValue? operationKind with
  | none => ⟨.manualReview, documentStatusRaw, "UNKNOWN_OPERATION_KIND", []⟩
  | some kind =>
    let observed := snapshots.map CisSnapshot.observed
    if documentStatusRaw ≠ some "CHECKED_OK" then
      if documentStatusRaw = some "CHECKED_NOT_OK" ∨ documentStatusRaw = some "PARSE_ERROR" ∨
          documentStatusRaw = some "PROCESSING_ERROR" then
        ⟨.manualReview, documentStatusRaw, "DOCUMENT_TERMINAL_FAILURE", observed⟩
      else ⟨.pending, documentStatusRaw, "DOCUMENT_NOT_CONFIRMED_SUCCESS", observed⟩
    else if kind = .withdraw then
      ⟨.manualReview, documentStatusRaw, "OPERATION_NOT_EXECUTABLE", observed⟩
    else if snapshots = [] ∧ kind ≠ .cancelWithdrawal then
      ⟨.pending, documentStatusRaw, "FRESH_CIS_POSTCONDITION_REQUIRED", observed⟩
    else if kind = .cancelWithdrawal ∧ expectedRestore = [] then
      ⟨.manualReview, documentStatusRaw, "CANCEL_RESTORE_EXPECTATION_REQUIRED", observed⟩
    else if ¬ postconditionHolds kind snapshots expectedRestore then
      ⟨.pending, documentStatusRaw, "POSTCONDITION_MISMATCH", observed⟩
    else confirmPostcondition kind documentStatusRaw preParentMap observations observed

end Reconcile

section Results

variable {operationKind : String} {documentStatusRaw : Option String}
  {snapshots : List CisSnapshot} {expectedRestore : ExpectedRestore}
  {preParentMap : List (String × Json)} {observations : List M5AggregationObservation}

theorem postconditionHolds_cancel_ne_nil
    (h : postconditionHolds .cancelWithdrawal snapshots expectedRestore = true) :
    snapshots ≠ [] ∧ expectedRestore ≠ [] := by
  cases snapshots with
  | nil => cases h
  | cons item rest =>
    refine ⟨List.cons_ne_nil _ _, ?_⟩
    rintro rfl
    simp [postconditionHolds] at h

theorem confirmPostcondition_reconciled_iff {kind : TurnoverOperationKind}
    {observed : List Json} :
    (confirmPostcondition kind documentStatusRaw preParentMap observations observed).state =
        .reconciled ↔
      ((preParentMap.any fun entry => entry.2.truthy) = true →
        (reconcileM5AggregationSideEffect kind.value observations).state = .reconciled) := by
  unfold confirmPostcondition
  by_cases hparents : (preParentMap.any fun entry => entry.2.truthy) = true
  · rw [if_pos hparents, forall_prop_of_true hparents]
    by_cases hread : observations = []
    · rw [if_pos hread, hread]
      simp [reconcileM5AggregationSideEffect]
    · rw [if_neg hread]
      cases hstate : (reconcileM5AggregationSideEffect kind.value observations).state <;>
        simp [hstate]
  · rw [if_neg hparents]
    simp [hparents]

/-- An operation counts as reconciled when its document was accepted, its codes were read and
are in the state it leaves, and the aggregates they were in followed. -/
theorem reconcile_reconciled_iff :
    (reconcile operationKind documentStatusRaw snapshots expectedRestore preParentMap
        observations).state = .reconciled ↔
      ∃ kind, TurnoverOperationKind.ofValue? operationKind = some kind ∧
        documentStatusRaw = some "CHECKED_OK" ∧ snapshots ≠ [] ∧
        postconditionHolds kind snapshots expectedRestore = true ∧
        ((preParentMap.any fun entry => entry.2.truthy) = true →
          (reconcileM5AggregationSideEffect kind.value observations).state = .reconciled) := by
  unfold reconcile
  cases TurnoverOperationKind.ofValue? operationKind with
  | none => simp
  | some kind =>
    simp only [Option.some.injEq, exists_eq_left']
    by_cases hstatus : documentStatusRaw = some "CHECKED_OK"
    · rw [if_neg (not_not.mpr hstatus)]
      by_cases hwithdraw : kind = .withdraw
      · subst hwithdraw
        simp [postconditionHolds]
      rw [if_neg hwithdraw]
      by_cases hread : snapshots = [] ∧ kind ≠ .cancelWithdrawal
      · rw [if_pos hread]
        simp [hread.1]
      rw [if_neg hread]
      by_cases hholds : postconditionHolds kind snapshots expectedRestore = true
      · -- a restoration is expected, and codes were read, where the postcondition holds
        have hne : snapshots ≠ [] ∧ ¬ (kind = .cancelWithdrawal ∧ expectedRestore = []) := by
          by_cases hcancel : kind = .cancelWithdrawal
          · subst hcancel
            obtain ⟨hsnapshots, hrestore⟩ := postconditionHolds_cancel_ne_nil hholds
            exact ⟨hsnapshots, fun h => hrestore h.2⟩
          · exact ⟨fun hnil => hread ⟨hnil, hcancel⟩, fun h => hcancel h.1⟩
        rw [if_neg hne.2, if_neg (not_not.mpr hholds)]
        rw [confirmPostcondition_reconciled_iff]
        exact ⟨fun h => ⟨hstatus, hne.1, hholds, h⟩, fun h => h.2.2.2⟩
      · rw [if_pos hholds]
        split <;> simp [hholds]
    · rw [if_pos hstatus]
      split <;> simp [hstatus]

end Results

end Wbcz.Ledgers
