import Wbcz.Ledgers.Reconciliation
import Wbcz.Turnover.TypedDocument

/-!
# What a reconciliation has seen

`OperationReconciliationService.reconcile` of `turnover.py` looks at the codes and the aggregates
that were read. Which codes a document was about, and which of them had a parent, it does not
compare with them.
-/

namespace Wbcz.Turnover

open Wbcz.Ledgers

section Settled

/-- The state that an operation is to leave a code in. -/
def required (kind : TurnoverOperationKind) (expectedRestore : ExpectedRestore)
    (item : CisSnapshot) : Bool :=
  match kind with
  | .withdrawDistance => item.status = some "RETIRED" && item.withdrawReason = some "DISTANCE"
  | .writeOff => item.plain "WRITTEN_OFF"
  | .cancelWithdrawal =>
    expectedRestore.lookup item.cis = some (item.status, item.withdrawReason)
  | .withdraw => false
  | _ => item.plain "INTRODUCED"

/-- The document was accepted, all that was read of codes is as it is to be, and so is all that was
read of aggregates, where a code had a parent. -/
structure Settled (kind : TurnoverOperationKind) (documentStatusRaw : Option String)
    (snapshots : List CisSnapshot) (expectedRestore : ExpectedRestore)
    (preParentMap : List (String × Json)) (observations : List M5AggregationObservation) :
    Prop where
  confirmed : documentStatusRaw = some "CHECKED_OK"
  read : snapshots ≠ []
  states : ∀ item ∈ snapshots, required kind expectedRestore item = true
  aggregates : (preParentMap.any fun entry => entry.2.truthy) = true →
    observations ≠ [] ∧ ∀ obs ∈ observations, obs.finding kind.value = none

variable {kind : TurnoverOperationKind} {documentStatusRaw : Option String}
  {snapshots : List CisSnapshot} {expectedRestore : ExpectedRestore}
  {preParentMap : List (String × Json)} {observations : List M5AggregationObservation}

theorem postconditionHolds_iff (hread : snapshots ≠ []) :
    postconditionHolds kind snapshots expectedRestore = true ↔
      ∀ item ∈ snapshots, required kind expectedRestore item = true := by
  have hwithdraw : ¬ ∀ item ∈ snapshots, False := by
    obtain ⟨item, hitem⟩ := List.exists_mem_of_ne_nil _ hread
    exact fun h => h item hitem
  cases kind with
  | cancelWithdrawal => simp [postconditionHolds, required, hread]
  | withdraw => simpa [postconditionHolds, required] using hwithdraw
  | _ => simp [postconditionHolds, required]

/-- A finding, where there is one, does not confirm an effect. -/
def Unconfirmed (finding : Option AggregationReconciliationResult) : Prop :=
  ∀ result, finding = some result → result.state ≠ .reconciled

theorem Unconfirmed.none : Unconfirmed none := nofun

theorem Unconfirmed.review (obs : M5AggregationObservation) (reason : String) :
    Unconfirmed (obs.review reason) := by
  intro result hresult
  obtain rfl := Option.some.inj hresult
  exact nofun

theorem Unconfirmed.pending (reason : String) (parent : Option String) :
    Unconfirmed (some ⟨.pending, reason, parent⟩) := by
  intro result hresult
  obtain rfl := Option.some.inj hresult
  exact nofun

theorem Unconfirmed.ite {c : Prop} [Decidable c] {a b : Option AggregationReconciliationResult}
    (ha : Unconfirmed a) (hb : Unconfirmed b) : Unconfirmed (if c then a else b) := by
  split
  · exact ha
  · exact hb

/-- What is found wrong with an observation is not that it is as it is to be. -/
theorem unconfirmed_finding (obs : M5AggregationObservation) (operationKind : String) :
    Unconfirmed (obs.finding operationKind) := by
  unfold M5AggregationObservation.finding
  dsimp only
  repeat' first
    | exact .none
    | exact .review _ _
    | exact .pending _ _
    | apply Unconfirmed.ite

theorem sideEffect_reconciled_iff {operationKind : String} :
    (reconcileM5AggregationSideEffect operationKind observations).state = .reconciled ↔
      observations ≠ [] ∧ ∀ obs ∈ observations, obs.finding operationKind = none := by
  unfold reconcileM5AggregationSideEffect
  by_cases hread : observations = []
  · simp [hread]
  · rw [if_neg hread, and_iff_right hread]
    cases hfound : observations.findSome? fun obs => obs.finding operationKind with
    | none =>
      rw [List.findSome?_eq_none_iff] at hfound
      exact iff_of_true rfl hfound
    | some result =>
      obtain ⟨obs, hobs, hfinding⟩ := List.exists_of_findSome?_eq_some hfound
      refine iff_of_false (unconfirmed_finding obs _ result hfinding) fun hnone => ?_
      rw [hnone obs hobs] at hfinding
      cases hfinding

/-- An operation is reconciled when what was read confirms it. -/
theorem reconcile_settled_iff :
    (reconcile kind.value documentStatusRaw snapshots expectedRestore preParentMap
        observations).state = .reconciled ↔
      Settled kind documentStatusRaw snapshots expectedRestore preParentMap observations := by
  rw [reconcile_reconciled_iff]
  constructor
  · rintro ⟨found, hkind, hconfirmed, hread, hholds, haggregates⟩
    rw [TurnoverOperationKind.ofValue?_value] at hkind
    obtain rfl := Option.some.inj hkind
    exact ⟨hconfirmed, hread, (postconditionHolds_iff hread).mp hholds,
      fun hparents => sideEffect_reconciled_iff.mp (haggregates hparents)⟩
  · rintro ⟨hconfirmed, hread, hstates, haggregates⟩
    exact ⟨kind, TurnoverOperationKind.ofValue?_value kind, hconfirmed, hread,
      (postconditionHolds_iff hread).mpr hstates,
      fun hparents => sideEffect_reconciled_iff.mpr (haggregates hparents)⟩

end Settled

/-! ## Codes -/

/-- The codes that an operation is about: those of its document, and those that a withdrawal taken
back is to restore. -/
def concerned (kind : TurnoverOperationKind) (document : TypedDocument)
    (expectedRestore : ExpectedRestore) : List String :=
  document.codes ++ if kind = .cancelWithdrawal then expectedRestore.map Prod.fst else []

/-- A reconciled operation has seen every code that it is about in the state that it is to leave,
unless what was read confirms the operation and leaves a code out. -/
theorem covers_concerned_iff (kind : TurnoverOperationKind) (document : TypedDocument)
    (documentStatusRaw : Option String) (snapshots : List CisSnapshot)
    (expectedRestore : ExpectedRestore) (preParentMap : List (String × Json))
    (observations : List M5AggregationObservation) :
    ((reconcile kind.value documentStatusRaw snapshots expectedRestore preParentMap
          observations).state = .reconciled →
        ∀ code ∈ concerned kind document expectedRestore, ∃ item ∈ snapshots,
          item.cis = code ∧ required kind expectedRestore item = true) ↔
      (Settled kind documentStatusRaw snapshots expectedRestore preParentMap observations →
        ∀ code ∈ concerned kind document expectedRestore, ∃ item ∈ snapshots, item.cis = code) := by
  rw [reconcile_settled_iff]
  refine forall_congr' fun hsettled => forall₂_congr fun code _ => exists_congr fun item => ?_
  refine and_congr_right fun hitem => and_iff_left ?_
  exact hsettled.states item hitem

/-- Two codes to write off, of which one was read. -/
theorem writeOff_reconciled_without :
    let document : TypedDocument := .writeOff {
      participantId := "7701234567"
      dropoutReason := "DESTRUCTION"
      sourceDocType := "DESTRUCTION_ACT"
      sourceDocNum := "1"
      sourceDocDate := .text "2026-01-15"
      sntins := ["010123456789012321UNIT-1", "010123456789012321UNIT-2"] }
    let snapshots : List CisSnapshot :=
      [⟨"010123456789012321UNIT-1", some "WRITTEN_OFF", none, some "7701234567", none, none, none⟩]
    (reconcile TurnoverOperationKind.writeOff.value (some "CHECKED_OK") snapshots [] [] []).state =
        .reconciled ∧
      "010123456789012321UNIT-2" ∈ concerned .writeOff document [] ∧
      ∀ item ∈ snapshots, item.cis ≠ "010123456789012321UNIT-2" := by
  refine ⟨by decide +kernel, by simp [concerned, TypedDocument.codes], by simp⟩

/-! ## Parents -/

/-- The aggregate that a code was in was read to its end, and has followed the operation. -/
def ParentFollowed (kind : TurnoverOperationKind) (observations : List M5AggregationObservation)
    (code : String) (parent : Json) : Prop :=
  ∃ obs ∈ observations, obs.cis = code ∧ Json.ofText? obs.preParent = parent ∧
    obs.relationReadComplete = true ∧
    (reconcileM5AggregationSideEffect kind.value [obs]).state = .reconciled

theorem relationRead_of_finding {obs : M5AggregationObservation} {operationKind : String}
    (h : obs.finding operationKind = none) : obs.relationReadComplete = true := by
  by_contra hread
  unfold M5AggregationObservation.finding at h
  dsimp only at h
  rw [if_pos hread] at h
  cases h

/-- A reconciled operation has seen the aggregate of every code that had a parent follow, unless
what was read confirms the operation and no observation has the code with its parent. -/
theorem covers_parents_iff (kind : TurnoverOperationKind) (documentStatusRaw : Option String)
    (snapshots : List CisSnapshot) (expectedRestore : ExpectedRestore)
    (preParentMap : List (String × Json)) (observations : List M5AggregationObservation) :
    ((reconcile kind.value documentStatusRaw snapshots expectedRestore preParentMap
          observations).state = .reconciled →
        ∀ entry ∈ preParentMap, entry.2.truthy = true →
          ParentFollowed kind observations entry.1 entry.2) ↔
      (Settled kind documentStatusRaw snapshots expectedRestore preParentMap observations →
        ∀ entry ∈ preParentMap, entry.2.truthy = true →
          ∃ obs ∈ observations, obs.cis = entry.1 ∧ Json.ofText? obs.preParent = entry.2) := by
  rw [reconcile_settled_iff]
  refine forall_congr' fun hsettled => forall₂_congr fun entry hentry =>
    forall_congr' fun hparent => exists_congr fun obs => and_congr_right fun hobs =>
      and_congr_right fun _ => and_iff_left ?_
  have hparents : (preParentMap.any fun entry => entry.2.truthy) = true :=
    List.any_eq_true.mpr ⟨entry, hentry, hparent⟩
  have hfinding := (hsettled.aggregates hparents).2 obs hobs
  refine ⟨relationRead_of_finding hfinding, sideEffect_reconciled_iff.mpr ⟨by simp, ?_⟩⟩
  simpa using hfinding

/-- Two codes that were in a box, of which one was read out of it. -/
theorem introduced_without_parent :
    let preParentMap : List (String × Json) :=
      [("010123456789012321UNIT-1", .str "010123456789012321BOX-01"),
        ("010123456789012321UNIT-2", .str "010123456789012321BOX-01")]
    let observations : List M5AggregationObservation :=
      [{ cis := "010123456789012321UNIT-1"
         preParent := some "010123456789012321BOX-01"
         preParentPackageType := some .box
         postParent := none
         relationReadComplete := true
         historySemantics := [.autoDisaggregation] }]
    let snapshots : List CisSnapshot :=
      [⟨"010123456789012321UNIT-1", some "INTRODUCED", none, some "7701234567", none, none, none⟩,
        ⟨"010123456789012321UNIT-2", some "INTRODUCED", none, some "7701234567", none, none, none⟩]
    (reconcile TurnoverOperationKind.introduceDomestic.value (some "CHECKED_OK") snapshots []
        preParentMap observations).state = .reconciled ∧
      ¬ ParentFollowed .introduceDomestic observations "010123456789012321UNIT-2"
        (.str "010123456789012321BOX-01") := by
  refine ⟨by decide +kernel, ?_⟩
  rintro ⟨obs, hobs, hcis, -⟩
  rw [List.mem_singleton.mp hobs] at hcis
  exact absurd hcis (by decide)

end Wbcz.Turnover
