import Wbcz.Errors
import Wbcz.Models
import Wbcz.Lib.Text
import Wbcz.WritePipeline.Store

/-!
# The control engine

`decide` of `control_engine.py`: what a marketplace row and the state of its code call for.
An exception is raised only for a malformed INN of the participant.
-/

namespace Wbcz.ControlEngine

/-- `validate_owner_inn`. -/
def validateOwnerInn (value : String) : Except PyError Unit :=
  if value.toList.all Text.isAsciiDigit ∧ (value.length = 10 ∨ value.length = 12) then .ok ()
  else .error ⟨.valueError, "ИНН владельца должен содержать 10 или 12 ASCII-цифр"⟩

/-- `value.casefold() == "lp"`: no other character folds to one of these letters. -/
def isLp (value : String) : Bool :=
  match value.toList with
  | [l, p] => (l = 'l' || l = 'L') && (p = 'p' || p = 'P')
  | _ => false

/-- `_has_sale_receipt_evidence`. -/
def hasSaleReceiptEvidence (event : Event) : Bool :=
  truthyText event.receiptNumber && event.occurredAt.isSome

/-- The product group is given and is another one than `lp`. -/
def wrongProductGroup (state : KiState) : Bool :=
  match state.productGroup with
  | some group => !isLp group
  | none => false

/-- The value is absent, empty or the given text. -/
def blankOr (value : Option String) (text : String) : Bool :=
  value = none || value = some "" || value = some text

/-- The part of `decide` for a code in circulation. -/
def decideInCirculation (event : Event) (state : KiState) : Outcome :=
  if ¬ (state.withdrawReason = none ∨ state.withdrawReason = some "") then
    ⟨.manualReview, "UNKNOWN_CHZ_STATUS", none⟩
  else if event.operation = .return then ⟨.alreadyDone, "RETURN_ALREADY_IN_CIRCULATION", none⟩
  else if event.legalEntitySale ≠ some false then
    ⟨.manualReview, "LEGAL_ENTITY_RULES_UNDEFINED", none⟩
  else if state.productGroup.isSome ∧ ¬ hasSaleReceiptEvidence event then
    ⟨.manualReview, "SALE_RECEIPT_MISSING", none⟩
  else ⟨.readyToWithdraw, "SALE_IN_CIRCULATION", none⟩

/-- The part of `decide` for a withdrawn code. -/
def decideWithdrawn (event : Event) (state : KiState) : Outcome :=
  if state.withdrawReason ≠ some "DISTANCE" then
    ⟨.manualReview, "NON_DISTANCE_OR_UNKNOWN_WITHDRAWAL", none⟩
  else if event.operation = .sale then ⟨.alreadyDone, "SALE_ALREADY_WITHDRAWN_DISTANCE", none⟩
  else ⟨.readyToReturn, "RETURN_WITHDRAWN_DISTANCE", none⟩

def decide (event : Event) (state : KiState) (ownInn : String) : Except PyError Outcome :=
  match validateOwnerInn ownInn with
  | .error e => .error e
  | .ok () =>
    .ok <|
      if wrongProductGroup state then ⟨.manualReview, "WRONG_PRODUCT_GROUP", none⟩
      else if ¬ truthyText state.ownerInn then ⟨.manualReview, "OWNER_UNKNOWN", none⟩
      else if state.ownerInn ≠ some ownInn then ⟨.manualReview, "OWNER_MISMATCH", none⟩
      else if state.status ≠ "IN_CIRCULATION" ∧ state.status ≠ "WITHDRAWN" then
        ⟨.manualReview, "UNKNOWN_CHZ_STATUS", none⟩
      else if ¬ blankOr state.statusEx state.status then
        ⟨.manualReview, "UNKNOWN_CHZ_STATUS", none⟩
      else if state.status = "IN_CIRCULATION" then decideInCirculation event state
      else decideWithdrawn event state

/-- The row and the state of its code permit a write. -/
inductive Permits (event : Event) (state : KiState) : Outcome → Prop
  | withdraw (status : state.status = "IN_CIRCULATION")
      (reason : state.withdrawReason = none ∨ state.withdrawReason = some "")
      (operation : event.operation = .sale) (buyer : event.legalEntitySale = some false)
      (evidence : state.productGroup.isSome → hasSaleReceiptEvidence event) :
      Permits event state ⟨.readyToWithdraw, "SALE_IN_CIRCULATION", none⟩
  | «return» (status : state.status = "WITHDRAWN") (reason : state.withdrawReason = some "DISTANCE")
      (operation : event.operation = .return) :
      Permits event state ⟨.readyToReturn, "RETURN_WITHDRAWN_DISTANCE", none⟩

/-- The code is a known one of the participant, in the product group. -/
structure Owned (state : KiState) (ownInn : String) : Prop where
  inn : validateOwnerInn ownInn = .ok ()
  group : wrongProductGroup state = false
  owner : state.ownerInn = some ownInn
  statusEx : blankOr state.statusEx state.status

section Ready

variable {event : Event} {state : KiState} {ownInn : String} {o : Outcome}

theorem ne_empty_of_validateOwnerInn (h : validateOwnerInn ownInn = .ok ()) : ownInn ≠ "" := by
  rintro rfl
  revert h
  decide

theorem inCirculation_ready_iff (hstatus : state.status = "IN_CIRCULATION") :
    (decideInCirculation event state = o ∧ o.decision.isReady) ↔ Permits event state o := by
  constructor
  · rintro ⟨rfl, hready⟩
    unfold decideInCirculation at hready ⊢
    split_ifs at hready ⊢ with hreason hreturn hbuyer hevidence <;> try cases hready
    refine .withdraw hstatus hreason ?_ (not_not.mp hbuyer) ?_
    · cases hop : event.operation with
      | sale => rfl
      | «return» => exact absurd hop hreturn
    · intro hgroup
      by_contra hmissing
      exact hevidence ⟨hgroup, hmissing⟩
  · intro h
    cases h with
    | withdraw _ reason operation buyer evidence =>
      refine ⟨?_, rfl⟩
      have hevidence : ¬ (state.productGroup.isSome ∧ ¬ hasSaleReceiptEvidence event) :=
        fun hmissing => hmissing.2 (evidence hmissing.1)
      rw [decideInCirculation, if_neg (not_not.mpr reason), if_neg (by simp [operation]),
        if_neg (not_not.mpr buyer), if_neg hevidence]
    | «return» status => simp [hstatus] at status

theorem withdrawn_ready_iff (hstatus : state.status = "WITHDRAWN") :
    (decideWithdrawn event state = o ∧ o.decision.isReady) ↔ Permits event state o := by
  constructor
  · rintro ⟨rfl, hready⟩
    unfold decideWithdrawn at hready ⊢
    split_ifs at hready ⊢ with hreason hsale <;> try cases hready
    refine .return hstatus (not_not.mp hreason) ?_
    cases hop : event.operation with
    | sale => exact absurd hop hsale
    | «return» => rfl
  · intro h
    cases h with
    | withdraw status => simp [hstatus] at status
    | «return» _ reason operation =>
      refine ⟨?_, rfl⟩
      rw [decideWithdrawn, if_neg (not_not.mpr reason), if_neg (by simp [operation])]

/-- For an owned code the decision depends on its status. -/
theorem decide_of_owned (h : Owned state ownInn) :
    decide event state ownInn =
      .ok (if state.status ≠ "IN_CIRCULATION" ∧ state.status ≠ "WITHDRAWN" then
        ⟨.manualReview, "UNKNOWN_CHZ_STATUS", none⟩
      else if state.status = "IN_CIRCULATION" then decideInCirculation event state
      else decideWithdrawn event state) := by
  have hknown : truthyText state.ownerInn := by
    rw [h.owner]
    simpa [truthyText] using ne_empty_of_validateOwnerInn h.inn
  rw [decide, h.inn]
  simp only
  rw [if_neg (by simp [h.group]), if_neg (not_not.mpr hknown), if_neg (not_not.mpr h.owner)]
  simp only [h.statusEx, not_true_eq_false, if_false]

/-- The decisions to write: an owned code, permitted by its state and the row. -/
theorem decide_ready_iff :
    (decide event state ownInn = .ok o ∧ o.decision.isReady) ↔
      Owned state ownInn ∧ Permits event state o := by
  constructor
  · rintro ⟨hdecide, hready⟩
    unfold decide at hdecide
    cases hinn : validateOwnerInn ownInn with
    | error e => simp [hinn] at hdecide
    | ok _ =>
      simp only [hinn, Except.ok.injEq] at hdecide
      split_ifs at hdecide with hgroup hunknown hother hstatus hstatusEx hcirculation
      all_goals try (subst hdecide; cases hready)
      all_goals
        refine ⟨⟨hinn, by simpa using hgroup, not_not.mp hother, hstatusEx⟩, ?_⟩
      · exact (inCirculation_ready_iff hcirculation).mp ⟨hdecide, hready⟩
      · have hwithdrawn : state.status = "WITHDRAWN" := by
          by_contra hnot
          exact hstatus ⟨hcirculation, hnot⟩
        exact (withdrawn_ready_iff hwithdrawn).mp ⟨hdecide, hready⟩
  · rintro ⟨howned, hpermits⟩
    rw [decide_of_owned howned]
    cases hpermits with
    | withdraw status reason operation buyer evidence =>
      have hready := (inCirculation_ready_iff status).mpr
        (.withdraw status reason operation buyer evidence)
      simp [status, hready.1, Decision.isReady]
    | «return» status reason operation =>
      have hready := (withdrawn_ready_iff status).mpr (.return status reason operation)
      simp [status, hready.1, Decision.isReady]

end Ready

end Wbcz.ControlEngine
