import Mathlib.Data.List.Basic

/-!
# Events, normalized states and control decisions

The values of `models.py` that the control engine reads and produces. An event keeps
the fields the engine looks at; its moment is opaque, only its presence counts.
-/

namespace Wbcz

/-- What a marketplace row reports about a code. -/
inductive Operation where
  | sale
  | «return»
  deriving DecidableEq, Repr

/-- What the control engine concludes. -/
inductive Decision where
  | readyToWithdraw
  | readyToReturn
  | alreadyDone
  | noAction
  | manualReview
  | error
  deriving DecidableEq, Repr

namespace Decision

/-- The stored text of a decision. -/
def value : Decision → String
  | readyToWithdraw => "READY_TO_WITHDRAW"
  | readyToReturn => "READY_TO_RETURN"
  | alreadyDone => "ALREADY_DONE"
  | noAction => "NO_ACTION"
  | manualReview => "MANUAL_REVIEW"
  | error => "ERROR"

/-- The decisions that permit a write. -/
def isReady : Decision → Bool
  | readyToWithdraw | readyToReturn => true
  | _ => false

end Decision

/-- The fields of an imported row that a decision depends on. -/
structure Event where
  kiz : String
  operation : Operation
  occurredAt : Option String
  receiptNumber : Option String
  legalEntitySale : Option Bool
  deriving DecidableEq, Repr

/-- The normalized state of a code. -/
structure KiState where
  status : String
  statusEx : Option String := none
  withdrawReason : Option String := none
  ownerInn : Option String := none
  productGroup : Option String := none
  deriving DecidableEq, Repr

/-- A decision with its reason. -/
structure Outcome where
  decision : Decision
  reason : String
  error : Option String := none
  deriving DecidableEq, Repr

end Wbcz
