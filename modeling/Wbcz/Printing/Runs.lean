import Wbcz.Printing.Moves

/-!
# Runs of the printing services

The services are called in any order, by any agent and any user of any tenant. A call that was
refused leaves the tables as they were, or as they were when it raised, if its caller commits.
Everything else in the database may change between two calls, but for the rows that only the
services write and for the rows of stored codes and template versions, which stay.
-/

namespace Wbcz.Printing

open Transition (Run)

/-- The calls of the services. -/
inductive PrintingAction where
  | createKeyIntent (bindingId : String) (purpose : IntentPurpose) (userId : ℤ)
  | registerPublicKey (bindingId intentToken : String) (publicKey : List UInt8)
  | authorizeDelivery (jobId itemId : String) (bindingId : Option String)
  | issue (reservationId machineBindingId : String)
  | acknowledge (reservationId machineBindingId payloadSha256 contextSha256 : String)
  | disable (bindingId : String)
  | markRendered (executionId machineBindingId : String) (evidence : SpoolEvidence)
      (renderer decoder : String)
  | beginSpool (executionId machineBindingId : String) (evidence : SpoolEvidence)
  | reportResult (executionId machineBindingId : String) (result : PhysicalResult)
  | observeStatus (executionId machineBindingId : String) (jobId : ℤ)
      (normalizedState : String) (safeErrorCode : Option String)
  | createPrintJob (request : JobRequest)
  | explicitReprintUnknown (executionId : String) (acknowledgeDuplicateRisk : Bool)

/-- A procedure without its value. -/
def discard {α : Type} (x : PrintingTx α) : PrintingTx Unit := do
  let _ ← x
  pure ()

/-- The procedure of a call. -/
def PrintingAction.run (platform : Platform) (session : Session) :
    PrintingAction → PrintingTx Unit
  | createKeyIntent bindingId purpose userId =>
    discard (Printing.createKeyIntent platform session bindingId purpose userId)
  | registerPublicKey bindingId intentToken publicKey =>
    discard (Printing.registerPublicKey platform session bindingId intentToken publicKey)
  | authorizeDelivery jobId itemId bindingId =>
    discard (Printing.authorizeDelivery platform session jobId itemId bindingId)
  | issue reservationId machineBindingId =>
    discard (Printing.issue platform session reservationId machineBindingId)
  | acknowledge reservationId machineBindingId payloadSha256 contextSha256 =>
    Printing.acknowledge platform session reservationId machineBindingId payloadSha256
      contextSha256
  | disable bindingId => Printing.disable session bindingId
  | markRendered executionId machineBindingId evidence renderer decoder =>
    Printing.markRendered platform session executionId machineBindingId evidence renderer decoder
  | beginSpool executionId machineBindingId evidence =>
    Printing.beginSpool platform session executionId machineBindingId evidence
  | reportResult executionId machineBindingId result =>
    Printing.reportResult platform session executionId machineBindingId result
  | observeStatus executionId machineBindingId jobId normalizedState safeErrorCode =>
    Printing.observeStatus platform session executionId machineBindingId jobId normalizedState
      safeErrorCode
  | createPrintJob request => discard (Printing.createPrintJob platform session request)
  | explicitReprintUnknown executionId acknowledgeDuplicateRisk =>
    discard (Printing.explicitReprintUnknown platform session executionId
      acknowledgeDuplicateRisk)

/-- The kinds of moves that a call may make. -/
def PrintingAction.Makes (platform : Platform) : PrintingAction → MoveKind → Prop
  | createKeyIntent .., kind => ∃ intent, kind = .insertIntent intent
  | registerPublicKey bindingId _ publicKey, kind => Registers platform bindingId publicKey kind
  | authorizeDelivery .., kind => Authorizes kind
  | issue .., kind => Issues kind
  | acknowledge .., kind => Acknowledges kind
  | disable bindingId, kind => Disables bindingId kind
  | markRendered .., kind => ∃ execution, kind = .render execution
  | beginSpool .., kind => ∃ execution, kind = .spool execution
  | reportResult _ _ result, kind => Reports result kind
  | observeStatus .., kind => ∃ execution, kind = .observe execution
  | createPrintJob .., kind => ∃ job, kind = .insertJob job
  | explicitReprintUnknown .., kind => ∃ job, kind = .insertJob job

/-- What may change between the calls. -/
structure Surroundings (s s' : PrintingState) : Prop where
  keys : s'.keys = s.keys
  intents : s'.intents = s.intents
  jobs : s'.jobs = s.jobs
  items : s'.items = s.items
  executions : s'.executions = s.executions
  reservations : s'.reservations = s.reservations
  stored : ∀ row ∈ s.stored, row ∈ s'.stored
  versions : ∀ row ∈ s.versions, row ∈ s'.versions

/-- What happens in a step. -/
inductive PrintingLabel where
  | call (session : Session) (action : PrintingAction) (accepted : Bool)
  | surroundings

/-- One call, or a change of the surroundings. -/
inductive PrintingStep (platform : Platform) :
    PrintingState → PrintingLabel → PrintingState → Prop
  | accepted {s s' session action} : action.run platform session s = (.ok (), s') →
      PrintingStep platform s (.call session action true) s'
  | refused {s s₁ s' session action e} : action.run platform session s = (.error e, s₁) →
      s' = s ∨ s' = s₁ → PrintingStep platform s (.call session action false) s'
  | surroundings {s s'} : Surroundings s s' → PrintingStep platform s .surroundings s'

section Steps

variable {platform : Platform} {session : Session} {s s' : PrintingState}
  {action : PrintingAction} {accepted : Bool}

theorem discard_ends {α : Type} {x : PrintingTx α} {Q : PrintingState → Prop}
    (h : Tx.Ends x s fun _ s' => Q s') : Tx.Ends (discard x) s fun _ s' => Q s' := by
  apply Tx.Ends.bind
  exact Tx.Ends.mono h fun _ _ hQ => ⟨fun _ _ => hQ, fun _ _ => hQ⟩

theorem PrintingAction.run_ends (action : PrintingAction) :
    Tx.Ends (action.run platform session) s fun _ s' =>
      Moves platform (action.Makes platform) s s' := by
  cases action with
  | createKeyIntent => exact discard_ends (createKeyIntent_moves _ _ _)
  | registerPublicKey => exact discard_ends (registerPublicKey_moves _ _ _)
  | authorizeDelivery => exact discard_ends (authorizeDelivery_moves _ _ _)
  | issue => exact discard_ends (issue_moves _ _)
  | acknowledge => exact acknowledge_moves _ _ _ _
  | disable => exact disable_moves _
  | markRendered => exact markRendered_moves _ _ _ _ _
  | beginSpool => exact beginSpool_moves _ _ _
  | reportResult => exact reportResult_moves _ _ _
  | observeStatus => exact observeStatus_moves _ _ _ _ _
  | createPrintJob => exact discard_ends (createPrintJob_moves _)
  | explicitReprintUnknown => exact discard_ends (explicitReprintUnknown_moves _ _)

/-- What a call leaves is what its procedure leaves, or the state that it found. -/
theorem PrintingStep.ends {Q : PrintingState → Prop}
    (step : PrintingStep platform s (.call session action accepted) s') (hs : Q s)
    (h : Tx.Ends (action.run platform session) s fun _ s' => Q s') : Q s' := by
  cases step with
  | accepted hrun =>
    rw [Tx.Ends, hrun] at h
    exact h
  | refused hrun hs' =>
    rw [Tx.Ends, hrun] at h
    rcases hs' with rfl | rfl
    · exact hs
    · exact h

/-- A call is a sequence of the moves it may make. -/
theorem PrintingStep.moves (step : PrintingStep platform s (.call session action accepted) s') :
    Moves platform (action.Makes platform) s s' :=
  step.ends .refl action.run_ends

/-- What all moves and the surroundings keep holds along every run. -/
theorem run_invariant {labels : List PrintingLabel} (run : Run (PrintingStep platform) s labels s')
    (inv : PrintingState → Prop) (start : inv s)
    (surroundings : ∀ s s', inv s → Surroundings s s' → inv s')
    (move : ∀ kind s s', inv s → Move platform s kind s' → inv s') : inv s' := by
  refine run.invariant inv start fun label s₁ s₂ hinv step => ?_
  cases label with
  | surroundings =>
    cases step with
    | surroundings h => exact surroundings _ _ hinv h
  | call session action accepted =>
    exact step.moves.invariant inv hinv fun kind s s' _ => move kind s s'

end Steps

end Wbcz.Printing
