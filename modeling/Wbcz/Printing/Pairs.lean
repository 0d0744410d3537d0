import Wbcz.Printing.Runs

/-!
# Executions and their reservations

Every execution has one reservation, made together with it, and every move that touches one of
the two touches the pair in one of a few ways. What holds of every pair follows from these ways
alone.
-/

namespace Wbcz.Printing

open Fallible (bind_eq_ok ensure_eq_ok)

/-- What a report makes of an execution. -/
def resultExecution (result : PhysicalResult) (now : ℤ) : PrintExecution → PrintExecution :=
  match result.state with
  | .spoolJobCreated =>
    createdExecution (result.windowsSpoolJobId.getD 0) result.safeStatus now
  | .failedPreSpool =>
    failedExecution (result.errorCode "PHYSICAL_EXECUTION_FAILED_PRE_SPOOL") now
  | .blocked => blockedExecution (result.errorCode "PHYSICAL_EXECUTION_BLOCKED") now
  | .unknownAfterSpool =>
    unknownExecution result.windowsSpoolJobId result.safeStatus
      (result.errorCode "UNKNOWN_AFTER_SPOOL") now
  | .spoolerAccepted => acceptedExecution result.safeStatus now

theorem key_resultExecution (result : PhysicalResult) (now : ℤ) (row : PrintExecution) :
    (resultExecution result now row).key = row.key := by
  unfold resultExecution
  cases result.state <;> rfl

/-- What a move makes of an execution and its reservation. -/
inductive PairStep (kind : MoveKind) (e : PrintExecution) (r : DeliveryReservation) :
    PrintExecution → DeliveryReservation → Prop
  | same : PairStep kind e r e r
  | withdrawn {code now} : r.Live →
      PairStep kind e r (blockedExecution code now e) (revokedReservation code now r)
  | closed {state code now} : kind = .close r → r.Live → r.Spent now →
      state = .expired ∨ state = .blocked →
      PairStep kind e r e (closedReservation state code r)
  | issued {key contextSha256 now} : kind = .issue r key → r.Live → ¬ r.Spent now →
      PairStep kind e r (movedExecution .payloadIssued e) (issuedReservation contextSha256 now r)
  | refused {code now} : kind = .refuse r → r.state = .issued →
      PairStep kind e r (failedExecution code now e) (closedReservation .blocked code r)
  | delivered {now} : kind = .deliver r → r.state = .issued →
      PairStep kind e r (deliveredExecution now e) (acknowledgedReservation now r)
  | rendered {renderer now} : kind = .render e → e.state = .payloadDelivered →
      r.state = .acknowledged → PairStep kind e r (renderedExecution renderer now e) r
  | submitted {now} : kind = .spool e → e.state = .renderedVerified → r.state = .acknowledged →
      PairStep kind e r (submittingExecution now e) r
  | reported {result now} : kind = .report e result → checkResult e result = .ok () →
      r.state = .acknowledged → PairStep kind e r (resultExecution result now e) r
  | observed {status code} : kind = .observe e →
      PairStep kind e r (observedExecution status code e) r
  | swept {now} : kind = .takeDown e.agentBindingId → e.state ∈ ExecutionState.nonterminal →
      ¬ r.Live → PairStep kind e r (sweptExecution now e) r

/-- An execution that is under way, or has crossed the spool boundary. -/
def Engaged (e : PrintExecution) : Prop :=
  e.state ∈ ExecutionState.nonterminal ∨ e.spoolSubmittingAt ≠ none

/-- The states of an execution before the spool boundary. -/
def unspooledStates : List ExecutionState :=
  [.requested, .authorized, .payloadAvailable, .payloadIssued, .payloadDelivered,
    .renderedVerified]

/-- The states of an execution whose code the agent has received. -/
def receivedStates : List ExecutionState :=
  [.payloadDelivered, .renderedVerified, .spoolSubmitting, .spoolJobCreated, .spoolerAccepted,
    .unknownAfterSpool]

/-- What holds of an execution and its reservation. -/
structure PairInv (e : PrintExecution) (r : DeliveryReservation) : Prop where
  binding : e.agentBindingId = r.agentBindingId
  organisation : e.organisationId = r.organisationId
  participant : e.participantId = r.participantId
  payload : e.payloadSha256 = r.payloadSha256
  live : r.Live → e.state ∈ ExecutionState.preSpoolIssuable
  received : e.state ∈ receivedStates → r.state = .acknowledged
  unspooled : e.state ∈ unspooledStates → e.spoolSubmittingAt = none

/-- The columns of an execution that are written once. -/
structure SameExecution (e e' : PrintExecution) : Prop where
  id : e'.id = e.id
  organisation : e'.organisationId = e.organisationId
  participant : e'.participantId = e.participantId
  job : e'.printJobId = e.printJobId
  item : e'.printJobItemId = e.printJobItemId
  stored : e'.storedFullKmItemId = e.storedFullKmItemId
  version : e'.templateVersionId = e.templateVersionId
  binding : e'.agentBindingId = e.agentBindingId
  attempt : e'.attemptNumber = e.attemptNumber
  payload : e'.payloadSha256 = e.payloadSha256
  layout : e'.layoutSha256 = e.layoutSha256
  profile : e'.printerProfileId = e.printerProfileId
  fingerprint : e'.printerProfileFingerprint = e.printerProfileFingerprint

/-- The columns of a reservation that are written once. -/
structure SameReservation (r r' : DeliveryReservation) : Prop where
  id : r'.id = r.id
  organisation : r'.organisationId = r.organisationId
  participant : r'.participantId = r.participantId
  execution : r'.printExecutionId = r.printExecutionId
  binding : r'.agentBindingId = r.agentBindingId
  encryptionKey : r'.agentEncryptionKeyId = r.agentEncryptionKeyId
  payload : r'.payloadSha256 = r.payloadSha256
  limit : r'.maxIssueCount = r.maxIssueCount
  authorized : r'.authorizedAt = r.authorizedAt
  expires : r'.expiresAt = r.expiresAt

section Pairs

variable {kind : MoveKind} {e e' : PrintExecution} {r r' : DeliveryReservation}

theorem sameExecution_result (result : PhysicalResult) (now : ℤ) :
    SameExecution e (resultExecution result now e) := by
  unfold resultExecution
  cases result.state <;> exact ⟨rfl, rfl, rfl, rfl, rfl, rfl, rfl, rfl, rfl, rfl, rfl, rfl, rfl⟩

theorem sameExecution_swept (now : ℤ) : SameExecution e (sweptExecution now e) := by
  unfold sweptExecution
  split <;> exact ⟨rfl, rfl, rfl, rfl, rfl, rfl, rfl, rfl, rfl, rfl, rfl, rfl, rfl⟩

theorem PairStep.sameExecution (step : PairStep kind e r e' r') : SameExecution e e' := by
  cases step with
  | reported => exact sameExecution_result _ _
  | swept => exact sameExecution_swept _
  | _ => exact ⟨rfl, rfl, rfl, rfl, rfl, rfl, rfl, rfl, rfl, rfl, rfl, rfl, rfl⟩

theorem PairStep.sameReservation (step : PairStep kind e r e' r') : SameReservation r r' := by
  cases step <;> exact ⟨rfl, rfl, rfl, rfl, rfl, rfl, rfl, rfl, rfl, rfl⟩

/-- A reservation that is live was live. -/
theorem PairStep.live (step : PairStep kind e r e' r') (h : r'.Live) : r.Live := by
  cases step with
  | withdrawn => rcases h with h | h <;> cases h
  | closed _ _ _ hstate =>
    rcases hstate with rfl | rfl <;> rcases h with h | h <;> cases h
  | issued _ hlive => exact hlive
  | refused => rcases h with h | h <;> cases h
  | delivered => rcases h with h | h <;> cases h
  | _ => exact h

theorem not_live_of_acknowledged (h : r.state = .acknowledged) : ¬ r.Live := by
  rintro (hlive | hlive)
  · rw [h] at hlive
    cases hlive
  · rw [h] at hlive
    cases hlive

/-- A report never leads back in front of the spool boundary. -/
theorem resultExecution_state (result : PhysicalResult) (now : ℤ) :
    (resultExecution result now e).state ∉ unspooledStates := by
  unfold resultExecution
  cases result.state <;> exact of_decide_eq_false rfl

theorem sweptExecution_state (now : ℤ) :
    (sweptExecution now e).state ∉ unspooledStates ∧
      (sweptExecution now e).spoolSubmittingAt = e.spoolSubmittingAt := by
  unfold sweptExecution
  split <;> exact ⟨of_decide_eq_false rfl, rfl⟩

/-- A report is accepted for an execution that is under way. -/
theorem checkResult_nonterminal {result : PhysicalResult} (h : checkResult e result = .ok ()) :
    e.state ∈ ExecutionState.nonterminal := by
  unfold checkResult at h
  cases hresult : result.state with
  | spoolJobCreated =>
    rw [hresult] at h
    obtain ⟨_, hstate, -⟩ := bind_eq_ok.mp h
    rw [ensure_eq_ok] at hstate
    rcases hstate with hstate | hstate <;> rw [hstate] <;> decide
  | spoolerAccepted =>
    rw [hresult] at h
    obtain ⟨_, hstate, -⟩ := bind_eq_ok.mp h
    rw [ensure_eq_ok] at hstate
    rw [hstate]
    decide
  | failedPreSpool =>
    rw [hresult] at h
    obtain ⟨_, hstate, -⟩ := bind_eq_ok.mp h
    rw [ensure_eq_ok] at hstate
    rcases hstate with hstate | hstate | hstate <;> rw [hstate] <;> decide
  | blocked =>
    rw [hresult] at h
    obtain ⟨_, hstate, -⟩ := bind_eq_ok.mp h
    rw [ensure_eq_ok] at hstate
    rcases hstate with hstate | hstate <;> rw [hstate] <;> decide
  | unknownAfterSpool =>
    rw [hresult] at h
    obtain ⟨_, hstate, -⟩ := bind_eq_ok.mp h
    rw [ensure_eq_ok] at hstate
    rcases hstate with hstate | hstate <;> rw [hstate] <;> decide

/-- An execution that can be issued is under way. -/
theorem nonterminal_of_issuable (h : e.state ∈ ExecutionState.preSpoolIssuable) :
    e.state ∈ ExecutionState.nonterminal := by
  have hsubset : ExecutionState.preSpoolIssuable ⊆ ExecutionState.nonterminal := by decide
  exact hsubset h

/-- An execution that can be issued is before the spool boundary. -/
theorem unspooled_of_issuable (h : e.state ∈ ExecutionState.preSpoolIssuable) :
    e.state ∈ unspooledStates := by
  have hsubset : ExecutionState.preSpoolIssuable ⊆ unspooledStates := by decide
  exact hsubset h

/-- An execution that can be issued waits for its code to be received. -/
theorem not_received_of_issuable (h : e.state ∈ ExecutionState.preSpoolIssuable) :
    e.state ∉ receivedStates := by
  have hdisjoint : ∀ state ∈ ExecutionState.preSpoolIssuable, state ∉ receivedStates := by decide
  exact hdisjoint _ h

/-- The columns of a pair that are written once stay equal. -/
theorem PairInv.same (h : PairInv e r) (he : SameExecution e e') (hr : SameReservation r r')
    (hlive : r'.Live → e'.state ∈ ExecutionState.preSpoolIssuable)
    (hreceived : e'.state ∈ receivedStates → r'.state = .acknowledged)
    (hunspooled : e'.state ∈ unspooledStates → e'.spoolSubmittingAt = none) : PairInv e' r' where
  binding := by rw [he.binding, hr.binding, h.binding]
  organisation := by rw [he.organisation, hr.organisation, h.organisation]
  participant := by rw [he.participant, hr.participant, h.participant]
  payload := by rw [he.payload, hr.payload, h.payload]
  live := hlive
  received := hreceived
  unspooled := hunspooled

theorem PairInv.step (h : PairInv e r) (step : PairStep kind e r e' r') : PairInv e' r' := by
  refine h.same step.sameExecution step.sameReservation ?_ ?_ ?_
  · -- what is live was live, and its execution stays where a code can be issued
    intro hlive
    have hissuable := h.live (step.live hlive)
    cases step with
    | same => exact hissuable
    | withdrawn => rcases hlive with hlive | hlive <;> cases hlive
    | closed => exact hissuable
    | issued => exact List.mem_cons_of_mem _ (List.mem_singleton.mpr rfl)
    | refused => rcases hlive with hlive | hlive <;> cases hlive
    | delivered => rcases hlive with hlive | hlive <;> cases hlive
    | rendered _ _ hack => exact absurd hlive (not_live_of_acknowledged hack)
    | submitted _ _ hack => exact absurd hlive (not_live_of_acknowledged hack)
    | reported _ _ hack => exact absurd hlive (not_live_of_acknowledged hack)
    | observed => exact hissuable
    | swept _ _ hnot => exact absurd hlive hnot
  · intro hreceived
    cases step with
    | same => exact h.received hreceived
    | withdrawn => exact absurd hreceived (of_decide_eq_false rfl)
    | closed _ hlive => exact absurd hreceived (not_received_of_issuable (h.live hlive))
    | issued => exact absurd hreceived (of_decide_eq_false rfl)
    | refused => exact absurd hreceived (of_decide_eq_false rfl)
    | delivered => rfl
    | rendered _ _ hack => exact hack
    | submitted _ _ hack => exact hack
    | reported _ _ hack => exact hack
    | observed => exact h.received hreceived
    | swept =>
      unfold sweptExecution at hreceived
      split at hreceived
      · rename_i hspooled
        refine h.received ?_
        rcases hspooled with hspooled | hspooled <;> rw [hspooled] <;> decide
      · exact absurd hreceived (of_decide_eq_false rfl)
  · intro hunspooled
    cases step with
    | same => exact h.unspooled hunspooled
    | withdrawn => exact absurd hunspooled (of_decide_eq_false rfl)
    | closed => exact h.unspooled hunspooled
    | issued _ hlive => exact h.unspooled (unspooled_of_issuable (h.live hlive))
    | refused => exact absurd hunspooled (of_decide_eq_false rfl)
    | delivered _ hissued => exact h.unspooled (unspooled_of_issuable (h.live (.inr hissued)))
    | rendered _ hstate => exact h.unspooled (by rw [hstate]; decide)
    | submitted => exact absurd hunspooled (of_decide_eq_false rfl)
    | reported => exact absurd hunspooled (resultExecution_state _ _)
    | observed => exact h.unspooled hunspooled
    | swept => exact absurd hunspooled (sweptExecution_state _).1

/-- No execution takes up again what it has ended. -/
theorem PairStep.engaged (h : PairInv e r) (step : PairStep kind e r e' r') (hengaged : Engaged e') :
    Engaged e := by
  cases step with
  | same => exact hengaged
  | withdrawn hlive => exact .inl (nonterminal_of_issuable (h.live hlive))
  | closed => exact hengaged
  | issued _ hlive => exact .inl (nonterminal_of_issuable (h.live hlive))
  | refused _ hissued => exact .inl (nonterminal_of_issuable (h.live (.inr hissued)))
  | delivered _ hissued => exact .inl (nonterminal_of_issuable (h.live (.inr hissued)))
  | rendered _ hstate => exact .inl (by rw [hstate]; decide)
  | submitted _ hstate => exact .inl (by rw [hstate]; decide)
  | reported _ hcheck => exact .inl (checkResult_nonterminal hcheck)
  | observed => exact hengaged
  | swept _ hstate => exact .inl hstate

/-- What has crossed the spool boundary has crossed it for good. -/
theorem PairStep.spooled (step : PairStep kind e r e' r') (h : e.spoolSubmittingAt ≠ none) :
    e'.spoolSubmittingAt ≠ none := by
  cases step with
  | submitted => exact Option.some_ne_none _
  | @reported result =>
    unfold resultExecution
    cases result.state <;> exact h
  | swept =>
    rw [(sweptExecution_state _).2]
    exact h
  | _ => exact h

end Pairs

end Wbcz.Printing
