import Wbcz.Printing.Boundary

/-!
# Executions that wait for their code

An execution that waits for its code has a live reservation, unless `issue` found the reservation
spent: it closes the reservation and leaves the execution where it was. No other call separates
the two.
-/

namespace Wbcz.Printing

open Transition (Run)

/-- Every execution that waits for its code has a live reservation. -/
def Deliverable (s : PrintingState) : Prop :=
  ∀ e ∈ s.executions, e.state ∈ ExecutionState.preSpoolIssuable →
    ∃ r ∈ s.reservations, r.printExecutionId = e.id ∧ r.Live

/-- The live reservation that a call of `issue` finds, and the moment of the call. -/
def issueFinds (platform : Platform) (s : PrintingState) :
    PrintingLabel → Option (DeliveryReservation × ℤ)
  | .call session (.issue reservationId machineBindingId) _ =>
    match issuable platform session s reservationId machineBindingId with
    | .ok r => some (r, session.now)
    | .error _ => none
  | _ => none

/-- A call of `issue` for a live reservation that is too old, or was issued too often. -/
def FindsSpent (platform : Platform) (s : PrintingState) (label : PrintingLabel) : Prop :=
  ∃ r ∈ issueFinds platform s label, r.1.Spent r.2

instance (r : DeliveryReservation) (now : ℤ) : Decidable (r.Spent now) :=
  inferInstanceAs (Decidable (_ ∨ _))

instance (platform : Platform) (s : PrintingState) (label : PrintingLabel) :
    Decidable (FindsSpent platform s label) :=
  inferInstanceAs (Decidable (∃ _ ∈ _, _))

section Deliverable

variable {platform : Platform} {kind : MoveKind} {s s' : PrintingState}
  {e e' : PrintExecution} {r r' : DeliveryReservation}

/-- Only a closure leaves an execution waiting without a live reservation. -/
theorem PairStep.deliverable (step : PairStep kind e r e' r') (hclose : kind ≠ .close r)
    (h : e.state ∈ ExecutionState.preSpoolIssuable → r.Live)
    (hstate : e'.state ∈ ExecutionState.preSpoolIssuable) : r'.Live := by
  cases step with
  | same => exact h hstate
  | withdrawn => exact absurd hstate (of_decide_eq_false rfl)
  | closed hkind => exact absurd hkind hclose
  | issued => exact .inr rfl
  | refused => exact absurd hstate (of_decide_eq_false rfl)
  | delivered => exact absurd hstate (of_decide_eq_false rfl)
  | rendered => exact absurd hstate (of_decide_eq_false rfl)
  | submitted => exact absurd hstate (of_decide_eq_false rfl)
  | reported => exact absurd (unspooled_of_issuable hstate) (resultExecution_state _ _)
  | observed => exact h hstate
  | swept => exact absurd (unspooled_of_issuable hstate) (sweptExecution_state _).1

theorem Move.deliverable (h : DeliveryInv s) (hs : Deliverable s)
    (move : Move platform s kind s') (hclose : ∀ r, kind ≠ .close r) : Deliverable s' := by
  intro e' he' hstate
  rcases move.pairs h with ⟨f, g, hrewritten⟩ | ⟨-, hexecutions, hreservations⟩
  · obtain ⟨e, he, rfl⟩ := (hrewritten.executions e').mp he'
    obtain ⟨r, hr, hid, step⟩ := hrewritten.execution h he
    refine ⟨g r, (hrewritten.reservations _).mpr ⟨r, hr, rfl⟩, ?_, ?_⟩
    · rw [step.sameReservation.execution, step.sameExecution.id, hid]
    · refine step.deliverable (hclose r) (fun hwaits => ?_) hstate
      obtain ⟨r', hr', hid', hlive⟩ := hs e he hwaits
      rwa [h.unique r hr r' hr' (hid.symm.trans hid'.symm)]
  · rcases (Table.mem_insert hexecutions).mp he' with he | rfl
    · obtain ⟨r, hr, hid, hlive⟩ := hs e' he hstate
      exact ⟨r, (Table.mem_insert hreservations).mpr (.inl hr), hid, hlive⟩
    · exact ⟨_, (Table.mem_insert hreservations).mpr (.inr rfl), rfl, .inl rfl⟩

theorem findsSpent_iff {session : Session} {reservationId machineBindingId : String}
    {accepted : Bool} :
    FindsSpent platform s (.call session (.issue reservationId machineBindingId) accepted) ↔
      ∃ r, issuable platform session s reservationId machineBindingId = .ok r ∧
        r.Spent session.now := by
  unfold FindsSpent issueFinds
  cases hissuable : issuable platform session s reservationId machineBindingId with
  | ok r => simp [hissuable]
  | error e => simp [hissuable]

/-- The calls other than `issue` close no reservation. -/
theorem PrintingAction.not_close {action : PrintingAction}
    (haction : ∀ reservationId machineBindingId, action ≠ .issue reservationId machineBindingId)
    (hkind : action.Makes platform kind) : kind ≠ .close r := by
  rintro rfl
  cases action with
  | issue => exact haction _ _ rfl
  | registerPublicKey =>
    rcases hkind with (⟨_, h⟩ | ⟨_, h⟩) | ⟨_, h⟩ | ⟨_, h, -⟩ | ⟨_, h⟩ | ⟨_, h⟩ <;> cases h
  | authorizeDelivery => rcases hkind with (⟨_, h⟩ | ⟨_, h⟩) | ⟨_, _, h⟩ <;> cases h
  | acknowledge => rcases hkind with ⟨_, h⟩ | ⟨_, h⟩ <;> cases h
  | disable => rcases hkind with h | ⟨_, h⟩ | h <;> cases h
  | reportResult => rcases hkind with ⟨_, h⟩ | ⟨_, h⟩ | ⟨_, h⟩ <;> cases h
  | _ =>
    obtain ⟨_, h⟩ := hkind
    cases h

/-- A step that finds no spent reservation keeps executions deliverable. -/
theorem PrintingStep.deliverable {label : PrintingLabel} (h : DeliveryInv s)
    (hs : Deliverable s) (step : PrintingStep platform s label s')
    (hspent : ¬ FindsSpent platform s label) : Deliverable s' := by
  cases label with
  | surroundings =>
    cases step with
    | surroundings around =>
      rw [Deliverable, around.executions, around.reservations]
      exact hs
  | call session action accepted =>
    by_cases haction : ∃ reservationId machineBindingId,
        action = .issue reservationId machineBindingId
    · obtain ⟨reservationId, machineBindingId, rfl⟩ := haction
      refine step.ends hs (discard_ends ?_)
      refine Tx.Ends.mono (issue_ends reservationId machineBindingId) fun _ s₁ hissued => ?_
      cases hissued with
      | refused _ hsame => rwa [hsame]
      | closed r hissuable hr => exact absurd (findsSpent_iff.mpr ⟨r, hissuable, hr⟩) hspent
      | issued _ _ _ _ _ _ hmove => exact hmove.deliverable h hs fun _ => MoveKind.noConfusion
    · have hmoves := step.moves.invariant (fun t => DeliveryInv t ∧ Deliverable t) ⟨h, hs⟩ ?_
      · exact hmoves.2
      · rintro kind t t' hkind ⟨ht, hdeliverable⟩ move
        refine ⟨ht.move move, move.deliverable ht hdeliverable fun r => ?_⟩
        exact PrintingAction.not_close (fun i b h => haction ⟨i, b, h⟩) hkind

/-- `issue` closes a reservation that it finds spent, and does nothing else. -/
theorem issue_of_spent {session : Session} {reservationId machineBindingId : String}
    (hissuable : issuable platform session s reservationId machineBindingId = .ok r)
    (hspent : r.Spent session.now) :
    Tx.Ends (issue platform session reservationId machineBindingId) s fun _ s' =>
      ∃ state code, (state = .expired ∨ state = .blocked) ∧
        s' = s.closeReservation r.id state code := by
  apply Tx.Ends.get
  apply Tx.Ends.read
  · intro e herror
    rw [hissuable] at herror
    cases herror
  intro found hfound
  rw [hissuable] at hfound
  cases hfound
  apply Tx.Ends.bind
  unfold closeSpent
  split
  · apply Tx.Ends.write
    exact Tx.Ends.raise ⟨fun _ _ => ⟨.expired, _, .inl rfl, rfl⟩, fun _ h => by cases h⟩
  · split
    · apply Tx.Ends.write
      exact Tx.Ends.raise ⟨fun _ _ => ⟨.blocked, _, .inr rfl, rfl⟩, fun _ h => by cases h⟩
    · rename_i hexpired hlimit
      exact absurd hspent (not_or.mpr ⟨hexpired, hlimit⟩)

/-- A call of `issue` that finds a spent reservation leaves its execution waiting without one. -/
theorem not_deliverable_of_spent {session : Session} {reservationId machineBindingId : String}
    (h : DeliveryInv s)
    (hissuable : issuable platform session s reservationId machineBindingId = .ok r)
    (hspent : r.Spent session.now) :
    ¬ Deliverable (issue platform session reservationId machineBindingId s).2 := by
  obtain ⟨hr, -, -, hlive⟩ := issuable_spec hissuable
  obtain ⟨state, code, hstate, hissue⟩ := issue_of_spent hissuable hspent
  obtain ⟨e, he, hid⟩ := h.execution r hr
  rw [hissue]
  intro hdeliverable
  obtain ⟨r', hr', hid', hlive'⟩ := hdeliverable e he ((h.pair e he r hr hid).live hlive)
  simp only [PrintingState.closeReservation, Table.mem_modify_iff_exists] at hr'
  obtain ⟨r₀, hr₀, rfl⟩ := hr'
  -- the only reservation of the execution is the one that was closed
  have hexecution : r₀.printExecutionId = e.id := by
    rw [← hid']
    split <;> rfl
  have hsame : r₀ = r := h.unique r₀ hr₀ r hr (hexecution.trans hid)
  rw [hsame, if_pos rfl] at hlive'
  rcases hstate with rfl | rfl <;> rcases hlive' with hlive' | hlive' <;> cases hlive'

/-- In every run in which `issue` finds no spent reservation, every execution that waits for its
code has a live reservation; and from every state of a run, a call of `issue` that does find one
leaves an execution that has none. -/
theorem deliverable_iff_unspent (platform : Platform) :
    (∀ labels s, Run (fun s label s' => PrintingStep platform s label s' ∧
        ¬ FindsSpent platform s label) .initial labels s → Deliverable s) ∧
      ∀ labels s session reservationId machineBindingId accepted,
        Run (PrintingStep platform) .initial labels s →
        FindsSpent platform s
          (.call session (.issue reservationId machineBindingId) accepted) →
        ¬ Deliverable (issue platform session reservationId machineBindingId s).2 := by
  constructor
  · intro labels s run
    have hrun := run.invariant (fun t => DeliveryInv t ∧ Deliverable t)
      ⟨deliveryInv_initial, fun _ he => absurd he Table.not_mem_empty⟩ ?_
    · exact hrun.2
    · rintro label t t' ⟨ht, hdeliverable⟩ ⟨step, hspent⟩
      exact ⟨step.deliveryInv ht, step.deliverable ht hdeliverable hspent⟩
  · intro labels s session reservationId machineBindingId accepted run hspent
    obtain ⟨r, hissuable, hspent⟩ := findsSpent_iff.mp hspent
    exact not_deliverable_of_spent (run_deliveryInv run) hissuable hspent

/-- A label that is authorised, and issued in time. -/
def sampleIssueCalls (now : ℤ) : List (Session × PrintingAction) :=
  sampleKeyCalls ++ [(sampleSession 4 "execution", .authorizeDelivery "job0" "job1" none),
    (sampleSession now "", .issue "execution1" "binding")]

theorem deliverable_iff_unspent_sample :
    Deliverable (after samplePlatform sampleTables (sampleIssueCalls 5)) ∧
      (∃ e ∈ (after samplePlatform sampleTables (sampleIssueCalls 5)).executions,
        e.state = .payloadIssued) := by
  have hcalls : within samplePlatform (fun s label => ¬ FindsSpent samplePlatform s label)
      sampleTables (sampleIssueCalls 5) = true := by decide +kernel
  have htables : Run (fun s label s' => PrintingStep samplePlatform s label s' ∧
      ¬ FindsSpent samplePlatform s label) .initial [.surroundings] sampleTables := by
    refine .single ⟨.surroundings sampleTables_around, ?_⟩
    rintro ⟨_, hfound, -⟩
    cases hfound
  exact ⟨(deliverable_iff_unspent samplePlatform).1 _ _ (htables.append (run_within hcalls)),
    by decide +kernel⟩

/-- A reservation that expires before it is issued leaves its execution waiting for good. -/
theorem not_deliverable_expired :
    ¬ ∀ platform labels s, Run (PrintingStep platform) .initial labels s → Deliverable s := by
  intro h
  have hdeliverable := h samplePlatform _ _
    (sampleTables_run.append (run_after _ _ (sampleIssueCalls 600000004)))
  have hwaits : ∃ e ∈ (after samplePlatform sampleTables (sampleIssueCalls 600000004)).executions,
      e.state = .payloadAvailable := by decide +kernel
  have hnone : ∀ r ∈ (after samplePlatform sampleTables
      (sampleIssueCalls 600000004)).reservations, ¬ r.Live := by decide +kernel
  obtain ⟨e, he, hstate⟩ := hwaits
  obtain ⟨r, hr, -, hlive⟩ := hdeliverable e he (by rw [hstate]; decide)
  exact hnone r hr hlive

end Deliverable

end Wbcz.Printing
