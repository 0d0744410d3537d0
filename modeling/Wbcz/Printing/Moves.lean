import Mathlib.Data.List.MinMax
import Mathlib.Tactic.Common
import Wbcz.Lib.Transition
import Wbcz.Printing.Spool

/-!
# What the services of printing do to the tables

Every method of the services is a sequence of a few moves, whatever it ends with: it may raise
after some of them, and its caller may commit what it wrote. Each move carries the conditions
under which it is made. Everything about runs is derived from the moves.
-/

namespace Wbcz.Printing

open Fallible (ensure found bind_eq_ok ensure_eq_ok found_eq_ok)
open Transition (Run)

/-- A new execution is made from rows that belong together. -/
structure Authorized (platform : Platform) (session : Session) (s : PrintingState)
    (target : Authorization) (graph : AuthorizationGraph) : Prop where
  graph : authorizationGraph platform session s target = .ok graph
  job : jobOf session s target.job.id = some target.job
  item : itemOf session s target.item.id target.job.id = some target.item
  ready : target.job.state = .readyForAgent
  pending : target.item.state = .pending

/-- The kinds of moves, with what they are about. -/
inductive MoveKind where
  | insertIntent (intent : KeyIntent)
  | expireIntent (intent : KeyIntent)
  | useIntent (intent : KeyIntent)
  | retireKey (key : EncryptionKey)
  | revokeKey (keyId : String)
  | insertKey (key : EncryptionKey)
  | withdraw (keyId : String)
  | authorize (execution : PrintExecution) (reservation : DeliveryReservation)
  | close (reservation : DeliveryReservation)
  | issue (reservation : DeliveryReservation) (key : EncryptionKey)
  | refuse (reservation : DeliveryReservation)
  | deliver (reservation : DeliveryReservation)
  | render (execution : PrintExecution)
  | spool (execution : PrintExecution)
  | report (execution : PrintExecution) (result : PhysicalResult)
  | complete (job : PrintJob)
  | observe (execution : PrintExecution)
  | takeDown (bindingId : String)
  | disableBinding (bindingId : String)
  | insertJob (job : PrintJob)
  | insertEvent (event : PrintEvent)

/-- A reservation that `issue` closes. -/
def DeliveryReservation.Spent (reservation : DeliveryReservation) (now : ℤ) : Prop :=
  reservation.expiresAt ≤ now ∨ reservation.maxIssueCount ≤ reservation.issueCount

/-- The key may receive what the reservation holds. -/
structure Receives (s : PrintingState) (reservation : DeliveryReservation)
    (key : EncryptionKey) : Prop where
  mem : key ∈ s.keys
  id : key.id = reservation.agentEncryptionKeyId
  binding : key.agentBindingId = reservation.agentBindingId
  state : key.state ≠ .revoked
  retiring : key.state = .retiring →
    ∃ moment, key.retiringAt = some moment ∧ reservation.authorizedAt ≤ moment

/-- The moves. -/
inductive Move (platform : Platform) : PrintingState → MoveKind → PrintingState → Prop
  | insertIntent {s intent intents} : intent.state = .pending →
      (∀ row ∈ s.intents.rows, row.tokenHash ≠ intent.tokenHash) →
      s.intents.insert intent = some intents →
      Move platform s (.insertIntent intent) { s with intents := intents }
  | expireIntent {s intent} : intent ∈ s.intents → intent.state = .pending →
      Move platform s (.expireIntent intent) (s.moveIntent intent.id .expired intent.usedAt)
  | useIntent {s intent usedAt} : intent ∈ s.intents → intent.state = .pending →
      Move platform s (.useIntent intent) (s.moveIntent intent.id .used usedAt)
  | retireKey {s key now} : key ∈ s.keys → key.state = .active →
      Move platform s (.retireKey key) (s.retireKey key.id now)
  | revokeKey {s keyId now} :
      (∀ row ∈ s.reservations, row.Live → row.agentEncryptionKeyId ≠ keyId) →
      Move platform s (.revokeKey keyId) (s.revokeKey keyId now)
  | insertKey {s key keys} : key.state = .active → keyConflicts s key = false →
      key.keyVersion = highestVersion s key.agentBindingId + 1 → s.keys.insert key = some keys →
      Move platform s (.insertKey key) { s with keys := keys }
  | withdraw {s keyId code now} :
      Move platform s (.withdraw keyId) (s.revokeKeyReservations keyId code now)
  | authorize {s session target graph executions reservations} :
      Authorized platform session s target graph →
      s.executions.insert (newExecution session s target graph) = some executions →
      s.reservations.insert (newReservation platform session target graph) = some reservations →
      Move platform s
        (.authorize (newExecution session s target graph)
          (newReservation platform session target graph))
        { s with executions := executions, reservations := reservations }
  | close {s reservation state code now} : reservation ∈ s.reservations → reservation.Live →
      reservation.Spent now → (state = .expired ∨ state = .blocked) →
      Move platform s (.close reservation) (s.closeReservation reservation.id state code)
  | issue {s reservation execution key now contextSha256} : reservation ∈ s.reservations →
      reservation.Live → ¬ reservation.Spent now → execution ∈ s.executions →
      execution.id = reservation.printExecutionId →
      execution.state ∈ ExecutionState.preSpoolIssuable → Receives s reservation key →
      Move platform s (.issue reservation key)
        (s.issueReservation reservation execution.id contextSha256 now)
  | refuse {s reservation execution now} : reservation ∈ s.reservations →
      reservation.state = .issued → execution ∈ s.executions →
      execution.id = reservation.printExecutionId →
      Move platform s (.refuse reservation) (s.refuseDelivery reservation execution.id now)
  | deliver {s reservation execution now} : reservation ∈ s.reservations →
      reservation.state = .issued → execution ∈ s.executions →
      execution.id = reservation.printExecutionId →
      Move platform s (.deliver reservation) (s.deliver reservation execution.id now)
  | render {s session executionId bindingId evidence renderer decoder execution rows} :
      renderable platform session s executionId bindingId evidence renderer decoder =
        .ok (execution, rows) →
      Move platform s (.render execution)
        ((s.moveExecution execution.id (renderedExecution renderer session.now)
          (key_renderedExecution _ _)).moveItem rows.item.id .rendered rows.item.errorCode)
  | spool {s session executionId bindingId evidence execution} :
      spoolable platform session s executionId bindingId evidence = .ok execution →
      Move platform s (.spool execution)
        (s.moveExecution execution.id (submittingExecution session.now)
          (key_submittingExecution _))
  | report {s session executionId bindingId result execution rows} :
      reportable platform session s executionId bindingId result = .ok (execution, rows) →
      Move platform s (.report execution result)
        (s.applyResult execution.id rows.item.id rows.job.id result session.now)
  | complete {s session job} : jobOf session s job.id = some job →
      (∀ item ∈ s.items, item.printJobId = job.id →
        session.owns item.organisationId item.participantId = true → item.state = .completed) →
      Move platform s (.complete job) (s.moveJob job.id .completed)
  | observe {s execution status code} : execution ∈ s.executions →
      Move platform s (.observe execution)
        (s.moveExecution execution.id (observedExecution status code) (key_observedExecution _ _))
  | takeDown {s bindingId now} :
      Move platform s (.takeDown bindingId)
        ((s.withdraw ((liveKeys s bindingId).map EncryptionKey.id) unrenderedStates
          "AGENT_BINDING_DISABLED" now).sweepExecutions bindingId now)
  | disableBinding {s bindingId} :
      Move platform s (.disableBinding bindingId)
        { s with bindings := s.bindings.modify bindingId disabledBinding key_disabledBinding }
  | insertJob {s session job request version stored jobs items events} :
      jobContents platform session s request = .ok (version, stored) →
      job = newJob platform session request version stored.length →
      s.jobs.insert job = some jobs →
      insertItems platform session job s.items 0 stored = .ok items →
      Move platform s (.insertJob job) { s with jobs := jobs, items := items, events := events }
  | insertEvent {s event events} : s.events.insert event = some events →
      Move platform s (.insertEvent event) { s with events := events }

/-- Moves of the kinds `A` lead from `s` to `s'`. -/
def Moves (platform : Platform) (A : MoveKind → Prop) (s s' : PrintingState) : Prop :=
  ∃ kinds, Run (Move platform) s kinds s' ∧ ∀ kind ∈ kinds, A kind

section Moves

variable {platform : Platform} {A B : MoveKind → Prop} {s s' s'' : PrintingState}
  {kind : MoveKind}

theorem Moves.refl : Moves platform A s s := ⟨[], .nil, by simp⟩

theorem Moves.single (h : Move platform s kind s') (hA : A kind) : Moves platform A s s' :=
  ⟨[kind], .single h, by simpa using hA⟩

theorem Moves.trans (h : Moves platform A s s') (h' : Moves platform A s' s'') :
    Moves platform A s s'' := by
  obtain ⟨kinds, hrun, hkinds⟩ := h
  obtain ⟨kinds', hrun', hkinds'⟩ := h'
  refine ⟨kinds ++ kinds', hrun.append hrun', fun kind hkind => ?_⟩
  rcases List.mem_append.mp hkind with hkind | hkind
  · exact hkinds kind hkind
  · exact hkinds' kind hkind

theorem Moves.step (h : Moves platform A s s') (hmove : Move platform s' kind s'')
    (hA : A kind) : Moves platform A s s'' :=
  h.trans (.single hmove hA)

theorem Moves.mono (h : Moves platform A s s') (hAB : ∀ kind, A kind → B kind) :
    Moves platform B s s' := by
  obtain ⟨kinds, hrun, hkinds⟩ := h
  exact ⟨kinds, hrun, fun kind hkind => hAB kind (hkinds kind hkind)⟩

/-- What every move keeps, a sequence of moves keeps. -/
theorem Moves.invariant (h : Moves platform A s s') (inv : PrintingState → Prop) (start : inv s)
    (preserve : ∀ kind s s', A kind → inv s → Move platform s kind s' → inv s') : inv s' := by
  obtain ⟨kinds, hrun, hkinds⟩ := h
  induction hrun with
  | nil => exact start
  | snoc hrun hmove ih =>
    have hlast := hkinds _ (List.mem_append_right _ (List.mem_singleton.mpr rfl))
    exact preserve _ _ _ hlast (ih fun kind hkind => hkinds kind (List.mem_append_left _ hkind))
      hmove

end Moves

/-! ## What the checks find -/

section Checks

variable {platform : Platform} {session : Session} {s : PrintingState}

theorem activeKey_spec {bindingId : String} {key : EncryptionKey}
    (h : activeKey session s bindingId = some key) :
    key ∈ s.keys ∧ key.agentBindingId = bindingId ∧ key.state = .active ∧
      session.owns key.organisationId key.participantId = true := by
  have hkey := List.find?_some h
  simp only [Bool.and_eq_true, decide_eq_true_eq] at hkey
  obtain ⟨⟨hbinding, howner⟩, hstate⟩ := hkey
  exact ⟨List.mem_of_find?_eq_some h, hbinding, hstate, howner⟩

theorem executionOf_spec {executionId : String} {execution : PrintExecution}
    (h : executionOf session s executionId = some execution) :
    execution ∈ s.executions ∧ execution.id = executionId ∧
      session.owns execution.organisationId execution.participantId = true := by
  obtain ⟨hfind, howner⟩ := Option.filter_eq_some_iff.mp h
  exact ⟨Table.mem_of_find? hfind, Table.key_of_find? hfind, howner⟩

theorem reservationOf_spec {reservationId : String} {reservation : DeliveryReservation}
    (h : reservationOf session s reservationId = some reservation) :
    reservation ∈ s.reservations ∧ reservation.id = reservationId ∧
      session.owns reservation.organisationId reservation.participantId = true := by
  obtain ⟨hfind, howner⟩ := Option.filter_eq_some_iff.mp h
  exact ⟨Table.mem_of_find? hfind, Table.key_of_find? hfind, howner⟩

theorem intentOf_spec {binding : AgentBinding} {token : String} {intent : KeyIntent}
    (h : intentOf platform session s binding token = .ok intent) :
    intent ∈ s.intents ∧ intent.tokenHash = intentHash platform token ∧
      intent.state = .pending := by
  obtain ⟨found, hfound, h⟩ := bind_eq_ok.mp h
  obtain ⟨-, -, h⟩ := bind_eq_ok.mp h
  obtain ⟨_, hpending, h⟩ := bind_eq_ok.mp h
  cases h
  rw [found_eq_ok] at hfound
  rw [ensure_eq_ok] at hpending
  have htoken := List.find?_some hfound
  rw [decide_eq_true_eq] at htoken
  exact ⟨List.mem_of_find?_eq_some hfound, htoken, hpending⟩

theorem issuable_spec {reservationId bindingId : String} {reservation : DeliveryReservation}
    (h : issuable platform session s reservationId bindingId = .ok reservation) :
    reservation ∈ s.reservations ∧ reservation.id = reservationId ∧
      reservation.agentBindingId = bindingId ∧ reservation.Live := by
  obtain ⟨-, -, h⟩ := bind_eq_ok.mp h
  obtain ⟨found, hfound, h⟩ := bind_eq_ok.mp h
  obtain ⟨_, hbinding, h⟩ := bind_eq_ok.mp h
  obtain ⟨_, hlive, h⟩ := bind_eq_ok.mp h
  cases h
  rw [found_eq_ok] at hfound
  rw [ensure_eq_ok] at hbinding hlive
  obtain ⟨hmem, hid, -⟩ := reservationOf_spec hfound
  exact ⟨hmem, hid, hbinding, hlive⟩

theorem validBinding_id {bindingId : String} {binding : AgentBinding}
    (h : validBinding platform session s bindingId = .ok binding) : binding.id = bindingId := by
  obtain ⟨found, hfound, h⟩ := bind_eq_ok.mp h
  obtain ⟨-, -, h⟩ := bind_eq_ok.mp h
  cases h
  rw [bindingOf, found_eq_ok] at hfound
  exact Table.key_of_find? (Option.filter_eq_some_iff.mp hfound).1

theorem recipientKey_spec {reservation : DeliveryReservation} {binding : AgentBinding}
    {key : EncryptionKey} (hbinding : binding.id = reservation.agentBindingId)
    (h : recipientKey session s reservation binding = .ok key) : Receives s reservation key := by
  obtain ⟨found, hfound, h⟩ := bind_eq_ok.mp h
  obtain ⟨_, hstate, h⟩ := bind_eq_ok.mp h
  obtain ⟨_, hretiring, h⟩ := bind_eq_ok.mp h
  cases h
  rw [found_eq_ok, Option.filter_eq_some_iff] at hfound
  rw [ensure_eq_ok] at hstate hretiring
  obtain ⟨hfind, howner⟩ := hfound
  simp only [Bool.and_eq_true, decide_eq_true_eq] at howner
  refine ⟨Table.mem_of_find? hfind, Table.key_of_find? hfind, howner.1.trans hbinding, ?_, ?_⟩
  · intro hrevoked
    rw [hrevoked] at hstate
    rcases hstate with hstate | hstate <;> cases hstate
  · intro hr
    have hany := hretiring hr
    rw [Option.any_eq_true] at hany
    obtain ⟨moment, hmoment, hle⟩ := hany
    exact ⟨moment, hmoment, of_decide_eq_true hle⟩

/-- What `issue` finds before it seals an envelope. -/
theorem sealedDelivery_spec {reservation : DeliveryReservation} {bindingId : String}
    {execution : PrintExecution} {key : EncryptionKey} {envelope : Envelope}
    (hbinding : reservation.agentBindingId = bindingId)
    (h : sealedDelivery platform session s reservation bindingId =
      .ok (execution, key, envelope)) :
    execution ∈ s.executions ∧ execution.id = reservation.printExecutionId ∧
      execution.state ∈ ExecutionState.preSpoolIssuable ∧ Receives s reservation key ∧
      ∃ plaintext, platform.sha256 plaintext = reservation.payloadSha256 ∧
        sealFullKm platform key plaintext (deliveryContext reservation execution key) =
          .ok envelope := by
  obtain ⟨found, hfound, h⟩ := bind_eq_ok.mp h
  obtain ⟨_, hstate, h⟩ := bind_eq_ok.mp h
  obtain ⟨binding, hvalid, h⟩ := bind_eq_ok.mp h
  obtain ⟨recipient, hkey, h⟩ := bind_eq_ok.mp h
  obtain ⟨⟨item, stored⟩, -, h⟩ := bind_eq_ok.mp h
  obtain ⟨-, -, h⟩ := bind_eq_ok.mp h
  obtain ⟨-, -, h⟩ := bind_eq_ok.mp h
  obtain ⟨-, -, h⟩ := bind_eq_ok.mp h
  obtain ⟨plaintext, -, h⟩ := bind_eq_ok.mp h
  obtain ⟨_, hplaintext, h⟩ := bind_eq_ok.mp h
  obtain ⟨sealedEnvelope, hseal, h⟩ := bind_eq_ok.mp h
  cases h
  rw [found_eq_ok, Option.filter_eq_some_iff] at hfound
  rw [ensure_eq_ok] at hstate hplaintext
  obtain ⟨hmem, hid, -⟩ := executionOf_spec hfound.1
  have hreceives := recipientKey_spec ((validBinding_id hvalid).trans hbinding.symm) hkey
  exact ⟨hmem, hid, hstate, hreceives, plaintext, hplaintext, hseal⟩

theorem acknowledgeable_spec {reservationId bindingId : String}
    {reservation : DeliveryReservation}
    (h : acknowledgeable platform session s reservationId bindingId = .ok reservation) :
    reservation ∈ s.reservations ∧ reservation.id = reservationId := by
  obtain ⟨-, -, h⟩ := bind_eq_ok.mp h
  rw [found_eq_ok, Option.filter_eq_some_iff] at h
  obtain ⟨hmem, hid, -⟩ := reservationOf_spec h.1
  exact ⟨hmem, hid⟩

theorem awaitedExecution_spec {reservation : DeliveryReservation} {bindingId : String}
    {execution : PrintExecution}
    (h : awaitedExecution s reservation bindingId = .ok execution) :
    reservation.state = .issued ∧ execution ∈ s.executions ∧
      execution.id = reservation.printExecutionId := by
  obtain ⟨_, hstate, h⟩ := bind_eq_ok.mp h
  rw [found_eq_ok, Option.filter_eq_some_iff] at h
  rw [ensure_eq_ok] at hstate
  exact ⟨hstate, Table.mem_of_find? h.1, Table.key_of_find? h.1⟩

theorem reportedExecution_spec {executionId bindingId : String} {execution : PrintExecution}
    (h : reportedExecution platform session s executionId bindingId = .ok execution) :
    execution ∈ s.executions ∧ execution.id = executionId ∧
      session.owns execution.organisationId execution.participantId = true := by
  obtain ⟨-, -, h⟩ := bind_eq_ok.mp h
  obtain ⟨-, -, h⟩ := bind_eq_ok.mp h
  rw [found_eq_ok] at h
  exact executionOf_spec h

theorem renderable_spec {executionId bindingId renderer decoder : String}
    {evidence : SpoolEvidence} {execution : PrintExecution} {rows : PhysicalGraph}
    (h : renderable platform session s executionId bindingId evidence renderer decoder =
      .ok (execution, rows)) :
    reportedExecution platform session s executionId bindingId = .ok execution ∧
      execution.state = .payloadDelivered ∧ graph platform session s execution = .ok rows := by
  obtain ⟨reported, hreported, h⟩ := bind_eq_ok.mp h
  obtain ⟨_, hstate, h⟩ := bind_eq_ok.mp h
  obtain ⟨found, hgraph, h⟩ := bind_eq_ok.mp h
  obtain ⟨-, -, h⟩ := bind_eq_ok.mp h
  obtain ⟨-, -, h⟩ := bind_eq_ok.mp h
  cases h
  rw [ensure_eq_ok] at hstate
  exact ⟨hreported, hstate.2, hgraph⟩

theorem spoolable_spec {executionId bindingId : String} {evidence : SpoolEvidence}
    {execution : PrintExecution}
    (h : spoolable platform session s executionId bindingId evidence = .ok execution) :
    reportedExecution platform session s executionId bindingId = .ok execution ∧
      execution.state = .renderedVerified ∧
      ∃ rows, graph platform session s execution = .ok rows := by
  obtain ⟨reported, hreported, h⟩ := bind_eq_ok.mp h
  obtain ⟨_, hstate, h⟩ := bind_eq_ok.mp h
  obtain ⟨found, hgraph, h⟩ := bind_eq_ok.mp h
  obtain ⟨-, -, h⟩ := bind_eq_ok.mp h
  cases h
  rw [ensure_eq_ok] at hstate
  exact ⟨hreported, hstate.2, found, hgraph⟩

theorem observable_spec {executionId bindingId : String} {jobId : ℤ}
    {execution : PrintExecution}
    (h : observable platform session s executionId bindingId jobId = .ok execution) :
    execution ∈ s.executions := by
  obtain ⟨found, hfound, h⟩ := bind_eq_ok.mp h
  obtain ⟨-, -, h⟩ := bind_eq_ok.mp h
  obtain ⟨-, -, h⟩ := bind_eq_ok.mp h
  cases h
  exact (reportedExecution_spec hfound).1

end Checks

/-! ## The moves of the methods -/

section Methods

variable {platform : Platform} {session : Session} {s : PrintingState}

/-- Recording an event leaves the tables alone. -/
theorem record_ends {eventType subjectId eventKey : String}
    {Q : Except PyError Unit → PrintingState → Prop} (h : ∀ r, Q r s) :
    Tx.Ends (session.record eventType subjectId eventKey) s Q := h _

theorem insertIntent_ends {intent : KeyIntent} (hpending : intent.state = .pending) :
    Tx.Ends (insertIntent intent) s fun _ s' =>
      Moves platform (fun kind => kind = .insertIntent intent) s s' := by
  apply Tx.Ends.get
  apply Tx.Ends.read fun _ _ => .refl
  intro _ hnew
  apply Tx.Ends.read fun _ _ => .refl
  intro intents hinsert
  rw [ensure_eq_ok] at hnew
  rw [found_eq_ok] at hinsert
  exact .single (.insertIntent hpending hnew hinsert) rfl

theorem createKeyIntent_moves (bindingId : String) (purpose : IntentPurpose) (userId : ℤ) :
    Tx.Ends (createKeyIntent platform session bindingId purpose userId) s fun _ s' =>
      Moves platform (fun kind => ∃ intent, kind = .insertIntent intent) s s' := by
  apply Tx.Ends.get
  apply Tx.Ends.read fun _ _ => .refl
  intro binding _
  apply Tx.Ends.read fun _ _ => .refl
  intro _ _
  apply Tx.Ends.bind
  apply Tx.Ends.mono (@insertIntent_ends platform _ _ rfl)
  intro r s' hmoves
  have hmoves' : Moves platform (fun kind => ∃ intent, kind = .insertIntent intent) s s' :=
    hmoves.mono fun kind hkind => ⟨_, hkind⟩
  exact ⟨fun _ _ => hmoves', fun _ _ => hmoves'⟩

theorem mem_withdraw {keyIds : List String} {stoppable : List ExecutionState} {code : String}
    {now : ℤ} {row : DeliveryReservation} :
    row ∈ (s.withdraw keyIds stoppable code now).reservations ↔
      ∃ old ∈ s.reservations, withdrawnReservation keyIds code now old = row := by
  simp only [PrintingState.withdraw, Table.mem_rewrite]

/-- A reservation that is live after a withdrawal was not of the keys. -/
theorem live_of_withdraw {keyIds : List String} {stoppable : List ExecutionState} {code : String}
    {now : ℤ} {row : DeliveryReservation}
    (h : row ∈ (s.withdraw keyIds stoppable code now).reservations) (hlive : row.Live) :
    row ∈ s.reservations ∧ row.agentEncryptionKeyId ∉ keyIds := by
  obtain ⟨old, hold, hrow⟩ := mem_withdraw.mp h
  unfold withdrawnReservation at hrow
  split at hrow
  · rw [← hrow] at hlive
    rcases hlive with hlive | hlive <;> cases hlive
  · rename_i hnot
    rw [← hrow] at hlive ⊢
    exact ⟨hold, fun hkey => hnot ⟨hkey, hlive⟩⟩

/-- A withdrawal and the loss of a key, in the order of the moves. -/
theorem lose_key (keyId code : String) (now : ℤ) :
    Moves platform (fun kind => kind = .withdraw keyId ∨ kind = .revokeKey keyId) s
      ((s.revokeKey keyId now).revokeKeyReservations keyId code now) := by
  have hfirst : Moves platform (fun kind => kind = .withdraw keyId ∨ kind = .revokeKey keyId) s
      (s.revokeKeyReservations keyId code now) := .single .withdraw (.inl rfl)
  refine hfirst.step (.revokeKey fun row hrow hlive hkey => ?_) (.inr rfl)
  obtain ⟨-, hnot⟩ := live_of_withdraw hrow hlive
  exact hnot (List.mem_singleton.mpr hkey)

/-- The moves that give up keys. -/
def LosesKey (kind : MoveKind) : Prop :=
  (∃ keyId, kind = .withdraw keyId) ∨ ∃ keyId, kind = .revokeKey keyId

/-- Keys that are given up leave the jobs and the items alone. -/
theorem revokeRetired_moves (bindingId : String) (keys : List EncryptionKey) :
    Tx.Ends (revokeRetired session bindingId keys) s fun _ s' =>
      Moves platform LosesKey s s' ∧ s'.jobs = s.jobs ∧ s'.items = s.items := by
  induction keys generalizing s with
  | nil => exact ⟨.refl, rfl, rfl⟩
  | cons key keys ih =>
    apply Tx.Ends.write
    have hlose : Moves platform LosesKey s ((s.revokeKey key.id session.now).revokeKeyReservations
        key.id "PRINT_RECIPIENT_KEY_RETIRED" session.now) := by
      apply (lose_key key.id _ session.now).mono
      rintro kind (rfl | rfl)
      · exact .inl ⟨_, rfl⟩
      · exact .inr ⟨_, rfl⟩
    apply Tx.Ends.read fun _ _ => ⟨hlose, rfl, rfl⟩
    intro _ _
    refine Tx.Ends.mono ih ?_
    rintro _ _ ⟨hmoves, hjobs, hitems⟩
    exact ⟨hlose.trans hmoves, hjobs, hitems⟩

theorem revokeExpiredRetiringKeys_moves (bindingId : String) :
    Tx.Ends (revokeExpiredRetiringKeys platform session bindingId) s fun _ s' =>
      Moves platform LosesKey s s' ∧ s'.jobs = s.jobs ∧ s'.items = s.items :=
  Tx.Ends.get (revokeRetired_moves bindingId _)

/-- The version of a key is one of those below the highest version of its binding. -/
theorem le_highestVersion {key : EncryptionKey} (hkey : key ∈ s.keys) :
    key.keyVersion ≤ highestVersion s key.agentBindingId := by
  apply List.le_max_of_le' 0 _ (le_refl key.keyVersion)
  exact List.mem_map_of_mem (List.mem_filter.mpr ⟨hkey, by simp⟩)

theorem insertKey_ends {key : EncryptionKey} (hactive : key.state = .active)
    (hversion : key.keyVersion = highestVersion s key.agentBindingId + 1) :
    Tx.Ends (insertKey key) s fun r s' =>
      Moves platform (fun kind => kind = .insertKey key) s s' ∧ s'.intents = s.intents ∧
        ∀ u, r = .ok u → key ∈ s'.keys ∧
          ∀ row ∈ s'.keys, row.agentBindingId = key.agentBindingId →
            row.keyVersion ≤ key.keyVersion := by
  apply Tx.Ends.get
  apply Tx.Ends.read fun _ _ => ⟨.refl, rfl, fun _ h => by cases h⟩
  intro _ hconflicts
  apply Tx.Ends.read fun _ _ => ⟨.refl, rfl, fun _ h => by cases h⟩
  intro keys hinsert
  rw [ensure_eq_ok] at hconflicts
  rw [found_eq_ok] at hinsert
  refine ⟨.single (.insertKey hactive hconflicts hversion hinsert) rfl, rfl, fun _ _ => ?_⟩
  refine ⟨(Table.mem_insert hinsert).mpr (.inr rfl), fun row hrow hbinding => ?_⟩
  rcases (Table.mem_insert hinsert).mp hrow with hrow | rfl
  · have hle := le_highestVersion hrow
    rw [hbinding] at hle
    omega
  · exact le_refl _

/-- The row that a registration makes. -/
structure RowOf (platform : Platform) (bindingId : String) (publicKey : List UInt8)
    (key : EncryptionKey) : Prop where
  binding : key.agentBindingId = bindingId
  raw : key.publicKey = publicKey
  fingerprint : fingerprintOf platform publicKey = .ok key.publicKeyFingerprint

/-- The moves of a registration. -/
def Registers (platform : Platform) (bindingId : String) (publicKey : List UInt8)
    (kind : MoveKind) : Prop :=
  LosesKey kind ∨ (∃ key, kind = .retireKey key) ∨
    (∃ key, kind = .insertKey key ∧ RowOf platform bindingId publicKey key) ∨
    (∃ intent, kind = .useIntent intent) ∨ ∃ intent, kind = .expireIntent intent

/-- The key that was active is lost or retires. -/
theorem replaceActive_moves {purpose : IntentPurpose} {bindingId agentBindingId : String}
    {publicKey : List UInt8} (now : ℤ) :
    Moves platform (Registers platform agentBindingId publicKey) s
      (s.replaceActive purpose (activeKey session s bindingId) now) := by
  unfold PrintingState.replaceActive
  cases hactive : activeKey session s bindingId with
  | none => exact .refl
  | some key =>
    obtain ⟨hmem, -, hstate, -⟩ := activeKey_spec hactive
    dsimp only
    split
    · apply (lose_key key.id "PRINT_RECIPIENT_KEY_LOST" now).mono
      rintro kind (rfl | rfl)
      · exact .inl (.inl ⟨_, rfl⟩)
      · exact .inl (.inr ⟨_, rfl⟩)
    · exact .single (.retireKey hmem hstate) (.inr (.inl ⟨key, rfl⟩))

/-- Replacing the active key leaves the intents alone. -/
theorem replaceActive_intents (purpose : IntentPurpose) (active : Option EncryptionKey)
    (now : ℤ) : (s.replaceActive purpose active now).intents = s.intents := by
  unfold PrintingState.replaceActive
  split
  · rfl
  · split <;> rfl

theorem expireIntent_ends {intent : KeyIntent} {bindingId : String} {publicKey : List UInt8}
    (hmem : intent ∈ s.intents) (hpending : intent.state = .pending) :
    Tx.Ends (expireIntent session intent) s fun r s' =>
      Moves platform (Registers platform bindingId publicKey) s s' ∧ (∀ u, r = .ok u → s' = s) := by
  unfold expireIntent
  split
  · apply Tx.Ends.write
    refine Tx.Ends.raise ⟨.single (.expireIntent hmem hpending) ?_, fun _ h => by cases h⟩
    exact .inr (.inr (.inr (.inr ⟨intent, rfl⟩)))
  · exact Tx.Ends.ret ⟨.refl, fun _ _ => rfl⟩

theorem recordRegistration_ends {binding : AgentBinding} {purpose : IntentPurpose}
    {active : Option EncryptionKey} {keyVersion : ℕ} :
    Tx.Ends (recordRegistration session binding purpose active keyVersion) s fun _ s' =>
      s' = s := by
  apply Tx.Ends.read fun _ _ => rfl
  intro _ _
  cases active with
  | none => exact rfl
  | some old =>
    dsimp only
    split <;> exact rfl

/-- What an accepted registration leaves: its intent is used, and its key is there. -/
structure Registered (platform : Platform) (session : Session) (s : PrintingState)
    (bindingId intentToken : String) (publicKey : List UInt8) (key : EncryptionKey)
    (s' : PrintingState) : Prop where
  intent : ∃ intent ∈ s.intents, intent.tokenHash = intentHash platform intentToken ∧
    intent.state = .pending ∧ intentMoved .used (some session.now) intent ∈ s'.intents
  mem : key ∈ s'.keys
  binding : key.agentBindingId = bindingId
  raw : key.publicKey = publicKey
  newest : ∀ row ∈ s'.keys, row.agentBindingId = bindingId → row.keyVersion ≤ key.keyVersion

theorem registerPublicKey_ends (bindingId intentToken : String) (publicKey : List UInt8) :
    Tx.Ends (registerPublicKey platform session bindingId intentToken publicKey) s fun r s' =>
      Moves platform (Registers platform bindingId publicKey) s s' ∧ ∀ key, r = .ok key →
        Registered platform session s bindingId intentToken publicKey key s' := by
  apply Tx.Ends.get
  apply Tx.Ends.read fun _ _ => ⟨.refl, fun _ h => by cases h⟩
  intro binding hbinding
  apply Tx.Ends.read fun _ _ => ⟨.refl, fun _ h => by cases h⟩
  intro fingerprint hfingerprint
  apply Tx.Ends.read fun _ _ => ⟨.refl, fun _ h => by cases h⟩
  intro intent hintent
  obtain ⟨hmem, htoken, hpending⟩ := intentOf_spec hintent
  apply Tx.Ends.bind
  refine Tx.Ends.mono
    (@expireIntent_ends platform _ _ _ bindingId publicKey hmem hpending) ?_
  rintro r s₁ ⟨hexpire, hsame⟩
  refine ⟨fun _ _ => ⟨hexpire, fun _ h => by cases h⟩, fun u hu => ?_⟩
  rw [hsame u hu]
  apply Tx.Ends.read fun _ _ => ⟨.refl, fun _ h => by cases h⟩
  intro _ _
  apply Tx.Ends.write
  have hreplace : Moves platform (Registers platform bindingId publicKey) s
      (s.replaceActive intent.purpose (activeKey session s binding.id) session.now) :=
    replaceActive_moves session.now
  apply Tx.Ends.get
  apply Tx.Ends.bind
  refine Tx.Ends.mono (@insertKey_ends platform _ _ rfl rfl) ?_
  rintro r s₂ ⟨hinsert, hintents, hkey⟩
  have hinserted : Moves platform (Registers platform bindingId publicKey) s s₂ := by
    apply hreplace.trans (hinsert.mono _)
    rintro kind rfl
    exact .inr (.inr (.inl ⟨_, rfl, validBinding_id hbinding, rfl, hfingerprint⟩))
  refine ⟨fun _ _ => ⟨hinserted, fun _ h => by cases h⟩, fun u hu => ?_⟩
  apply Tx.Ends.write
  have hmem₂ : intent ∈ s₂.intents := by
    rw [hintents, replaceActive_intents]
    exact hmem
  have hmoved : intentMoved .used (some session.now) intent ∈
      (s₂.moveIntent intent.id .used (some session.now)).intents := by
    simp only [PrintingState.moveIntent, Table.mem_modify_iff_exists]
    exact ⟨intent, hmem₂, if_pos rfl⟩
  have hused : Moves platform (Registers platform bindingId publicKey) s
      (s₂.moveIntent intent.id .used (some session.now)) :=
    hinserted.step (.useIntent hmem₂ hpending) (.inr (.inr (.inr (.inl ⟨intent, rfl⟩))))
  apply Tx.Ends.bind
  refine Tx.Ends.mono recordRegistration_ends ?_
  rintro _ _ rfl
  refine ⟨fun _ _ => ⟨hused, fun _ h => by cases h⟩, fun _ _ => ⟨hused, fun key h => ?_⟩⟩
  cases h
  have hid := validBinding_id hbinding
  exact ⟨⟨intent, hmem, htoken, hpending, hmoved⟩, (hkey u hu).1, hid, rfl,
    fun row hrow hrowBinding => (hkey u hu).2 row hrow (hrowBinding.trans hid.symm)⟩

theorem registerPublicKey_moves (bindingId intentToken : String) (publicKey : List UInt8) :
    Tx.Ends (registerPublicKey platform session bindingId intentToken publicKey) s fun _ s' =>
      Moves platform (Registers platform bindingId publicKey) s s' :=
  Tx.Ends.mono (registerPublicKey_ends bindingId intentToken publicKey) fun _ _ h => h.1

/-- The moves of an authorisation. -/
def Authorizes (kind : MoveKind) : Prop :=
  LosesKey kind ∨ ∃ execution reservation, kind = .authorize execution reservation

theorem authorizationTarget_spec {jobId itemId : String} {bindingId : Option String}
    {target : Authorization}
    (h : authorizationTarget platform session s jobId itemId bindingId = .ok target) :
    jobOf session s target.job.id = some target.job ∧
      itemOf session s target.item.id target.job.id = some target.item ∧
      target.job.state = .readyForAgent ∧ target.item.state = .pending := by
  obtain ⟨-, -, h⟩ := bind_eq_ok.mp h
  obtain ⟨item, hitem, h⟩ := bind_eq_ok.mp h
  obtain ⟨job, hjob, h⟩ := bind_eq_ok.mp h
  obtain ⟨_, hready, h⟩ := bind_eq_ok.mp h
  obtain ⟨binding, -, h⟩ := bind_eq_ok.mp h
  obtain ⟨-, -, h⟩ := bind_eq_ok.mp h
  cases h
  rw [found_eq_ok] at hitem hjob
  rw [ensure_eq_ok] at hready
  have hjobId : job.id = jobId := Table.key_of_find? (Option.filter_eq_some_iff.mp hjob).1
  have hitemId : item.id = itemId := Table.key_of_find? (Option.filter_eq_some_iff.mp hitem).1
  dsimp only
  rw [hjobId, hitemId]
  exact ⟨hjob, hitem, hready⟩

theorem insertDelivery_ends {target : Authorization} {graph : AuthorizationGraph}
    (h : Authorized platform session s target graph) :
    Tx.Ends (insertDelivery (newExecution session s target graph)
        (newReservation platform session target graph)) s fun _ s' =>
      Moves platform Authorizes s s' := by
  apply Tx.Ends.get
  apply Tx.Ends.read fun _ _ => .refl
  intro executions hexecutions
  apply Tx.Ends.read fun _ _ => .refl
  intro reservations hreservations
  rw [found_eq_ok] at hexecutions hreservations
  exact .single (.authorize h hexecutions hreservations) (.inr ⟨_, _, rfl⟩)

theorem authorizeDelivery_moves (jobId itemId : String) (bindingId : Option String) :
    Tx.Ends (authorizeDelivery platform session jobId itemId bindingId) s fun _ s' =>
      Moves platform Authorizes s s' := by
  apply Tx.Ends.get
  apply Tx.Ends.read fun _ _ => .refl
  intro target htarget
  obtain ⟨hjob, hitem, hready, hpending⟩ := authorizationTarget_spec htarget
  apply Tx.Ends.bind
  refine Tx.Ends.mono (revokeExpiredRetiringKeys_moves target.binding.id) ?_
  rintro _ s₁ ⟨hlose, hjobs, hitems⟩
  have hlost : Moves platform Authorizes s s₁ := hlose.mono fun _ hkind => .inl hkind
  refine ⟨fun _ _ => hlost, fun _ _ => ?_⟩
  apply Tx.Ends.get
  apply Tx.Ends.read fun _ _ => hlost
  intro graph hgraph
  have hauthorized : Authorized platform session s₁ target graph := by
    refine ⟨hgraph, ?_, ?_, hready, hpending⟩
    · rw [jobOf, hjobs]
      exact hjob
    · rw [itemOf, hitems]
      exact hitem
  apply Tx.Ends.bind
  refine Tx.Ends.mono (insertDelivery_ends hauthorized) ?_
  intro _ s₂ hinsert
  have hinserted := hlost.trans hinsert
  refine ⟨fun _ _ => hinserted, fun _ _ => ?_⟩
  apply Tx.Ends.read fun _ _ => hinserted
  intro _ _
  exact hinserted

/-- A reservation that is spent is closed, and `issue` raises. -/
theorem closeSpent_ends {reservation : DeliveryReservation} (hmem : reservation ∈ s.reservations)
    (hlive : reservation.Live) :
    Tx.Ends (closeSpent session reservation) s fun r s' =>
      (r = .ok () ∧ s' = s ∧ ¬ reservation.Spent session.now) ∨
        (∃ e, r = .error e) ∧ reservation.Spent session.now ∧
          Move platform s (.close reservation) s' := by
  unfold closeSpent
  split
  · rename_i hexpired
    apply Tx.Ends.write
    have hspent : reservation.Spent session.now := .inl hexpired
    exact Tx.Ends.raise (.inr ⟨⟨_, rfl⟩, hspent, .close hmem hlive hspent (.inl rfl)⟩)
  · rename_i hexpired
    split
    · rename_i hlimit
      apply Tx.Ends.write
      have hspent : reservation.Spent session.now := .inr hlimit
      exact Tx.Ends.raise (.inr ⟨⟨_, rfl⟩, hspent, .close hmem hlive hspent (.inr rfl)⟩)
    · rename_i hlimit
      exact Tx.Ends.ret (.inl ⟨rfl, rfl, not_or.mpr ⟨hexpired, hlimit⟩⟩)

/-- What `issue` did: nothing, or it closed the reservation, or it issued it. -/
inductive Issued (platform : Platform) (session : Session) (s : PrintingState)
    (reservationId machineBindingId : String) (r : Except PyError Envelope)
    (s' : PrintingState) : Prop
  | refused : (∃ e, r = .error e) → s' = s →
      Issued platform session s reservationId machineBindingId r s'
  | closed (reservation) :
      issuable platform session s reservationId machineBindingId = .ok reservation →
      reservation.Spent session.now → (∃ e, r = .error e) →
      Move platform s (.close reservation) s' →
      Issued platform session s reservationId machineBindingId r s'
  | issued (reservation execution key) :
      issuable platform session s reservationId machineBindingId = .ok reservation →
      execution ∈ s.executions → execution.id = reservation.printExecutionId →
      Move platform s (.issue reservation key) s' →
      (∀ envelope, r = .ok envelope → ∃ plaintext,
        platform.sha256 plaintext = reservation.payloadSha256 ∧
        sealFullKm platform key plaintext (deliveryContext reservation execution key) =
          .ok envelope) → Issued platform session s reservationId machineBindingId r s'

theorem issue_ends (reservationId machineBindingId : String) :
    Tx.Ends (issue platform session reservationId machineBindingId) s
      (Issued platform session s reservationId machineBindingId) := by
  apply Tx.Ends.get
  apply Tx.Ends.read fun _ _ => .refused ⟨_, rfl⟩ rfl
  intro reservation hreservation
  obtain ⟨hmem, -, hbinding, hlive⟩ := issuable_spec hreservation
  apply Tx.Ends.bind
  refine Tx.Ends.mono (@closeSpent_ends platform _ _ _ hmem hlive) ?_
  rintro r s₁ (⟨rfl, rfl, hunspent⟩ | ⟨⟨e, rfl⟩, hspent, hclose⟩)
  · refine ⟨fun _ h => (by cases h), fun _ _ => ?_⟩
    apply Tx.Ends.read fun _ _ => .refused ⟨_, rfl⟩ rfl
    rintro ⟨execution, key, envelope⟩ hsealed
    obtain ⟨hexecution, hexecutionId, hstate, hreceives, plaintext, hplaintext, hseal⟩ :=
      sealedDelivery_spec hbinding hsealed
    apply Tx.Ends.write
    have hmove : Move platform s₁ (.issue reservation key) (s₁.issueReservation reservation
        execution.id envelope.contextSha256 session.now) :=
      .issue hmem hlive hunspent hexecution hexecutionId hstate hreceives
    have hissued : ∀ r : Except PyError Envelope, (∀ sent, r = .ok sent → sent = envelope) →
        Issued platform session s₁ reservationId machineBindingId r (s₁.issueReservation reservation
          execution.id envelope.contextSha256 session.now) := by
      intro r hr
      refine .issued reservation execution key hreservation hexecution hexecutionId hmove ?_
      intro sent hsent
      rw [hr sent hsent]
      exact ⟨plaintext, hplaintext, hseal⟩
    apply Tx.Ends.read fun _ _ => hissued _ fun _ h => by cases h
    intro _ _
    refine hissued _ fun _ h => ?_
    cases h
    rfl
  · refine ⟨fun _ _ => .closed reservation hreservation hspent ⟨_, rfl⟩ hclose, fun _ h => ?_⟩
    cases h

/-- The moves of an issue. -/
def Issues (kind : MoveKind) : Prop :=
  (∃ reservation, kind = .close reservation) ∨ ∃ reservation key, kind = .issue reservation key

theorem issue_moves (reservationId machineBindingId : String) :
    Tx.Ends (issue platform session reservationId machineBindingId) s fun _ s' =>
      Moves platform Issues s s' := by
  refine Tx.Ends.mono (issue_ends reservationId machineBindingId) ?_
  intro r s' h
  cases h with
  | refused _ hsame =>
    rw [hsame]
    exact .refl
  | closed reservation _ _ _ hmove => exact .single hmove (.inl ⟨_, rfl⟩)
  | issued reservation execution key _ _ _ hmove _ => exact .single hmove (.inr ⟨_, _, rfl⟩)

/-- The moves of an acknowledgement. -/
def Acknowledges (kind : MoveKind) : Prop :=
  (∃ reservation, kind = .refuse reservation) ∨ ∃ reservation, kind = .deliver reservation

theorem acknowledge_moves (reservationId machineBindingId payloadSha256 contextSha256 : String) :
    Tx.Ends (acknowledge platform session reservationId machineBindingId payloadSha256
        contextSha256) s fun _ s' => Moves platform Acknowledges s s' := by
  apply Tx.Ends.get
  apply Tx.Ends.read fun _ _ => .refl
  intro reservation hreservation
  obtain ⟨hmem, -⟩ := acknowledgeable_spec hreservation
  split
  · exact Moves.refl
  · apply Tx.Ends.get
    apply Tx.Ends.read fun _ _ => .refl
    intro execution hexecution
    obtain ⟨hissued, hexecution, hid⟩ := awaitedExecution_spec hexecution
    apply Tx.Ends.bind
    unfold checkReceived
    split
    · apply Tx.Ends.write
      apply Tx.Ends.raise
      have hrefuse : Moves platform Acknowledges s
          (s.refuseDelivery reservation execution.id session.now) :=
        .single (.refuse hmem hissued hexecution hid) (.inl ⟨_, rfl⟩)
      exact ⟨fun _ _ => hrefuse, fun _ h => by cases h⟩
    · apply Tx.Ends.ret
      refine ⟨fun _ h => (by cases h), fun _ _ => ?_⟩
      apply Tx.Ends.write
      have hdeliver : Moves platform Acknowledges s
          (s.deliver reservation execution.id session.now) :=
        .single (.deliver hmem hissued hexecution hid) (.inr ⟨_, rfl⟩)
      exact record_ends fun _ => hdeliver

/-- The moves of `disable` once the binding is taken down. -/
def Detaches (bindingId : String) (kind : MoveKind) : Prop :=
  (∃ keyId, kind = .revokeKey keyId) ∨ kind = .disableBinding bindingId

/-- The moves of `disable`. -/
def Disables (bindingId : String) (kind : MoveKind) : Prop :=
  kind = .takeDown bindingId ∨ Detaches bindingId kind

/-- Keys without live reservations are given up one after another. -/
theorem revokeKeys_moves (bindingId : String) (keys : List EncryptionKey)
    (hfree : ∀ row ∈ s.reservations, row.Live →
      row.agentEncryptionKeyId ∉ keys.map EncryptionKey.id) :
    Tx.Ends (revokeKeys session bindingId keys) s fun _ s' =>
      Moves platform (fun kind => ∃ keyId, kind = .revokeKey keyId) s s' := by
  induction keys generalizing s with
  | nil => exact .refl
  | cons key keys ih =>
    apply Tx.Ends.write
    have hrevoke : Moves platform (fun kind => ∃ keyId, kind = .revokeKey keyId) s
        (s.revokeKey key.id session.now) := by
      refine .single (.revokeKey fun row hrow hlive hkey => ?_) ⟨_, rfl⟩
      exact hfree row hrow hlive (by simp [hkey])
    apply Tx.Ends.read fun _ _ => hrevoke
    intro _ _
    refine Tx.Ends.mono (ih fun row hrow hlive hkey => ?_) fun _ _ hmoves => hrevoke.trans hmoves
    exact hfree row hrow hlive (List.mem_cons_of_mem _ hkey)

/-- `disable` takes the binding down first. -/
theorem disable_ends (bindingId : String) :
    Tx.Ends (disable session bindingId) s fun _ s' =>
      s' = s ∨ (∃ row, scopeRow session s bindingId = .ok row) ∧
        ∃ s₁, Move platform s (.takeDown bindingId) s₁ ∧
          Moves platform (Detaches bindingId) s₁ s' := by
  apply Tx.Ends.get
  apply Tx.Ends.read fun _ _ => .inl rfl
  intro row hrow
  have hscope : ∃ row, scopeRow session s bindingId = .ok row := ⟨row, hrow⟩
  have hid : row.id = bindingId := by
    obtain ⟨found, hfound, hrow⟩ := bind_eq_ok.mp hrow
    obtain ⟨-, -, hrow⟩ := bind_eq_ok.mp hrow
    cases hrow
    rw [found_eq_ok] at hfound
    exact Table.key_of_find? (Option.filter_eq_some_iff.mp hfound).1
  dsimp only
  rw [hid]
  apply Tx.Ends.write
  apply Tx.Ends.write
  apply Tx.Ends.bind
  have hdown : Move platform s (.takeDown bindingId) ((s.withdraw
      ((liveKeys s bindingId).map EncryptionKey.id) unrenderedStates "AGENT_BINDING_DISABLED"
      session.now).sweepExecutions bindingId session.now) := .takeDown
  refine Tx.Ends.mono (@revokeKeys_moves platform _ _ _ _ fun row hrow hlive => ?_) ?_
  · exact (@live_of_withdraw s _ unrenderedStates _ session.now _ hrow hlive).2
  intro _ s₁ hrevoke
  have hrevoked := hrevoke.mono (B := Detaches bindingId) fun _ hkind => .inl hkind
  refine ⟨fun _ _ => .inr ⟨hscope, _, hdown, hrevoked⟩, fun _ _ => ?_⟩
  apply Tx.Ends.write
  have hdisabled := hrevoked.step (@Move.disableBinding platform _ bindingId) (.inr rfl)
  exact record_ends fun _ => .inr ⟨hscope, _, hdown, hdisabled⟩

theorem disable_moves (bindingId : String) :
    Tx.Ends (disable session bindingId) s fun _ s' =>
      Moves platform (Disables bindingId) s s' := by
  refine Tx.Ends.mono (@disable_ends platform _ _ bindingId) ?_
  rintro _ s' (rfl | ⟨-, s₁, hdown, hmoves⟩)
  · exact .refl
  · exact (Moves.single hdown (.inl rfl)).trans (hmoves.mono fun _ hkind => .inr hkind)

theorem markRendered_moves (executionId machineBindingId : String) (evidence : SpoolEvidence)
    (renderer decoder : String) :
    Tx.Ends (markRendered platform session executionId machineBindingId evidence renderer decoder)
      s fun _ s' => Moves platform (fun kind => ∃ execution, kind = .render execution) s s' := by
  apply Tx.Ends.get
  apply Tx.Ends.read fun _ _ => .refl
  rintro ⟨execution, rows⟩ hrenderable
  apply Tx.Ends.write
  exact record_ends fun _ => .single (.render hrenderable) ⟨_, rfl⟩

/-- `begin_spool` does nothing, or it moves the execution across the spool boundary. -/
theorem beginSpool_ends (executionId machineBindingId : String) (evidence : SpoolEvidence) :
    Tx.Ends (beginSpool platform session executionId machineBindingId evidence) s fun r s' =>
      ((∃ e, r = .error e) ∧ s' = s) ∨ ∃ execution ∈ s.executions, execution.id = executionId ∧
        Move platform s (.spool execution) s' := by
  apply Tx.Ends.get
  apply Tx.Ends.read fun _ _ => .inl ⟨⟨_, rfl⟩, rfl⟩
  intro execution hspoolable
  apply Tx.Ends.write
  obtain ⟨hreported, -⟩ := spoolable_spec hspoolable
  obtain ⟨hmem, hid, -⟩ := reportedExecution_spec hreported
  exact record_ends fun _ => .inr ⟨execution, hmem, hid, .spool hspoolable⟩

theorem beginSpool_moves (executionId machineBindingId : String) (evidence : SpoolEvidence) :
    Tx.Ends (beginSpool platform session executionId machineBindingId evidence) s fun _ s' =>
      Moves platform (fun kind => ∃ execution, kind = .spool execution) s s' := by
  refine Tx.Ends.mono (beginSpool_ends executionId machineBindingId evidence) ?_
  rintro _ s' (⟨-, rfl⟩ | ⟨execution, -, -, hmove⟩)
  · exact .refl
  · exact .single hmove ⟨_, rfl⟩

/-- The moves of a report once its result is applied. -/
def Concludes (kind : MoveKind) : Prop :=
  (∃ job, kind = .complete job) ∨ ∃ event, kind = .insertEvent event

/-- The moves of a report. -/
def Reports (result : PhysicalResult) (kind : MoveKind) : Prop :=
  (∃ execution, kind = .report execution result) ∨ Concludes kind

theorem insertCompletion_moves (job : PrintJob) :
    Tx.Ends (insertCompletion session job) s fun _ s' => Moves platform Concludes s s' := by
  apply Tx.Ends.get
  split
  · exact Moves.refl
  · apply Tx.Ends.read fun _ _ => .refl
    intro events hinsert
    rw [found_eq_ok] at hinsert
    exact Moves.single (.insertEvent hinsert) (.inr ⟨_, rfl⟩)

theorem completeJob_moves {job : PrintJob} (hjob : jobOf session s job.id = some job) :
    Tx.Ends (completeJob session job) s fun _ s' => Moves platform Concludes s s' := by
  apply Tx.Ends.get
  dsimp only
  split
  · rename_i hcompleted
    apply Tx.Ends.write
    have hmove : Move platform s (.complete job) (s.moveJob job.id .completed) := by
      refine .complete hjob fun item hitem hjobId howner => hcompleted.2 item ?_
      rw [List.mem_filter]
      exact ⟨hitem, by simp [hjobId, howner]⟩
    have hcomplete : Moves platform Concludes s (s.moveJob job.id .completed) :=
      .single hmove (.inl ⟨_, rfl⟩)
    exact Tx.Ends.mono (insertCompletion_moves job) fun _ _ h => hcomplete.trans h
  · exact Moves.refl

/-- The job of a report is still there after its result was applied. -/
theorem jobOf_applyResult {job : PrintJob} {executionId itemId : String}
    {result : PhysicalResult} (hjob : jobOf session s job.id = some job)
    (hstate : result.state = .spoolerAccepted) :
    jobOf session (s.applyResult executionId itemId job.id result session.now) job.id =
      some job := by
  unfold PrintingState.applyResult
  rw [hstate]
  exact hjob

theorem reportable_spec {executionId bindingId : String} {result : PhysicalResult}
    {execution : PrintExecution} {rows : PhysicalGraph}
    (h : reportable platform session s executionId bindingId result = .ok (execution, rows)) :
    reportedExecution platform session s executionId bindingId = .ok execution ∧
      execution.agentBindingId = bindingId ∧ graph platform session s execution = .ok rows ∧
      checkResult execution result = .ok () := by
  obtain ⟨reported, hreported, h⟩ := bind_eq_ok.mp h
  obtain ⟨_, hbinding, h⟩ := bind_eq_ok.mp h
  obtain ⟨found, hgraph, h⟩ := bind_eq_ok.mp h
  obtain ⟨_, hcheck, h⟩ := bind_eq_ok.mp h
  cases h
  rw [ensure_eq_ok] at hbinding
  exact ⟨hreported, hbinding, hgraph, hcheck⟩

/-- What `_graph` checks of the rows that it found. -/
structure Checked (platform : Platform) (session : Session) (s : PrintingState)
    (e : PrintExecution) (rows : PhysicalGraph) : Prop where
  found : graphRows session s e = .ok rows
  stored : rows.item.storedFullKmItemId = rows.stored.id
  acknowledged : rows.reservation.state = .acknowledged
  payload : rows.reservation.payloadSha256 = e.payloadSha256 ∧
    rows.item.payloadHash = e.payloadSha256
  profile : checkProfile e rows.profile = .ok ()
  layout : checkLayout platform rows.version (physicalRejected "PHYSICAL_LAYOUT_HASH_CONFLICT") =
    .ok ()
  version : rows.version.layoutSha256 = e.layoutSha256
  compatible : checkCompatible platform session s rows.profile.id rows.version.id
    physicalRejected = .ok ()

theorem graph_eq_ok {e : PrintExecution} {rows : PhysicalGraph} :
    graph platform session s e = .ok rows ↔ Checked platform session s e rows := by
  constructor
  · intro h
    obtain ⟨found, hrows, h⟩ := bind_eq_ok.mp h
    obtain ⟨_, hstored, h⟩ := bind_eq_ok.mp h
    obtain ⟨_, hacknowledged, h⟩ := bind_eq_ok.mp h
    obtain ⟨_, hpayload, h⟩ := bind_eq_ok.mp h
    obtain ⟨_, hprofile, h⟩ := bind_eq_ok.mp h
    obtain ⟨_, hlayout, h⟩ := bind_eq_ok.mp h
    obtain ⟨_, hversion, h⟩ := bind_eq_ok.mp h
    obtain ⟨_, hcompatible, h⟩ := bind_eq_ok.mp h
    cases h
    exact ⟨hrows, ensure_eq_ok.mp hstored, ensure_eq_ok.mp hacknowledged,
      ensure_eq_ok.mp hpayload, hprofile, hlayout, ensure_eq_ok.mp hversion,
      hcompatible⟩
  · rintro ⟨hrows, hstored, hacknowledged, hpayload, hprofile, hlayout, hversion, hcompatible⟩
    refine bind_eq_ok.mpr ⟨rows, hrows, ?_⟩
    refine bind_eq_ok.mpr ⟨(), ensure_eq_ok.mpr hstored, ?_⟩
    refine bind_eq_ok.mpr ⟨(), ensure_eq_ok.mpr hacknowledged, ?_⟩
    refine bind_eq_ok.mpr ⟨(), ensure_eq_ok.mpr hpayload, ?_⟩
    refine bind_eq_ok.mpr ⟨(), hprofile, ?_⟩
    refine bind_eq_ok.mpr ⟨(), hlayout, ?_⟩
    refine bind_eq_ok.mpr ⟨(), ensure_eq_ok.mpr hversion, ?_⟩
    exact bind_eq_ok.mpr ⟨(), hcompatible, rfl⟩

/-- The rows of a graph are the rows of the tables. -/
theorem graph_rows {execution : PrintExecution} {rows : PhysicalGraph}
    (h : graph platform session s execution = .ok rows) :
    graphRows session s execution = .ok rows :=
  (graph_eq_ok.mp h).found

theorem graphRows_spec {execution : PrintExecution} {rows : PhysicalGraph}
    (h : graphRows session s execution = .ok rows) :
    jobOf session s execution.printJobId = some rows.job ∧
      itemOf session s execution.printJobItemId execution.printJobId = some rows.item ∧
      executionReservation session s execution.id = some rows.reservation ∧
      versionOf session s execution.templateVersionId = some rows.version ∧
      storedOf session s execution.storedFullKmItemId = some rows.stored ∧
      executionProfile session s execution = some rows.profile := by
  obtain ⟨job, hjob, h⟩ := bind_eq_ok.mp h
  obtain ⟨item, hitem, h⟩ := bind_eq_ok.mp h
  obtain ⟨reservation, hreservation, h⟩ := bind_eq_ok.mp h
  obtain ⟨version, hversion, h⟩ := bind_eq_ok.mp h
  obtain ⟨stored, hstored, h⟩ := bind_eq_ok.mp h
  obtain ⟨profile, hprofile, h⟩ := bind_eq_ok.mp h
  cases h
  rw [found_eq_ok] at hjob hitem hreservation hversion hstored hprofile
  exact ⟨hjob, hitem, hreservation, hversion, hstored, hprofile⟩

theorem jobOf_id {jobId : String} {job : PrintJob} (h : jobOf session s jobId = some job) :
    job.id = jobId := Table.key_of_find? (Option.filter_eq_some_iff.mp h).1

/-- What a report does after its result is applied. -/
theorem concludeResult_moves {execution : PrintExecution} {job : PrintJob}
    {result : PhysicalResult} (hjob : result.state = .spoolerAccepted →
      jobOf session s job.id = some job) :
    Tx.Ends (concludeResult session execution job result) s fun _ s' =>
      Moves platform Concludes s s' := by
  unfold concludeResult
  cases hstate : result.state with
  | spoolJobCreated => exact Moves.refl
  | spoolerAccepted =>
    apply Tx.Ends.read fun _ _ => .refl
    intro _ _
    exact completeJob_moves (hjob hstate)
  | failedPreSpool => exact record_ends fun _ => .refl
  | blocked => exact record_ends fun _ => .refl
  | unknownAfterSpool => exact record_ends fun _ => .refl

/-- `report_result` does nothing, or it applies the result first. -/
theorem reportResult_ends (executionId machineBindingId : String) (result : PhysicalResult) :
    Tx.Ends (reportResult platform session executionId machineBindingId result) s fun _ s' =>
      s' = s ∨ ∃ execution rows, reportable platform session s executionId machineBindingId
          result = .ok (execution, rows) ∧
        ∃ s₁, Move platform s (.report execution result) s₁ ∧ Moves platform Concludes s₁ s' := by
  apply Tx.Ends.get
  apply Tx.Ends.read fun _ _ => .inl rfl
  rintro ⟨execution, rows⟩ hreportable
  apply Tx.Ends.write
  obtain ⟨-, -, hgraph, -⟩ := reportable_spec hreportable
  obtain ⟨hjob, -⟩ := graphRows_spec (graph_rows hgraph)
  rw [← jobOf_id hjob] at hjob
  refine Tx.Ends.mono (@concludeResult_moves platform _ _ _ _ _
    fun hstate => jobOf_applyResult hjob hstate) ?_
  exact fun _ _ hconclude => .inr ⟨_, _, hreportable, _, .report hreportable, hconclude⟩

theorem reportResult_moves (executionId machineBindingId : String) (result : PhysicalResult) :
    Tx.Ends (reportResult platform session executionId machineBindingId result) s fun _ s' =>
      Moves platform (Reports result) s s' := by
  refine Tx.Ends.mono (reportResult_ends executionId machineBindingId result) ?_
  rintro _ s' (rfl | ⟨execution, rows, -, s₁, hreport, hconclude⟩)
  · exact .refl
  · have hconcluded := hconclude.mono (B := Reports result) fun _ hkind => .inr hkind
    exact (Moves.single hreport (.inl ⟨_, rfl⟩)).trans hconcluded

theorem observeStatus_moves (executionId machineBindingId : String) (jobId : ℤ)
    (normalizedState : String) (safeErrorCode : Option String) :
    Tx.Ends (observeStatus platform session executionId machineBindingId jobId normalizedState
        safeErrorCode) s fun _ s' =>
      Moves platform (fun kind => ∃ execution, kind = .observe execution) s s' := by
  apply Tx.Ends.get
  apply Tx.Ends.read fun _ _ => .refl
  intro execution hobservable
  exact Moves.single (.observe (observable_spec hobservable)) ⟨_, rfl⟩

/-- `create_print_job` does nothing, or it makes a job. -/
theorem createPrintJob_ends (request : JobRequest) :
    Tx.Ends (createPrintJob platform session request) s fun r s' =>
      ((∃ e, r = .error e) ∧ s' = s) ∨ ∃ job, Move platform s (.insertJob job) s' := by
  apply Tx.Ends.get
  apply Tx.Ends.read fun _ _ => .inl ⟨⟨_, rfl⟩, rfl⟩
  rintro ⟨version, stored⟩ hcontents
  apply Tx.Ends.bind
  apply Tx.Ends.get
  apply Tx.Ends.read
  · exact fun _ _ => ⟨fun _ _ => .inl ⟨⟨_, rfl⟩, rfl⟩, fun _ h => by cases h⟩
  intro jobs hjobs
  apply Tx.Ends.read
  · exact fun _ _ => ⟨fun _ _ => .inl ⟨⟨_, rfl⟩, rfl⟩, fun _ h => by cases h⟩
  intro items hitems
  apply Tx.Ends.read
  · exact fun _ _ => ⟨fun _ _ => .inl ⟨⟨_, rfl⟩, rfl⟩, fun _ h => by cases h⟩
  intro events _
  rw [found_eq_ok] at hjobs
  have hmove := @Move.insertJob platform _ _ _ _ _ _ _ _ events hcontents rfl hjobs hitems
  refine ⟨fun _ _ => .inr ⟨_, hmove⟩, fun _ _ => ?_⟩
  apply Tx.Ends.read fun _ _ => .inr ⟨_, hmove⟩
  exact fun _ _ => .inr ⟨_, hmove⟩

theorem createPrintJob_moves (request : JobRequest) :
    Tx.Ends (createPrintJob platform session request) s fun _ s' =>
      Moves platform (fun kind => ∃ job, kind = .insertJob job) s s' := by
  refine Tx.Ends.mono (createPrintJob_ends request) ?_
  rintro _ s' (⟨-, rfl⟩ | ⟨job, hmove⟩)
  · exact .refl
  · exact .single hmove ⟨job, rfl⟩

/-- An explicit reprint does nothing, or it makes a job. -/
theorem explicitReprintUnknown_ends (executionId : String) (acknowledgeDuplicateRisk : Bool) :
    Tx.Ends (explicitReprintUnknown platform session executionId acknowledgeDuplicateRisk) s
      fun r s' =>
        ((∃ e, r = .error e) ∧ s' = s) ∨ ∃ job, Move platform s (.insertJob job) s' := by
  apply Tx.Ends.get
  apply Tx.Ends.read fun _ _ => .inl ⟨⟨_, rfl⟩, rfl⟩
  exact fun execution _ => createPrintJob_ends _

theorem explicitReprintUnknown_moves (executionId : String) (acknowledgeDuplicateRisk : Bool) :
    Tx.Ends (explicitReprintUnknown platform session executionId acknowledgeDuplicateRisk) s
      fun _ s' => Moves platform (fun kind => ∃ job, kind = .insertJob job) s s' := by
  apply Tx.Ends.get
  apply Tx.Ends.read fun _ _ => .refl
  exact fun execution _ => createPrintJob_moves _

end Methods

end Wbcz.Printing
