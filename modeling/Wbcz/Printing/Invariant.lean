import Wbcz.Printing.Pairs

/-!
# What holds of executions and reservations

Every move but an authorisation rewrites executions and reservations in pairs; an authorisation
adds a pair, for an item none of whose executions is engaged. So what holds of every pair, and
that an item has one engaged execution at most, holds in every state of a run.
-/

namespace Wbcz.Printing

open Fallible (bind_eq_ok ensure_eq_ok found_eq_ok)
open Transition (Run)

/-- What holds of the tables. -/
structure DeliveryInv (s : PrintingState) : Prop where
  execution : ∀ r ∈ s.reservations, ∃ e ∈ s.executions, e.id = r.printExecutionId
  reservation : ∀ e ∈ s.executions, ∃ r ∈ s.reservations, e.id = r.printExecutionId
  unique : ∀ r ∈ s.reservations, ∀ r' ∈ s.reservations,
    r.printExecutionId = r'.printExecutionId → r = r'
  pair : ∀ e ∈ s.executions, ∀ r ∈ s.reservations, e.id = r.printExecutionId → PairInv e r
  recipient : ∀ r ∈ s.reservations, r.Live → ∃ key ∈ s.keys, key.id = r.agentEncryptionKeyId ∧
    key.agentBindingId = r.agentBindingId ∧ key.state ≠ .revoked
  exclusive : ∀ e ∈ s.executions, ∀ e' ∈ s.executions, e.printJobItemId = e'.printJobItemId →
    Engaged e → Engaged e' → e = e'

/-- Executions and reservations are rewritten in pairs. -/
structure Rewritten (kind : MoveKind) (s s' : PrintingState) (f : PrintExecution → PrintExecution)
    (g : DeliveryReservation → DeliveryReservation) : Prop where
  executions : ∀ e', e' ∈ s'.executions ↔ ∃ e ∈ s.executions, f e = e'
  reservations : ∀ r', r' ∈ s'.reservations ↔ ∃ r ∈ s.reservations, g r = r'
  pair : ∀ e ∈ s.executions, ∀ r ∈ s.reservations, e.id = r.printExecutionId →
    PairStep kind e r (f e) (g r)

/-- The keys of live reservations are not given up. -/
def KeepsKeys (s s' : PrintingState) : Prop :=
  ∀ key ∈ s.keys, key.state ≠ .revoked →
    (∃ r ∈ s.reservations, r.Live ∧ r.agentEncryptionKeyId = key.id) →
    ∃ key' ∈ s'.keys, key'.id = key.id ∧ key'.agentBindingId = key.agentBindingId ∧
      key'.state ≠ .revoked

section Tables

variable {platform : Platform} {kind : MoveKind} {s s' : PrintingState}
  {f : PrintExecution → PrintExecution} {g : DeliveryReservation → DeliveryReservation}

theorem deliveryInv_initial : DeliveryInv .initial where
  execution _ hr := absurd hr Table.not_mem_empty
  reservation _ he := absurd he Table.not_mem_empty
  unique _ hr := absurd hr Table.not_mem_empty
  pair _ he := absurd he Table.not_mem_empty
  recipient _ hr := absurd hr Table.not_mem_empty
  exclusive _ he := absurd he Table.not_mem_empty

/-- The pair of an execution. -/
theorem Rewritten.execution (h : DeliveryInv s) (hrw : Rewritten kind s s' f g) {e : PrintExecution}
    (he : e ∈ s.executions) : ∃ r ∈ s.reservations, e.id = r.printExecutionId ∧
      PairStep kind e r (f e) (g r) := by
  obtain ⟨r, hr, hid⟩ := h.reservation e he
  exact ⟨r, hr, hid, hrw.pair e he r hr hid⟩

/-- The pair of a reservation. -/
theorem Rewritten.reservation (h : DeliveryInv s) (hrw : Rewritten kind s s' f g)
    {r : DeliveryReservation} (hr : r ∈ s.reservations) :
    ∃ e ∈ s.executions, e.id = r.printExecutionId ∧ PairStep kind e r (f e) (g r) := by
  obtain ⟨e, he, hid⟩ := h.execution r hr
  exact ⟨e, he, hid, hrw.pair e he r hr hid⟩

/-- Rewriting pairs keeps what holds of the tables. -/
theorem DeliveryInv.rewritten (h : DeliveryInv s) (hkeys : KeepsKeys s s')
    (hrw : Rewritten kind s s' f g) : DeliveryInv s' where
  execution := by
    intro r' hr'
    obtain ⟨r, hr, rfl⟩ := (hrw.reservations r').mp hr'
    obtain ⟨e, he, hid, step⟩ := hrw.reservation h hr
    refine ⟨f e, (hrw.executions _).mpr ⟨e, he, rfl⟩, ?_⟩
    rw [step.sameExecution.id, step.sameReservation.execution, hid]
  reservation := by
    intro e' he'
    obtain ⟨e, he, rfl⟩ := (hrw.executions e').mp he'
    obtain ⟨r, hr, hid, step⟩ := hrw.execution h he
    refine ⟨g r, (hrw.reservations _).mpr ⟨r, hr, rfl⟩, ?_⟩
    rw [step.sameExecution.id, step.sameReservation.execution, hid]
  unique := by
    intro r₁' hr₁' r₂' hr₂' heq
    obtain ⟨r₁, hr₁, rfl⟩ := (hrw.reservations r₁').mp hr₁'
    obtain ⟨r₂, hr₂, rfl⟩ := (hrw.reservations r₂').mp hr₂'
    obtain ⟨_, -, -, step₁⟩ := hrw.reservation h hr₁
    obtain ⟨_, -, -, step₂⟩ := hrw.reservation h hr₂
    rw [step₁.sameReservation.execution, step₂.sameReservation.execution] at heq
    rw [h.unique r₁ hr₁ r₂ hr₂ heq]
  pair := by
    intro e' he' r' hr' hid
    obtain ⟨e, he, rfl⟩ := (hrw.executions e').mp he'
    obtain ⟨r, hr, rfl⟩ := (hrw.reservations r').mp hr'
    obtain ⟨_, -, -, step₁⟩ := hrw.execution h he
    obtain ⟨_, -, -, step₂⟩ := hrw.reservation h hr
    rw [step₁.sameExecution.id, step₂.sameReservation.execution] at hid
    exact (h.pair e he r hr hid).step (hrw.pair e he r hr hid)
  recipient := by
    intro r' hr' hlive
    obtain ⟨r, hr, rfl⟩ := (hrw.reservations r').mp hr'
    obtain ⟨_, -, -, step⟩ := hrw.reservation h hr
    have hlive' := step.live hlive
    obtain ⟨key, hkey, hid, hbinding, hstate⟩ := h.recipient r hr hlive'
    obtain ⟨key', hkey', hid', hbinding', hstate'⟩ := hkeys key hkey hstate ⟨r, hr, hlive', hid.symm⟩
    refine ⟨key', hkey', ?_, ?_, hstate'⟩
    · rw [hid', hid, step.sameReservation.encryptionKey]
    · rw [hbinding', hbinding, step.sameReservation.binding]
  exclusive := by
    intro e₁' he₁' e₂' he₂' hitem hengaged₁ hengaged₂
    obtain ⟨e₁, he₁, rfl⟩ := (hrw.executions e₁').mp he₁'
    obtain ⟨e₂, he₂, rfl⟩ := (hrw.executions e₂').mp he₂'
    obtain ⟨r₁, hr₁, hid₁, step₁⟩ := hrw.execution h he₁
    obtain ⟨r₂, hr₂, hid₂, step₂⟩ := hrw.execution h he₂
    rw [step₁.sameExecution.item, step₂.sameExecution.item] at hitem
    rw [h.exclusive e₁ he₁ e₂ he₂ hitem (step₁.engaged (h.pair e₁ he₁ r₁ hr₁ hid₁) hengaged₁)
      (step₂.engaged (h.pair e₂ he₂ r₂ hr₂ hid₂) hengaged₂)]

/-! ### The moves of one pair -/

/-- Rewriting the rows of one pair rewrites the tables in pairs. -/
theorem rewritten_pair (h : DeliveryInv s) (f : PrintExecution → PrintExecution)
    (g : DeliveryReservation → DeliveryReservation) {e₀ : PrintExecution} {r₀ : DeliveryReservation}
    (he₀ : e₀ ∈ s.executions) (hr₀ : r₀ ∈ s.reservations) (hid₀ : e₀.id = r₀.printExecutionId)
    (he : ∀ e', e' ∈ s'.executions ↔ ∃ e ∈ s.executions, (if e.id = e₀.id then f e else e) = e')
    (hr : ∀ r', r' ∈ s'.reservations ↔
      ∃ r ∈ s.reservations, (if r.id = r₀.id then g r else r) = r')
    (step : PairStep kind e₀ r₀ (f e₀) (g r₀)) :
    Rewritten kind s s' (fun e => if e.id = e₀.id then f e else e)
      (fun r => if r.id = r₀.id then g r else r) where
  executions := he
  reservations := hr
  pair := by
    intro e hmem r hrmem hid
    by_cases hre : r.id = r₀.id
    · have hsame : r = r₀ := Table.eq_of_key_eq hrmem hr₀ hre
      have hsame' : e = e₀ := by
        apply Table.eq_of_key_eq hmem he₀
        exact hid.trans ((congrArg DeliveryReservation.printExecutionId hsame).trans hid₀.symm)
      rw [if_pos hre, hsame, hsame', if_pos rfl]
      exact step
    · have hne : e.id ≠ e₀.id := by
        intro hee
        refine hre (congrArg DeliveryReservation.id (h.unique r hrmem r₀ hr₀ ?_))
        rw [← hid, hee, hid₀]
      rw [if_neg hne, if_neg hre]
      exact .same

/-- Rewriting one execution rewrites the tables in pairs. -/
theorem rewritten_execution {e₀ : PrintExecution} (he₀ : e₀ ∈ s.executions)
    (hf : ∀ row, (f row).key = row.key) (he : s'.executions = s.executions.modify e₀.id f hf)
    (hr : s'.reservations = s.reservations)
    (step : ∀ r ∈ s.reservations, e₀.id = r.printExecutionId → PairStep kind e₀ r (f e₀) r) :
    Rewritten kind s s' (fun e => if e.id = e₀.id then f e else e) id where
  executions e' := by simp only [he, Table.mem_modify_iff_exists]
  reservations r' := by simp [hr]
  pair := by
    intro e hmem r hrmem hid
    dsimp only [id]
    by_cases hee : e.id = e₀.id
    · have hsame : e = e₀ := Table.eq_of_key_eq hmem he₀ hee
      rw [hsame] at hid ⊢
      rw [if_pos rfl]
      exact step r hrmem hid
    · rw [if_neg hee]
      exact .same

/-- The reservation that a graph shows is the one of the execution. -/
theorem acknowledged_of_graph {session : Session} (h : DeliveryInv s) {e : PrintExecution}
    {rows : PhysicalGraph} (hgraph : graph platform session s e = .ok rows) :
    ∀ r ∈ s.reservations, e.id = r.printExecutionId → r.state = .acknowledged := by
  obtain ⟨-, -, hreservation, -⟩ := graphRows_spec (graph_rows hgraph)
  have hrow := List.find?_some hreservation
  simp only [Bool.and_eq_true, decide_eq_true_eq] at hrow
  have hmem : rows.reservation ∈ s.reservations := List.mem_of_find?_eq_some hreservation
  intro r hr hid
  rw [h.unique r hr rows.reservation hmem (hid.symm.trans hrow.1.symm)]
  exact (graph_eq_ok.mp hgraph).acknowledged

section Withdraw

variable {e : PrintExecution} {r : DeliveryReservation} {keyIds : List String}
  {stoppable : List ExecutionState}

/-- A withdrawal touches the pairs whose reservation is live for one of the keys. -/
theorem withdrawn_of_liveFor (h : DeliveryInv s) (he : e ∈ s.executions)
    (hr : r ∈ s.reservations) (hid : e.id = r.printExecutionId)
    (hstoppable : ExecutionState.preSpoolIssuable ⊆ stoppable) (hlive : r.LiveFor keyIds)
    (code : String) (now : ℤ) :
    withdrawnExecution s.reservations.rows keyIds stoppable code now e =
        blockedExecution code now e ∧
      withdrawnReservation keyIds code now r = revokedReservation code now r := by
  have hexists : (∃ reservation ∈ s.reservations.rows, reservation.LiveFor keyIds ∧
      reservation.printExecutionId = e.id) ∧ e.state ∈ stoppable :=
    ⟨⟨r, hr, hlive, hid.symm⟩, hstoppable ((h.pair e he r hr hid).live hlive.2)⟩
  exact ⟨if_pos hexists, if_pos hlive⟩

/-- A withdrawal leaves the other pairs alone. -/
theorem withdrawn_of_not_liveFor (h : DeliveryInv s) (hr : r ∈ s.reservations)
    (hid : e.id = r.printExecutionId) (hlive : ¬ r.LiveFor keyIds) (code : String) (now : ℤ) :
    withdrawnExecution s.reservations.rows keyIds stoppable code now e = e ∧
      withdrawnReservation keyIds code now r = r := by
  have hnone : ¬ ((∃ reservation ∈ s.reservations.rows, reservation.LiveFor keyIds ∧
      reservation.printExecutionId = e.id) ∧ e.state ∈ stoppable) := by
    rintro ⟨⟨r', hr', hlive', hid'⟩, -⟩
    rw [h.unique r' hr' r hr (hid'.trans hid)] at hlive'
    exact hlive hlive'
  exact ⟨if_neg hnone, if_neg hlive⟩

/-- A withdrawal rewrites the tables in pairs. -/
theorem rewritten_withdraw (h : DeliveryInv s) (keyIds : List String)
    (hstoppable : ExecutionState.preSpoolIssuable ⊆ stoppable) (code : String) (now : ℤ) :
    Rewritten kind s (s.withdraw keyIds stoppable code now)
      (withdrawnExecution s.reservations.rows keyIds stoppable code now)
      (withdrawnReservation keyIds code now) where
  executions e' := by simp only [PrintingState.withdraw, Table.mem_rewrite]
  reservations r' := mem_withdraw
  pair := by
    intro e he r hr hid
    by_cases hlive : r.LiveFor keyIds
    · obtain ⟨hexecution, hreservation⟩ :=
        withdrawn_of_liveFor h he hr hid hstoppable hlive code now
      rw [hexecution, hreservation]
      exact .withdrawn hlive.2
    · obtain ⟨hexecution, hreservation⟩ :=
        @withdrawn_of_not_liveFor _ _ _ _ stoppable h hr hid hlive code now
      rw [hexecution, hreservation]
      exact .same

/-- A live reservation has a key that the withdrawal of `disable` names. -/
theorem liveFor_liveKeys (h : DeliveryInv s) (hr : r ∈ s.reservations) (hlive : r.Live) :
    r.LiveFor ((liveKeys s r.agentBindingId).map EncryptionKey.id) := by
  obtain ⟨key, hkey, hid, hbinding, hstate⟩ := h.recipient r hr hlive
  refine ⟨List.mem_map.mpr ⟨key, List.mem_filter.mpr ⟨hkey, ?_⟩, hid⟩, hlive⟩
  cases hkeyState : key.state with
  | active => simp [hbinding]
  | retiring => simp [hbinding]
  | revoked => exact absurd hkeyState hstate

/-- Taking a binding down rewrites the tables in pairs. -/
theorem rewritten_takeDown (h : DeliveryInv s) (bindingId code : String) (now : ℤ) :
    Rewritten (.takeDown bindingId) s ((s.withdraw ((liveKeys s bindingId).map EncryptionKey.id) unrenderedStates
        code now).sweepExecutions bindingId now)
      (fun e => endedExecution bindingId now (withdrawnExecution s.reservations.rows
        ((liveKeys s bindingId).map EncryptionKey.id) unrenderedStates code now e))
      (withdrawnReservation ((liveKeys s bindingId).map EncryptionKey.id) code now) := by
  have hstoppable : ExecutionState.preSpoolIssuable ⊆ unrenderedStates := by decide
  have hwithdraw := @rewritten_withdraw (.takeDown bindingId) _ _ h ((liveKeys s bindingId).map EncryptionKey.id)
    hstoppable code now
  refine ⟨fun e' => ?_, hwithdraw.reservations, fun e he r hr hid => ?_⟩
  · simp only [PrintingState.sweepExecutions, Table.mem_rewrite, hwithdraw.executions]
    constructor
    · rintro ⟨_, ⟨e, he, rfl⟩, rfl⟩
      exact ⟨e, he, rfl⟩
    · rintro ⟨e, he, rfl⟩
      exact ⟨_, ⟨e, he, rfl⟩, rfl⟩
  by_cases hlive : r.LiveFor ((liveKeys s bindingId).map EncryptionKey.id)
  · -- the withdrawal stopped the execution, and the sweep leaves it alone
    obtain ⟨hexecution, hreservation⟩ :=
      withdrawn_of_liveFor h he hr hid hstoppable hlive code now
    have hended : ¬ ((blockedExecution code now e).agentBindingId = bindingId ∧
        (blockedExecution code now e).state ∈ ExecutionState.nonterminal) := by
      rintro ⟨-, hstate⟩
      exact absurd hstate (of_decide_eq_false rfl)
    rw [hexecution, hreservation, endedExecution, if_neg hended]
    exact .withdrawn hlive.2
  · obtain ⟨hexecution, hreservation⟩ :=
      @withdrawn_of_not_liveFor _ _ _ _ unrenderedStates h hr hid hlive code now
    rw [hexecution, hreservation, endedExecution]
    split
    · rename_i hswept
      refine .swept (congrArg MoveKind.takeDown hswept.1.symm) hswept.2 fun hr' => hlive ?_
      rw [← hswept.1, (h.pair e he r hr hid).binding]
      exact liveFor_liveKeys h hr hr'
    · exact .same

end Withdraw

/-! ### A new pair -/

/-- What `authorize_delivery` finds before it makes an execution. -/
theorem authorizationGraph_spec {session : Session} {target : Authorization}
    {graph : AuthorizationGraph}
    (h : authorizationGraph platform session s target = .ok graph) :
    activeKey session s target.binding.id = some graph.key ∧
      storedOf session s target.item.storedFullKmItemId = some graph.stored ∧
      versionOf session s target.job.templateVersionId = some graph.version ∧
      (graph.version.participantId.all fun owner => owner = session.scope.participantId) = true ∧
      checkLayout platform graph.version (rejected "TEMPLATE_LAYOUT_INTEGRITY_FAILED") = .ok () ∧
      checkNoExecution s target.item.id = .ok () := by
  obtain ⟨key, hkey, h⟩ := bind_eq_ok.mp h
  obtain ⟨stored, hstored, h⟩ := bind_eq_ok.mp h
  obtain ⟨version, hversion, h⟩ := bind_eq_ok.mp h
  obtain ⟨_, howner, h⟩ := bind_eq_ok.mp h
  obtain ⟨-, -, h⟩ := bind_eq_ok.mp h
  obtain ⟨profile, -, h⟩ := bind_eq_ok.mp h
  obtain ⟨_, hlayout, h⟩ := bind_eq_ok.mp h
  obtain ⟨_, hnone, h⟩ := bind_eq_ok.mp h
  obtain ⟨-, -, h⟩ := bind_eq_ok.mp h
  obtain ⟨plaintext, -, h⟩ := bind_eq_ok.mp h
  obtain ⟨-, -, h⟩ := bind_eq_ok.mp h
  cases h
  rw [found_eq_ok] at hkey hstored hversion
  exact ⟨hkey, hstored, hversion, ensure_eq_ok.mp howner, hlayout, hnone⟩

/-- No execution of an item that is authorised is engaged. -/
theorem not_engaged_of_check {itemId : String} (h : checkNoExecution s itemId = .ok ()) :
    ∀ e ∈ s.executions, e.printJobItemId = itemId → ¬ Engaged e := by
  obtain ⟨_, hactive, h⟩ := bind_eq_ok.mp h
  rw [ensure_eq_ok] at hactive h
  rintro e he hitem (hstate | hspooled)
  · exact hactive e he hitem hstate
  · exact hspooled (h e he hitem).1

theorem DeliveryInv.authorize {session : Session} {target : Authorization}
    {graph : AuthorizationGraph} {executions : Table PrintExecution.key}
    {reservations : Table DeliveryReservation.key} (h : DeliveryInv s)
    (hauthorized : Authorized platform session s target graph)
    (he : s.executions.insert (newExecution session s target graph) = some executions)
    (hr : s.reservations.insert (newReservation platform session target graph) =
      some reservations) :
    DeliveryInv { s with executions := executions, reservations := reservations } := by
  obtain ⟨hkey, -, -, -, -, hnone⟩ := authorizationGraph_spec hauthorized.graph
  obtain ⟨hkeyMem, hkeyBinding, hkeyState, -⟩ := activeKey_spec hkey
  have hengaged := not_engaged_of_check hnone
  -- the id of the new execution is that of no old one, hence of no old reservation
  have hfresh : ∀ e ∈ s.executions, e.id ≠ session.uuid 0 :=
    Table.find?_eq_none_iff.mp (Table.insert_eq_some he).1
  have hunreserved : ∀ r ∈ s.reservations, r.printExecutionId ≠ session.uuid 0 := by
    intro r hr heq
    obtain ⟨e, he, hid⟩ := h.execution r hr
    exact hfresh e he (hid.trans heq)
  refine ⟨?_, ?_, ?_, ?_, ?_, ?_⟩
  · intro r hmem
    rcases (Table.mem_insert hr).mp hmem with hold | rfl
    · obtain ⟨e, hmem, hid⟩ := h.execution r hold
      exact ⟨e, (Table.mem_insert he).mpr (.inl hmem), hid⟩
    · exact ⟨_, (Table.mem_insert he).mpr (.inr rfl), rfl⟩
  · intro e hmem
    rcases (Table.mem_insert he).mp hmem with hold | rfl
    · obtain ⟨r, hmem, hid⟩ := h.reservation e hold
      exact ⟨r, (Table.mem_insert hr).mpr (.inl hmem), hid⟩
    · exact ⟨_, (Table.mem_insert hr).mpr (.inr rfl), rfl⟩
  · intro r hmem r' hmem' heq
    rcases (Table.mem_insert hr).mp hmem with hold | rfl
    · rcases (Table.mem_insert hr).mp hmem' with hold' | rfl
      · exact h.unique r hold r' hold' heq
      · exact absurd heq (hunreserved r hold)
    · rcases (Table.mem_insert hr).mp hmem' with hold' | rfl
      · exact absurd heq.symm (hunreserved r' hold')
      · rfl
  · intro e hmem r hmem' hid
    rcases (Table.mem_insert he).mp hmem with hold | rfl
    · rcases (Table.mem_insert hr).mp hmem' with hold' | rfl
      · exact h.pair e hold r hold' hid
      · exact absurd hid (hfresh e hold)
    · rcases (Table.mem_insert hr).mp hmem' with hold' | rfl
      · exact absurd hid.symm (hunreserved r hold')
      · refine ⟨rfl, rfl, rfl, rfl, fun _ => List.mem_cons_self, fun hreceived => ?_,
          fun _ => rfl⟩
        exact absurd hreceived (of_decide_eq_false rfl)
  · intro r hmem hlive
    rcases (Table.mem_insert hr).mp hmem with hold | rfl
    · exact h.recipient r hold hlive
    · refine ⟨graph.key, hkeyMem, rfl, hkeyBinding, ?_⟩
      rw [hkeyState]
      exact KeyState.noConfusion
  · intro e hmem e' hmem' hitem hengaged₁ hengaged₂
    rcases (Table.mem_insert he).mp hmem with hold | rfl
    · rcases (Table.mem_insert he).mp hmem' with hold' | rfl
      · exact h.exclusive e hold e' hold' hitem hengaged₁ hengaged₂
      · exact absurd hengaged₁ (hengaged e hold hitem)
    · rcases (Table.mem_insert he).mp hmem' with hold' | rfl
      · exact absurd hengaged₂ (hengaged e' hold' hitem.symm)
      · rfl

/-! ### All moves -/

/-- A state with the same executions and reservations. -/
theorem rewritten_same (he : s'.executions = s.executions)
    (hr : s'.reservations = s.reservations) : Rewritten kind s s' id id where
  executions e' := by simp [he]
  reservations r' := by simp [hr]
  pair _ _ _ _ _ := .same

/-- The executions after a report. -/
theorem applyResult_executions (executionId itemId jobId : String) (result : PhysicalResult)
    (now : ℤ) :
    (s.applyResult executionId itemId jobId result now).executions =
        s.executions.modify executionId (resultExecution result now) (key_resultExecution _ _) ∧
      (s.applyResult executionId itemId jobId result now).reservations = s.reservations := by
  rcases result with ⟨state, jobId, status, code⟩
  cases state <;> exact ⟨rfl, rfl⟩

/-- A report leaves keys and intents alone. -/
theorem applyResult_keys (executionId itemId jobId : String) (result : PhysicalResult) (now : ℤ) :
    (s.applyResult executionId itemId jobId result now).keys = s.keys ∧
      (s.applyResult executionId itemId jobId result now).intents = s.intents := by
  rcases result with ⟨state, jobId, status, code⟩
  cases state <;> exact ⟨rfl, rfl⟩

/-- An authorisation adds a pair. -/
inductive AddsPair (platform : Platform) (s : PrintingState) : MoveKind → PrintingState → Prop
  | mk {session target graph executions reservations} :
      Authorized platform session s target graph →
      s.executions.insert (newExecution session s target graph) = some executions →
      s.reservations.insert (newReservation platform session target graph) = some reservations →
      AddsPair platform s
        (.authorize (newExecution session s target graph)
          (newReservation platform session target graph))
        { s with executions := executions, reservations := reservations }

/-- Every move rewrites executions and reservations in pairs, or it adds a pair. -/
theorem Move.pairs (h : DeliveryInv s) (move : Move platform s kind s') :
    (∃ f g, Rewritten kind s s' f g) ∨ AddsPair platform s kind s' := by
  cases move with
  | insertIntent => exact .inl ⟨id, id, rewritten_same rfl rfl⟩
  | expireIntent => exact .inl ⟨id, id, rewritten_same rfl rfl⟩
  | useIntent => exact .inl ⟨id, id, rewritten_same rfl rfl⟩
  | retireKey => exact .inl ⟨id, id, rewritten_same rfl rfl⟩
  | revokeKey => exact .inl ⟨id, id, rewritten_same rfl rfl⟩
  | insertKey => exact .inl ⟨id, id, rewritten_same rfl rfl⟩
  | withdraw => exact .inl ⟨_, _, rewritten_withdraw h _ (by decide) _ _⟩
  | authorize hauthorized he hr => exact .inr (.mk hauthorized he hr)
  | @close r state code now hr hlive hspent hstate =>
    obtain ⟨e, he, hid⟩ := h.execution r hr
    refine .inl ⟨_, _, rewritten_pair h id (closedReservation state code) he hr hid
      (fun e' => ?_) (fun r' => ?_) (.closed rfl hlive hspent hstate)⟩
    · simp [PrintingState.closeReservation]
    · simp only [PrintingState.closeReservation, Table.mem_modify_iff_exists]
  | @issue r e key now contextSha256 hr hlive hunspent he hid _ _ =>
    refine .inl ⟨_, _, rewritten_pair h (movedExecution .payloadIssued)
      (issuedReservation contextSha256 now) he hr hid (fun e' => ?_) (fun r' => ?_)
      (.issued rfl hlive hunspent)⟩
    · simp only [PrintingState.issueReservation, Table.mem_modify_iff_exists]
    · simp only [PrintingState.issueReservation, Table.mem_modify_iff_exists]
  | @refuse r e now hr hstate he hid =>
    refine .inl ⟨_, _, rewritten_pair h (failedExecution "DELIVERY_ACK_INTEGRITY_MISMATCH" now)
      (closedReservation .blocked "DELIVERY_ACK_INTEGRITY_MISMATCH") he hr hid (fun e' => ?_)
      (fun r' => ?_) (.refused rfl hstate)⟩
    · simp only [PrintingState.refuseDelivery, Table.mem_modify_iff_exists]
    · simp only [PrintingState.refuseDelivery, PrintingState.closeReservation,
        Table.mem_modify_iff_exists]
  | @deliver r e now hr hstate he hid =>
    refine .inl ⟨_, _, rewritten_pair h (deliveredExecution now) (acknowledgedReservation now) he
      hr hid (fun e' => ?_) (fun r' => ?_) (.delivered rfl hstate)⟩
    · simp only [PrintingState.deliver, Table.mem_modify_iff_exists]
    · simp only [PrintingState.deliver, Table.mem_modify_iff_exists]
  | render hrenderable =>
    obtain ⟨hreported, hstate, hgraph⟩ := renderable_spec hrenderable
    obtain ⟨he, -⟩ := reportedExecution_spec hreported
    have hack := acknowledged_of_graph h hgraph
    exact .inl ⟨_, _, rewritten_execution he (key_renderedExecution _ _) rfl rfl fun r hr hid =>
      .rendered rfl hstate (hack r hr hid)⟩
  | @spool session _ _ _ e hspoolable =>
    obtain ⟨hreported, hstate, rows, hgraph⟩ := spoolable_spec hspoolable
    obtain ⟨he, -⟩ := reportedExecution_spec hreported
    have hack := acknowledged_of_graph h hgraph
    exact .inl ⟨_, _, rewritten_execution he (key_submittingExecution _) rfl rfl fun r hr hid =>
      .submitted rfl hstate (hack r hr hid)⟩
  | @report session _ _ result e rows hreportable =>
    obtain ⟨hreported, -, hgraph, hcheck⟩ := reportable_spec hreportable
    obtain ⟨he, -⟩ := reportedExecution_spec hreported
    have hack := acknowledged_of_graph h hgraph
    obtain ⟨hexecutions, hreservations⟩ :=
      @applyResult_executions s e.id rows.item.id rows.job.id result session.now
    exact .inl ⟨_, _, rewritten_execution he (key_resultExecution _ _) hexecutions hreservations
      fun r hr hid => .reported rfl hcheck (hack r hr hid)⟩
  | complete => exact .inl ⟨id, id, rewritten_same rfl rfl⟩
  | observe he =>
    exact .inl ⟨_, _, rewritten_execution he (key_observedExecution _ _) rfl rfl
      fun _ _ _ => .observed rfl⟩
  | takeDown => exact .inl ⟨_, _, rewritten_takeDown h _ _ _⟩
  | disableBinding => exact .inl ⟨id, id, rewritten_same rfl rfl⟩
  | insertJob => exact .inl ⟨id, id, rewritten_same rfl rfl⟩
  | insertEvent => exact .inl ⟨id, id, rewritten_same rfl rfl⟩

theorem keepsKeys_of_eq (hk : s'.keys = s.keys) : KeepsKeys s s' :=
  fun key hkey hstate _ => ⟨key, hk ▸ hkey, rfl, rfl, hstate⟩

/-- A key is still there after a key retired, as it was or retiring. -/
theorem retireKey_keys {keyId : String} {key : EncryptionKey} (now : ℤ) (hkey : key ∈ s.keys) :
    ∃ key' ∈ (s.retireKey keyId now).keys, key'.id = key.id ∧
      key'.agentBindingId = key.agentBindingId ∧ (key' = key ∨ key'.state = .retiring) := by
  simp only [PrintingState.retireKey, Table.mem_modify_iff_exists]
  refine ⟨_, ⟨key, hkey, rfl⟩, ?_⟩
  split
  · exact ⟨rfl, rfl, .inr rfl⟩
  · exact ⟨rfl, rfl, .inl rfl⟩

/-- No move gives up the key of a live reservation before it withdrew the reservation. -/
theorem Move.keys (move : Move platform s kind s') : KeepsKeys s s' := by
  cases move with
  | @retireKey key₀ now =>
    intro key hkey hstate _
    obtain ⟨key', hkey', hid, hbinding, hstate'⟩ := @retireKey_keys s key₀.id _ now hkey
    refine ⟨key', hkey', hid, hbinding, ?_⟩
    rcases hstate' with rfl | hstate'
    · exact hstate
    · exact fun hrevoked => KeyState.noConfusion (hstate'.symm.trans hrevoked)
  | @revokeKey keyId now hfree =>
    rintro key hkey hstate ⟨r, hr, hlive, hid⟩
    have hne : key.id ≠ keyId := fun heq => hfree r hr hlive (hid.trans heq)
    refine ⟨key, ?_, rfl, rfl, hstate⟩
    simp only [PrintingState.revokeKey, Table.mem_modify_iff_exists]
    exact ⟨key, hkey, if_neg hne⟩
  | insertKey _ _ _ hinsert =>
    intro key hkey hstate _
    exact ⟨key, (Table.mem_insert hinsert).mpr (.inl hkey), rfl, rfl, hstate⟩
  | @report session _ _ result e rows =>
    exact keepsKeys_of_eq
      (@applyResult_keys s e.id rows.item.id rows.job.id result session.now).1
  | _ => exact keepsKeys_of_eq rfl

theorem DeliveryInv.move (h : DeliveryInv s) (move : Move platform s kind s') :
    DeliveryInv s' := by
  rcases move.pairs h with ⟨f, g, hrewritten⟩ | ⟨hauthorized, he, hr⟩
  · exact h.rewritten move.keys hrewritten
  · exact h.authorize hauthorized he hr

theorem DeliveryInv.surroundings (h : DeliveryInv s) (around : Surroundings s s') :
    DeliveryInv s' :=
  h.rewritten (keepsKeys_of_eq around.keys)
    (@rewritten_same (.takeDown "") _ _ around.executions around.reservations)

/-- Every step keeps what holds of the tables. -/
theorem PrintingStep.deliveryInv {label : PrintingLabel} (h : DeliveryInv s)
    (step : PrintingStep platform s label s') : DeliveryInv s' :=
  run_invariant (.single step) DeliveryInv h (fun _ _ => DeliveryInv.surroundings)
    fun _ _ _ => DeliveryInv.move

/-- What holds of the tables holds in every state of a run. -/
theorem run_deliveryInv {labels : List PrintingLabel}
    (run : Run (PrintingStep platform) .initial labels s) : DeliveryInv s :=
  run.invariant DeliveryInv deliveryInv_initial fun _ _ _ h step => step.deliveryInv h

end Tables

end Wbcz.Printing
