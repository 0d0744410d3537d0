import Wbcz.WritePipeline.Store

/-!
# What an accepted transaction does

One inversion theorem for the whole store: an accepted call has one of eight effects on
the table of operations, each with the guards under which it is accepted. Everything
about runs of the store is derived from it.
-/

namespace Wbcz

/-- The calls that change nothing of an operation but its state. -/
inductive Moves : StoreCall → String → WriteState → WriteState → Prop
  | reserve {id} : Moves (.reserveSubmit id) id .signed .submitting
  | ambiguous {id errorType} :
      Moves (.markSubmitAmbiguous id errorType) id .submitting .manualReview
  | review {id reason a} : a ∈ WriteStore.manualReviewSources →
      Moves (.markManualReview id reason) id a .manualReview
  | fail {id errorType a} : a ∈ [WriteState.awaitingSignature, .signed] →
      Moves (.markError id errorType) id a .error
  | pollIntermediate {id status httpStatus bodySha256} :
      classifyPollStatus status = .intermediate →
      Moves (.applyPollStatus id status httpStatus bodySha256) id .submitted .processing
  | pollTerminal {id status httpStatus bodySha256 a} :
      classifyPollStatus status ≠ .intermediate → a ∈ [WriteState.submitted, .processing] →
      Moves (.applyPollStatus id status httpStatus bodySha256) id a
        (WriteStore.pollTarget (classifyPollStatus status))
  | reconcile {id confirmed details} :
      Moves (.reconciliationResult id confirmed details) id .reconciliationRequired
        (if confirmed then .succeeded else .manualReview)

/-- The effect of an accepted call on the table of operations. -/
inductive Effect (sha256 : List UInt8 → String) (ops : Table OperationRow.key) :
    StoreCall → Table OperationRow.key → Prop
  | inserted {request now ops'} : WriteStore.checkPrepare sha256 request = .ok () →
      (∀ row ∈ ops, row.businessFingerprint ≠ businessFingerprint sha256 request) →
      ops.insert (WriteStore.preparedRow request (businessFingerprint sha256 request) now
        .awaitingSignature) = some ops' →
      Effect sha256 ops (.prepare request now) ops'
  | prepareReplayed {request now row} : WriteStore.checkPrepare sha256 request = .ok () →
      row ∈ ops → row.businessFingerprint = businessFingerprint sha256 request →
      Effect sha256 ops (.prepare request now) ops
  | signed {response ownInn signature row} : ops.find? response.operationId = some row →
      row.state = .awaitingSignature →
      WriteStore.checkSignature row response ownInn = .ok signature →
      Effect sha256 ops (.acceptSignature response ownInn)
        (ops.modify response.operationId (WriteStore.signRow response signature) fun _ => rfl)
  | signatureReplayed {response ownInn signature row} :
      ops.find? response.operationId = some row → row.state ∈ WriteStore.signatureReplayStates →
      row.signatureBase64 = some signature →
      WriteStore.checkSignature row response ownInn = .ok signature →
      Effect sha256 ops (.acceptSignature response ownInn) ops
  | submitted {id result row} : ops.find? id = some row → row.state = .submitting →
      (result.category = .successWithId → truthyText result.documentId) →
      Effect sha256 ops (.completeSubmit id result)
        (ops.modify id (WriteStore.submitRow result) fun _ => rfl)
  | moved {call id target row} : ops.find? id = some row → Moves call id row.state target →
      (target = .submitting → truthyText row.signatureBase64) →
      Effect sha256 ops call
        (ops.modify id (fun row => { row with state := target }) fun _ => rfl)
  | noted {id action details} : Effect sha256 ops (.auditNote id action details) ops
  | polledAgain {id status httpStatus bodySha256 row} : ops.find? id = some row →
      row.state = .processing →
      Effect sha256 ops (.applyPollStatus id status httpStatus bodySha256) ops

theorem OperationRow.operationId_of_find? {ops : Table OperationRow.key} {id : String}
    {row : OperationRow} (h : ops.find? id = some row) : row.operationId = id := by
  have hkey := Table.key_of_find? h
  exact hkey

namespace WriteStore

variable {sha256 : List UInt8 → String} {s s' : WriteStore}

@[simp] theorem addAudit_operations {operationId action fromState toState details} :
    (s.addAudit operationId action fromState toState details).operations = s.operations := rfl

theorem row_eq_ok {operationId : String} {row : OperationRow} :
    s.row operationId = .ok row ↔ s.operations.find? operationId = some row := by
  unfold WriteStore.row
  split <;> simp_all

theorem get_eq_ok {operationId : String} {op : OperationRecord} :
    s.get operationId = .ok op ↔
      ∃ row, s.operations.find? operationId = some row ∧ row.toOperationRecord = op := by
  unfold WriteStore.get
  cases h : s.row operationId with
  | ok row =>
    have hrow := row_eq_ok.mp h
    simp [Except.map, hrow]
  | error e =>
    have hnone : ¬ ∃ row, s.operations.find? operationId = some row := by
      rintro ⟨row, hrow⟩
      rw [row_eq_ok.mpr hrow] at h
      cases h
    simp only [Except.map, reduceCtorEq, false_iff]
    rintro ⟨row, hrow, _⟩
    exact hnone ⟨row, hrow⟩

/-- An accepted transition found its row in an expected state. -/
theorem transition_eq_ok {operationId action : String} {expected : List WriteState}
    {target : WriteState} {details : List (String × Json)} {op : OperationRecord}
    (h : s.transition operationId expected target action details = .ok (op, s')) :
    ∃ row, s.operations.find? operationId = some row ∧ row.state ∈ expected ∧
      op = { row.toOperationRecord with state := target } ∧
      s' = (s.setState operationId target).addAudit operationId action (some row.state)
        (some target) details := by
  unfold WriteStore.transition at h
  split at h
  · cases h
  · rename_i row hrow
    split at h
    · cases h
    · rename_i hstate
      cases h
      exact ⟨row, row_eq_ok.mp hrow, not_not.mp hstate, rfl, rfl⟩

/-- A transition from an expected state is accepted. -/
theorem transition_of_mem {operationId action : String} {expected : List WriteState}
    {target : WriteState} {details : List (String × Json)} {row : OperationRow}
    (hrow : s.operations.find? operationId = some row) (hstate : row.state ∈ expected) :
    s.transition operationId expected target action details =
      .ok ({ row.toOperationRecord with state := target },
        (s.setState operationId target).addAudit operationId action (some row.state)
          (some target) details) := by
  rw [WriteStore.transition, row_eq_ok.mpr hrow]
  simp [hstate]

private theorem map_snd_eq_ok {α : Type} {x : Except PyError (α × WriteStore)} {s' : WriteStore}
    (h : x.map Prod.snd = .ok s') : ∃ a, x = .ok (a, s') := by
  cases x with
  | error e => cases h
  | ok result =>
    cases h
    exact ⟨result.1, rfl⟩

private theorem effect_of_prepare {request : PrepareRequest} {now : String}
    {op : OperationRecord} (h : s.prepare sha256 request now = .ok (op, s')) :
    Effect sha256 s.operations (.prepare request now) s'.operations := by
  unfold WriteStore.prepare at h
  split at h
  · cases h
  · rename_i hcheck
    simp only at h
    split at h
    · rename_i existing hfind
      split at h
      · cases h
        have hfp := List.find?_some hfind
        exact .prepareReplayed hcheck (List.mem_of_find?_eq_some hfind) (by simpa using hfp)
      · cases h
    · rename_i hnone
      split at h
      · cases h
      · rename_i ops₁ hinsert
        cases h
        refine .inserted hcheck ?_ ?_
        · intro row hrow
          simpa using List.find?_eq_none.mp hnone row hrow
        · exact Table.insert_modify (fun row => { row with state := .awaitingSignature })
            (fun _ => rfl) hinsert

private theorem effect_of_acceptSignature {response : SigningResponse} {ownInn : String}
    {op : OperationRecord} (h : s.acceptSignature response ownInn = .ok (op, s')) :
    Effect sha256 s.operations (.acceptSignature response ownInn) s'.operations := by
  unfold WriteStore.acceptSignature at h
  split at h
  · cases h
  · rename_i row hrow
    rw [row_eq_ok] at hrow
    split at h
    · cases h
    · rename_i signature hcheck
      split at h
      · split at h
        · rename_i hreplay
          cases h
          exact .signatureReplayed hrow hreplay.2 hreplay.1 hcheck
        · cases h
      · rename_i hstate
        cases h
        simp only [addAudit_operations, OperationRow.operationId_of_find? hrow]
        exact .signed hrow (not_not.mp hstate) hcheck

private theorem effect_of_reserveSubmit {operationId : String} {op : OperationRecord}
    (h : s.reserveSubmit operationId = .ok (op, s')) :
    Effect sha256 s.operations (.reserveSubmit operationId) s'.operations := by
  unfold WriteStore.reserveSubmit at h
  split at h
  · cases h
  · rename_i current hget
    obtain ⟨row, hrow, rfl⟩ := get_eq_ok.mp hget
    split at h
    · split at h <;> cases h
    · split at h
      · cases h
      · rename_i hstate hsignature
        obtain ⟨row', hrow', _, _, rfl⟩ := transition_eq_ok h
        rw [hrow] at hrow'
        cases hrow'
        refine .moved hrow ?_ fun _ => not_not.mp hsignature
        rw [not_not.mp hstate]
        exact .reserve

private theorem effect_of_completeSubmit {operationId : String} {result : CreateResult}
    {op : OperationRecord} (h : s.completeSubmit operationId result = .ok (op, s')) :
    Effect sha256 s.operations (.completeSubmit operationId result) s'.operations := by
  unfold WriteStore.completeSubmit at h
  split at h
  · cases h
  · rename_i row hrow
    split at h
    · cases h
    · rename_i hstate
      split at h
      · cases h
      · rename_i hid
        split at h
        · cases h
        · cases h
          refine .submitted (row_eq_ok.mp hrow) (not_not.mp hstate) fun hcat => ?_
          by_contra hempty
          exact hid ⟨hcat, hempty⟩

private theorem effect_of_applyPollStatus {operationId : String} {status : Option String}
    {httpStatus : Option Int} {bodySha256 : Option String}
    {result : OperationRecord × PollClassification}
    (h : s.applyPollStatus operationId status httpStatus bodySha256 = .ok (result, s')) :
    Effect sha256 s.operations (.applyPollStatus operationId status httpStatus bodySha256)
      s'.operations := by
  unfold WriteStore.applyPollStatus at h
  simp only at h
  split at h
  · cases h
  · rename_i current hget
    obtain ⟨row, hrow, rfl⟩ := get_eq_ok.mp hget
    split at h
    · cases h
    · rename_i hstate
      have hstate := not_not.mp hstate
      -- the transitions differ in their source states and targets only
      have moved : ∀ expected target action details,
          (s.transition operationId expected target action details).map
            (fun r => ((r.1, classifyPollStatus status), r.2)) = .ok (result, s') →
          Moves (.applyPollStatus operationId status httpStatus bodySha256) operationId
            row.state target → target ≠ .submitting →
          Effect sha256 s.operations
            (.applyPollStatus operationId status httpStatus bodySha256) s'.operations := by
        intro expected target action details hmap hmoves htarget
        cases htrans : s.transition operationId expected target action details with
        | error e =>
          rw [htrans] at hmap
          cases hmap
        | ok r =>
          rw [htrans] at hmap
          cases hmap
          obtain ⟨row', _, _, _, hs'⟩ := transition_eq_ok htrans
          simp only [hs']
          exact .moved hrow hmoves fun h => absurd h htarget
      split at h
      · rename_i hclass
        split at h
        · rename_i hsubmitted
          refine moved _ _ _ _ h ?_ (by decide)
          rw [hsubmitted]
          exact .pollIntermediate hclass
        · rename_i hsubmitted
          cases h
          refine .polledAgain hrow ?_
          simp only [List.mem_cons, List.not_mem_nil, or_false] at hstate
          exact hstate.resolve_left hsubmitted
      · rename_i hclass
        refine moved _ _ _ _ h (.pollTerminal hclass hstate) ?_
        cases classifyPollStatus status <;> decide

/-- Every accepted call has one of the listed effects. -/
theorem effect_of_step {call : StoreCall} (h : s.step sha256 call = .ok s') :
    Effect sha256 s.operations call s'.operations := by
  cases call with
  | prepare request now =>
    obtain ⟨op, h⟩ := map_snd_eq_ok h
    exact effect_of_prepare h
  | acceptSignature response ownInn =>
    obtain ⟨op, h⟩ := map_snd_eq_ok h
    exact effect_of_acceptSignature h
  | reserveSubmit operationId =>
    obtain ⟨op, h⟩ := map_snd_eq_ok h
    exact effect_of_reserveSubmit h
  | completeSubmit operationId result =>
    obtain ⟨op, h⟩ := map_snd_eq_ok h
    exact effect_of_completeSubmit h
  | markSubmitAmbiguous operationId errorType =>
    obtain ⟨op, h⟩ := map_snd_eq_ok h
    obtain ⟨row, hrow, hstate, _, rfl⟩ := transition_eq_ok h
    refine .moved hrow ?_ fun h => nomatch h
    rw [List.mem_singleton.mp hstate]
    exact .ambiguous
  | markManualReview operationId reason =>
    obtain ⟨op, h⟩ := map_snd_eq_ok h
    obtain ⟨row, hrow, hstate, _, rfl⟩ := transition_eq_ok h
    exact .moved hrow (.review hstate) fun h => nomatch h
  | markError operationId errorType =>
    obtain ⟨op, h⟩ := map_snd_eq_ok h
    obtain ⟨row, hrow, hstate, _, rfl⟩ := transition_eq_ok h
    exact .moved hrow (.fail hstate) fun h => nomatch h
  | auditNote operationId action details =>
    cases h
    exact .noted
  | applyPollStatus operationId status httpStatus bodySha256 =>
    obtain ⟨result, h⟩ := map_snd_eq_ok h
    exact effect_of_applyPollStatus h
  | reconciliationResult operationId confirmed details =>
    obtain ⟨op, h⟩ := map_snd_eq_ok h
    obtain ⟨row, hrow, hstate, _, rfl⟩ := transition_eq_ok h
    refine .moved hrow ?_ fun h => ?_
    · rw [List.mem_singleton.mp hstate]
      exact .reconcile
    · cases confirmed <;> cases h

end WriteStore

end Wbcz
