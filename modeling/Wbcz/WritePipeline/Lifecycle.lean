import Wbcz.WritePipeline.Transactions
import Wbcz.Lib.Sha256

/-!
# The life of a write operation

What holds of every operation in every state of the store, whatever calls were made
before and in whatever order. The invariant ties a row to the accepted calls that made
it: its preparation, its signature, the poll that found it checked and the
reconciliation that confirmed it.
-/

namespace Wbcz

open WriteStore

/-- The columns recorded when an operation is prepared. -/
structure OperationIdentity where
  operationId : String
  businessFingerprint : String
  eventId : String
  decision : Decision
  documentType : String
  operationReason : String
  pg : String
  expectedInn : String
  documentSha256 : String
  productDocumentBase64 : String
  preparedAt : String
  deriving DecidableEq, Repr

/-- The identity of a row. -/
def OperationRow.identity (row : OperationRow) : OperationIdentity where
  operationId := row.operationId
  businessFingerprint := row.businessFingerprint
  eventId := row.eventId
  decision := row.decision
  documentType := row.documentType
  operationReason := row.operationReason
  pg := row.pg
  expectedInn := row.expectedInn
  documentSha256 := row.documentSha256
  productDocumentBase64 := row.productDocumentBase64
  preparedAt := row.preparedAt

/-- The identity `prepare` records for a request. -/
def PrepareRequest.identity (sha256 : List UInt8 → String) (request : PrepareRequest)
    (now : String) : OperationIdentity :=
  (preparedRow request (businessFingerprint sha256 request) now .prepared).identity

namespace WriteState

/-- The states of an operation whose document the remote system has accepted. -/
def documentStates : List WriteState := [submitted, processing, reconciliationRequired, succeeded]

/-- The states that are reached with a signature only. -/
def signatureStates : List WriteState :=
  [signed, submitting, submitted, processing, reconciliationRequired, succeeded, failed]

/-- The states without a way out. -/
def terminalStates : List WriteState := [succeeded, failed, manualReview, error]

end WriteState

open WriteState

/-- The call reports the document of an operation as checked. -/
def StoreCall.PollsChecked (operationId : String) : StoreCall → Prop
  | .applyPollStatus id status _ _ => id = operationId ∧ status = some "CHECKED_OK"
  | _ => False

/-- The call confirms the reconciliation of an operation. -/
def StoreCall.Confirms (operationId : String) : StoreCall → Prop
  | .reconciliationResult id confirmed _ => id = operationId ∧ confirmed = true
  | _ => False

section Moves

variable {call : StoreCall} {id : String} {a b : WriteState}

theorem Moves.signature (h : Moves call id a b) (hb : b ∈ signatureStates) :
    a ∈ signatureStates := by
  cases h with
  | review _ => exact absurd hb (by decide)
  | fail _ => exact absurd hb (by decide)
  | pollTerminal _ ha => revert a; decide
  | ambiguous => exact absurd hb (by decide)
  | _ => decide

theorem Moves.document (h : Moves call id a b) (hb : b ∈ documentStates) :
    a ∈ documentStates := by
  cases h with
  | reserve => exact absurd hb (by decide)
  | review _ => exact absurd hb (by decide)
  | fail _ => exact absurd hb (by decide)
  | pollTerminal _ ha => revert a; decide
  | ambiguous => exact absurd hb (by decide)
  | _ => decide

/-- Only a poll that reports the document as checked leads to reconciliation. -/
theorem Moves.pollsChecked (h : Moves call id a .reconciliationRequired) :
    call.PollsChecked id := by
  generalize hb : WriteState.reconciliationRequired = b at h
  cases h with
  | @pollTerminal _ status _ _ _ hclass ha =>
    refine ⟨rfl, ?_⟩
    unfold classifyPollStatus at hb hclass
    split at hb
    · cases hb
    · split at hb
      · assumption
      · split at hb <;> cases hb
  | @reconcile _ confirmed _ => cases confirmed <;> cases hb
  | _ => cases hb

/-- Only a confirmed reconciliation leads to success. -/
theorem Moves.confirms (h : Moves call id a .succeeded) :
    a = .reconciliationRequired ∧ call.Confirms id := by
  generalize hb : WriteState.succeeded = b at h
  cases h with
  | @pollTerminal _ status _ _ _ hclass ha =>
    cases hc : classifyPollStatus status <;> rw [hc] at hb <;> cases hb
  | @reconcile _ confirmed _ =>
    cases confirmed
    · cases hb
    · exact ⟨rfl, rfl, rfl⟩
  | _ => cases hb

theorem Moves.not_terminal (h : Moves call id a b) : a ∉ terminalStates := by
  cases h with
  | review ha => revert a; decide
  | fail ha => revert a; decide
  | pollTerminal _ ha => revert a; decide
  | _ => decide

end Moves

variable {sha256 : List UInt8 → String}

/-! ### Rows and the calls that made them -/

/-- The row agrees with the calls accepted so far. -/
structure WellRecorded (sha256 : List UInt8 → String) (log : List StoreCall)
    (row : OperationRow) : Prop where
  preparation : ∃ request now, StoreCall.prepare request now ∈ log ∧
    checkPrepare sha256 request = .ok () ∧ row.identity = request.identity sha256 now
  signature : row.state ∈ signatureStates → ∃ signature response ownInn,
    row.signatureBase64 = some signature ∧ StoreCall.acceptSignature response ownInn ∈ log ∧
      response.operationId = row.operationId ∧ checkSignature row response ownInn = .ok signature
  document : row.state ∈ documentStates →
    (∃ documentId, row.documentId = some documentId ∧ documentId ≠ "") ∧
      row.submitCategory = some .successWithId
  checked : row.state = .reconciliationRequired →
    ∃ poll ∈ log, poll.PollsChecked row.operationId
  confirmed : row.state = .succeeded → ∃ poll reconciliation,
    [poll, reconciliation].Sublist log ∧ poll.PollsChecked row.operationId ∧
      reconciliation.Confirms row.operationId

namespace WellRecorded

variable {log : List StoreCall} {row : OperationRow} {call : StoreCall}

/-- Later calls do not unmake a row's record. -/
theorem extend (h : WellRecorded sha256 log row) (call : StoreCall) :
    WellRecorded sha256 (log ++ [call]) row where
  preparation := by
    obtain ⟨request, now, hmem, hrest⟩ := h.preparation
    exact ⟨request, now, List.mem_append_left _ hmem, hrest⟩
  signature hstate := by
    obtain ⟨signature, response, ownInn, hsig, hmem, hrest⟩ := h.signature hstate
    exact ⟨signature, response, ownInn, hsig, List.mem_append_left _ hmem, hrest⟩
  document := h.document
  checked hstate := by
    obtain ⟨poll, hmem, hpoll⟩ := h.checked hstate
    exact ⟨poll, List.mem_append_left _ hmem, hpoll⟩
  confirmed hstate := by
    obtain ⟨poll, reconciliation, hsub, hrest⟩ := h.confirmed hstate
    exact ⟨poll, reconciliation, hsub.trans (List.sublist_append_left _ _), hrest⟩

theorem inserted {request : PrepareRequest} {now : String}
    (hcheck : checkPrepare sha256 request = .ok ()) :
    WellRecorded sha256 (log ++ [.prepare request now])
      (preparedRow request (businessFingerprint sha256 request) now .awaitingSignature) where
  preparation := ⟨request, now, by simp, hcheck, rfl⟩
  signature hstate := absurd hstate (show WriteState.awaitingSignature ∉ _ by decide)
  document hstate := absurd hstate (show WriteState.awaitingSignature ∉ _ by decide)
  checked hstate := nomatch hstate
  confirmed hstate := nomatch hstate

theorem signed {response : SigningResponse} {ownInn signature : String}
    (h : WellRecorded sha256 log row) (hid : row.operationId = response.operationId)
    (hcheck : checkSignature row response ownInn = .ok signature) :
    WellRecorded sha256 (log ++ [.acceptSignature response ownInn])
      (signRow response signature row) where
  preparation := (h.extend _).preparation
  signature _ := ⟨signature, response, ownInn, rfl, by simp, hid.symm, hcheck⟩
  document hstate := absurd hstate (show WriteState.signed ∉ _ by decide)
  checked hstate := nomatch hstate
  confirmed hstate := nomatch hstate

theorem submitted {id : String} {result : CreateResult} (h : WellRecorded sha256 log row)
    (hstate : row.state = .submitting)
    (hid : result.category = .successWithId → truthyText result.documentId) :
    WellRecorded sha256 (log ++ [.completeSubmit id result]) (submitRow result row) where
  preparation := (h.extend _).preparation
  signature _ := (h.extend _).signature (hstate ▸ by decide)
  document htarget := by
    have hcat : result.category = .successWithId := by
      revert htarget
      simp only [submitRow]
      cases result.category <;> decide
    have htruthy := hid hcat
    cases hdoc : result.documentId with
    | none => simp [hdoc, truthyText] at htruthy
    | some documentId =>
      refine ⟨⟨documentId, ?_, by simpa [hdoc, truthyText] using htruthy⟩, ?_⟩
      · simp [submitRow, hcat, submitTarget, hdoc]
      · simp [submitRow, hcat]
  checked htarget := by
    revert htarget
    simp only [submitRow]
    cases result.category <;> rintro ⟨⟩
  confirmed htarget := by
    revert htarget
    simp only [submitRow]
    cases result.category <;> rintro ⟨⟩

theorem moved {target : WriteState} (h : WellRecorded sha256 log row)
    (hmoves : Moves call row.operationId row.state target) :
    WellRecorded sha256 (log ++ [call]) { row with state := target } where
  preparation := (h.extend call).preparation
  signature htarget := (h.extend call).signature (hmoves.signature htarget)
  document htarget := h.document (hmoves.document htarget)
  checked htarget := by
    cases (show target = .reconciliationRequired from htarget)
    exact ⟨call, by simp, hmoves.pollsChecked⟩
  confirmed htarget := by
    cases (show target = .succeeded from htarget)
    obtain ⟨hfrom, hconfirms⟩ := hmoves.confirms
    obtain ⟨poll, hmem, hpoll⟩ := h.checked hfrom
    refine ⟨poll, call, ?_, hpoll, hconfirms⟩
    exact (List.singleton_sublist.mpr hmem).append (List.Sublist.refl [call])

end WellRecorded

/-- One accepted call keeps every row well recorded. -/
theorem wellRecorded_of_effect {log : List StoreCall} {ops ops' : Table OperationRow.key}
    {call : StoreCall} (h : ∀ row ∈ ops, WellRecorded sha256 log row)
    (heffect : Effect sha256 ops call ops') :
    ∀ row ∈ ops', WellRecorded sha256 (log ++ [call]) row := by
  intro row hrow
  cases heffect with
  | inserted hcheck _ hinsert =>
    rcases (Table.mem_insert hinsert).mp hrow with hold | rfl
    · exact (h row hold).extend _
    · exact .inserted hcheck
  | signed hfind hstate hcheck =>
    rcases (Table.mem_modify_of_find? hfind).mp hrow with ⟨hold, _⟩ | rfl
    · exact (h row hold).extend _
    · exact (h _ (Table.mem_of_find? hfind)).signed (OperationRow.operationId_of_find? hfind) hcheck
  | submitted hfind hstate hid =>
    rcases (Table.mem_modify_of_find? hfind).mp hrow with ⟨hold, _⟩ | rfl
    · exact (h row hold).extend _
    · exact (h _ (Table.mem_of_find? hfind)).submitted hstate hid
  | moved hfind hmoves _ =>
    rcases (Table.mem_modify_of_find? hfind).mp hrow with ⟨hold, _⟩ | rfl
    · exact (h row hold).extend _
    · cases Table.key_of_find? hfind
      exact (h _ (Table.mem_of_find? hfind)).moved hmoves
  | prepareReplayed | signatureReplayed | noted | polledAgain => exact (h row hrow).extend _

/-- Every row of a store reached from the empty one is well recorded. -/
theorem wellRecorded_of_run {log : List StoreCall} {s : WriteStore}
    (run : Transition.Run (Transition.Accepts (step sha256)) .empty log s) :
    ∀ row ∈ s.operations, WellRecorded sha256 log row :=
  run.history (fun log s => ∀ row ∈ s.operations, WellRecorded sha256 log row)
    (fun _ hrow => absurd hrow Table.not_mem_empty)
    fun _ _ _ _ h hstep => wellRecorded_of_effect h (effect_of_step hstep)

/-! ### What later calls cannot change -/

/-- A later version of a row: the same identity, and the same state if that is terminal. -/
structure Persists (row row' : OperationRow) : Prop where
  identity : row'.identity = row.identity
  terminal : row.state ∈ terminalStates → row'.state = row.state

namespace Persists

variable {row row' row'' : OperationRow}

theorem refl (row : OperationRow) : Persists row row := ⟨rfl, fun _ => rfl⟩

theorem trans (h : Persists row row') (h' : Persists row' row'') : Persists row row'' where
  identity := h'.identity.trans h.identity
  terminal ht := by
    have hstate := h.terminal ht
    rw [h'.terminal (hstate ▸ ht), hstate]

end Persists

/-- Every row of the first table persists in the second. -/
def RowsPersist (ops ops' : Table OperationRow.key) : Prop :=
  ∀ row ∈ ops, ∃ row' ∈ ops', Persists row row'

/-- A rewriting of one row that persists keeps the whole table. -/
theorem rowsPersist_modify {ops : Table OperationRow.key} {id : String} {row : OperationRow}
    {f : OperationRow → OperationRow} {hf : ∀ row, (f row).key = row.key}
    (hfind : ops.find? id = some row) (h : Persists row (f row)) :
    RowsPersist ops (ops.modify id f hf) := by
  intro row' hrow'
  by_cases hkey : row'.key = id
  · have hsame : row' = row := Table.eq_of_key_eq hrow' (Table.mem_of_find? hfind)
      (hkey.trans (Table.key_of_find? hfind).symm)
    subst hsame
    exact ⟨f row', Table.mem_modify.mpr (Or.inr ⟨row', hrow', hkey, rfl⟩), h⟩
  · exact ⟨row', Table.mem_modify.mpr (Or.inl ⟨hrow', hkey⟩), .refl row'⟩

/-- One accepted call keeps every row. -/
theorem rowsPersist_of_effect {ops ops' : Table OperationRow.key} {call : StoreCall}
    (h : Effect sha256 ops call ops') : RowsPersist ops ops' := by
  have keep : RowsPersist ops ops := fun row hrow => ⟨row, hrow, .refl row⟩
  cases h with
  | inserted _ _ hinsert =>
    intro row hrow
    exact ⟨row, (Table.mem_insert hinsert).mpr (Or.inl hrow), .refl row⟩
  | signed hfind hstate _ =>
    exact rowsPersist_modify hfind ⟨rfl, fun ht => absurd ht (hstate ▸ by decide)⟩
  | submitted hfind hstate _ =>
    exact rowsPersist_modify hfind ⟨rfl, fun ht => absurd ht (hstate ▸ by decide)⟩
  | moved hfind hmoves _ =>
    exact rowsPersist_modify hfind ⟨rfl, fun ht => absurd ht hmoves.not_terminal⟩
  | prepareReplayed | signatureReplayed | noted | polledAgain => exact keep

/-- Whatever is called, every row persists. -/
theorem persists_of_run {log : List StoreCall} {s s' : WriteStore}
    (run : Transition.Run (Transition.Accepts (step sha256)) s log s') :
    RowsPersist s.operations s'.operations := by
  refine run.monotone (fun s s' => RowsPersist s.operations s'.operations)
    (fun s row hrow => ⟨row, hrow, .refl row⟩) ?_
    fun _ _ _ hstep => rowsPersist_of_effect (effect_of_step hstep)
  intro s₁ s₂ s₃ h₁₂ h₂₃ row hrow
  obtain ⟨row', hrow', hp⟩ := h₁₂ row hrow
  obtain ⟨row'', hrow'', hp'⟩ := h₂₃ row' hrow'
  exact ⟨row'', hrow'', hp.trans hp'⟩

/-- After any list of calls: an operation whose document was accepted has a document id, an
accepted signature and the category of success; success followed a checked poll and then a
confirmed reconciliation; and whatever is called later, no operation leaves a terminal state
or changes what was recorded when it was prepared. -/
theorem write_operation_lifecycle (sha256 : List UInt8 → String) (calls : List StoreCall) :
    let s := Transition.exec (step sha256) .empty calls
    let log := Transition.accepted (step sha256) .empty calls
    ∀ row ∈ s.operations,
      (row.state ∈ documentStates →
        (∃ documentId, row.documentId = some documentId ∧ documentId ≠ "") ∧
        row.submitCategory = some .successWithId ∧
        ∃ signature response ownInn, row.signatureBase64 = some signature ∧
          StoreCall.acceptSignature response ownInn ∈ log ∧
          response.operationId = row.operationId ∧
          checkSignature row response ownInn = .ok signature) ∧
      (row.state = .succeeded → ∃ poll reconciliation,
        [poll, reconciliation].Sublist log ∧ poll.PollsChecked row.operationId ∧
          reconciliation.Confirms row.operationId) ∧
      (∃ request now, StoreCall.prepare request now ∈ log ∧
        checkPrepare sha256 request = .ok () ∧ row.identity = request.identity sha256 now) ∧
      ∀ more, ∃ row' ∈ (Transition.exec (step sha256) s more).operations,
        row'.identity = row.identity ∧
          (row.state ∈ terminalStates → row'.state = row.state) := by
  intro s log row hrow
  have hrecord : WellRecorded sha256 log row :=
    wellRecorded_of_run (Transition.run_accepted _ calls) row hrow
  refine ⟨fun hstate => ?_, hrecord.confirmed, hrecord.preparation, fun more => ?_⟩
  · have hsigned : row.state ∈ signatureStates := by
      revert hstate
      cases row.state <;> decide
    exact ⟨(hrecord.document hstate).1, (hrecord.document hstate).2, hrecord.signature hsigned⟩
  · obtain ⟨row', hrow', hp⟩ := persists_of_run (Transition.run_accepted s more) row hrow
    exact ⟨row', hrow', hp.identity, hp.terminal⟩

/-! ### A run to success -/

/-- A sale to be withdrawn, with the empty document. -/
def sampleRequest : PrepareRequest where
  eventId := "event-1"
  decision := .readyToWithdraw
  documentType := "LK_RECEIPT"
  operationReason := "DISTANCE"
  pg := "lp"
  expectedInn := "7700000000"
  document := ⟨Text.utf8 "\x7b\x7d", Sha256.hexdigest (Text.utf8 "\x7b\x7d"), "e30="⟩

/-- The key of the operation of `sampleRequest`. -/
def sampleOperationId : String :=
  operationIdOf (businessFingerprint Sha256.hexdigest sampleRequest)

/-- The answer of the signer for `sampleRequest`. -/
def sampleSigningResponse : SigningResponse where
  operationId := sampleOperationId
  documentSha256 := sampleRequest.document.sha256
  signatureBase64 := "c2ln"

/-- A create request that succeeds. -/
def sampleCreateResult : CreateResult := ⟨.successWithId, 200, some "doc-1", "", none⟩

/-- The calls that take an operation to success. -/
def sampleCalls : List StoreCall :=
  [.prepare sampleRequest "2024-01-01T00:00:00.000000+00:00",
    .acceptSignature sampleSigningResponse "7700000000",
    .reserveSubmit sampleOperationId,
    .completeSubmit sampleOperationId sampleCreateResult,
    .applyPollStatus sampleOperationId (some "CHECKED_OK") (some 200) none,
    .reconciliationResult sampleOperationId true []]

/-- The row that `sampleCalls` leave. -/
def sampleRow : OperationRow :=
  { submitRow sampleCreateResult
      (signRow sampleSigningResponse "c2ln"
        (preparedRow sampleRequest (businessFingerprint Sha256.hexdigest sampleRequest)
          "2024-01-01T00:00:00.000000+00:00" .prepared)) with
    state := .succeeded }

theorem write_operation_lifecycle_sample :
    sampleRow ∈ (Transition.exec (step Sha256.hexdigest) .empty sampleCalls).operations ∧
      ∃ poll reconciliation,
        [poll, reconciliation].Sublist
          (Transition.accepted (step Sha256.hexdigest) .empty sampleCalls) ∧
        poll.PollsChecked sampleRow.operationId ∧
        reconciliation.Confirms sampleRow.operationId := by
  have hmem : sampleRow ∈
      (Transition.exec (step Sha256.hexdigest) .empty sampleCalls).operations := by
    decide +kernel
  have hlife := write_operation_lifecycle Sha256.hexdigest sampleCalls sampleRow hmem
  exact ⟨hmem, hlife.2.1 rfl⟩

end Wbcz
