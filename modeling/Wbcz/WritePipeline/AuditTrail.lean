import Wbcz.Lib.Fallible
import Wbcz.Lib.HashChain
import Wbcz.Lib.Tx
import Wbcz.WritePipeline.Lifecycle
import Wbcz.WritePipeline.Submission

/-!
# The audit trail of the write store

Every transaction of the store updates an operation with one statement and writes its audit rows
with others; where one of them raises, what the others wrote is rolled back. The transactions do
what the functions of `WriteStore` say, and so the rows of an operation that carry states are a
path from `PREPARED` to the state it is in. The rows of a replayed `prepare` or signature, of a
poll that finds the document still processing and of `audit_note` carry no states.
-/

namespace Wbcz

open WriteStore

/-! ## The statements -/

namespace WriteStatements

/-- `BEGIN IMMEDIATE`, and `commit` or `rollback`. -/
def transaction {α : Type} (body : Tx PyError WriteStore α) : Tx PyError WriteStore α :=
  body.rollback

/-- `_row`. -/
def row (operationId : String) : Tx PyError WriteStore OperationRow :=
  Tx.get >>= fun s => Tx.ofExcept (s.row operationId)

/-- `get`. -/
def get (operationId : String) : Tx PyError WriteStore OperationRecord :=
  Tx.get >>= fun s => Tx.ofExcept (s.get operationId)

/-- `_audit`. -/
def audit (operationId action : String) (fromState toState : Option WriteState)
    (details : List (String × Json)) : Tx PyError WriteStore Unit :=
  Tx.modify fun s => s.addAudit operationId action fromState toState details

/-- The update of a state. -/
def updateState (operationId : String) (target : WriteState) : Tx PyError WriteStore Unit :=
  Tx.modify fun s => s.setState operationId target

/-- `_transition`. -/
def transition (operationId : String) (expected : List WriteState) (target : WriteState)
    (action : String) (details : List (String × Json)) : Tx PyError WriteStore OperationRecord := do
  transaction do
    let row ← WriteStatements.row operationId
    if row.state ∉ expected then
      Tx.raise ⟨.invalidWriteOperation,
        action ++ " not allowed from state " ++ row.state.value⟩
    else do
      updateState operationId target
      audit operationId action (some row.state) (some target) details
  get operationId

/-- The insertion of an operation. -/
def insertOperation (row : OperationRow) : Tx PyError WriteStore Unit := do
  let s ← Tx.get
  match s.operations.insert row with
  | none => Tx.raise ⟨.integrityError, ""⟩
  | some operations => Tx.modify fun s => { s with operations }

/-- The transaction of `prepare`; gives the operation that was there. -/
def prepareBody (request : PrepareRequest) (fingerprint now : String) :
    Tx PyError WriteStore (Option OperationRecord) := do
  let s ← Tx.get
  match s.operations.rows.find? (fun row => row.businessFingerprint = fingerprint) with
  | some existing =>
    if existing.documentSha256 = request.document.sha256 ∧
        existing.productDocumentBase64 = request.document.productDocumentBase64 ∧
        existing.expectedInn = request.expectedInn then do
      audit existing.operationId "PREPARE_REPLAY_IDEMPOTENT" none none
        [("document_sha256", .str request.document.sha256)]
      pure (some existing.toOperationRecord)
    else Tx.raise ⟨.replayConflict,
      "same business operation has different immutable document data"⟩
  | none => do
    insertOperation (preparedRow request fingerprint now .prepared)
    audit (operationIdOf fingerprint) "OPERATION_PREPARED" none (some .prepared)
      [("document_type", .str request.documentType), ("pg", .str request.pg),
        ("document_sha256", .str request.document.sha256)]
    updateState (operationIdOf fingerprint) .awaitingSignature
    audit (operationIdOf fingerprint) "SIGNING_REQUEST_PENDING" (some .prepared)
      (some .awaitingSignature) []
    pure none

/-- `prepare`. -/
def prepare (sha256 : List UInt8 → String) (request : PrepareRequest) (now : String) :
    Tx PyError WriteStore OperationRecord := do
  Tx.ofExcept (checkPrepare sha256 request)
  let existing ← transaction (prepareBody request (businessFingerprint sha256 request) now)
  match existing with
  | some record => pure record
  | none => get (operationIdOf (businessFingerprint sha256 request))

/-- A row that was signed keeps its key. -/
theorem operationId_signRow (response : SigningResponse) (signature : String) (row : OperationRow) :
    (signRow response signature row).operationId = row.operationId := rfl

/-- A row that was submitted keeps its key. -/
theorem operationId_submitRow (result : CreateResult) (row : OperationRow) :
    (submitRow result row).operationId = row.operationId := rfl

/-- `accept_signature`. -/
def acceptSignature (response : SigningResponse) (ownInn : String) :
    Tx PyError WriteStore OperationRecord := do
  let replayed ← transaction do
    let row ← WriteStatements.row response.operationId
    let signature ← Tx.ofExcept (checkSignature row response ownInn)
    if row.state ≠ .awaitingSignature then
      if row.signatureBase64 = some signature ∧ row.state ∈ signatureReplayStates then do
        audit row.operationId "SIGNATURE_REPLAY_IDEMPOTENT" none none
          [("document_sha256", .str row.documentSha256)]
        pure (some row.toOperationRecord)
      else Tx.raise ⟨.invalidWriteOperation,
        "signature not accepted from state " ++ row.state.value⟩
    else do
      Tx.modify fun s => { s with
        operations := s.operations.modify row.operationId (signRow response signature)
          (operationId_signRow response signature) }
      audit row.operationId "SIGNATURE_ACCEPTED" (some .awaitingSignature) (some .signed)
        [("document_sha256", .str row.documentSha256),
          ("certificate_thumbprint", .ofText? response.certificateThumbprint),
          ("certificate_inn", .ofText? response.certificateInn)]
      pure none
  match replayed with
  | some record => pure record
  | none => get response.operationId

/-- `reserve_submit`. -/
def reserveSubmit (operationId : String) : Tx PyError WriteStore OperationRecord := do
  let op ← get operationId
  if op.state ≠ .signed then
    if op.state ∈ submitReservedStates then
      Tx.raise ⟨.duplicateSubmitBlocked, "second True API create is prohibited"⟩
    else
      Tx.raise ⟨.invalidWriteOperation, "submit not allowed from state " ++ op.state.value⟩
  else if ¬ truthyText op.signatureBase64 then
    Tx.raise ⟨.invalidWriteOperation, "signature missing"⟩
  else transition operationId [.signed] .submitting "SUBMIT_RESERVED" []

/-- The update of an operation with the result of its create request. -/
def updateSubmitted (operationId : String) (row : OperationRow) (result : CreateResult) :
    Tx PyError WriteStore Unit := do
  let s ← Tx.get
  if s.documentIdTaken operationId (submitRow result row).documentId then
    Tx.raise ⟨.integrityError, ""⟩
  else
    Tx.modify fun s => { s with
      operations := s.operations.modify operationId (submitRow result)
        (operationId_submitRow result) }

/-- `complete_submit`. -/
def completeSubmit (operationId : String) (result : CreateResult) :
    Tx PyError WriteStore OperationRecord := do
  transaction do
    let row ← WriteStatements.row operationId
    if row.state ≠ .submitting then
      Tx.raise ⟨.invalidWriteOperation,
        "submit result not allowed from state " ++ row.state.value⟩
    else if result.category = .successWithId ∧ ¬ truthyText result.documentId then
      Tx.raise ⟨.invalidWriteOperation, "success parser returned no document id"⟩
    else do
      updateSubmitted operationId row result
      audit operationId "SUBMIT_RESULT" (some .submitting) (some (submitTarget result.category))
        [("http_status", .int result.httpStatus), ("category", .str result.category.value),
          ("body_sha256", .str result.bodySha256),
          ("content_type", .ofText? result.contentType),
          ("document_id_present", .bool result.documentId.isSome)]
  get operationId

/-- `audit_note`. -/
def auditNote (operationId action : String) (details : List (String × Json)) :
    Tx PyError WriteStore Unit :=
  transaction (audit operationId action none none details)

/-- `apply_poll_status`. -/
def applyPollStatus (operationId : String) (status : Option String) (httpStatus : Option Int)
    (bodySha256 : Option String) :
    Tx PyError WriteStore (OperationRecord × PollClassification) := do
  let classification := classifyPollStatus status
  let details : List (String × Json) :=
    [("remote_status", .ofText? status), ("http_status", .ofInt? httpStatus),
      ("body_sha256", .ofText? bodySha256), ("classification", .str classification.value)]
  let op ← get operationId
  if op.state ∉ [.submitted, .processing] then
    Tx.raise ⟨.invalidWriteOperation, "polling not allowed from state " ++ op.state.value⟩
  else if classification = .intermediate then
    if op.state = .submitted then do
      let op ← transition operationId [.submitted] .processing "POLL_INTERMEDIATE" details
      pure (op, classification)
    else do
      transaction (audit operationId "POLL_INTERMEDIATE" none none details)
      let op ← get operationId
      pure (op, classification)
  else do
    let op ← transition operationId [.submitted, .processing] (pollTarget classification)
      "POLL_TERMINAL" details
    pure (op, classification)

/-! ### What they do -/

section Equations

variable {s : WriteStore} {id : String} {row : OperationRow}

theorem row_apply (operationId : String) (s : WriteStore) :
    WriteStatements.row operationId s = (s.row operationId, s) := rfl

theorem get_apply (operationId : String) (s : WriteStore) :
    get operationId s = (s.get operationId, s) := rfl

/-- The record after the row of an operation was rewritten. -/
theorem get_modify (f : OperationRow → OperationRow) (hf : ∀ row, (f row).key = row.key)
    (hrow : s.operations.find? id = some row) {s' : WriteStore}
    (hs' : s'.operations = s.operations.modify id f hf) :
    s'.get id = .ok (f row).toOperationRecord := by
  refine get_eq_ok.mpr ⟨f row, ?_, rfl⟩
  rw [hs', Table.find?_modify_self, hrow]
  rfl

/-- The record after an operation was inserted and its state updated. -/
theorem get_inserted {request : PrepareRequest} {fingerprint now : String}
    {operations : Table OperationRow.key} {s' : WriteStore}
    (hinsert : s.operations.insert (preparedRow request fingerprint now .prepared) =
      some operations)
    (hs' : s'.operations = operations.modify (operationIdOf fingerprint)
      (fun row => { row with state := .awaitingSignature }) fun _ => rfl) :
    s'.get (operationIdOf fingerprint) =
      .ok (preparedRow request fingerprint now .awaitingSignature).toOperationRecord := by
  have hfind : operations.find? (operationIdOf fingerprint) =
      some (preparedRow request fingerprint now .prepared) := Table.find?_insert_self hinsert
  exact @get_modify ⟨operations, []⟩ _ _ (fun row => { row with state := .awaitingSignature })
    (fun _ => rfl) hfind s' hs'

theorem transition_eq (operationId : String) (expected : List WriteState) (target : WriteState)
    (action : String) (details : List (String × Json)) :
    transition operationId expected target action details =
      Tx.lift fun s => s.transition operationId expected target action details := by
  funext s
  cases hrow : s.row operationId with
  | error e =>
    simp [transition, WriteStore.transition, Tx.lift, transaction, Tx.rollback, Tx.bind_apply,
      row_apply, hrow]
  | ok row =>
    by_cases hstate : row.state ∈ expected
    · have hget : ((s.setState operationId target).addAudit operationId action (some row.state)
          (some target) details).get operationId =
            .ok { row.toOperationRecord with state := target } :=
        get_modify (fun row => { row with state := target }) (fun _ => rfl)
          (row_eq_ok.mp hrow) rfl
      simp [transition, WriteStore.transition, Tx.lift, transaction, Tx.rollback, Tx.bind_apply,
        row_apply, hrow, hstate, updateState, audit, get_apply, hget]
    · simp [transition, WriteStore.transition, Tx.lift, transaction, Tx.rollback, Tx.bind_apply,
        row_apply, hrow, hstate]

theorem reserveSubmit_eq (operationId : String) :
    reserveSubmit operationId = Tx.lift fun s => s.reserveSubmit operationId := by
  funext s
  cases hget : s.get operationId with
  | error e =>
    simp [reserveSubmit, WriteStore.reserveSubmit, Tx.lift, Tx.bind_apply, get_apply, hget]
  | ok op =>
    simp only [reserveSubmit, WriteStore.reserveSubmit, Tx.lift, Tx.bind_apply, get_apply, hget,
      transition_eq]
    by_cases hstate : op.state = .signed
    · by_cases hsignature : truthyText op.signatureBase64 = true
      · simp [hstate, hsignature, Tx.lift]
      · simp [hstate, hsignature]
    · by_cases hreserved : op.state ∈ submitReservedStates
      · simp [hstate, hreserved]
      · simp [hstate, hreserved]

theorem acceptSignature_eq (response : SigningResponse) (ownInn : String) :
    acceptSignature response ownInn = Tx.lift fun s => s.acceptSignature response ownInn := by
  funext s
  cases hrow : s.row response.operationId with
  | error e =>
    simp [acceptSignature, WriteStore.acceptSignature, Tx.lift, transaction, Tx.rollback,
      Tx.bind_apply, row_apply, hrow]
  | ok row =>
    cases hcheck : checkSignature row response ownInn with
    | error e =>
      simp [acceptSignature, WriteStore.acceptSignature, Tx.lift, transaction, Tx.rollback,
        Tx.bind_apply, row_apply, hrow, hcheck]
    | ok signature =>
      by_cases hstate : row.state = .awaitingSignature
      · have hfind := row_eq_ok.mp hrow
        have hid := OperationRow.operationId_of_find? hfind
        have hget : ∀ audit, (⟨s.operations.modify response.operationId
            (signRow response signature) fun _ => rfl, audit⟩ : WriteStore).get
              response.operationId = .ok (signRow response signature row).toOperationRecord :=
          fun _ => get_modify (signRow response signature) (fun _ => rfl) hfind rfl
        simp [acceptSignature, WriteStore.acceptSignature, Tx.lift, transaction, Tx.rollback,
          Tx.bind_apply, row_apply, hrow, hcheck, hstate, audit, get_apply, addAudit, hid, hget]
      · by_cases hreplay : row.signatureBase64 = some signature ∧ row.state ∈ signatureReplayStates
        · simp [acceptSignature, WriteStore.acceptSignature, Tx.lift, transaction, Tx.rollback,
            Tx.bind_apply, row_apply, hrow, hcheck, hstate, hreplay, audit]
        · simp [acceptSignature, WriteStore.acceptSignature, Tx.lift, transaction, Tx.rollback,
            Tx.bind_apply, row_apply, hrow, hcheck, hstate, hreplay]

theorem auditNote_eq (operationId action : String) (details : List (String × Json)) :
    auditNote operationId action details =
      Tx.lift fun s => (s.auditNote operationId action details).map fun s' => ((), s') := rfl

theorem completeSubmit_eq (operationId : String) (result : CreateResult) :
    completeSubmit operationId result = Tx.lift fun s => s.completeSubmit operationId result := by
  funext s
  cases hrow : s.row operationId with
  | error e =>
    simp [completeSubmit, WriteStore.completeSubmit, Tx.lift, transaction, Tx.rollback,
      Tx.bind_apply, row_apply, hrow]
  | ok row =>
    simp only [completeSubmit, WriteStore.completeSubmit, Tx.lift, transaction, Tx.rollback,
      Tx.bind_apply, row_apply, hrow]
    by_cases hstate : row.state = .submitting
    · by_cases hresult : result.category = .successWithId ∧ ¬ truthyText result.documentId
      · simp [hstate, hresult]
      · simp only [hstate, if_neg hresult]
        by_cases htaken : s.documentIdTaken operationId (submitRow result row).documentId
        · simp [updateSubmitted, Tx.bind_apply, htaken]
        · have hget : ∀ audit, (⟨s.operations.modify operationId (submitRow result)
              fun _ => rfl, audit⟩ : WriteStore).get operationId =
                .ok (submitRow result row).toOperationRecord :=
            fun _ => get_modify (submitRow result) (fun _ => rfl) (row_eq_ok.mp hrow) rfl
          simp [updateSubmitted, Tx.bind_apply, htaken, audit, get_apply, addAudit, hget]
    · simp [hstate]

theorem applyPollStatus_eq (operationId : String) (status : Option String)
    (httpStatus : Option Int) (bodySha256 : Option String) :
    applyPollStatus operationId status httpStatus bodySha256 =
      Tx.lift fun s => s.applyPollStatus operationId status httpStatus bodySha256 := by
  funext s
  cases hget : s.get operationId with
  | error e =>
    simp [applyPollStatus, WriteStore.applyPollStatus, Tx.lift, Tx.bind_apply, get_apply, hget]
  | ok op =>
    simp only [applyPollStatus, WriteStore.applyPollStatus, Tx.lift, Tx.bind_apply, get_apply,
      hget, transition_eq]
    by_cases hstate : op.state ∈ [WriteState.submitted, .processing]
    · by_cases hclass : classifyPollStatus status = .intermediate
      · by_cases hsubmitted : op.state = .submitted
        · simp only [hclass, hsubmitted, if_true]
          cases htransition :
            s.transition operationId [.submitted] .processing "POLL_INTERMEDIATE" _ with
          | error e => simp [Tx.bind_apply, Tx.lift, htransition, Except.map]
          | ok r => simp [Tx.bind_apply, Tx.lift, htransition, Except.map]
        · have hagain : ∀ details, (s.addAudit operationId "POLL_INTERMEDIATE" none none
              details).get operationId = .ok op := fun _ => hget
          simp [hstate, hclass, hsubmitted, transaction, Tx.rollback, audit, Tx.bind_apply,
            get_apply, hagain]
      · simp only [hstate, hclass, not_true_eq_false, if_false]
        cases htransition : s.transition operationId [.submitted, .processing]
            (pollTarget (classifyPollStatus status)) "POLL_TERMINAL" _ with
        | error e => simp [Tx.bind_apply, Tx.lift, htransition, Except.map]
        | ok r => simp [Tx.bind_apply, Tx.lift, htransition, Except.map]
    · simp [hstate]

theorem prepare_eq (sha256 : List UInt8 → String) (request : PrepareRequest) (now : String) :
    prepare sha256 request now = Tx.lift fun s => s.prepare sha256 request now := by
  funext s
  cases hcheck : checkPrepare sha256 request with
  | error e => simp [prepare, WriteStore.prepare, Tx.lift, Tx.bind_apply, hcheck]
  | ok _ =>
    simp only [prepare, WriteStore.prepare, Tx.lift, Tx.bind_apply, Tx.ofExcept_apply, hcheck]
    cases hexisting : s.operations.rows.find? fun row =>
        row.businessFingerprint = businessFingerprint sha256 request with
    | some existing =>
      simp only [transaction, Tx.rollback, prepareBody, Tx.bind_apply, Tx.get_apply, hexisting]
      by_cases hsame : existing.documentSha256 = request.document.sha256 ∧
          existing.productDocumentBase64 = request.document.productDocumentBase64 ∧
          existing.expectedInn = request.expectedInn
      · simp [hsame, Tx.bind_apply, audit]
      · simp only [if_neg hsame, Tx.raise_apply]
    | none =>
      simp only [transaction, Tx.rollback, prepareBody, Tx.bind_apply, Tx.get_apply, hexisting]
      cases hinsert : s.operations.insert (preparedRow request
          (businessFingerprint sha256 request) now .prepared) with
      | none => simp [insertOperation, Tx.bind_apply, hinsert]
      | some operations =>
        have hget : ∀ audit, (⟨operations.modify
            (operationIdOf (businessFingerprint sha256 request)) (fun row => { row with
              state := .awaitingSignature }) fun _ => rfl, audit⟩ : WriteStore).get
            (operationIdOf (businessFingerprint sha256 request)) = .ok (preparedRow request
              (businessFingerprint sha256 request) now .awaitingSignature).toOperationRecord :=
          fun _ => get_inserted hinsert rfl
        simp [insertOperation, Tx.bind_apply, hinsert, audit, updateState, get_apply, addAudit,
          setState, hget]

end Equations

/-- The transaction of a call. -/
def perform (sha256 : List UInt8 → String) : StoreCall → Tx PyError WriteStore Unit
  | .prepare request now => do
    let _ ← prepare sha256 request now
  | .acceptSignature response ownInn => do
    let _ ← acceptSignature response ownInn
  | .reserveSubmit operationId => do
    let _ ← reserveSubmit operationId
  | .completeSubmit operationId result => do
    let _ ← completeSubmit operationId result
  | .markSubmitAmbiguous operationId errorType => do
    let _ ← transition operationId [.submitting] .manualReview "SUBMIT_TRANSPORT_AMBIGUOUS"
      [("error_type", .str (Text.take 200 errorType))]
  | .markManualReview operationId reason => do
    let _ ← transition operationId manualReviewSources .manualReview "MANUAL_REVIEW_REQUIRED"
      [("reason", .str (Text.take 500 reason))]
  | .markError operationId errorType => do
    let _ ← transition operationId [.awaitingSignature, .signed] .error "PIPELINE_ERROR"
      [("error_type", .str (Text.take 200 errorType))]
  | .auditNote operationId action details => auditNote operationId action details
  | .applyPollStatus operationId status httpStatus bodySha256 => do
    let _ ← applyPollStatus operationId status httpStatus bodySha256
  | .reconciliationResult operationId confirmed details => do
    let _ ← transition operationId [.reconciliationRequired]
      (if confirmed then .succeeded else .manualReview) "RECONCILIATION_RESULT"
      (Json.merge [("confirmed", .bool confirmed)] details)

theorem discard_lift {α : Type} (f : WriteStore → Except PyError (α × WriteStore)) :
    (do let _ ← Tx.lift f) = Tx.lift fun s => ((f s).map Prod.snd).map fun s' => ((), s') := by
  funext s
  cases hf : f s with
  | error e => simp [Tx.bind_apply, Tx.lift, hf, Except.map]
  | ok r => simp [Tx.bind_apply, Tx.lift, hf, Except.map]

/-- The statements of a call do what `WriteStore.step` says. -/
theorem perform_eq (sha256 : List UInt8 → String) (call : StoreCall) :
    perform sha256 call = Tx.lift fun s => (s.step sha256 call).map fun s' => ((), s') := by
  cases call with
  | auditNote operationId action details => exact auditNote_eq operationId action details
  | prepare request now =>
    rw [perform, prepare_eq, discard_lift]
    rfl
  | acceptSignature response ownInn =>
    rw [perform, acceptSignature_eq, discard_lift]
    rfl
  | reserveSubmit operationId =>
    rw [perform, reserveSubmit_eq, discard_lift]
    rfl
  | completeSubmit operationId result =>
    rw [perform, completeSubmit_eq, discard_lift]
    rfl
  | applyPollStatus operationId status httpStatus bodySha256 =>
    rw [perform, applyPollStatus_eq, discard_lift]
    rfl
  | markSubmitAmbiguous | markManualReview | markError | reconciliationResult =>
    rw [perform, transition_eq, discard_lift]
    rfl

/-- A call that raises leaves the tables as they were. -/
theorem perform_eq_error {sha256 : List UInt8 → String} {call : StoreCall} {s s' : WriteStore}
    {e : PyError} (h : perform sha256 call s = (.error e, s')) : s' = s := by
  rw [perform_eq] at h
  cases hstep : s.step sha256 call with
  | error e =>
    rw [Tx.lift_of_error (by rw [hstep]; rfl)] at h
    cases h
    rfl
  | ok next =>
    rw [Tx.lift_of_ok (by rw [hstep]; rfl)] at h
    cases h

/-- The store after a call. -/
theorem perform_state (sha256 : List UInt8 → String) (call : StoreCall) (s : WriteStore) :
    (perform sha256 call s).2 = Transition.call (WriteStore.step sha256) s call := by
  rw [perform_eq]
  cases hstep : s.step sha256 call with
  | error e => rw [Transition.call_of_error hstep, Tx.lift_of_error (by rw [hstep]; rfl)]
  | ok next => rw [Transition.call_of_ok hstep, Tx.lift_of_ok (by rw [hstep]; rfl)]

end WriteStatements

/-! ## The trail -/

/-- What an accepted call adds to the trail. -/
inductive TrailStep (s s' : WriteStore) : Prop
  | noted {id action details} : (∀ k, s'.stateOf k = s.stateOf k) →
      s'.audit = s.audit ++ [⟨id, action, none, none, details⟩] → TrailStep s s'
  | created {id action action' details details'} : s.stateOf id = none →
      (∀ k, s'.stateOf k = if k = id then some .awaitingSignature else s.stateOf k) →
      s'.audit = s.audit ++ [⟨id, action, none, some .prepared, details⟩,
        ⟨id, action', some .prepared, some .awaitingSignature, details'⟩] → TrailStep s s'
  | moved {id action a b details} : s.stateOf id = some a →
      (∀ k, s'.stateOf k = if k = id then some b else s.stateOf k) →
      s'.audit = s.audit ++ [⟨id, action, some a, some b, details⟩] → TrailStep s s'

section Steps

variable {s s' : WriteStore} {id : String} {row : OperationRow}

theorem stateOf_of_find? (hrow : s.operations.find? id = some row) :
    s.stateOf id = some row.state := by
  rw [WriteStore.stateOf, hrow]
  rfl

/-- The states after the row of an operation was rewritten. -/
theorem stateOf_modify (f : OperationRow → OperationRow) (hf : ∀ row, (f row).key = row.key)
    (hrow : s.operations.find? id = some row)
    (hs' : s'.operations = s.operations.modify id f hf) (k : String) :
    s'.stateOf k = if k = id then some (f row).state else s.stateOf k := by
  rw [WriteStore.stateOf, hs', Table.find?_modify]
  split
  · rw [hrow]
    rfl
  · rfl

theorem trailStep_of_transition {expected : List WriteState} {target : WriteState}
    {action : String} {details : List (String × Json)} {op : OperationRecord}
    (h : s.transition id expected target action details = .ok (op, s')) : TrailStep s s' := by
  obtain ⟨row, hrow, -, -, rfl⟩ := transition_eq_ok h
  exact .moved (stateOf_of_find? hrow)
    (stateOf_modify (fun row => { row with state := target }) (fun _ => rfl) hrow rfl) rfl

theorem trailStep_of_prepare {sha256 : List UInt8 → String} {request : PrepareRequest}
    {now : String} {op : OperationRecord} (h : s.prepare sha256 request now = .ok (op, s')) :
    TrailStep s s' := by
  unfold WriteStore.prepare at h
  split at h
  · cases h
  · simp only at h
    split at h
    · split at h
      · cases h
        exact .noted (fun _ => rfl) rfl
      · cases h
    · split at h
      · cases h
      · rename_i operations hinsert
        cases h
        have hfree := (Table.insert_eq_some hinsert).1
        have hself := Table.find?_insert_self hinsert
        refine .created (congrArg _ hfree) ?_ (List.append_assoc _ _ _)
        intro k
        refine (@stateOf_modify ⟨operations, []⟩ _ _ _ (fun row => { row with
          state := .awaitingSignature }) (fun _ => rfl) hself rfl k).trans ?_
        split
        · rfl
        · rename_i hother
          exact congrArg _ (Table.find?_insert_ne hinsert hother)

theorem trailStep_of_acceptSignature {response : SigningResponse} {ownInn : String}
    {op : OperationRecord} (h : s.acceptSignature response ownInn = .ok (op, s')) :
    TrailStep s s' := by
  unfold WriteStore.acceptSignature at h
  split at h
  · cases h
  · rename_i row hrow
    have hfind := row_eq_ok.mp hrow
    split at h
    · cases h
    · split at h
      · split at h
        · cases h
          exact .noted (fun _ => rfl) rfl
        · cases h
      · rename_i hstate
        cases h
        have hid := OperationRow.operationId_of_find? hfind
        have hbefore := stateOf_of_find? hfind
        rw [not_not.mp hstate, ← hid] at hbefore
        rw [← hid] at hfind
        exact .moved hbefore (stateOf_modify (signRow response _) (fun _ => rfl) hfind rfl) rfl

theorem trailStep_of_completeSubmit {result : CreateResult} {op : OperationRecord}
    (h : s.completeSubmit id result = .ok (op, s')) : TrailStep s s' := by
  unfold WriteStore.completeSubmit at h
  split at h
  · cases h
  · rename_i row hrow
    have hfind := row_eq_ok.mp hrow
    split at h
    · cases h
    · rename_i hstate
      split at h
      · cases h
      · split at h
        · cases h
        · cases h
          have hbefore := stateOf_of_find? hfind
          rw [not_not.mp hstate] at hbefore
          exact .moved hbefore (stateOf_modify (submitRow result) (fun _ => rfl) hfind rfl) rfl

theorem trailStep_of_reserveSubmit {op : OperationRecord}
    (h : s.reserveSubmit id = .ok (op, s')) : TrailStep s s' := by
  unfold WriteStore.reserveSubmit at h
  split at h
  · cases h
  · split at h
    · split at h <;> cases h
    · split at h
      · cases h
      · exact trailStep_of_transition h

theorem trailStep_of_applyPollStatus {status : Option String} {httpStatus : Option Int}
    {bodySha256 : Option String} {result : OperationRecord × PollClassification}
    (h : s.applyPollStatus id status httpStatus bodySha256 = .ok (result, s')) :
    TrailStep s s' := by
  unfold WriteStore.applyPollStatus at h
  simp only at h
  split at h
  · cases h
  · split at h
    · cases h
    · split at h
      · split at h
        · obtain ⟨r, hr, hs'⟩ := Fallible.map_eq_ok.mp h
          cases hs'
          exact trailStep_of_transition hr
        · cases h
          exact .noted (fun _ => rfl) rfl
      · obtain ⟨r, hr, hs'⟩ := Fallible.map_eq_ok.mp h
        cases hs'
        exact trailStep_of_transition hr

/-- What every accepted call adds. -/
theorem trailStep_of_step {sha256 : List UInt8 → String} {call : StoreCall}
    (h : s.step sha256 call = .ok s') : TrailStep s s' := by
  cases call with
  | auditNote operationId action details =>
    cases h
    exact .noted (fun _ => rfl) rfl
  | prepare request now =>
    obtain ⟨r, hr, rfl⟩ := Fallible.map_eq_ok.mp h
    exact trailStep_of_prepare hr
  | acceptSignature response ownInn =>
    obtain ⟨r, hr, rfl⟩ := Fallible.map_eq_ok.mp h
    exact trailStep_of_acceptSignature hr
  | reserveSubmit operationId =>
    obtain ⟨r, hr, rfl⟩ := Fallible.map_eq_ok.mp h
    exact trailStep_of_reserveSubmit hr
  | completeSubmit operationId result =>
    obtain ⟨r, hr, rfl⟩ := Fallible.map_eq_ok.mp h
    exact trailStep_of_completeSubmit hr
  | applyPollStatus operationId status httpStatus bodySha256 =>
    obtain ⟨r, hr, rfl⟩ := Fallible.map_eq_ok.mp h
    exact trailStep_of_applyPollStatus hr
  | markSubmitAmbiguous | markManualReview | markError | reconciliationResult =>
    obtain ⟨r, hr, rfl⟩ := Fallible.map_eq_ok.mp h
    exact trailStep_of_transition hr

end Steps

/-! ## Paths -/

/-- The audit rows of an operation that carry a state. -/
def WriteStore.stateRows (s : WriteStore) (operationId : String) : List AuditRow :=
  s.audit.filter fun row => row.operationId = operationId ∧ row.toState.isSome = true

/-- The rows that carry states lead every operation from `PREPARED` to the state it is in. -/
structure TrailInv (s : WriteStore) : Prop where
  linked : ∀ id, HashChain.Linked AuditRow.fromState AuditRow.toState none (s.stateRows id)
  last : ∀ id, HashChain.last AuditRow.toState none (s.stateRows id) = s.stateOf id
  first : ∀ id, ∀ row ∈ (s.stateRows id).head?, row.toState = some .prepared
  stateless : ∀ row ∈ s.audit, row.toState = none → row.fromState = none

theorem trailInv_empty : TrailInv .empty where
  linked _ := trivial
  last _ := rfl
  first _ _ h := nomatch h
  stateless _ h := absurd h List.not_mem_nil

section Runs

variable {s s' : WriteStore} {id : String}

/-- The rows of an operation end with no state only where there are none. -/
theorem stateRows_eq_nil (h : HashChain.last AuditRow.toState none (s.stateRows id) = none) :
    s.stateRows id = [] := by
  rw [HashChain.last_eq_getD] at h
  cases hlast : (s.stateRows id).getLast? with
  | none => exact List.getLast?_eq_none_iff.mp hlast
  | some row =>
    rw [hlast] at h
    have hmem := List.mem_filter.mp (List.mem_of_getLast? hlast)
    have hsome := (of_decide_eq_true hmem.2).2
    have hnone : row.toState = none := h
    rw [hnone] at hsome
    exact absurd hsome Bool.false_ne_true

theorem stateRows_append {rows : List AuditRow} (h : s'.audit = s.audit ++ rows) (k : String) :
    s'.stateRows k = s.stateRows k ++
      rows.filter fun row => row.operationId = k ∧ row.toState.isSome = true := by
  rw [WriteStore.stateRows, h, List.filter_append]
  rfl

theorem TrailInv.noted {action details : String} (h : TrailInv s)
    (hstates : ∀ k, s'.stateOf k = s.stateOf k)
    (haudit : s'.audit = s.audit ++ [⟨id, action, none, none, details⟩]) : TrailInv s' := by
  have hrows : ∀ k, s'.stateRows k = s.stateRows k := by
    intro k
    rw [stateRows_append haudit]
    simp
  refine ⟨?_, ?_, ?_, ?_⟩
  · intro k
    rw [hrows]
    exact h.linked k
  · intro k
    rw [hrows, hstates]
    exact h.last k
  · intro k
    rw [hrows]
    exact h.first k
  · intro row hrow hnone
    rw [haudit] at hrow
    rcases List.mem_append.mp hrow with hrow | hrow
    · exact h.stateless row hrow hnone
    · rw [List.mem_singleton.mp hrow]

theorem TrailInv.moved {action details : String} {a b : WriteState} (h : TrailInv s)
    (hid : s.stateOf id = some a)
    (hstates : ∀ k, s'.stateOf k = if k = id then some b else s.stateOf k)
    (haudit : s'.audit = s.audit ++ [⟨id, action, some a, some b, details⟩]) : TrailInv s' := by
  have hself : s'.stateRows id = s.stateRows id ++ [⟨id, action, some a, some b, details⟩] := by
    rw [stateRows_append haudit]
    simp
  have hother : ∀ k, k ≠ id → s'.stateRows k = s.stateRows k := by
    intro k hk
    rw [stateRows_append haudit]
    simp [Ne.symm hk]
  have hlast := h.last id
  refine ⟨?_, ?_, ?_, ?_⟩
  · intro k
    by_cases hk : k = id
    · rw [hk, hself, HashChain.linked_concat, hlast, hid]
      exact ⟨h.linked id, rfl⟩
    · rw [hother k hk]
      exact h.linked k
  · intro k
    by_cases hk : k = id
    · rw [hk, hself, HashChain.last_concat, hstates, if_pos rfl]
    · rw [hother k hk, hstates, if_neg hk]
      exact h.last k
  · intro k
    by_cases hk : k = id
    · rw [hk, hself]
      -- the operation had a state, so its path had begun
      cases hrows : s.stateRows id with
      | nil =>
        rw [hrows, hid] at hlast
        cases hlast
      | cons first rows =>
        have hfirst := h.first id
        rw [hrows] at hfirst
        exact hfirst
    · rw [hother k hk]
      exact h.first k
  · intro row hrow hnone
    rw [haudit] at hrow
    rcases List.mem_append.mp hrow with hrow | hrow
    · exact h.stateless row hrow hnone
    · rw [List.mem_singleton.mp hrow] at hnone
      cases hnone

theorem TrailInv.created {action action' details details' : String} (h : TrailInv s)
    (hid : s.stateOf id = none)
    (hstates : ∀ k, s'.stateOf k = if k = id then some .awaitingSignature else s.stateOf k)
    (haudit : s'.audit = s.audit ++ [⟨id, action, none, some .prepared, details⟩,
      ⟨id, action', some .prepared, some .awaitingSignature, details'⟩]) : TrailInv s' := by
  have hnil : s.stateRows id = [] := stateRows_eq_nil ((h.last id).trans hid)
  have hself : s'.stateRows id = [⟨id, action, none, some .prepared, details⟩,
      ⟨id, action', some .prepared, some .awaitingSignature, details'⟩] := by
    rw [stateRows_append haudit, hnil]
    simp
  have hother : ∀ k, k ≠ id → s'.stateRows k = s.stateRows k := by
    intro k hk
    rw [stateRows_append haudit]
    simp [Ne.symm hk]
  refine ⟨?_, ?_, ?_, ?_⟩
  · intro k
    by_cases hk : k = id
    · rw [hk, hself]
      exact ⟨rfl, rfl, trivial⟩
    · rw [hother k hk]
      exact h.linked k
  · intro k
    by_cases hk : k = id
    · rw [hk, hself, hstates, if_pos rfl]
      rfl
    · rw [hother k hk, hstates, if_neg hk]
      exact h.last k
  · intro k
    by_cases hk : k = id
    · rw [hk, hself]
      rintro row ⟨⟩
      rfl
    · rw [hother k hk]
      exact h.first k
  · intro row hrow hnone
    rw [haudit] at hrow
    rcases List.mem_append.mp hrow with hrow | hrow
    · exact h.stateless row hrow hnone
    · rcases List.mem_cons.mp hrow with rfl | hrow
      · cases hnone
      · rw [List.mem_singleton.mp hrow] at hnone
        cases hnone

/-- An accepted call lengthens the paths. -/
theorem TrailInv.step (h : TrailInv s) (hstep : TrailStep s s') : TrailInv s' := by
  cases hstep with
  | noted hstates haudit => exact h.noted hstates haudit
  | created hid hstates haudit => exact h.created hid hstates haudit
  | moved hid hstates haudit => exact h.moved hid hstates haudit

/-- The store after calls, from the empty one; a call may raise. -/
def storeAfter (sha256 : List UInt8 → String) (calls : List StoreCall) : WriteStore :=
  calls.foldl (fun s call => (WriteStatements.perform sha256 call s).2) .empty

theorem storeAfter_inv (sha256 : List UInt8 → String) (calls : List StoreCall) :
    TrailInv (storeAfter sha256 calls) := by
  induction calls using List.reverseRecOn with
  | nil => exact trailInv_empty
  | append_singleton calls call ih =>
    rw [storeAfter, List.foldl_append]
    change TrailInv (WriteStatements.perform sha256 call (storeAfter sha256 calls)).2
    rw [WriteStatements.perform_state]
    cases hstep : (storeAfter sha256 calls).step sha256 call with
    | error e =>
      rw [Transition.call_of_error hstep]
      exact ih
    | ok next =>
      rw [Transition.call_of_ok hstep]
      exact ih.step (trailStep_of_step hstep)

/-- After any calls the audit rows of an operation that carry states are a path: the first enters
`PREPARED`, each comes from the state that the one before it entered, and the last entered the
state of the operation. The other rows carry no state, and a call that raises changes nothing. -/
theorem audit_trail (sha256 : List UInt8 → String) (calls : List StoreCall) :
    (∀ id, HashChain.Linked AuditRow.fromState AuditRow.toState none
        ((storeAfter sha256 calls).stateRows id) ∧
      (∀ row ∈ ((storeAfter sha256 calls).stateRows id).head?, row.toState = some .prepared) ∧
      HashChain.last AuditRow.toState none ((storeAfter sha256 calls).stateRows id) =
        (storeAfter sha256 calls).stateOf id) ∧
    (∀ row ∈ (storeAfter sha256 calls).audit, row.toState = none → row.fromState = none) ∧
    ∀ (call : StoreCall) (e : PyError) (s' : WriteStore),
      WriteStatements.perform sha256 call (storeAfter sha256 calls) = (.error e, s') →
        s' = storeAfter sha256 calls := by
  have hinv := storeAfter_inv sha256 calls
  exact ⟨fun id => ⟨hinv.linked id, hinv.first id, hinv.last id⟩, hinv.stateless,
    fun _ _ _ h => WriteStatements.perform_eq_error h⟩

/-- A `prepare` that is repeated ends the rows of its operation with one that carries no state. -/
theorem replayed_prepare_leaves_path : ¬ ∀ sha256 calls id,
    HashChain.last AuditRow.toState none ((storeAfter sha256 calls).audit.filter fun row =>
      row.operationId = id) = (storeAfter sha256 calls).stateOf id := by
  intro h
  have hpath := h (fun _ => sampleRequest.document.sha256) (List.replicate 2
    (.prepare sampleRequest "2024-01-01T00:00:00.000000+00:00"))
    (operationIdOf sampleRequest.document.sha256)
  revert hpath
  decide +kernel

end Runs

end Wbcz
