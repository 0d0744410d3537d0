import Wbcz.WritePipeline.Pipeline

/-!
# The course of a submission

What each transaction of a submission makes of the row of its operation, when it is
accepted: the signature, the reservation and the recorded outcome, one after the other. From
these the state in which a submission leaves its operation, for every outcome of the remote
create call, and in which a poll leaves it.
-/

namespace Wbcz

open WriteStore

/-- The state of an operation. -/
def WriteStore.stateOf (s : WriteStore) (operationId : String) : Option WriteState :=
  (s.operations.find? operationId).map fun row => row.state

/-- The step rewrote the row of one operation, and no other row. -/
structure Rewritten (s s' : WriteStore) (operationId : String) (row : OperationRow) : Prop where
  row : s'.operations.find? operationId = some row
  others : ∀ r : OperationRow, r.operationId ≠ operationId →
    (r ∈ s'.operations ↔ r ∈ s.operations)

namespace Rewritten

variable {s s' s'' : WriteStore} {id : String} {row row' : OperationRow}

theorem trans (h : Rewritten s s' id row) (h' : Rewritten s' s'' id row') :
    Rewritten s s'' id row' :=
  ⟨h'.row, fun r hr => (h'.others r hr).trans (h.others r hr)⟩

theorem stateOf (h : Rewritten s s' id row) : s'.stateOf id = some row.state := by
  rw [WriteStore.stateOf, h.row]
  rfl

/-- Rewriting the row that is there. -/
theorem modify (f : OperationRow → OperationRow) (hf : ∀ row, (f row).key = row.key)
    (hrow : s.operations.find? id = some row)
    (hs' : s'.operations = s.operations.modify id f hf) : Rewritten s s' id (f row) := by
  constructor
  · rw [hs', Table.find?_modify_self, hrow]
    rfl
  · intro r hr
    rw [hs', Table.mem_modify]
    constructor
    · rintro (⟨hmem, _⟩ | ⟨r₀, _, hkey, rfl⟩)
      · exact hmem
      · exact absurd ((hf r₀).trans hkey) hr
    · exact fun hmem => .inl ⟨hmem, hr⟩

end Rewritten

section Transactions

variable {s s' : WriteStore} {id : String} {row : OperationRow}

theorem documentIdTaken_eq_true {documentId : Option String} :
    s.documentIdTaken id documentId = true ↔ documentId.isSome ∧
      ∃ r ∈ s.operations, r.operationId ≠ id ∧ r.documentId = documentId := by
  simp [documentIdTaken, Table.mem_def]

/-- Whether a document id is taken depends on the other rows only. -/
theorem Rewritten.documentIdTaken (h : Rewritten s s' id row) (documentId : Option String) :
    s'.documentIdTaken id documentId = s.documentIdTaken id documentId := by
  rw [Bool.eq_iff_iff, documentIdTaken_eq_true, documentIdTaken_eq_true]
  refine and_congr_right fun _ => exists_congr fun r => ?_
  constructor
  · rintro ⟨hmem, hne, hdoc⟩
    exact ⟨(h.others r hne).mp hmem, hne, hdoc⟩
  · rintro ⟨hmem, hne, hdoc⟩
    exact ⟨(h.others r hne).mpr hmem, hne, hdoc⟩

theorem transition_rewrites {expected : List WriteState} {target : WriteState} {action : String}
    {details : List (String × Json)} (hrow : s.operations.find? id = some row)
    (hstate : row.state ∈ expected) :
    ∃ s', s.transition id expected target action details =
        .ok ({ row.toOperationRecord with state := target }, s') ∧
      Rewritten s s' id { row with state := target } :=
  ⟨_, transition_of_mem hrow hstate,
    .modify (fun row => { row with state := target }) (fun _ => rfl) hrow rfl⟩

/-- A transition that is allowed leaves the operation in its target. -/
theorem stateOf_transition {α : Type} {expected : List WriteState} {target : WriteState}
    {action : String} {details : List (String × Json)} (value : OperationRecord → α)
    (hrow : s.operations.find? id = some row) (hstate : row.state ∈ expected) :
    (WritePipeline.commit s ((s.transition id expected target action details).map
      fun result => (value result.1, result.2))).2.stateOf id = some target := by
  rw [transition_of_mem hrow hstate]
  have hrewritten : Rewritten s (s.setState id target) id { row with state := target } :=
    .modify (fun row => { row with state := target }) (fun _ => rfl) hrow rfl
  exact hrewritten.stateOf

/-- A checked signature is accepted while it is awaited. -/
theorem acceptSignature_rewrites {response : SigningResponse} {ownInn signature : String}
    (hrow : s.operations.find? response.operationId = some row)
    (hstate : row.state = .awaitingSignature)
    (hcheck : checkSignature row response ownInn = .ok signature) :
    ∃ s', s.acceptSignature response ownInn =
        .ok ((signRow response signature row).toOperationRecord, s') ∧
      Rewritten s s' response.operationId (signRow response signature row) := by
  have hid := OperationRow.operationId_of_find? hrow
  obtain ⟨s', haccept, hops⟩ : ∃ s', s.acceptSignature response ownInn =
        .ok ((signRow response signature row).toOperationRecord, s') ∧
      s'.operations = s.operations.modify response.operationId (signRow response signature)
        fun _ => rfl := by
    rw [acceptSignature, row_eq_ok.mpr hrow]
    simp only [hcheck, hstate, ne_eq, not_true_eq_false, if_false, hid]
    exact ⟨_, rfl, rfl⟩
  exact ⟨s', haccept, .modify (signRow response signature) (fun _ => rfl) hrow hops⟩

/-- A signed operation is reserved. -/
theorem reserveSubmit_rewrites (hrow : s.operations.find? id = some row)
    (hstate : row.state = .signed) (hsignature : truthyText row.signatureBase64) :
    ∃ s', s.reserveSubmit id =
        .ok ({ row.toOperationRecord with state := .submitting }, s') ∧
      Rewritten s s' id { row with state := .submitting } := by
  have hget : s.get id = .ok row.toOperationRecord := get_eq_ok.mpr ⟨row, hrow, rfl⟩
  have hsigned : row.state ∈ [WriteState.signed] := List.mem_singleton.mpr hstate
  obtain ⟨s', htransition, hrewritten⟩ := transition_rewrites hrow hsigned
  refine ⟨s', ?_, hrewritten⟩
  rw [reserveSubmit, hget]
  simp only [hstate, hsignature, not_true_eq_false, if_false]
  exact htransition

/-- The state in which the recording of an outcome leaves an operation being submitted. -/
def stateAfterCreate (s : WriteStore) (id : String) : Except PyError CreateResult → WriteState
  | .error _ => .manualReview
  | .ok result =>
    if submitTarget result.category = .submitted ∧ s.documentIdTaken id result.documentId then
      .submitting
    else submitTarget result.category

/-- A create result that reports success comes with a document id. -/
def CreateResult.WellFormed (result : CreateResult) : Prop :=
  result.category = .successWithId → truthyText result.documentId

theorem documentIdTaken_submitRow {result : CreateResult} :
    s.documentIdTaken id (submitRow result row).documentId =
      (decide (submitTarget result.category = .submitted) &&
        s.documentIdTaken id result.documentId) := by
  unfold submitRow
  by_cases h : submitTarget result.category = .submitted
  · simp [h]
  · simp [h, documentIdTaken]

/-- The recording of a well-formed result: the row is rewritten, unless the document id is
taken. -/
theorem completeSubmit_of_submitting {result : CreateResult}
    (hrow : s.operations.find? id = some row) (hstate : row.state = .submitting)
    (hresult : result.WellFormed) :
    (∃ s', s.completeSubmit id result = .ok ((submitRow result row).toOperationRecord, s') ∧
        Rewritten s s' id (submitRow result row) ∧
        stateAfterCreate s id (.ok result) = submitTarget result.category) ∨
      ((∃ e, s.completeSubmit id result = .error e) ∧
        stateAfterCreate s id (.ok result) = .submitting) := by
  have hwell : ¬ (result.category = .successWithId ∧ ¬ truthyText result.documentId) :=
    fun h => h.2 (hresult h.1)
  by_cases htaken : submitTarget result.category = .submitted ∧
      s.documentIdTaken id result.documentId = true
  · refine .inr ⟨⟨⟨.integrityError, ""⟩, ?_⟩, ?_⟩
    · rw [completeSubmit, row_eq_ok.mpr hrow]
      simp only [hstate, ne_eq, not_true_eq_false, if_false, hwell, documentIdTaken_submitRow]
      simp [htaken]
    · rw [stateAfterCreate, if_pos htaken]
  · have hfree : s.documentIdTaken id (submitRow result row).documentId = false := by
      rw [documentIdTaken_submitRow]
      simpa using htaken
    obtain ⟨s', hcomplete, hops⟩ : ∃ s', s.completeSubmit id result =
          .ok ((submitRow result row).toOperationRecord, s') ∧
        s'.operations = s.operations.modify id (submitRow result) fun _ => rfl := by
      rw [completeSubmit, row_eq_ok.mpr hrow]
      simp only [hstate, ne_eq, not_true_eq_false, if_false, hwell, hfree]
      exact ⟨_, rfl, rfl⟩
    exact .inl ⟨s', hcomplete, .modify (submitRow result) (fun _ => rfl) hrow hops,
      by rw [stateAfterCreate, if_neg htaken]⟩

/-- Where the recording of an outcome leaves the operation. -/
theorem stateOf_recordOutcome {outcome : Except PyError CreateResult}
    (hrow : s.operations.find? id = some row) (hstate : row.state = .submitting)
    (houtcome : ∀ result, outcome = .ok result → result.WellFormed) :
    (WritePipeline.commit s (WritePipeline.recordOutcome s id outcome)).2.stateOf id =
      some (stateAfterCreate s id outcome) := by
  cases outcome with
  | error exc =>
    obtain ⟨s', hmark, hrewritten⟩ : ∃ s', s.markSubmitAmbiguous id exc.cls.name =
          .ok ({ row.toOperationRecord with state := .manualReview }, s') ∧
        Rewritten s s' id { row with state := .manualReview } :=
      transition_rewrites hrow (List.mem_singleton.mpr hstate)
    simp only [WritePipeline.recordOutcome, hmark, WritePipeline.commit]
    exact hrewritten.stateOf
  | ok result =>
    rcases completeSubmit_of_submitting hrow hstate (houtcome result rfl) with
      ⟨s', hcomplete, hrewritten, hafter⟩ | ⟨⟨e, hcomplete⟩, hafter⟩
    · simp only [WritePipeline.recordOutcome, hcomplete, WritePipeline.commit, hafter]
      exact hrewritten.stateOf
    · simp only [WritePipeline.recordOutcome, hcomplete, WritePipeline.commit, hafter]
      rw [WriteStore.stateOf, hrow, Option.map_some, hstate]

/-- The states in which a poll is applied. -/
def polledStates : List WriteState := [.submitted, .processing]

/-- The state in which a poll that reports a status leaves an operation. -/
def stateAfterPoll (state : WriteState) (status : Option String) : WriteState :=
  if state ∉ polledStates then state
  else if classifyPollStatus status = .intermediate then .processing
  else pollTarget (classifyPollStatus status)

/-- Where a reported status leaves the operation. -/
theorem stateOf_applyPollStatus {status bodySha256 : Option String} {httpStatus : Option Int}
    (hrow : s.operations.find? id = some row) :
    (WritePipeline.commit s (s.applyPollStatus id status httpStatus bodySha256)).2.stateOf id =
      some (stateAfterPoll row.state status) := by
  have hget : s.get id = .ok row.toOperationRecord := get_eq_ok.mpr ⟨row, hrow, rfl⟩
  by_cases hpolled : row.state ∈ polledStates
  · have hallowed : ¬ row.state ∉ [WriteState.submitted, .processing] := not_not.mpr hpolled
    rw [stateAfterPoll, if_neg (not_not.mpr hpolled), applyPollStatus, hget]
    simp only [if_neg hallowed]
    by_cases hclass : classifyPollStatus status = .intermediate
    · by_cases hsubmitted : row.state = .submitted
      · simp only [if_pos hclass, if_pos hsubmitted]
        exact stateOf_transition (fun op => (op, classifyPollStatus status)) hrow
          (List.mem_singleton.mpr hsubmitted)
      · have hprocessing : row.state = .processing := by
          simpa [polledStates, hsubmitted] using hpolled
        simp only [if_pos hclass, if_neg hsubmitted]
        exact (congrArg (Option.map _) hrow).trans (congrArg some hprocessing)
    · simp only [if_neg hclass]
      exact stateOf_transition (fun op => (op, classifyPollStatus status)) hrow hpolled
  · have hrejected : row.state ∉ [WriteState.submitted, .processing] := hpolled
    rw [stateAfterPoll, if_pos hpolled, applyPollStatus, hget]
    simp only [if_pos hrejected, WritePipeline.commit]
    exact congrArg (Option.map _) hrow

end Transactions

/-! ### The two remote procedures of a pipeline -/

/-- Accept a signature and, once it is accepted, submit the operation. -/
def WritePipeline.signAndSubmit (sha256 : List UInt8 → String) (pipeline : WritePipeline)
    (s : WriteStore) (response : SigningResponse) : WriteStore :=
  match pipeline.acceptSignature s response with
  | .error _ => s
  | .ok (_, signed) => (pipeline.submit sha256 signed response.operationId).2

section Procedures

variable {sha256 : List UInt8 → String} {pipeline : WritePipeline} {s : WriteStore} {id : String}
  {row : OperationRow}

theorem safeDocumentId_truthy {parsed documentId : Option String}
    (h : safeDocumentId parsed = .ok documentId) (hsome : documentId.isSome) :
    truthyText documentId := by
  cases parsed with
  | none =>
    cases h
    cases hsome
  | some value =>
    rw [safeDocumentId] at h
    split at h
    · cases h
    · rename_i hsafe
      cases h
      simpa [truthyText] using fun hempty => hsafe (.inl hempty)

/-- What the adapter makes of the answer of its transport. -/
def TrueApiWriteAdapter.readResponse (sha256 : List UInt8 → String)
    (parse : HttpResponse → Except PyError (Option String)) (response : HttpResponse) :
    Except PyError CreateResult :=
  if response.statusCode = 200 ∨ response.statusCode = 201 then do
    let parsed ← parse response
    let documentId ← safeDocumentId parsed
    .ok ⟨if documentId.isSome then .successWithId else .successContractUnconfirmed,
      response.statusCode, documentId, sha256 response.body, contentTypeOf response⟩
  else
    .ok ⟨createCategoryOfStatus response.statusCode, response.statusCode, none,
      sha256 response.body, contentTypeOf response⟩

theorem createCategoryOfStatus_ne_success (statusCode : Int) :
    createCategoryOfStatus statusCode ≠ .successWithId := by
  unfold createCategoryOfStatus
  split_ifs <;> simp

/-- The create results that the adapter reads are well formed. -/
theorem TrueApiWriteAdapter.readResponse_wellFormed
    {parse : HttpResponse → Except PyError (Option String)} {response : HttpResponse}
    {result : CreateResult} (h : readResponse sha256 parse response = .ok result) :
    result.WellFormed := by
  intro hsuccess
  unfold readResponse at h
  split at h
  · cases hparse : parse response with
    | error e =>
      rw [hparse] at h
      cases h
    | ok parsed =>
      cases hsafe : safeDocumentId parsed with
      | error e =>
        rw [hparse] at h
        simp only [bind, Except.bind, hsafe] at h
        cases h
      | ok documentId =>
        rw [hparse] at h
        simp only [bind, Except.bind, hsafe] at h
        cases h
        by_cases hsome : documentId.isSome
        · exact safeDocumentId_truthy hsafe hsome
        · simp [hsome] at hsuccess
  · cases h
    exact absurd hsuccess (createCategoryOfStatus_ne_success response.statusCode)

/-- The adapter fails with its transport, and reads its answer otherwise. -/
theorem TrueApiWriteAdapter.create_eq {adapter : TrueApiWriteAdapter}
    {documentType productDocumentBase64 productDocument signatureBase64 signature : String}
    (htype : documentType ∈ allowedDocumentTypes)
    (hdocument : validateBase64Ascii productDocumentBase64 "product_document" =
      .ok productDocument)
    (hsignature : validateBase64Ascii signatureBase64 "signature" = .ok signature) :
    adapter.create sha256 documentType productDocumentBase64 signatureBase64 =
      (adapter.postJson (adapter.baseUrl ++ createPath)
        [("Authorization", adapter.authorization), ("Content-Type", "application/json")]
        [("document_format", "MANUAL"), ("product_document", productDocument),
          ("type", documentType), ("signature", signature)]).bind
        (readResponse sha256 adapter.parseDocumentId) := by
  rw [create, if_neg (not_not.mpr htype), hdocument, hsignature]
  rfl

/-- Where a submission leaves its operation, by the outcome of the create call. -/
theorem stateOf_signAndSubmit {response : SigningResponse} {signature : String}
    {writer : TrueApiWriteAdapter}
    (hrow : s.operations.find? response.operationId = some row)
    (hstate : row.state = .awaitingSignature)
    (hcheck : checkSignature row response pipeline.ownInn = .ok signature)
    (hsignature : signature ≠ "") (hwrite : pipeline.trueApiWrite = true)
    (hwriter : pipeline.writer = some writer)
    (houtcome : ∀ result, writer.create sha256 row.documentType row.productDocumentBase64
      signature = .ok result → result.WellFormed) :
    (pipeline.signAndSubmit sha256 s response).stateOf response.operationId =
      some (stateAfterCreate s response.operationId
        (writer.create sha256 row.documentType row.productDocumentBase64 signature)) := by
  obtain ⟨signed, haccept, hsigned⟩ := acceptSignature_rewrites hrow hstate hcheck
  have htruthy : truthyText (signRow response signature row).signatureBase64 := by
    simpa [signRow, truthyText] using hsignature
  obtain ⟨reserved, hreserve, hreserved⟩ := reserveSubmit_rewrites hsigned.row rfl htruthy
  have hsame := (hsigned.trans hreserved).documentIdTaken
  rw [WritePipeline.signAndSubmit, WritePipeline.acceptSignature, haccept]
  simp only [WritePipeline.submit, hwrite, not_true_eq_false, if_false, hwriter, hreserve]
  refine (stateOf_recordOutcome hreserved.row rfl houtcome).trans ?_
  simp only [stateAfterCreate, hsame]

/-- Where a poll leaves its operation, by the outcome of the poll call. -/
theorem stateOf_pollOnce {poller : TrueApiPollingAdapter}
    (hrow : s.operations.find? id = some row) (hdocument : truthyText row.documentId)
    (hpoller : pipeline.poller = some poller) :
    (pipeline.pollOnce sha256 s id).2.stateOf id =
      some (match poller.poll sha256 (row.documentId.getD "") with
        | .error _ => row.state
        | .ok result =>
          stateAfterPoll row.state
            (if result.httpStatus ≠ 200 then none else result.rawStatus)) := by
  have hget : s.get id = .ok row.toOperationRecord := get_eq_ok.mpr ⟨row, hrow, rfl⟩
  rw [WritePipeline.pollOnce, hpoller]
  simp only [hget, hdocument, not_true_eq_false, if_false]
  cases hpoll : poller.poll sha256 (row.documentId.getD "") with
  | error exc =>
    simp only [auditNote]
    exact congrArg (Option.map _) hrow
  | ok result => exact stateOf_applyPollStatus hrow

end Procedures

end Wbcz
