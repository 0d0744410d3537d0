import Wbcz.WindowsAgent.Broker
import Wbcz.WindowsAgent.Replay
import Wbcz.WritePipeline.Submission

/-!
# Two drivers of one operation

An operation is submitted and polled either by `WritePipeline` in the process that holds the
store, or by an agent whose results the broker applies to the store. Both drivers meet the
same remote calls. This module traces every outcome of such a call through both of them and
says for which outcomes they leave the operation in the same state.

They do not for all: the broker learns what a create call came to only from a result that
carries a create category, and an exception on the agent becomes a result without one.
-/

namespace Wbcz

open WindowsAgentExecutor (checkJob createRemote execute poll write writeResult)
open TrueApiWriteAdapter (createPath create_eq readResponse readResponse_wellFormed)
open WriteStore

/-! ### The broker over the SQLite stores -/

section Broker

variable {sha256 : List UInt8 → String} {ownInn : String} {s : Vps} {result : AgentResult}

theorem Vps.onWrite_of_ok {α : Type} (f : WriteStore → Except PyError (α × WriteStore)) {a : α}
    {w : WriteStore} (h : f s.write = .ok (a, w)) :
    Vps.onWrite f s = (.ok (), { s with write := w }) := by
  simp [Vps.onWrite, Tx.lift, h, Except.map]

theorem Vps.onWrite_write {α : Type} (f : WriteStore → Except PyError (α × WriteStore)) :
    (Vps.onWrite f s).2.write = (WritePipeline.commit s.write (f s.write)).2 := by
  cases h : f s.write with
  | error e => simp [Vps.onWrite, Tx.lift, h, Except.map, WritePipeline.commit]
  | ok r => simp [Vps.onWrite, Tx.lift, h, Except.map, WritePipeline.commit]

theorem Vps.onJobs_write (f : VpsAgentJobStore → Except PyError VpsAgentJobStore) :
    (Vps.onJobs f s).2.write = s.write := by
  cases h : f s.jobs with
  | error e => simp [Vps.onJobs, Tx.lift, h, Except.map]
  | ok jobs => simp [Vps.onJobs, Tx.lift, h, Except.map]

theorem vpsBroker_get {id : String} {row : OperationRow}
    (hrow : s.write.operations.find? id = some row) :
    (vpsBroker sha256 ownInn).get id s = (.ok row.toOperationRecord, s) :=
  congrArg (fun x => (x, s)) (get_eq_ok.mpr ⟨row, hrow, rfl⟩)

/-- The completion of the job does not touch the write store. -/
theorem submitResult_write :
    ((vpsBroker sha256 ownInn).submitResult sha256 result s).2.write =
      ((vpsBroker sha256 ownInn).applyResult sha256 result s).2.write := by
  rw [VpsAgentBroker.submitResult, Tx.bind_apply]
  cases h : (vpsBroker sha256 ownInn).applyResult sha256 result s with
  | mk answer s' =>
    cases answer with
    | error e => rfl
    | ok value => exact Vps.onJobs_write _

/-- What a write result makes of an operation whose signature it brings. -/
theorem stateOf_applyWriteResult {row : OperationRow} {signature : String}
    {category : CreateCategory}
    (hrow : s.write.operations.find? result.operationId = some row)
    (hstate : row.state = .awaitingSignature)
    (hsha : emptyText result.documentSha256 = false)
    (hsigned : emptyText result.signatureBase64 = false)
    (hcheck : checkSignature row (VpsAgentBroker.signingResponse result) ownInn = .ok signature)
    (hsignature : signature ≠ "")
    (hcategory : result.createCategory = some category.value)
    (hresult : (VpsAgentBroker.createResult sha256 result category).WellFormed) :
    ((vpsBroker sha256 ownInn).submitResult sha256 result s).2.write.stateOf result.operationId =
      some (stateAfterCreate s.write result.operationId
        (.ok (VpsAgentBroker.createResult sha256 result category))) := by
  obtain ⟨signed, haccept, hsign⟩ : ∃ signed, s.write.acceptSignature
        (VpsAgentBroker.signingResponse result) ownInn = .ok
          ((signRow (VpsAgentBroker.signingResponse result) signature row).toOperationRecord,
            signed) ∧
      Rewritten s.write signed result.operationId
        (signRow (VpsAgentBroker.signingResponse result) signature row) :=
    acceptSignature_rewrites hrow hstate hcheck
  have htruthy : truthyText
      (signRow (VpsAgentBroker.signingResponse result) signature row).signatureBase64 := by
    simpa [signRow, truthyText] using hsignature
  obtain ⟨reserved, hreserve, hreserved⟩ := reserveSubmit_rewrites hsign.row rfl htruthy
  have hsame := (hsign.trans hreserved).documentIdTaken
  have hawaited : (vpsBroker sha256 ownInn).acceptAwaited result row.toOperationRecord s =
      (.ok (signRow (VpsAgentBroker.signingResponse result) signature row).toOperationRecord,
        { s with write := signed }) := by
    have haccepted : (vpsBroker sha256 ownInn).acceptSignature
        (VpsAgentBroker.signingResponse result) (vpsBroker sha256 ownInn).ownInn s =
          (.ok (), { s with write := signed }) := 
      Vps.onWrite_of_ok (fun w => w.acceptSignature _ ownInn) haccept
    rw [VpsAgentBroker.acceptAwaited, if_pos hstate, hsha, hsigned]
    exact (Tx.bind_of_ok haccepted).trans (vpsBroker_get hsign.row)
  have hreservedStep : (vpsBroker sha256 ownInn).reserveSigned result
        (signRow (VpsAgentBroker.signingResponse result) signature row).toOperationRecord
        { s with write := signed } =
      (.ok { (signRow (VpsAgentBroker.signingResponse result) signature row).toOperationRecord with
        state := .submitting }, { s with write := reserved }) := by
    have hsubmitting : (vpsBroker sha256 ownInn).reserveSubmit result.operationId
        { s with write := signed } = (.ok (), { s with write := reserved }) :=
      Vps.onWrite_of_ok (fun w => w.reserveSubmit result.operationId) hreserve
    rw [VpsAgentBroker.reserveSigned, if_pos (show (signRow _ signature row).state = .signed from rfl)]
    have hread := @vpsBroker_get sha256 ownInn { s with write := reserved } _ _ hreserved.row
    exact (Tx.bind_of_ok hsubmitting).trans hread
  rw [submitResult_write, VpsAgentBroker.applyResult, if_pos (by rw [hcategory]; rfl),
    VpsAgentBroker.applyWriteResult]
  rw [Tx.bind_of_ok (vpsBroker_get hrow), Tx.bind_of_ok hawaited, Tx.bind_of_ok hreservedStep,
    VpsAgentBroker.recordCreate, if_pos rfl, hcategory]
  simp only [Option.getD_some, CreateCategory.ofValue?_value]
  refine (congrArg (WriteStore.stateOf · _) (Vps.onWrite_write _)).trans ?_
  have hrecorded := @stateOf_recordOutcome _ _ _
    (.ok (VpsAgentBroker.createResult sha256 result category)) hreserved.row rfl fun _ h =>
      Except.ok.inj h ▸ hresult
  simp only [stateAfterCreate, hsame] at hrecorded ⊢
  exact hrecorded

/-- Where a result that is applied as a poll leaves the operation. -/
theorem stateOf_applyPollResult {row : OperationRow}
    (hrow : s.write.operations.find? result.operationId = some row) :
    ((vpsBroker sha256 ownInn).applyPollResult result s).2.write.stateOf result.operationId =
      some (stateAfterPoll row.state result.remoteStatus) := by
  rw [VpsAgentBroker.applyPollResult, Tx.bind_of_ok (vpsBroker_get hrow)]
  by_cases hpolled : row.state = .submitted ∨ row.state = .processing
  · rw [if_pos hpolled]
    refine (congrArg (WriteStore.stateOf · _) (Vps.onWrite_write _)).trans ?_
    exact stateOf_applyPollStatus hrow
  · rw [if_neg hpolled, stateAfterPoll, if_pos (by simpa [polledStates] using hpolled)]
    exact congrArg (Option.map _) hrow

/-- Where a result without a create category leaves the operation. -/
theorem stateOf_submitResult_of_poll {row : OperationRow} {id : String}
    (hrow : s.write.operations.find? id = some row) (hid : result.operationId = id)
    (hcategory : result.createCategory = none) :
    ((vpsBroker sha256 ownInn).submitResult sha256 result s).2.write.stateOf id =
      some (if result.remoteStatus.isSome || result.errorCode = some "POLL_HTTP_ERROR" then
        stateAfterPoll row.state result.remoteStatus else row.state) := by
  subst hid
  rw [submitResult_write, VpsAgentBroker.applyResult, if_neg (by simp [hcategory])]
  by_cases happlied : (result.remoteStatus.isSome ||
      decide (result.errorCode = some "POLL_HTTP_ERROR")) = true
  · rw [if_pos happlied, if_pos happlied]
    exact stateOf_applyPollResult hrow
  · rw [if_neg happlied, if_neg happlied]
    exact congrArg (Option.map _) hrow

end Broker

/-! ### A job that is executed for the first time -/

section Validation

variable {sha256 : List UInt8 → String} {contracts : PayloadContracts} {job : AgentJob}

theorem validateBase64Ascii_of_decode {value label : String} {raw : List UInt8}
    (hdecode : Base64.decode value.toList = some raw) (hraw : raw ≠ []) :
    validateBase64Ascii value label = .ok (String.ofList (Base64.encode raw)) := by
  have hcr : '\r' ∉ value.toList := Base64.not_mem_of_decode hdecode (by decide) (by decide)
  have hlf : '\n' ∉ value.toList := Base64.not_mem_of_decode hdecode (by decide) (by decide)
  have hvalue : value ≠ "" := by
    rintro rfl
    exact hraw (Option.some.inj (hdecode.symm.trans rfl))
  rw [validateBase64Ascii, if_neg (by simp [hcr, hlf, hvalue]), hdecode]
  cases raw with
  | nil => exact absurd rfl hraw
  | cons x xs => rfl

/-- The text of encoded bytes is canonical. -/
theorem validateBase64Ascii_encode {raw : List UInt8} (label : String) (hraw : raw ≠ []) :
    validateBase64Ascii (String.ofList (Base64.encode raw)) label =
      .ok (String.ofList (Base64.encode raw)) := by
  apply validateBase64Ascii_of_decode _ hraw
  rw [String.toList_ofList]
  exact Base64.decode_encode raw

theorem ofList_encode_ne_empty {raw : List UInt8} (hraw : raw ≠ []) :
    String.ofList (Base64.encode raw) ≠ "" := by
  intro h
  have hnil : Base64.encode raw = [] := by
    rw [← String.toList_ofList (l := Base64.encode raw), h]
    rfl
  exact hraw (Base64.encode_eq_nil_iff.mp hnil)

theorem ne_nil_of_loadsBytes {raw : List UInt8} (h : JsonText.loadsBytes raw = true) :
    raw ≠ [] := by
  rintro rfl
  revert h
  decide +kernel

/-- What the validation of a write job guarantees. -/
theorem validate_write (hfamily : job.jobType.family = .write)
    (h : job.validate sha256 contracts = .ok ()) :
    job.operationId ≠ "" ∧ emptyText job.documentSha256 = false ∧
      ∃ raw, Base64.decode (job.productDocumentBase64.getD "").toList = some raw ∧ raw ≠ [] := by
  unfold AgentJob.validate AgentJob.refuse at h
  split_ifs at h with hid hpg hinn
  simp only [hfamily, AgentJob.validateWrite, AgentJob.refuse] at h
  cases hdecode : Base64.decode (job.productDocumentBase64.getD "").toList with
  | none =>
    simp only [hdecode] at h
    split_ifs at h
  | some raw =>
    simp only [hdecode] at h
    split_ifs at h with htype hfields hsha hjson
    have hloads : JsonText.loadsBytes raw = true := by simpa using hjson
    refine ⟨fun hempty => hid (.inr hempty), ?_, raw, rfl, ne_nil_of_loadsBytes hloads⟩
    exact (Bool.or_eq_false_iff.mp (Bool.eq_false_iff.mpr hfields)).1

theorem checkJob_eq_ok {executor : WindowsAgentExecutor}
    (h : executor.checkJob sha256 contracts job = .ok ()) :
    job.validate sha256 contracts = .ok () ∧ job.expectedInn = executor.participantInn := by
  rw [checkJob] at h
  cases hvalid : job.validate sha256 contracts with
  | error e => simp [hvalid] at h
  | ok _ =>
    refine ⟨rfl, by_contra fun hinn => ?_⟩
    simp [hvalid, hinn] at h

/-- The first attempt of an operation is reserved, and its result is recorded. -/
theorem claim_of_firstAttempt {replay : ReplayStore} {operationId documentSha256 : String}
    (hid : operationId ≠ "") (hsha : documentSha256 ≠ "")
    (hfirst : replay.find? operationId = none) :
    ∃ claimed, replay.claim operationId documentSha256 = .ok (none, claimed) ∧
      ∀ result, ∃ completed,
        claimed.complete sha256 operationId documentSha256 result = .ok completed := by
  obtain ⟨claimed, hinsert⟩ : ∃ claimed, replay.insert
      ⟨operationId, documentSha256, .reserved, none, none⟩ = some claimed :=
    Table.insert_isSome hfirst
  have hfound : claimed.find? operationId =
      some ⟨operationId, documentSha256, .reserved, none, none⟩ :=
    Table.find?_insert_self hinsert
  refine ⟨claimed, ?_, fun result => ?_⟩
  · rw [ReplayStore.claim, if_neg (by simp [hid, hsha]), hfirst]
    simp only [hinsert]
  · rw [ReplayStore.complete, hfound]
    simp

/-- A job that was not attempted before is executed as far as its remote call. -/
theorem execute_of_firstAttempt {executor : WindowsAgentExecutor} {replay : ReplayStore}
    {signature token : String} {metadata : CertificateMetadata}
    (hfamily : job.jobType.family = .write)
    (hchecked : executor.checkJob sha256 contracts job = .ok ())
    (hwrite : executor.productionWrite = true) (hfirst : replay.find? job.operationId = none)
    (hsign : executor.signDocumentBytes job = .ok (signature, metadata))
    (htoken : executor.bearerToken = .ok token) :
    (executor.execute sha256 contracts replay job).1 =
      executor.createRemote sha256 job signature metadata token := by
  have hreport : job.jobType ≠ .reportCreate := by
    intro heq
    rw [heq] at hfamily
    cases hfamily
  obtain ⟨hid, hsha, _⟩ := validate_write hfamily (checkJob_eq_ok hchecked).1
  have hpresent : job.documentSha256.getD "" ≠ "" := by
    cases hdoc : job.documentSha256 with
    | none => simp [hdoc, emptyText] at hsha
    | some sha => simpa [hdoc, emptyText] using hsha
  obtain ⟨claimed, hclaim, hcomplete⟩ := @claim_of_firstAttempt sha256 _ _ _ hid hpresent hfirst
  have hinspect : replay.inspect job.operationId (job.documentSha256.getD "") = .ok none := by
    rw [ReplayStore.inspect, hfirst]
  rw [execute, hchecked]
  simp only [if_neg hreport, hfamily, write, hwrite, not_true_eq_false,
    if_false, hinspect, hsign, hclaim, htoken]
  cases hremote : executor.createRemote sha256 job signature metadata token with
  | error e => rfl
  | ok result =>
    obtain ⟨completed, hcompleted⟩ := hcomplete result
    simp only [hcompleted]

/-- One iteration of the agent delivers the outcome of its execution. -/
theorem runOnce_of_fetched {executor : WindowsAgentExecutor} {replay : ReplayStore}
    {ownInn : String} {s : Vps} (hfetched : (VpsAgentJobStore.fetchOne s.jobs).1 = some job) :
    ∃ jobs, (WindowsOutboundAgent.runOnce sha256 contracts executor (vpsBroker sha256 ownInn)
        replay s).2.2 =
      ((vpsBroker sha256 ownInn).submitResult sha256
        (WindowsOutboundAgent.resultOf job (executor.execute sha256 contracts replay job).1)
        { s with jobs := jobs }).2 := by
  cases hfetch : VpsAgentJobStore.fetchOne s.jobs with
  | mk next jobs =>
    rw [hfetch] at hfetched
    simp only at hfetched
    subst hfetched
    exact ⟨jobs, by simp only [WindowsOutboundAgent.runOnce, hfetch, WindowsOutboundAgent.deliver]⟩

end Validation

/-! ### The create call -/

/-- The signer answers with the Base64 text of some bytes, made with the certificate of the
participant. -/
structure SignsWith (executor : WindowsAgentExecutor) (job : AgentJob) (signature : String)
    (metadata : CertificateMetadata) : Prop where
  answer : executor.signDocumentBytes job = .ok (signature, metadata)
  encoded : ∃ raw, raw ≠ [] ∧ signature = String.ofList (Base64.encode raw)
  certificateInn : metadata.certificateInn = some executor.participantInn

/-- The answer of the signer as the pipeline receives it. -/
def signerResponse (job : AgentJob) (signature : String) (metadata : CertificateMetadata) :
    SigningResponse where
  operationId := job.operationId
  documentSha256 := job.documentSha256.getD ""
  signatureBase64 := signature
  certificateThumbprint := metadata.certificateThumbprint
  certificateSubject := metadata.certificateSubject
  certificateInn := metadata.certificateInn
  certificateValidFrom := metadata.certificateValidFrom
  certificateValidTo := metadata.certificateValidTo

/-- Both drivers come to the create call of a prepared operation, the agent for the first
time, and the call has the same outcome for both. -/
structure SameCreate (sha256 : List UInt8 → String) (contracts : PayloadContracts)
    (executor : WindowsAgentExecutor) (replay : ReplayStore) (pipeline : WritePipeline) (s : Vps)
    (job : AgentJob) (signature : String) (metadata : CertificateMetadata)
    (response : Except PyError HttpResponse) : Prop where
  queued : ∃ request jobType, s.write.signingRequest job.operationId = .ok request ∧
    AgentJobType.ofDocumentType? request.documentType = some jobType ∧
    job = writeJob sha256 jobType request
  fetched : (VpsAgentJobStore.fetchOne s.jobs).1 = some job
  checked : executor.checkJob sha256 contracts job = .ok ()
  productionWrite : executor.productionWrite = true
  firstAttempt : replay.find? job.operationId = none
  signs : SignsWith executor job signature metadata
  calls : ∃ token, executor.bearerToken = .ok token ∧
    executor.createDocument (job.documentType.getD "") (job.productDocumentBase64.getD "")
      signature token = response
  trueApiWrite : pipeline.trueApiWrite = true
  ownInn : pipeline.ownInn = executor.participantInn
  posts : ∃ writer, pipeline.writer = some writer ∧
    writer.parseDocumentId = executor.parseDocumentId ∧
    ∀ productDocument, validateBase64Ascii (job.productDocumentBase64.getD "")
        "product_document" = .ok productDocument →
      writer.postJson (writer.baseUrl ++ createPath)
        [("Authorization", writer.authorization), ("Content-Type", "application/json")]
        [("document_format", "MANUAL"), ("product_document", productDocument),
          ("type", job.documentType.getD ""), ("signature", signature)] = response

section Create

variable {sha256 : List UInt8 → String} {contracts : PayloadContracts}
  {executor : WindowsAgentExecutor} {replay : ReplayStore} {pipeline : WritePipeline} {s : Vps}
  {job : AgentJob} {signature : String} {metadata : CertificateMetadata}
  {response : Except PyError HttpResponse} {row : OperationRow}

theorem ofDocumentType?_family {documentType : String} {jobType : AgentJobType}
    (h : AgentJobType.ofDocumentType? documentType = some jobType) : jobType.family = .write := by
  unfold AgentJobType.ofDocumentType? at h
  split_ifs at h <;> cases h <;> rfl

theorem signingRequest_eq_ok {w : WriteStore} {id : String} {request : SigningRequest}
    (h : w.signingRequest id = .ok request) :
    ∃ row, w.operations.find? id = some row ∧ row.state = .awaitingSignature ∧
      row.documentType ∈ allowedDocumentTypes ∧ row.pg = "lp" ∧
      request = ⟨row.operationId, row.documentType, row.pg, row.expectedInn, row.documentSha256,
        row.productDocumentBase64⟩ := by
  rw [WriteStore.signingRequest] at h
  cases hget : w.get id with
  | error e => simp [hget] at h
  | ok op =>
    obtain ⟨row, hrow, rfl⟩ := get_eq_ok.mp hget
    simp only [hget] at h
    split_ifs at h with hstate hallowed
    refine ⟨row, hrow, not_not.mp hstate, ?_, ?_, (Except.ok.inj h).symm⟩
    · exact not_not.mp fun hnot => hallowed (.inl hnot)
    · exact not_not.mp fun hnot => hallowed (.inr hnot)

theorem SameCreate.isWrite
    (h : SameCreate sha256 contracts executor replay pipeline s job signature metadata response) :
    job.jobType.family = .write := by
  obtain ⟨request, jobType, _, hofType, hjob⟩ := h.queued
  rw [hjob]
  exact ofDocumentType?_family hofType

/-- The operation both drivers work on: its row awaits the signature, and accepts it. -/
theorem SameCreate.prepared
    (h : SameCreate sha256 contracts executor replay pipeline s job signature metadata response) :
    ∃ row, s.write.operations.find? job.operationId = some row ∧
      row.state = .awaitingSignature ∧ row.documentType ∈ allowedDocumentTypes ∧
      job.documentType = some row.documentType ∧ job.documentSha256 = some row.documentSha256 ∧
      job.productDocumentBase64 = some row.productDocumentBase64 ∧
      checkSignature row (signerResponse job signature metadata) pipeline.ownInn =
        .ok signature ∧ signature ≠ "" := by
  obtain ⟨request, jobType, hrequest, _, hjob⟩ := h.queued
  obtain ⟨row, hrow, hstate, htype, hpg, hfields⟩ := signingRequest_eq_ok hrequest
  obtain ⟨raw, hraw, hsignature⟩ := h.signs.encoded
  have hinn : row.expectedInn = pipeline.ownInn := by
    rw [h.ownInn, ← (checkJob_eq_ok h.checked).2, hjob, hfields]
    rfl
  have hsha : row.documentSha256 = (signerResponse job signature metadata).documentSha256 := by
    rw [signerResponse, hjob, hfields]
    rfl
  have hcertificate : metadata.certificateInn = some row.expectedInn := by
    rw [h.signs.certificateInn, hinn, h.ownInn]
  have hlp : row.pg = allowedProductGroup := hpg
  refine ⟨row, hrow, hstate, htype, ?_, ?_, ?_, ?_, ?_⟩
  · rw [hjob, hfields]
    rfl
  · rw [hjob, hfields]
    rfl
  · rw [hjob, hfields]
    rfl
  · rw [checkSignature, if_neg (not_not.mpr hsha), if_neg (not_not.mpr htype),
      if_neg (not_not.mpr hlp), if_neg (not_not.mpr hinn),
      if_neg (fun hmismatch => hmismatch.2 hcertificate)]
    simp only [signerResponse, hsignature]
    exact validateBase64Ascii_encode "signature" hraw
  · rw [hsignature]
    exact ofList_encode_ne_empty hraw

/-- Where the pipeline leaves the operation. -/
theorem SameCreate.pipeline_state
    (h : SameCreate sha256 contracts executor replay pipeline s job signature metadata response) :
    (pipeline.signAndSubmit sha256 s.write (signerResponse job signature metadata)).stateOf
        job.operationId =
      some (stateAfterCreate s.write job.operationId (response.bind
        (readResponse sha256 executor.parseDocumentId))) := by
  obtain ⟨row, hrow, hstate, htype, hjobType, _, hdocument, hcheck, hsignature⟩ := h.prepared
  obtain ⟨writer, hwriter, hparse, hposts⟩ := h.posts
  obtain ⟨_, _, raw, hdecode, hraw⟩ := validate_write h.isWrite (checkJob_eq_ok h.checked).1
  have hcanonical := @validateBase64Ascii_of_decode _ "product_document" _ hdecode hraw
  obtain ⟨rawSignature, hrawSignature, hencoded⟩ := h.signs.encoded
  have hcanonicalSignature : validateBase64Ascii signature "signature" = .ok signature := by
    rw [hencoded]
    exact validateBase64Ascii_encode "signature" hrawSignature
  have hposted := hposts _ hcanonical
  rw [hdocument, Option.getD_some] at hcanonical
  rw [hjobType, Option.getD_some] at hposted
  have hcreate : writer.create sha256 row.documentType row.productDocumentBase64 signature =
      response.bind (readResponse sha256 executor.parseDocumentId) := by
    rw [create_eq htype hcanonical hcanonicalSignature, hposted, hparse]
  refine (stateOf_signAndSubmit hrow hstate hcheck hsignature h.trueApiWrite hwriter
    fun result hresult => ?_).trans ?_
  · rw [hcreate] at hresult
    cases hresponse : response with
    | error e => simp [hresponse, Except.bind] at hresult
    | ok answer =>
      rw [hresponse] at hresult
      exact readResponse_wellFormed hresult
  · rw [hcreate]
    rfl

/-- The state in which the agent leaves the operation. -/
def agentStateAfterCreate (w : WriteStore) (id : String)
    (parse : HttpResponse → Except PyError (Option String)) :
    Except PyError HttpResponse → WriteState
  | .error _ => .awaitingSignature
  | .ok response =>
    if response.statusCode = 200 ∨ response.statusCode = 201 then
      match parse response with
      | .error _ => .awaitingSignature
      | .ok documentId =>
        if truthyText documentId then
          if w.documentIdTaken id documentId then .submitting else .submitted
        else .manualReview
    else submitTarget (createCategoryOfStatus response.statusCode)

/-- The result of the agent, or the exception that took its place. -/
theorem SameCreate.executed
    (h : SameCreate sha256 contracts executor replay pipeline s job signature metadata response) :
    (executor.execute sha256 contracts replay job).1 =
      response.bind (executor.writeResult sha256 job signature metadata) := by
  obtain ⟨token, htoken, hcreate⟩ := h.calls
  rw [execute_of_firstAttempt h.isWrite h.checked h.productionWrite h.firstAttempt h.signs.answer
    htoken, createRemote, hcreate]
  rfl

/-- A result of the agent is applied to where `agentStateAfterCreate` says. -/
theorem writeResult_applied {answer : HttpResponse} {result : AgentResult} (w : WriteStore)
    (id : String)
    (h : executor.writeResult sha256 job signature metadata answer = .ok result) :
    VpsAgentBroker.signingResponse result = signerResponse job signature metadata ∧
      result.documentSha256 = job.documentSha256 ∧ result.signatureBase64 = some signature ∧
      ∃ category, result.createCategory = some category.value ∧
        (VpsAgentBroker.createResult sha256 result category).WellFormed ∧
        stateAfterCreate w id (.ok (VpsAgentBroker.createResult sha256 result category)) =
          agentStateAfterCreate w id executor.parseDocumentId (.ok answer) := by
  unfold writeResult at h
  by_cases hanswered : answer.statusCode = 200 ∨ answer.statusCode = 201
  · simp only [if_pos hanswered] at h
    cases hparse : executor.parseDocumentId answer with
    | error e => simp [hparse, bind, Except.bind] at h
    | ok documentId =>
      simp only [hparse, bind, Except.bind] at h
      by_cases hid : truthyText documentId
      · simp only [hid, if_true] at h
        cases h
        refine ⟨rfl, rfl, rfl, .successWithId, rfl, fun _ => hid, ?_⟩
        simp [stateAfterCreate, agentStateAfterCreate, hanswered, hparse, hid, submitTarget,
          VpsAgentBroker.createResult]
      · simp only [hid] at h
        cases h
        refine ⟨rfl, rfl, rfl, .successContractUnconfirmed, rfl, ?_, ?_⟩
        · intro hsuccess
          cases hsuccess
        · simp [stateAfterCreate, agentStateAfterCreate, hanswered, hparse, hid, submitTarget,
            VpsAgentBroker.createResult]
  · simp only [if_neg hanswered] at h
    cases h
    have hcategory := createCategoryOfStatus_ne_success answer.statusCode
    refine ⟨rfl, rfl, rfl, createCategoryOfStatus answer.statusCode, rfl, ?_, ?_⟩
    · exact fun hsuccess => absurd hsuccess hcategory
    · have htarget : submitTarget (createCategoryOfStatus answer.statusCode) ≠ .submitted := by
        revert hcategory
        cases createCategoryOfStatus answer.statusCode <;> simp [submitTarget]
      simp [stateAfterCreate, agentStateAfterCreate, hanswered, htarget,
        VpsAgentBroker.createResult]

/-- An answer of the transport is not made a result only when the parser raises. -/
theorem agentState_of_raised {answer : HttpResponse} {exc : PyError} (w : WriteStore) (id : String)
    (h : executor.writeResult sha256 job signature metadata answer = .error exc) :
    agentStateAfterCreate w id executor.parseDocumentId (.ok answer) = .awaitingSignature := by
  unfold writeResult at h
  by_cases hanswered : answer.statusCode = 200 ∨ answer.statusCode = 201
  · simp only [if_pos hanswered] at h
    cases hparse : executor.parseDocumentId answer with
    | error e => simp [agentStateAfterCreate, hanswered, hparse]
    | ok documentId =>
      simp only [hparse, bind, Except.bind] at h
      split_ifs at h
  · simp [if_neg hanswered] at h

/-- An execution that raised leaves an operation that awaits its signature as it is. -/
theorem stateOf_submitResult_of_exception {exc : PyError} {jobs : VpsAgentJobStore}
    (hrow : s.write.operations.find? job.operationId = some row)
    (hstate : row.state = .awaitingSignature) :
    ((vpsBroker sha256 pipeline.ownInn).submitResult sha256
        (WindowsOutboundAgent.resultOf job (.error exc))
        { s with jobs := jobs }).2.write.stateOf job.operationId = some .awaitingSignature := by
  have happlied := @stateOf_submitResult_of_poll sha256 pipeline.ownInn { s with jobs := jobs }
    (WindowsOutboundAgent.resultOf job (.error exc)) row job.operationId hrow rfl rfl
  rw [hstate] at happlied
  refine happlied.trans (congrArg some ?_)
  split_ifs <;> rfl

/-- Where the agent leaves the operation. -/
theorem SameCreate.agent_state
    (h : SameCreate sha256 contracts executor replay pipeline s job signature metadata response) :
    (WindowsOutboundAgent.runOnce sha256 contracts executor (vpsBroker sha256 pipeline.ownInn)
        replay s).2.2.write.stateOf job.operationId =
      some (agentStateAfterCreate s.write job.operationId executor.parseDocumentId response) := by
  obtain ⟨row, hrow, hstate, _, _, hsha, _, hcheck, hsignature⟩ := h.prepared
  obtain ⟨jobs, hdelivered⟩ := @runOnce_of_fetched sha256 contracts job executor replay
    pipeline.ownInn s h.fetched
  rw [hdelivered, h.executed]
  cases response with
  | error exc => exact stateOf_submitResult_of_exception hrow hstate
  | ok answer =>
    cases hwrite : executor.writeResult sha256 job signature metadata answer with
    | error exc =>
      rw [agentState_of_raised s.write job.operationId hwrite]
      simp only [Except.bind, hwrite]
      exact stateOf_submitResult_of_exception hrow hstate
    | ok result =>
      obtain ⟨hresponse, hresultSha, hsigned, category, hcategory, hwell, hafter⟩ :=
        writeResult_applied s.write job.operationId hwrite
      have hid : result.operationId = job.operationId :=
        congrArg SigningResponse.operationId hresponse
      simp only [Except.bind, hwrite, WindowsOutboundAgent.resultOf]
      rw [← hafter, ← hid]
      rw [← hid] at hrow
      rw [← hresponse] at hcheck
      refine stateOf_applyWriteResult hrow hstate ?_ ?_ hcheck hsignature hcategory hwell
      · rw [hresultSha]
        exact (validate_write h.isWrite (checkJob_eq_ok h.checked).1).2.1
      · simpa [hsigned, emptyText] using hsignature

end Create

/-- The create call may have created a document and gives no id of it: it raises, the server
fails, or it reports success and the response names no document. -/
def AmbiguousCreate (parse : HttpResponse → Except PyError (Option String)) :
    Except PyError HttpResponse → Prop
  | .error _ => True
  | .ok response =>
    response.statusCode ≥ 500 ∨
      (response.statusCode = 200 ∨ response.statusCode = 201) ∧
        ∀ documentId, parse response = .ok documentId → ¬ truthyText documentId

/-- The call did not raise; and where it reports success, its response was parsed, and a
document id in it is one that the pipeline takes and that is as free with blanks around it as
without. -/
def CreateAgrees (w : WriteStore) (id : String)
    (parse : HttpResponse → Except PyError (Option String)) :
    Except PyError HttpResponse → Prop
  | .error _ => False
  | .ok response =>
    response.statusCode = 200 ∨ response.statusCode = 201 →
      ∃ documentId, parse response = .ok documentId ∧
        (truthyText documentId → ∃ safe, safeDocumentId documentId = .ok safe ∧
          w.documentIdTaken id safe = w.documentIdTaken id documentId)

section CreateOutcomes

variable {sha256 : List UInt8 → String} {w : WriteStore} {id : String}
  {parse : HttpResponse → Except PyError (Option String)} {response : Except PyError HttpResponse}

theorem safeDocumentId_isSome {documentId safe : Option String} (hid : truthyText documentId)
    (h : safeDocumentId documentId = .ok safe) : safe.isSome := by
  cases documentId with
  | none => cases hid
  | some value =>
    rw [safeDocumentId] at h
    split at h
    · cases h
    · cases h
      rfl

/-- A response without a document id is one for manual review. -/
theorem stateAfterCreate_of_falsy {answer : HttpResponse} {documentId : Option String}
    (hanswered : answer.statusCode = 200 ∨ answer.statusCode = 201)
    (hparse : parse answer = .ok documentId) (hid : ¬ truthyText documentId) :
    stateAfterCreate w id (readResponse sha256 parse answer) =
      .manualReview := by
  rw [readResponse, if_pos hanswered, hparse]
  cases documentId with
  | none => rfl
  | some value =>
    have hempty : value = "" := by simpa [truthyText] using hid
    subst hempty
    rfl

/-- A response with a document id: submitted, unless the id is unsafe or taken. -/
theorem stateAfterCreate_of_truthy {answer : HttpResponse} {documentId safe : Option String}
    (hanswered : answer.statusCode = 200 ∨ answer.statusCode = 201)
    (hparse : parse answer = .ok documentId) (hid : truthyText documentId)
    (hsafe : safeDocumentId documentId = .ok safe) :
    stateAfterCreate w id (readResponse sha256 parse answer) =
      if w.documentIdTaken id safe then .submitting else .submitted := by
  have hsome := safeDocumentId_isSome hid hsafe
  rw [readResponse, if_pos hanswered, hparse]
  simp [bind, Except.bind, hsafe, hsome, stateAfterCreate, submitTarget]

theorem stateAfterCreate_of_status {answer : HttpResponse}
    (hanswered : ¬ (answer.statusCode = 200 ∨ answer.statusCode = 201)) :
    stateAfterCreate w id (readResponse sha256 parse answer) =
      submitTarget (createCategoryOfStatus answer.statusCode) := by
  rw [readResponse, if_neg hanswered]
  simp [stateAfterCreate, documentIdTaken]

/-- The two drivers end in the same state exactly when the outcome is one they agree on. -/
theorem agentState_eq_iff :
    agentStateAfterCreate w id parse response =
        stateAfterCreate w id
          (response.bind (readResponse sha256 parse)) ↔
      CreateAgrees w id parse response := by
  cases response with
  | error exc =>
    simp [agentStateAfterCreate, Except.bind, stateAfterCreate, CreateAgrees]
  | ok answer =>
    simp only [Except.bind, CreateAgrees]
    by_cases hanswered : answer.statusCode = 200 ∨ answer.statusCode = 201
    · rw [agentStateAfterCreate, if_pos hanswered]
      cases hparse : parse answer with
      | error e =>
        simp [hanswered, readResponse, hparse, bind, Except.bind,
          stateAfterCreate]
      | ok documentId =>
        by_cases hid : truthyText documentId
        · cases hsafe : safeDocumentId documentId with
          | error e =>
            have hreview : stateAfterCreate w id
                (readResponse sha256 parse answer) = .manualReview := by
              rw [readResponse, if_pos hanswered, hparse]
              simp [bind, Except.bind, hsafe, stateAfterCreate]
            simp only [hid, if_true, hreview, hanswered]
            by_cases htaken : w.documentIdTaken id documentId <;> simp [htaken, hid, hsafe]
          | ok safe =>
            simp only [hid, if_true, stateAfterCreate_of_truthy hanswered hparse hid hsafe]
            by_cases htaken : w.documentIdTaken id documentId <;>
              by_cases htakenSafe : w.documentIdTaken id safe <;>
              simp [hanswered, htaken, htakenSafe, hid, hsafe]
        · simp [hid, hanswered, stateAfterCreate_of_falsy hanswered hparse hid]
    · rw [agentStateAfterCreate, if_neg hanswered, stateAfterCreate_of_status hanswered]
      simp [hanswered]

/-- After an ambiguous outcome the pipeline asks for manual review. -/
theorem stateAfterCreate_of_ambiguous (h : AmbiguousCreate parse response) :
    stateAfterCreate w id (response.bind (readResponse sha256 parse)) =
      .manualReview := by
  cases response with
  | error exc => rfl
  | ok answer =>
    simp only [Except.bind]
    rcases h with hserver | ⟨hanswered, hnoId⟩
    · have hanswered : ¬ (answer.statusCode = 200 ∨ answer.statusCode = 201) := by omega
      rw [stateAfterCreate_of_status hanswered]
      have hcategory : createCategoryOfStatus answer.statusCode = .serverError := by
        unfold createCategoryOfStatus
        split_ifs <;> first | rfl | omega
      rw [hcategory]
      rfl
    · cases hparse : parse answer with
      | error e =>
        rw [readResponse, if_pos hanswered, hparse]
        rfl
      | ok documentId => exact stateAfterCreate_of_falsy hanswered hparse (hnoId _ hparse)

end CreateOutcomes

/-! ### The poll call -/

/-- Both drivers come to the poll call of an operation with a document id, and the call has the
same outcome for both. -/
structure SamePoll (sha256 : List UInt8 → String) (contracts : PayloadContracts)
    (executor : WindowsAgentExecutor) (pipeline : WritePipeline) (s : Vps)
    (job : AgentJob) (row : OperationRow) (documentId : String)
    (response : Except PyError HttpResponse) : Prop where
  stored : s.write.operations.find? job.operationId = some row
  submitted : row.documentId = some documentId
  queued : job = pollJob sha256 pipeline.ownInn job.operationId documentId
  fetched : (VpsAgentJobStore.fetchOne s.jobs).1 = some job
  checked : executor.checkJob sha256 contracts job = .ok ()
  calls : ∃ token, executor.bearerToken = .ok token ∧
    executor.pollDocument documentId token = response
  polls : ∃ poller, pipeline.poller = some poller ∧
    poller.parseStatus = executor.parseStatus ∧
    poller.get (poller.baseUrl ++ "/api/v4/true-api/doc/" ++ documentId ++ "/info")
      [("Authorization", poller.authorization)] = response

/-- The class of the exception has not the name that the broker takes for a failed poll. -/
def NotPollHttpError (exc : PyError) : Prop := exc.cls.name ≠ "POLL_HTTP_ERROR"

/-- The operation is not being polled any more; or the status was read and is present, and
blanks around it do not change its class; or there is none to read, and for a response other
than 200 the parser still gives an answer. -/
def PollAgrees (state : WriteState) (parse : HttpResponse → Except PyError (Option String))
    (response : Except PyError HttpResponse) : Prop :=
  state ∈ polledStates →
    match response with
    | .error exc => NotPollHttpError exc
    | .ok answer =>
      if answer.statusCode ≠ 200 then ∃ status, parse answer = .ok status
      else
        match parse answer with
        | .error exc => NotPollHttpError exc
        | .ok none => False
        | .ok (some status) =>
          classifyPollStatus (some (Text.strip status)) = classifyPollStatus (some status)

/-- The state in which the agent leaves a polled operation. -/
def agentStateAfterPoll (state : WriteState)
    (parse : HttpResponse → Except PyError (Option String)) :
    Except PyError HttpResponse → WriteState
  | .error exc => afterException exc
  | .ok answer =>
    if answer.statusCode ≠ 200 then stateAfterPoll state none
    else
      match parse answer with
      | .error exc => afterException exc
      | .ok none => state
      | .ok (some status) => stateAfterPoll state (some status)
where
  afterException (exc : PyError) : WriteState :=
    if exc.cls.name = "POLL_HTTP_ERROR" then stateAfterPoll state none else state

/-- The state in which the pipeline leaves a polled operation. -/
def pipelineStateAfterPoll (state : WriteState)
    (parse : HttpResponse → Except PyError (Option String)) :
    Except PyError HttpResponse → WriteState
  | .error _ => state
  | .ok answer =>
    match parse answer with
    | .error _ => state
    | .ok status =>
      stateAfterPoll state (if answer.statusCode ≠ 200 then none else status.map Text.strip)

section PollOutcomes

variable {state : WriteState} {parse : HttpResponse → Except PyError (Option String)}
  {response : Except PyError HttpResponse}

theorem stateAfterPoll_of_other (h : state ∉ polledStates) (status : Option String) :
    stateAfterPoll state status = state := if_pos h

/-- The state that a poll leads to tells the class of the status. -/
theorem stateAfterPoll_inj (h : state ∈ polledStates) {status status' : Option String} :
    stateAfterPoll state status = stateAfterPoll state status' ↔
      classifyPollStatus status = classifyPollStatus status' := by
  unfold stateAfterPoll
  rw [if_neg (not_not.mpr h), if_neg (not_not.mpr h)]
  cases classifyPollStatus status <;> cases classifyPollStatus status' <;> simp [pollTarget]

theorem stateAfterPoll_none (h : state ∈ polledStates) :
    stateAfterPoll state none = .manualReview := if_neg (not_not.mpr h)

theorem agentStateAfterPoll_eq_iff :
    agentStateAfterPoll state parse response = pipelineStateAfterPoll state parse response ↔
      PollAgrees state parse response := by
  by_cases hpolled : state ∈ polledStates
  · have hreview : WriteState.manualReview ≠ state := by
      rintro rfl
      revert hpolled
      decide
    have hexception (exc : PyError) :
        agentStateAfterPoll.afterException state exc = state ↔ NotPollHttpError exc := by
      unfold agentStateAfterPoll.afterException NotPollHttpError
      rw [stateAfterPoll_none hpolled]
      split_ifs with hname <;> simp [hname, hreview]
    cases response with
    | error exc => simp [agentStateAfterPoll, pipelineStateAfterPoll, PollAgrees, hpolled, hexception]
    | ok answer =>
      by_cases hok : answer.statusCode = 200
      · cases hparse : parse answer with
        | error exc =>
          simp [agentStateAfterPoll, pipelineStateAfterPoll, PollAgrees, hpolled, hexception, hok,
            hparse]
        | ok status =>
          cases status with
          | none =>
            simp [agentStateAfterPoll, pipelineStateAfterPoll, PollAgrees, hpolled, hok, hparse,
              stateAfterPoll_none hpolled, hreview.symm]
          | some status =>
            simp [agentStateAfterPoll, pipelineStateAfterPoll, PollAgrees, hpolled, hok, hparse,
              stateAfterPoll_inj hpolled, eq_comm]
      · cases hparse : parse answer with
        | error exc =>
          simp [agentStateAfterPoll, pipelineStateAfterPoll, PollAgrees, hpolled, hok, hparse,
            stateAfterPoll_none hpolled, hreview]
        | ok status =>
          simp [agentStateAfterPoll, pipelineStateAfterPoll, PollAgrees, hpolled, hok, hparse]
  · have hagent : agentStateAfterPoll state parse response = state := by
      unfold agentStateAfterPoll agentStateAfterPoll.afterException
      simp only [stateAfterPoll_of_other hpolled, ite_self]
      cases response with
      | error exc => rfl
      | ok answer =>
        simp only
        split_ifs
        · rfl
        · split <;> rfl
    have hpipeline : pipelineStateAfterPoll state parse response = state := by
      unfold pipelineStateAfterPoll
      simp only [stateAfterPoll_of_other hpolled]
      cases response with
      | error exc => rfl
      | ok answer =>
        simp only
        cases parse answer <;> rfl
    rw [hagent, hpipeline]
    exact iff_of_true rfl fun h => absurd h hpolled

end PollOutcomes

section Poll

variable {sha256 : List UInt8 → String} {contracts : PayloadContracts}
  {executor : WindowsAgentExecutor} {replay : ReplayStore} {pipeline : WritePipeline} {s : Vps}
  {job : AgentJob} {row : OperationRow} {documentId : String}
  {response : Except PyError HttpResponse}

theorem isSpace_of_isToken {max : Nat} {text : String} (h : isToken max text = true) {c : Char}
    (hc : c ∈ text.toList) : Text.isSpace c = false ∧ 32 ≤ c.toNat := by
  have hall := List.all_eq_true.mp (Bool.and_eq_true_iff.mp h).2 c hc
  simp only [Bool.or_eq_true, Bool.and_eq_true, decide_eq_true_eq, Text.isAsciiDigit] at hall
  have hrange : c.toNat = 45 ∨ c.toNat = 46 ∨ (48 ≤ c.toNat ∧ c.toNat ≤ 58) ∨
      (65 ≤ c.toNat ∧ c.toNat ≤ 90) ∨ c.toNat = 95 ∨ (97 ≤ c.toNat ∧ c.toNat ≤ 122) := by
    rcases hall with (((((hupper | hlower) | hdigit) | rfl) | rfl) | rfl) | rfl
    · exact .inr (.inr (.inr (.inl hupper)))
    · exact .inr (.inr (.inr (.inr (.inr hlower))))
    · exact .inr (.inr (.inl (by omega)))
    all_goals decide
  refine ⟨?_, by omega⟩
  simp only [Text.isSpace, Bool.or_eq_false_iff, Bool.and_eq_false_iff, decide_eq_false_iff_not]
  omega

/-- A document id that can be polled is a safe one. -/
theorem safeDocumentId_of_isToken {text : String} (h : isToken 256 text = true) :
    safeDocumentId (some text) = .ok (some text) := by
  have hlength : 1 ≤ text.length ∧ text.length ≤ 256 := by
    have hbounds := (Bool.and_eq_true_iff.mp h).1
    simpa using hbounds
  have hstrip : Text.strip text = text := by
    have hlist : Text.stripList text.toList = text.toList := by
      apply Text.stripList_of_ends
      · intro c hc
        exact (isSpace_of_isToken h (List.mem_of_head? hc)).1
      · intro c hc
        exact (isSpace_of_isToken h (List.mem_of_getLast? hc)).1
    rw [Text.strip, hlist, String.ofList_toList]
  have hsafe : ¬ (text = "" ∨ text.length > 512 ∨
      text.toList.any (fun ch => ch.toNat < 32) = true) := by
    rintro (rfl | hlong | hcontrol)
    · exact absurd hlength.1 (by decide)
    · omega
    · obtain ⟨c, hc, hsmall⟩ := List.any_eq_true.mp hcontrol
      have := (isSpace_of_isToken h hc).2
      simp only [decide_eq_true_eq] at hsmall
      omega
  simp only [safeDocumentId, hstrip, if_neg hsafe]

/-- What the validation of a poll job guarantees. -/
theorem isToken_of_validate (htype : job.jobType = .pollDocument)
    (h : job.validate sha256 contracts = .ok ()) : isToken 256 (job.documentId.getD "") = true := by
  unfold AgentJob.validate AgentJob.refuse at h
  split_ifs at h with hid hpg hinn
  simp only [htype, AgentJobType.family, AgentJob.validatePoll, AgentJob.refuse] at h
  split_ifs at h with htoken
  exact htoken

theorem SamePoll.isToken
    (h : SamePoll sha256 contracts executor pipeline s job row documentId response) :
    isToken 256 documentId = true := by
  have htype : job.jobType = .pollDocument := by
    rw [h.queued]
    rfl
  have htoken := isToken_of_validate htype (checkJob_eq_ok h.checked).1
  rw [h.queued] at htoken
  exact htoken

theorem SamePoll.executed
    (h : SamePoll sha256 contracts executor pipeline s job row documentId response) :
    (executor.execute sha256 contracts replay job).1 = executor.poll sha256 job := by
  have htype : job.jobType = .pollDocument := by
    rw [h.queued]
    rfl
  rw [execute, h.checked]
  simp [htype, AgentJobType.family]

/-- Where an exception of the poll call leaves the operation. -/
theorem stateOf_submitResult_of_pollException {exc : PyError} {jobs : VpsAgentJobStore}
    (hrow : s.write.operations.find? job.operationId = some row) :
    ((vpsBroker sha256 pipeline.ownInn).submitResult sha256
        (WindowsOutboundAgent.resultOf job (.error exc))
        { s with jobs := jobs }).2.write.stateOf job.operationId =
      some (agentStateAfterPoll.afterException row.state exc) := by
  have happlied := @stateOf_submitResult_of_poll sha256 pipeline.ownInn { s with jobs := jobs }
    (WindowsOutboundAgent.resultOf job (.error exc)) row job.operationId hrow rfl rfl
  refine happlied.trans (congrArg some ?_)
  unfold agentStateAfterPoll.afterException
  simp only [WindowsOutboundAgent.resultOf, Option.isSome_none, Bool.false_or]
  by_cases hdisabled : exc.cls = .agentProductionWriteDisabled
  · simp [hdisabled, ErrorClass.name]
  · simp [hdisabled]

/-- Where the pipeline leaves a polled operation. -/
theorem SamePoll.pipeline_state
    (h : SamePoll sha256 contracts executor pipeline s job row documentId response) :
    (pipeline.pollOnce sha256 s.write job.operationId).2.stateOf job.operationId =
      some (pipelineStateAfterPoll row.state executor.parseStatus response) := by
  obtain ⟨poller, hpoller, hparse, hget⟩ := h.polls
  have hpresent : documentId ≠ "" := by
    rintro rfl
    exact absurd h.isToken (by decide)
  have hdocument : truthyText row.documentId := by
    simpa [h.submitted, truthyText] using hpresent
  rw [stateOf_pollOnce h.stored hdocument hpoller, h.submitted, Option.getD_some,
    TrueApiPollingAdapter.poll, safeDocumentId_of_isToken h.isToken]
  simp only [bind, Except.bind, Option.getD_some, hget, hparse]
  cases response with
  | error exc => rfl
  | ok answer => cases hstatus : executor.parseStatus answer <;> simp [pipelineStateAfterPoll, hstatus]

/-- Where the agent leaves a polled operation. -/
theorem SamePoll.agent_state
    (h : SamePoll sha256 contracts executor pipeline s job row documentId response) :
    (WindowsOutboundAgent.runOnce sha256 contracts executor (vpsBroker sha256 pipeline.ownInn)
        replay s).2.2.write.stateOf job.operationId =
      some (agentStateAfterPoll row.state executor.parseStatus response) := by
  obtain ⟨token, htoken, hcall⟩ := h.calls
  have hdocument : job.documentId = some documentId := by
    rw [h.queued]
    rfl
  obtain ⟨jobs, hdelivered⟩ : ∃ jobs, (WindowsOutboundAgent.runOnce sha256 contracts executor
        (vpsBroker sha256 pipeline.ownInn) replay s).2.2 =
      ((vpsBroker sha256 pipeline.ownInn).submitResult sha256
        (WindowsOutboundAgent.resultOf job (executor.poll sha256 job))
        { s with jobs := jobs }).2 := by
    rw [← @SamePoll.executed sha256 contracts executor replay pipeline s job row documentId response h]
    exact runOnce_of_fetched h.fetched
  rw [hdelivered, poll, htoken]
  simp only [bind, Except.bind, hdocument, Option.getD_some, hcall]
  cases response with
  | error exc => exact stateOf_submitResult_of_pollException h.stored
  | ok answer =>
    simp only [agentStateAfterPoll]
    by_cases hok : answer.statusCode = 200
    · cases hparse : executor.parseStatus answer with
      | error exc =>
        simp only [hok, ne_eq, not_true_eq_false, if_false]
        exact stateOf_submitResult_of_pollException h.stored
      | ok status =>
        simp only [hok, ne_eq, not_true_eq_false, if_false]
        refine Eq.trans (stateOf_submitResult_of_poll h.stored ?_ ?_) ?_
        · rfl
        · rfl
        · cases status <;> rfl
    · simp only [ne_eq, hok, not_false_eq_true, if_true]
      refine Eq.trans (stateOf_submitResult_of_poll h.stored ?_ ?_) ?_
      · rfl
      · rfl
      · rfl

end Poll

/-- For every outcome of a create call and of a poll call, the agent leaves the operation in the
state in which the pipeline leaves it, and an ambiguous creation in manual review, exactly when
the outcome is one the drivers agree on. -/
theorem agent_agrees_with_pipeline_iff (sha256 : List UInt8 → String) (contracts : PayloadContracts)
    (executor : WindowsAgentExecutor) (replay : ReplayStore) (pipeline : WritePipeline) (s : Vps)
    (job : AgentJob) (response : Except PyError HttpResponse) :
    (∀ signature metadata,
        SameCreate sha256 contracts executor replay pipeline s job signature metadata response →
        (((WindowsOutboundAgent.runOnce sha256 contracts executor
              (vpsBroker sha256 pipeline.ownInn) replay s).2.2.write.stateOf job.operationId =
            (pipeline.signAndSubmit sha256 s.write
              (signerResponse job signature metadata)).stateOf job.operationId ∧
          (AmbiguousCreate executor.parseDocumentId response →
            (WindowsOutboundAgent.runOnce sha256 contracts executor
              (vpsBroker sha256 pipeline.ownInn) replay s).2.2.write.stateOf job.operationId =
            some .manualReview)) ↔
          CreateAgrees s.write job.operationId executor.parseDocumentId response)) ∧
      ∀ row documentId,
        SamePoll sha256 contracts executor pipeline s job row documentId response →
        ((WindowsOutboundAgent.runOnce sha256 contracts executor
              (vpsBroker sha256 pipeline.ownInn) replay s).2.2.write.stateOf job.operationId =
            (pipeline.pollOnce sha256 s.write job.operationId).2.stateOf job.operationId ↔
          PollAgrees row.state executor.parseStatus response) := by
  refine ⟨fun signature metadata h => ?_, fun row documentId h => ?_⟩
  · rw [h.agent_state, h.pipeline_state, Option.some_inj, agentState_eq_iff]
    refine ⟨fun hagree => hagree.1, fun hagree => ⟨hagree, fun hambiguous => ?_⟩⟩
    have heq := (@agentState_eq_iff sha256 _ _ _ _).mpr hagree
    rw [heq, stateAfterCreate_of_ambiguous hambiguous]
  · rw [h.agent_state, h.pipeline_state, Option.some_inj, agentStateAfterPoll_eq_iff]

/-! ### The sample operation under both drivers -/

/-- The operation of `sampleRequest`, prepared and not yet signed. -/
def preparedStore : WriteStore :=
  Transition.exec (step Sha256.hexdigest) .empty (sampleCalls.take 1)

/-- What the signer of the sample operation is asked to sign. -/
def sampleSigningRequest : SigningRequest where
  operationId := sampleOperationId
  documentType := "LK_RECEIPT"
  pg := "lp"
  expectedInn := "7700000000"
  documentSha256 := sampleRequest.document.sha256
  productDocumentBase64 := "e30="

/-- The stores with a job as the only one. -/
def vpsWith (write : WriteStore) (job : AgentJob) : Vps where
  write := write
  jobs := ⟨[⟨job, "", .pending, none, "2024-01-01T00:00:00.000000+00:00"⟩], by simp⟩

/-- An executor and a pipeline whose transports give the same answer. -/
def sampleDrivers (response : Except PyError HttpResponse) : WindowsAgentExecutor × WritePipeline :=
  ({ sampleExecutor true with
      signDocumentBytes := fun _ => .ok ("c2ln", { certificateInn := some "7700000000" })
      createDocument := fun _ _ _ _ => response
      pollDocument := fun _ _ => response },
    { ownInn := "7700000000"
      trueApiWrite := true
      writer := some ⟨"https://true-api", "Bearer token", fun _ _ _ => response,
        fun _ => .ok (some "doc-1")⟩
      poller := some ⟨"https://true-api", "Bearer token", fun _ _ => response,
        fun _ => .ok (some "CHECKED_OK")⟩ })

/-- The write job of the sample operation. -/
def sampleWriteJob : AgentJob := writeJob Sha256.hexdigest .lkReceipt sampleSigningRequest

/-- The poll job of the sample operation. -/
def samplePollJob : AgentJob := pollJob Sha256.hexdigest "7700000000" sampleOperationId "doc-1"

/-- The certificate of the sample signature. -/
def sampleCertificate : CertificateMetadata := { certificateInn := some "7700000000" }

theorem sameCreate_sample (response : Except PyError HttpResponse) :
    SameCreate Sha256.hexdigest openContracts (sampleDrivers response).1 Table.empty
      (sampleDrivers response).2
      (vpsWith preparedStore sampleWriteJob) sampleWriteJob "c2ln" sampleCertificate response where
  queued := ⟨sampleSigningRequest, .lkReceipt, by decide +kernel, rfl, rfl⟩
  fetched := by
    simp [VpsAgentJobStore.fetchOne, VpsAgentJobStore.nextRow, vpsWith]
  checked := by
    have hvalid : sampleWriteJob.validate
        Sha256.hexdigest openContracts = .ok () := by
      decide +kernel
    rw [checkJob, hvalid]
    rfl
  productionWrite := rfl
  firstAttempt := rfl
  signs := ⟨rfl, ⟨[115, 105, 103], by decide, by decide⟩, rfl⟩
  calls := ⟨"token", rfl, rfl⟩
  trueApiWrite := rfl
  ownInn := rfl
  posts := ⟨_, rfl, rfl, fun _ _ => rfl⟩

/-- The operation of `sampleRequest`, submitted. -/
def submittedStore : WriteStore :=
  Transition.exec (step Sha256.hexdigest) .empty (sampleCalls.take 4)

/-- The row of the operation in `submittedStore`. -/
def submittedRow : OperationRow := { sampleRow with state := .submitted }

theorem samePoll_sample (response : Except PyError HttpResponse) :
    SamePoll Sha256.hexdigest openContracts (sampleDrivers response).1
      (sampleDrivers response).2
      (vpsWith submittedStore samplePollJob) samplePollJob submittedRow "doc-1" response where
  stored := by decide +kernel
  submitted := rfl
  queued := rfl
  fetched := by
    simp [VpsAgentJobStore.fetchOne, VpsAgentJobStore.nextRow, vpsWith]
  checked := by
    have hvalid : samplePollJob.validate
        Sha256.hexdigest openContracts = .ok () := by
      decide +kernel
    rw [checkJob, hvalid]
    rfl
  calls := ⟨"token", rfl, rfl⟩
  polls := ⟨_, rfl, rfl, rfl⟩

theorem agent_agrees_with_pipeline_iff_sample :
    (WindowsOutboundAgent.runOnce Sha256.hexdigest openContracts
        (sampleDrivers (.ok ⟨200, [], none⟩)).1
        (vpsBroker Sha256.hexdigest (sampleDrivers (.ok ⟨200, [], none⟩)).2.ownInn) Table.empty
        (vpsWith preparedStore sampleWriteJob)).2.2.write.stateOf sampleWriteJob.operationId =
      ((sampleDrivers (.ok ⟨200, [], none⟩)).2.signAndSubmit Sha256.hexdigest
        (vpsWith preparedStore sampleWriteJob).write
        (signerResponse sampleWriteJob "c2ln" sampleCertificate)).stateOf
          sampleWriteJob.operationId ∧
    (WindowsOutboundAgent.runOnce Sha256.hexdigest openContracts
        (sampleDrivers (.ok ⟨200, [], none⟩)).1
        (vpsBroker Sha256.hexdigest (sampleDrivers (.ok ⟨200, [], none⟩)).2.ownInn) Table.empty
        (vpsWith submittedStore samplePollJob)).2.2.write.stateOf samplePollJob.operationId =
      ((sampleDrivers (.ok ⟨200, [], none⟩)).2.pollOnce Sha256.hexdigest
        (vpsWith submittedStore samplePollJob).write samplePollJob.operationId).2.stateOf
          samplePollJob.operationId := by
  have hsafe : safeDocumentId (some "doc-1") = .ok (some "doc-1") := by decide
  constructor
  · have hcreate := (agent_agrees_with_pipeline_iff Sha256.hexdigest openContracts _ _ _ _ _ _).1 _ _
      (sameCreate_sample (.ok ⟨200, [], none⟩))
    exact (hcreate.mpr fun _ => ⟨some "doc-1", rfl, fun _ => ⟨some "doc-1", hsafe, rfl⟩⟩).1
  · have hpoll := (agent_agrees_with_pipeline_iff Sha256.hexdigest openContracts _ Table.empty _ _ _
      _).2 _ _ (samePoll_sample (.ok ⟨200, [], none⟩))
    have hclass : classifyPollStatus (some (Text.strip "CHECKED_OK")) =
        classifyPollStatus (some "CHECKED_OK") := by decide
    exact hpoll.mpr fun _ => hclass

/-- When the transport of the create call raises, the agent leaves an operation that may have
been created in a state in which it looks unsent. -/
theorem agent_disagrees_with_pipeline :
    SameCreate Sha256.hexdigest openContracts (sampleDrivers (.error ⟨.other "TimeoutError", ""⟩)).1
        Table.empty (sampleDrivers (.error ⟨.other "TimeoutError", ""⟩)).2
        (vpsWith preparedStore sampleWriteJob) sampleWriteJob "c2ln" sampleCertificate
        (.error ⟨.other "TimeoutError", ""⟩) ∧
      (WindowsOutboundAgent.runOnce Sha256.hexdigest openContracts
          (sampleDrivers (.error ⟨.other "TimeoutError", ""⟩)).1
          (vpsBroker Sha256.hexdigest
            (sampleDrivers (.error ⟨.other "TimeoutError", ""⟩)).2.ownInn) Table.empty
          (vpsWith preparedStore sampleWriteJob)).2.2.write.stateOf sampleWriteJob.operationId =
        some .awaitingSignature ∧
      ((sampleDrivers (.error ⟨.other "TimeoutError", ""⟩)).2.signAndSubmit Sha256.hexdigest
          (vpsWith preparedStore sampleWriteJob).write
          (signerResponse sampleWriteJob "c2ln" sampleCertificate)).stateOf
            sampleWriteJob.operationId =
        some .manualReview := by
  have h := sameCreate_sample (.error ⟨.other "TimeoutError", ""⟩)
  exact ⟨h, h.agent_state, h.pipeline_state⟩

end Wbcz
