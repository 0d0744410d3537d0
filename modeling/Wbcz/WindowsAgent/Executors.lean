import Wbcz.Lib.Base64
import Wbcz.WindowsAgent.Agreement

/-!
# The two executors

`DurableWindowsAgentExecutor` of `windows_agent_runtime.py` repeats the write of
`WindowsAgentExecutor` of `windows_agent.py` over a ledger that outlives the process. The base
executor remembers its writes in a dictionary. Both talk to the same signer, session and
transport; the session lives in memory and a status of 401 is meant to end it.

`json.loads` is a parameter: the value of a body, where the body is JSON text.
-/

namespace Wbcz

/-! ### The session -/

/-- `AuthSession`. -/
structure AuthSession where
  uuidToken : String
  expireDate : ℤ
  deriving DecidableEq, Repr

/-- What the session manager of a process works with: the clock, the margin of a refresh and the
authentication. -/
structure AgentSessionManager where
  now : ℤ
  refreshMargin : ℤ
  authenticate : Except PyError AuthSession

/-- `observe_http_status`. -/
def observeHttpStatus (status : ℤ) (session : Option AuthSession) : Option AuthSession :=
  if status = 401 then none else session

namespace AgentSessionManager

variable (manager : AgentSessionManager)

/-- A session that is not over yet. -/
def valid (session : Option AuthSession) : Option AuthSession :=
  session.filter fun auth => manager.now + manager.refreshMargin < auth.expireDate

/-- `bearer_token`. -/
def bearerToken : Tx PyError (Option AuthSession) String := fun session =>
  match manager.valid session with
  | some auth => (.ok auth.uuidToken, some auth)
  | none =>
    match manager.authenticate with
    | .ok auth => (.ok auth.uuidToken, some auth)
    | .error e => (.error e, none)

end AgentSessionManager

/-! ### The write of both -/

/-- The value of the header whose name is `content-type` in lower case. -/
def capturedContentType (response : HttpResponse) : Option String :=
  ((response.headers.getD []).find? fun header =>
    Text.caseFoldAscii header.1 = "content-type").map Prod.snd

/-- `asdict(capture_create_response(...))`. -/
def captureCreateResponse (sha256 : List UInt8 → String) (loads : List UInt8 → Option Json)
    (response : HttpResponse) : Json :=
  .obj [("http_status", .int response.statusCode),
    ("content_type", .ofText? (capturedContentType response)),
    ("body_sha256", .str (sha256 response.body)),
    ("raw_body_base64", .str (String.ofList (Base64.encode response.body))),
    ("parsed_json", if response.body = [] then .null else (loads response.body).getD .null)]

namespace WindowsAgentExecutor

variable (sha256 : List UInt8 → String) (contracts : PayloadContracts)
  (loads : List UInt8 → Option Json) (manager : AgentSessionManager)
  (executor : WindowsAgentExecutor)

/-- The token and the create call. -/
def createDocumentWith (job : AgentJob) (signature : String) :
    Tx PyError (Option AuthSession) HttpResponse := fun session =>
  match manager.bearerToken session with
  | (.error e, session) => (.error e, session)
  | (.ok token, session) =>
    (executor.createDocument (job.documentType.getD "") (job.productDocumentBase64.getD "")
      signature token, session)

/-- The result that the base executor makes of an answer: with the capture of a response that
says that the document was created. -/
def captureResult (job : AgentJob) (signature : String) (metadata : CertificateMetadata)
    (response : HttpResponse) : Except PyError AgentResult := do
  let result ← executor.writeResult sha256 job signature metadata response
  if response.statusCode = 200 ∨ response.statusCode = 201 then
    .ok { result with createResponse := captureCreateResponse sha256 loads response }
  else .ok result

/-! ### The base executor -/

/-- The session and `_write_replay`. -/
structure BaseState where
  session : Option AuthSession
  writeReplay : String → Option (String × AgentResult)

/-- `WindowsAgentExecutor._write`. -/
def baseWrite (job : AgentJob) (s : BaseState) : Except PyError AgentResult × BaseState :=
  if ¬ executor.productionWrite then
    (.error ⟨.agentProductionWriteDisabled, "production_write=false"⟩, s)
  else
    let documentSha := job.documentSha256.getD ""
    match s.writeReplay job.operationId with
    | some (oldHash, result) =>
      if oldHash ≠ documentSha then
        (.error ⟨.agentReplayConflict, "operation replay with different payload"⟩, s)
      else (.ok result, s)
    | none =>
      match executor.signDocumentBytes job with
      | .error e => (.error e, s)
      | .ok (signature, metadata) =>
        match executor.createDocumentWith manager job signature s.session with
        | (.error e, session) => (.error e, { s with session })
        | (.ok response, session) =>
          let session := observeHttpStatus response.statusCode session
          match executor.captureResult sha256 loads job signature metadata response with
          | .error e => (.error e, { s with session })
          | .ok result =>
            (.ok result, ⟨session, fun id =>
              if id = job.operationId then some (documentSha, result) else s.writeReplay id⟩)

/-- `WindowsAgentExecutor.execute` on a write job. -/
def baseExecuteWrite (job : AgentJob) (s : BaseState) : Except PyError AgentResult × BaseState :=
  match executor.checkJob sha256 contracts job with
  | .error e => (.error e, s)
  | .ok () => executor.baseWrite sha256 loads manager job s

/-! ### The durable executor -/

/-- The session and the ledger. -/
structure DurableState where
  session : Option AuthSession
  store : ReplayStore

/-- `DurableWindowsAgentExecutor._write`. -/
def durableWrite (job : AgentJob) (s : DurableState) :
    Except PyError AgentResult × DurableState :=
  if ¬ executor.productionWrite then
    (.error ⟨.agentProductionWriteDisabled, "production_write=false"⟩, s)
  else
    let documentSha := job.documentSha256.getD ""
    match s.store.inspect job.operationId documentSha with
    | .error e => (.error e, s)
    | .ok (some previous) => (.ok previous, s)
    | .ok none =>
      match executor.signDocumentBytes job with
      | .error e => (.error e, s)
      | .ok (signature, metadata) =>
        match s.store.claim job.operationId documentSha with
        | .error e => (.error e, s)
        | .ok (some previous, store) => (.ok previous, { s with store })
        | .ok (none, store) =>
          match executor.createDocumentWith manager job signature s.session with
          | (.error e, session) => (.error e, ⟨session, store⟩)
          | (.ok response, session) =>
            match executor.writeResult sha256 job signature metadata response with
            | .error e => (.error e, ⟨session, store⟩)
            | .ok result =>
              match store.complete sha256 job.operationId documentSha result with
              | .error e => (.error e, ⟨session, store⟩)
              | .ok completed => (.ok result, ⟨session, completed⟩)

/-- `DurableWindowsAgentExecutor.execute` on a write job. -/
def durableExecuteWrite (job : AgentJob) (s : DurableState) :
    Except PyError AgentResult × DurableState :=
  match executor.checkJob sha256 contracts job with
  | .error e => (.error e, s)
  | .ok () => executor.durableWrite sha256 manager job s

/-- The answer to the create call of a job, where the job gets as far as that. -/
def createAnswer (job : AgentJob) (session : Option AuthSession) : Option HttpResponse :=
  match executor.checkJob sha256 contracts job, executor.productionWrite,
    executor.signDocumentBytes job with
  | .ok (), true, .ok (signature, _) =>
    (executor.createDocumentWith manager job signature session).1.toOption
  | _, _, _ => none

end WindowsAgentExecutor

section Executors

open WindowsAgentExecutor

variable {sha256 : List UInt8 → String} {contracts : PayloadContracts}
  {loads : List UInt8 → Option Json} {manager : AgentSessionManager}
  {executor : WindowsAgentExecutor} {job : AgentJob}

/-! ### Where the two agree -/

/-- Two writes come to the same result or exception, and leave the same session. -/
def SameOutcome (base : Except PyError AgentResult × BaseState)
    (durable : Except PyError AgentResult × DurableState) : Prop :=
  base.1 = durable.1 ∧ base.2.session = durable.2.session

/-- An answer that does not end the session, and that does not say that a document was created
unless its identifier cannot be read without an exception. -/
def LeavesNoTrace (executor : WindowsAgentExecutor) (response : HttpResponse) : Prop :=
  response.statusCode ≠ 401 ∧
    (response.statusCode = 200 ∨ response.statusCode = 201 →
      ∃ e, executor.parseDocumentId response = .error e)

/-- A token comes with a session. -/
theorem bearerToken_session {session session' : Option AuthSession} {token : String}
    (h : manager.bearerToken session = (.ok token, session')) : session' ≠ none := by
  unfold AgentSessionManager.bearerToken at h
  cases hvalid : manager.valid session with
  | some auth =>
    rw [hvalid] at h
    obtain ⟨-, rfl⟩ := Prod.mk.inj h
    exact Option.some_ne_none auth
  | none =>
    rw [hvalid] at h
    cases hauth : manager.authenticate with
    | ok auth =>
      rw [hauth] at h
      obtain ⟨-, rfl⟩ := Prod.mk.inj h
      exact Option.some_ne_none auth
    | error e =>
      rw [hauth] at h
      cases (Prod.mk.inj h).1

theorem createDocumentWith_session {signature : String} {session session' : Option AuthSession}
    {response : HttpResponse}
    (h : executor.createDocumentWith manager job signature session = (.ok response, session')) :
    session' ≠ none := by
  unfold createDocumentWith at h
  rcases hbearer : manager.bearerToken session with ⟨token, session₁⟩
  rw [hbearer] at h
  cases token with
  | error e => cases (Prod.mk.inj h).1
  | ok token =>
    obtain ⟨-, rfl⟩ := Prod.mk.inj h
    exact bearerToken_session hbearer

/-- A status ends a session when it is 401. -/
theorem observeHttpStatus_eq_iff {status : ℤ} {session : Option AuthSession}
    (h : session ≠ none) : observeHttpStatus status session = session ↔ status ≠ 401 := by
  unfold observeHttpStatus
  by_cases hstatus : status = 401
  · simpa [hstatus] using fun hnone => h hnone.symm
  · simp [hstatus]

/-- What the result of an answer depends on. -/
theorem writeResult_cases (signature : String) (metadata : CertificateMetadata)
    (response : HttpResponse) :
    (∃ e, (response.statusCode = 200 ∨ response.statusCode = 201) ∧
      executor.parseDocumentId response = .error e ∧
      executor.writeResult sha256 job signature metadata response = .error e) ∨
    ∃ result, ((response.statusCode = 200 ∨ response.statusCode = 201) →
        ∃ id, executor.parseDocumentId response = .ok id) ∧
      executor.writeResult sha256 job signature metadata response = .ok result ∧
      result.createResponse = .null := by
  unfold writeResult
  by_cases hcreated : response.statusCode = 200 ∨ response.statusCode = 201
  · rw [if_pos hcreated]
    cases hparse : executor.parseDocumentId response with
    | error e => exact .inl ⟨e, hcreated, rfl, rfl⟩
    | ok id =>
      right
      simp only [bind, Except.bind]
      split_ifs
      · exact ⟨_, fun _ => ⟨id, rfl⟩, rfl, rfl⟩
      · exact ⟨_, fun _ => ⟨id, rfl⟩, rfl, rfl⟩
  · rw [if_neg hcreated]
    exact .inr ⟨_, fun h => absurd h hcreated, rfl, rfl⟩

/-- The capture makes a difference for the answers that say that a document was created. -/
theorem captureResult_eq_iff (signature : String) (metadata : CertificateMetadata)
    (response : HttpResponse) :
    executor.captureResult sha256 loads job signature metadata response =
        executor.writeResult sha256 job signature metadata response ↔
      (response.statusCode = 200 ∨ response.statusCode = 201 →
        ∃ e, executor.parseDocumentId response = .error e) := by
  unfold captureResult
  rcases @writeResult_cases sha256 executor job signature metadata response with
    ⟨e, -, hparse, hresult⟩ | ⟨result, hparse, hresult, hnull⟩
  · rw [hresult]
    exact ⟨fun _ _ => ⟨e, hparse⟩, fun _ => rfl⟩
  · rw [hresult]
    by_cases hcreated : response.statusCode = 200 ∨ response.statusCode = 201
    · obtain ⟨id, hid⟩ := hparse hcreated
      simp only [bind, Except.bind, if_pos hcreated, hid]
      constructor
      · intro h
        have hsame := congrArg AgentResult.createResponse (Except.ok.inj h)
        rw [hnull] at hsame
        cases hsame
      · intro h
        obtain ⟨e, he⟩ := h hcreated
        cases he
    · simp only [bind, Except.bind, if_neg hcreated]
      exact ⟨fun _ h => absurd h hcreated, fun _ => trivial⟩

/-- The base executor on a job that it did not write before. -/
theorem base_of_firstAttempt {s : BaseState} {signature : String} {metadata : CertificateMetadata}
    (hchecked : executor.checkJob sha256 contracts job = .ok ())
    (hwrite : executor.productionWrite = true) (hfirst : s.writeReplay job.operationId = none)
    (hsign : executor.signDocumentBytes job = .ok (signature, metadata)) :
    let answer := executor.createDocumentWith manager job signature s.session
    let base := executor.baseExecuteWrite sha256 contracts loads manager job s
    base.1 = answer.1.bind (executor.captureResult sha256 loads job signature metadata) ∧
      base.2.session = match answer.1 with
        | .ok response => observeHttpStatus response.statusCode answer.2
        | .error _ => answer.2 := by
  simp only [baseExecuteWrite, hchecked, baseWrite, hwrite, not_true_eq_false, if_false, hfirst,
    hsign]
  rcases executor.createDocumentWith manager job signature s.session with ⟨answer, session⟩
  cases answer with
  | error e => exact ⟨rfl, rfl⟩
  | ok response =>
    simp only [Except.bind]
    cases executor.captureResult sha256 loads job signature metadata response with
    | error e => exact ⟨rfl, rfl⟩
    | ok result => exact ⟨rfl, rfl⟩

/-- The durable executor on a job that its ledger does not have. -/
theorem durable_of_firstAttempt {s : DurableState} {signature : String}
    {metadata : CertificateMetadata} (hfamily : job.jobType.family = .write)
    (hchecked : executor.checkJob sha256 contracts job = .ok ())
    (hwrite : executor.productionWrite = true) (hfirst : s.store.find? job.operationId = none)
    (hsign : executor.signDocumentBytes job = .ok (signature, metadata)) :
    let answer := executor.createDocumentWith manager job signature s.session
    let durable := executor.durableExecuteWrite sha256 contracts manager job s
    durable.1 = answer.1.bind (executor.writeResult sha256 job signature metadata) ∧
      durable.2.session = answer.2 := by
  obtain ⟨hid, hsha, _⟩ := validate_write hfamily (checkJob_eq_ok hchecked).1
  have hpresent : job.documentSha256.getD "" ≠ "" := by
    cases hdoc : job.documentSha256 with
    | none => simp [hdoc, emptyText] at hsha
    | some sha => simpa [hdoc, emptyText] using hsha
  obtain ⟨claimed, hclaim, hcomplete⟩ := @claim_of_firstAttempt sha256 _ _ _ hid hpresent hfirst
  have hinspect : s.store.inspect job.operationId (job.documentSha256.getD "") = .ok none := by
    rw [ReplayStore.inspect, hfirst]
  simp only [durableExecuteWrite, hchecked, durableWrite, hwrite, not_true_eq_false, if_false,
    hinspect, hsign, hclaim]
  rcases executor.createDocumentWith manager job signature s.session with ⟨answer, session⟩
  cases answer with
  | error e => exact ⟨rfl, rfl⟩
  | ok response =>
    simp only [Except.bind]
    cases executor.writeResult sha256 job signature metadata response with
    | error e => exact ⟨rfl, rfl⟩
    | ok result =>
      obtain ⟨completed, hcompleted⟩ := hcomplete result
      simp only [hcompleted, and_self]

/-- On a write job that neither has written before, the two executors agree exactly where the
create call is not answered with 401, and not with 200 or 201 unless reading the identifier of
the document raises. -/
theorem executors_agree_iff (hfamily : job.jobType.family = .write) {store : ReplayStore}
    {writeReplay : String → Option (String × AgentResult)} {session : Option AuthSession}
    (hstore : store.find? job.operationId = none)
    (hreplay : writeReplay job.operationId = none) :
    SameOutcome
        (executor.baseExecuteWrite sha256 contracts loads manager job ⟨session, writeReplay⟩)
        (executor.durableExecuteWrite sha256 contracts manager job ⟨session, store⟩) ↔
      ∀ response, executor.createAnswer sha256 contracts manager job session = some response →
        LeavesNoTrace executor response := by
  cases hchecked : executor.checkJob sha256 contracts job with
  | error e => simp [SameOutcome, baseExecuteWrite, durableExecuteWrite, createAnswer, hchecked]
  | ok _ =>
    cases hwrite : executor.productionWrite with
    | false =>
      simp [SameOutcome, baseExecuteWrite, durableExecuteWrite, createAnswer, hchecked, hwrite,
        baseWrite, durableWrite]
    | true =>
      cases hsign : executor.signDocumentBytes job with
      | error e =>
        have hinspect : store.inspect job.operationId (job.documentSha256.getD "") = .ok none := by
          rw [ReplayStore.inspect, hstore]
        simp [SameOutcome, baseExecuteWrite, durableExecuteWrite, createAnswer, hchecked, hwrite,
          baseWrite, durableWrite, hsign, hreplay, hinspect]
      | ok signed =>
        obtain ⟨signature, metadata⟩ := signed
        obtain ⟨hbase, hbaseSession⟩ := @base_of_firstAttempt sha256 contracts loads manager
          executor job ⟨session, writeReplay⟩ signature metadata hchecked hwrite hreplay hsign
        obtain ⟨hdurable, hdurableSession⟩ := @durable_of_firstAttempt sha256 contracts manager
          executor job ⟨session, store⟩ signature metadata hfamily hchecked hwrite hstore hsign
        have hanswer : executor.createAnswer sha256 contracts manager job session =
            (executor.createDocumentWith manager job signature session).1.toOption := by
          simp only [createAnswer, hchecked, hwrite, hsign]
        rw [SameOutcome, hbase, hdurable, hbaseSession, hdurableSession, hanswer]
        rcases hcreate : executor.createDocumentWith manager job signature session with
          ⟨answer, session'⟩
        cases answer with
        | error e => simp [Except.bind, Except.toOption]
        | ok response =>
          have hsome := createDocumentWith_session hcreate
          simp only [Except.bind, Except.toOption, Option.some.injEq, forall_eq']
          rw [captureResult_eq_iff, observeHttpStatus_eq_iff hsome, LeavesNoTrace]
          exact And.comm

end Executors

/-! ### Answers on which they differ -/

/-- A session manager that can authenticate. -/
def sampleManager : AgentSessionManager := ⟨0, 120, .ok ⟨"token", 3600⟩⟩

/-- An executor whose create calls are answered with the given status. -/
def answeringExecutor (status : ℤ) : WindowsAgentExecutor :=
  { sampleExecutor true with createDocument := fun _ _ _ _ => .ok ⟨status, [], none⟩ }

theorem checkJob_answering (status : ℤ) :
    (answeringExecutor status).checkJob Sha256.hexdigest openContracts sampleJob = .ok () :=
  checkJob_sample true

theorem createAnswer_answering (status : ℤ) :
    (answeringExecutor status).createAnswer Sha256.hexdigest openContracts sampleManager sampleJob
      none = some ⟨status, [], none⟩ := by
  rw [WindowsAgentExecutor.createAnswer, checkJob_answering]
  rfl

theorem executors_agree_iff_sample :
    SameOutcome
      ((answeringExecutor 503).baseExecuteWrite Sha256.hexdigest openContracts (fun _ => none)
        sampleManager sampleJob ⟨none, fun _ => none⟩)
      ((answeringExecutor 503).durableExecuteWrite Sha256.hexdigest openContracts sampleManager
        sampleJob ⟨none, Table.empty⟩) := by
  rw [@executors_agree_iff Sha256.hexdigest openContracts (fun _ => none) sampleManager
    (answeringExecutor 503) sampleJob rfl Table.empty (fun _ => none) none rfl rfl]
  intro response hresponse
  rw [createAnswer_answering] at hresponse
  obtain rfl := Option.some.inj hresponse
  refine ⟨by decide, fun hcreated => ?_⟩
  rcases hcreated with hcreated | hcreated <;> exact absurd hcreated (by decide)

/-- After 401 the durable executor keeps the session that the base executor ends, and of a
response with 201 it keeps no evidence. -/
theorem executors_differ :
    (let base := (answeringExecutor 401).baseExecuteWrite Sha256.hexdigest openContracts
        (fun _ => none) sampleManager sampleJob ⟨none, fun _ => none⟩
      let durable := (answeringExecutor 401).durableExecuteWrite Sha256.hexdigest openContracts
        sampleManager sampleJob ⟨none, Table.empty⟩
      base.2.session = none ∧ durable.2.session = some ⟨"token", 3600⟩) ∧
    (let base := (answeringExecutor 201).baseExecuteWrite Sha256.hexdigest openContracts
        (fun _ => none) sampleManager sampleJob ⟨none, fun _ => none⟩
      let durable := (answeringExecutor 201).durableExecuteWrite Sha256.hexdigest openContracts
        sampleManager sampleJob ⟨none, Table.empty⟩
      base.1 ≠ durable.1) := by
  have hbase (status : ℤ) := @base_of_firstAttempt Sha256.hexdigest
    openContracts (fun _ => none) sampleManager (answeringExecutor status) sampleJob
    ⟨none, fun _ => none⟩ "c2ln" {} (checkJob_answering status) rfl rfl rfl
  have hdurable (status : ℤ) := @durable_of_firstAttempt Sha256.hexdigest
    openContracts sampleManager (answeringExecutor status) sampleJob
    ⟨none, Table.empty⟩ "c2ln" {} rfl (checkJob_answering status) rfl rfl rfl
  refine ⟨⟨(hbase 401).2.trans rfl, (hdurable 401).2.trans rfl⟩, fun hsame => ?_⟩
  have hresult : (answeringExecutor 201).captureResult Sha256.hexdigest (fun _ => none) sampleJob
      "c2ln" {} ⟨201, [], none⟩ =
        (answeringExecutor 201).writeResult Sha256.hexdigest sampleJob "c2ln" {} ⟨201, [], none⟩ :=
    (hbase 201).1.symm.trans (hsame.trans (hdurable 201).1)
  obtain ⟨e, he⟩ := captureResult_eq_iff _ _ _ |>.mp hresult (.inr rfl)
  cases he

end Wbcz
