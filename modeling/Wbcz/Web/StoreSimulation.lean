import Wbcz.Web.WriteStore
import Wbcz.Lib.Sha256
import Wbcz.WritePipeline.Lifecycle
import Wbcz.WritePipeline.Submission
import Mathlib.Data.List.Find
import Mathlib.Logic.Equiv.Basic

/-!
# The two write-operation stores in simulation

The PostgreSQL store names an operation differently and guards more than the SQLite one.
Up to that renaming, and as long as no call meets one of its extra guards, the two
accept and reject the same calls and agree on every operation.
-/

namespace Wbcz

/-- A call with its operation ids renamed. -/
def StoreCall.rename (f : String → String) : StoreCall → StoreCall
  | .prepare request now => .prepare request now
  | .acceptSignature response ownInn =>
    .acceptSignature { response with operationId := f response.operationId } ownInn
  | .reserveSubmit operationId => .reserveSubmit (f operationId)
  | .completeSubmit operationId result => .completeSubmit (f operationId) result
  | .markSubmitAmbiguous operationId errorType => .markSubmitAmbiguous (f operationId) errorType
  | .markManualReview operationId reason => .markManualReview (f operationId) reason
  | .markError operationId errorType => .markError (f operationId) errorType
  | .auditNote operationId action details => .auditNote (f operationId) action details
  | .applyPollStatus operationId status httpStatus bodySha256 =>
    .applyPollStatus (f operationId) status httpStatus bodySha256
  | .reconciliationResult operationId confirmed details =>
    .reconciliationResult (f operationId) confirmed details

/-- What a row tells about the progress of its operation. -/
structure OperationView where
  state : WriteState
  documentId : Option String
  signatureBase64 : Option String
  submitCategory : Option CreateCategory
  submitHttpStatus : Option Int
  submitBodySha256 : Option String
  deriving DecidableEq, Repr

def OperationRow.view (row : OperationRow) : OperationView where
  state := row.state
  documentId := row.documentId
  signatureBase64 := row.signatureBase64
  submitCategory := row.submitCategory
  submitHttpStatus := row.submitHttpStatus
  submitBodySha256 := row.submitBodySha256

namespace Web

open WriteStore SqlAlchemyWriteOperationStore Transition

/-- The request that the columns of a row answer for, without its document's bytes. -/
def requestOf (row : OperationRow) : PrepareRequest where
  eventId := row.eventId
  decision := row.decision
  documentType := row.documentType
  operationReason := row.operationReason
  pg := row.pg
  expectedInn := row.expectedInn
  document := ⟨[], row.documentSha256, row.productDocumentBase64⟩

variable (session : Session) (sha256 : List UInt8 → String) (rename : String → String)
  (requests : PrepareRequest → Prop)

/-- The row of the PostgreSQL store for a row of the SQLite store. -/
def mirrorRow (row : OperationRow) : WriteOperationRecord where
  toOperationRow :=
    { row with
      operationId := rename row.operationId
      businessFingerprint := session.businessFingerprint sha256 (requestOf row) }
  organisationId := session.tenant.map TenantContext.organisationId
  participantId := session.tenant.map TenantContext.participantId

/-- An entry of the PostgreSQL audit trail as the SQLite store writes it. -/
def WriteAuditRecord.toAuditRow (entry : WriteAuditRecord) : AuditRow :=
  ⟨entry.operationId, entry.action, entry.fromState, entry.toState,
    Json.canonical (.obj entry.detailsJson)⟩

/-- The rows are mirrored one by one, and so is the audit trail. -/
structure Mirrors (s : WriteStore) (p : SqlAlchemyWriteOperationStore) : Prop where
  operations : Table.Image (mirrorRow session sha256 rename) s.operations p.operations
  audit : p.audit.map WriteAuditRecord.toAuditRow =
    s.audit.map fun entry => { entry with operationId := rename entry.operationId }

/-- Every row was prepared for one of the requests. -/
def Requested (s : WriteStore) : Prop :=
  ∀ row ∈ s.operations, ∃ request now, requests request ∧
    row.identity = request.identity sha256 now

/-- The ids of the two stores correspond, and no two of the business operations requested
have the same id. -/
structure Corresponds : Prop where
  injective : Function.Injective rename
  rename_operationId : ∀ request, requests request →
    rename (operationIdOf (businessFingerprint sha256 request)) =
      operationIdOf (session.businessFingerprint sha256 request)
  distinct : ∀ request request', requests request → requests request' →
    operationIdOf (businessFingerprint sha256 request) =
      operationIdOf (businessFingerprint sha256 request') →
    businessSource request = businessSource request'

/-- The event of the immutable history that a call leads to. -/
def milestone (p : SqlAlchemyWriteOperationStore) (scope : TenantContext) :
    StoreCall → Option ImmutableEvent
  | .prepare request now =>
    if (p.existing session sha256 request).isSome then none
    else
      let fingerprint := session.businessFingerprint sha256 request
      some (session.intentCreated
        (SqlAlchemyWriteOperationStore.preparedRow session request fingerprint now) scope)
  | .completeSubmit id result =>
    (p.operations.find? id).map fun row =>
      session.remoteResult (SqlAlchemyWriteOperationStore.submitRow result row) scope
  | .reconciliationResult id confirmed details =>
    (p.operations.find? id).map fun row =>
      session.reconciled sha256 row confirmed details scope
  | _ => none

/-- The call meets none of the guards that only one of the stores has. -/
structure Permitted (s : WriteStore) (p : SqlAlchemyWriteOperationStore) (call : StoreCall) :
    Prop where
  implemented : ∀ id errorType, call ≠ .markSubmitAmbiguous id errorType
  noted : ∀ id action details, call = .auditNote id action details →
    (s.operations.find? id).isSome ∧ fitsString 96 action
  participant : ∀ request now, call = .prepare request now → ∀ scope, session.tenant = some scope →
    request.expectedInn = scope.participantInn
  documentId : ∀ id result, call = .completeSubmit id result → session.tenant = none →
    submitTarget result.category = .submitted → s.documentIdTaken id result.documentId = false
  columns : ∀ s', s.step sha256 call = .ok s' →
    ∀ row ∈ s'.operations, (mirrorRow session sha256 rename row).fits
  history : ∀ scope event, session.tenant = some scope →
    milestone session sha256 p scope (call.rename rename) = some event →
    session.append p.history event = .ok ()

variable {session sha256 rename requests} {s s' : WriteStore} {p : SqlAlchemyWriteOperationStore}

/-! ### Rows and requests -/

theorem requestOf_eq {row : OperationRow} {request : PrepareRequest} {now : String}
    (h : row.identity = request.identity sha256 now) :
    row.businessFingerprint = businessFingerprint sha256 request ∧
      row.operationId = operationIdOf (businessFingerprint sha256 request) ∧
      businessSource (requestOf row) = businessSource request := by
  refine ⟨congrArg OperationIdentity.businessFingerprint h,
    congrArg OperationIdentity.operationId h, ?_⟩
  have hevent : row.eventId = request.eventId := congrArg OperationIdentity.eventId h
  have hdecision : row.decision = request.decision := congrArg OperationIdentity.decision h
  have htype : row.documentType = request.documentType :=
    congrArg OperationIdentity.documentType h
  have hreason : row.operationReason = request.operationReason :=
    congrArg OperationIdentity.operationReason h
  have hpg : row.pg = request.pg := congrArg OperationIdentity.pg h
  simp only [businessSource, requestOf, hevent, hdecision, htype, hreason, hpg]

theorem businessFingerprint_of_source {request request' : PrepareRequest}
    (h : businessSource request = businessSource request') :
    businessFingerprint sha256 request = businessFingerprint sha256 request' ∧
      session.businessFingerprint sha256 request = session.businessFingerprint sha256 request' := by
  constructor
  · have hfp : ∀ r, businessFingerprint sha256 r =
        sha256 (Text.utf8 ("wb-fbs-write:v1:" ++ businessSource r)) := fun _ => rfl
    rw [hfp, hfp, h]
  · rw [Session.businessFingerprint, Session.businessFingerprint, h]

/-- A requested row is found by the same requests in both stores. -/
theorem Corresponds.fingerprint_iff (h : Corresponds session sha256 rename requests)
    {row : OperationRow} {request request' : PrepareRequest} {now : String}
    (hrequest : requests request) (hrequest' : requests request')
    (hrow : row.identity = request.identity sha256 now) :
    session.businessFingerprint sha256 (requestOf row) =
        session.businessFingerprint sha256 request' ↔
      row.businessFingerprint = businessFingerprint sha256 request' := by
  obtain ⟨hfingerprint, _, hsource⟩ := requestOf_eq hrow
  rw [hfingerprint, (@businessFingerprint_of_source _ sha256 _ _ hsource).2]
  constructor
  · intro heq
    have hids : operationIdOf (businessFingerprint sha256 request) =
        operationIdOf (businessFingerprint sha256 request') := by
      apply h.injective
      rw [h.rename_operationId _ hrequest, h.rename_operationId _ hrequest', heq]
    have hsame := h.distinct _ _ hrequest hrequest' hids
    exact (@businessFingerprint_of_source session _ _ _ hsame).1
  · intro heq
    have hids : operationIdOf (businessFingerprint sha256 request) =
        operationIdOf (businessFingerprint sha256 request') := by rw [heq]
    exact (businessFingerprint_of_source (h.distinct _ _ hrequest hrequest' hids)).2

/-- An accepted call keeps every row requested. -/
theorem requested_of_effect {call : StoreCall} {ops ops' : Table OperationRow.key}
    (h : ∀ row ∈ ops, ∃ request now, requests request ∧ row.identity = request.identity sha256 now)
    (hprepare : ∀ request now, call = .prepare request now → requests request)
    (heffect : Effect sha256 ops call ops') :
    ∀ row ∈ ops', ∃ request now, requests request ∧ row.identity = request.identity sha256 now := by
  intro row hrow
  cases heffect with
  | inserted _ _ hinsert =>
    rcases (Table.mem_insert hinsert).mp hrow with hold | rfl
    · exact h row hold
    · exact ⟨_, _, hprepare _ _ rfl, rfl⟩
  | signed hfind _ _ | submitted hfind _ _ | moved hfind _ _ =>
    rcases (Table.mem_modify_of_find? hfind).mp hrow with ⟨hold, _⟩ | rfl
    · exact h row hold
    · obtain ⟨request, now, hrequest, hidentity⟩ := h _ (Table.mem_of_find? hfind)
      exact ⟨request, now, hrequest, hidentity⟩
  | prepareReplayed | signatureReplayed | noted | polledAgain => exact h row hrow

/-! ### One call on both stores -/

@[simp] theorem key_mirrorRow (row : OperationRow) :
    (mirrorRow session sha256 rename row).key = rename row.key := rfl

@[simp] theorem state_mirrorRow (row : OperationRow) :
    (mirrorRow session sha256 rename row).state = row.state := rfl

@[simp] theorem signatureBase64_mirrorRow (row : OperationRow) :
    (mirrorRow session sha256 rename row).signatureBase64 = row.signatureBase64 := rfl

@[simp] theorem sees_mirrorRow (row : OperationRow) :
    session.sees (mirrorRow session sha256 rename row) = true := by
  unfold Session.sees
  split
  · rename_i scope hscope
    simp [mirrorRow, hscope]
  · rfl

/-- The session is one of a tenant, or there are no tenants yet. -/
def Session.InScope (session : Session) : Prop :=
  session.tenant = none → session.bootstrapped = false

section Agreement

variable {id : String} {row : OperationRow}

theorem Mirrors.find? (h : Mirrors session sha256 rename s p) (hrename : Function.Injective rename)
    (id : String) : p.operations.find? (rename id) =
      (s.operations.find? id).map (mirrorRow session sha256 rename) :=
  h.operations.find? key_mirrorRow hrename id

/-- A row is found by its renamed id. -/
theorem Mirrors.row_eq_ok (h : Mirrors session sha256 rename s p)
    (hrename : Function.Injective rename) (hscope : session.InScope)
    (hrow : s.operations.find? id = some row) :
    p.row session (rename id) = .ok (mirrorRow session sha256 rename row) := by
  have hopen : ¬ (session.tenant = none ∧ session.bootstrapped = true) := by
    rintro ⟨hnone, hboot⟩
    rw [hscope hnone] at hboot
    cases hboot
  have hseen : (some (mirrorRow session sha256 rename row)).filter session.sees =
      some (mirrorRow session sha256 rename row) := by simp [Option.filter]
  rw [SqlAlchemyWriteOperationStore.row, if_neg hopen, h.find? hrename, hrow, Option.map_some,
    hseen]

/-- Both stores find the row of an operation, or neither does. -/
theorem Mirrors.row_agrees (h : Mirrors session sha256 rename s p)
    (hrename : Function.Injective rename) (hscope : session.InScope) (id : String) :
    Agree (fun row row' => s.operations.find? id = some row ∧
        row' = mirrorRow session sha256 rename row)
      (s.row id) (p.row session (rename id)) := by
  cases hfind : s.operations.find? id with
  | some row =>
    rw [WriteStore.row_eq_ok.mpr hfind, h.row_eq_ok hrename hscope hfind]
    exact .ok ⟨rfl, rfl⟩
  | none =>
    obtain ⟨e, he⟩ : ∃ e, p.row session (rename id) = .error e := by
      rw [SqlAlchemyWriteOperationStore.row, h.find? hrename, hfind]
      split
      · exact ⟨_, rfl⟩
      · exact ⟨_, rfl⟩
    rw [WriteStore.row, hfind, he]
    exact .error

theorem Mirrors.get_agrees (h : Mirrors session sha256 rename s p)
    (hrename : Function.Injective rename) (hscope : session.InScope) (id : String) :
    Agree (fun op op' => ∃ row : OperationRow, op = row.toOperationRecord ∧
        op' = (mirrorRow session sha256 rename row).toOperationRecord)
      (s.get id) (p.get session (rename id)) :=
  (h.row_agrees hrename hscope id).map fun row _ hrow => ⟨row, rfl, by rw [hrow.2]⟩

theorem history_of_transition {expected : List WriteState} {target : WriteState} {action : String}
    {details : List (String × Json)} {result : OperationRecord × SqlAlchemyWriteOperationStore}
    (h : p.transition session id expected target action details = .ok result) :
    result.2.history = p.history := by
  unfold SqlAlchemyWriteOperationStore.transition at h
  split at h
  · cases h
  · split at h
    · cases h
    · cases h
      rfl

/-- Auditing one entry on both sides. -/
theorem Mirrors.addAudit (h : Mirrors session sha256 rename s p) {action : String}
    {fromState toState : Option WriteState} {details : List (String × Json)} :
    Mirrors session sha256 rename (s.addAudit id action fromState toState details)
      (p.addAudit (rename id) action fromState toState details) where
  operations := h.operations
  audit := by
    simp only [SqlAlchemyWriteOperationStore.addAudit, WriteStore.addAudit, List.map_append,
      h.audit]
    rfl

/-- Rewriting the row of an operation on both sides. -/
theorem Mirrors.modify (h : Mirrors session sha256 rename s p)
    (hrename : Function.Injective rename) {f : OperationRow → OperationRow}
    {hf : ∀ row, (f row).key = row.key} {g : WriteOperationRecord → WriteOperationRecord}
    {hg : ∀ row, (g row).key = row.key}
    (hcomm : ∀ row, g (mirrorRow session sha256 rename row) =
      mirrorRow session sha256 rename (f row)) :
    Mirrors session sha256 rename { s with operations := s.operations.modify id f hf }
      { p with operations := p.operations.modify (rename id) g hg } where
  operations := by
    have himage : Table.Image (mirrorRow session sha256 rename) (s.operations.modify id f hf)
        (p.operations.modify (rename id) g hg) := h.operations.modify key_mirrorRow hrename hcomm
    exact himage
  audit := h.audit

theorem Mirrors.setState (h : Mirrors session sha256 rename s p)
    (hrename : Function.Injective rename) (target : WriteState) :
    Mirrors session sha256 rename (s.setState id target) (p.setState (rename id) target) :=
  h.modify hrename fun _ => rfl

/-- The stores of two results mirror each other. -/
def MirrorsSnd (session : Session) (sha256 : List UInt8 → String) (rename : String → String)
    {α : Type} (r : α × WriteStore) (r' : α × SqlAlchemyWriteOperationStore) : Prop :=
  Mirrors session sha256 rename r.2 r'.2

/-- A move between states is made by both stores or by none. -/
theorem transition_agrees (h : Mirrors session sha256 rename s p)
    (hrename : Function.Injective rename) (hscope : session.InScope) {expected : List WriteState}
    {target : WriteState} {action : String} {details : List (String × Json)} :
    Agree (MirrorsSnd session sha256 rename) (s.transition id expected target action details)
      (p.transition session (rename id) expected target action details) := by
  have hrow := h.row_agrees hrename hscope id
  rw [WriteStore.transition, SqlAlchemyWriteOperationStore.transition]
  generalize s.row id = r, p.row session (rename id) = r' at hrow
  cases hrow with
  | error => exact .error
  | @ok row _ hrow =>
    obtain ⟨_, rfl⟩ := hrow
    refine .ite Iff.rfl (fun _ => .error) fun _ => .ok ?_
    exact (h.setState hrename target).addAudit

theorem reserveSubmit_agrees (h : Mirrors session sha256 rename s p)
    (hrename : Function.Injective rename) (hscope : session.InScope) :
    Agree (MirrorsSnd session sha256 rename) (s.reserveSubmit id)
      (p.reserveSubmit session (rename id)) := by
  have hget := h.get_agrees hrename hscope id
  rw [WriteStore.reserveSubmit, SqlAlchemyWriteOperationStore.reserveSubmit]
  generalize s.get id = r, p.get session (rename id) = r' at hget
  cases hget with
  | error => exact .error
  | ok hget =>
    obtain ⟨row, rfl, rfl⟩ := hget
    refine .ite Iff.rfl (fun _ => ?_) fun _ => ?_
    · exact .ite Iff.rfl (fun _ => .error) fun _ => .error
    · refine .ite Iff.rfl (fun _ => .error) fun _ => ?_
      exact transition_agrees h hrename hscope

theorem applyPollStatus_agrees (h : Mirrors session sha256 rename s p)
    (hrename : Function.Injective rename) (hscope : session.InScope)
    {status bodySha256 : Option String} {httpStatus : Option Int} :
    Agree (MirrorsSnd session sha256 rename) (s.applyPollStatus id status httpStatus bodySha256)
      (p.applyPollStatus session (rename id) status httpStatus bodySha256) := by
  have hget := h.get_agrees hrename hscope id
  rw [WriteStore.applyPollStatus, SqlAlchemyWriteOperationStore.applyPollStatus]
  generalize s.get id = r, p.get session (rename id) = r' at hget
  cases hget with
  | error => exact .error
  | ok hget =>
    obtain ⟨row, rfl, rfl⟩ := hget
    refine .ite Iff.rfl (fun _ => .error) fun _ => .ite Iff.rfl (fun _ => ?_) fun _ => ?_
    · refine .ite Iff.rfl (fun _ => ?_) fun _ => .ok h.addAudit
      exact (transition_agrees h hrename hscope).map fun _ _ hrel => hrel
    · exact (transition_agrees h hrename hscope).map fun _ _ hrel => hrel

/-- The two stores refuse the same signatures, and read the others alike. -/
theorem checkSignature_agrees (response : SigningResponse) (ownInn : String) :
    Agree Eq (WriteStore.checkSignature row response ownInn)
      (SqlAlchemyWriteOperationStore.checkSignature
        (mirrorRow session sha256 rename row).toOperationRow
        { response with operationId := rename response.operationId } ownInn) := by
  have hbase64 : Agree Eq (validateBase64Ascii response.signatureBase64 "signature")
      (normalizedB64 response.signatureBase64 "signature") := by
    rw [validateBase64Ascii, normalizedB64]
    refine .ite Iff.rfl (fun _ => .error) fun _ => ?_
    match Base64.decode response.signatureBase64.toList with
    | none => exact .error
    | some [] => exact .error
    | some (_ :: _) => exact .ok rfl
  rw [WriteStore.checkSignature, SqlAlchemyWriteOperationStore.checkSignature]
  refine .ite Iff.rfl (fun _ => .error) fun _ => ?_
  refine .or_guard fun _ _ => .ite Iff.rfl (fun _ => .error) fun _ => ?_
  exact .ite Iff.rfl (fun _ => .error) fun _ => hbase64

theorem acceptSignature_agrees (h : Mirrors session sha256 rename s p)
    (hrename : Function.Injective rename) (hscope : session.InScope)
    {response : SigningResponse} {ownInn : String}
    (hcolumns : ∀ row signature, s.operations.find? response.operationId = some row →
      row.state = .awaitingSignature →
      WriteStore.checkSignature row response ownInn = .ok signature →
      (mirrorRow session sha256 rename (WriteStore.signRow response signature row)).fits) :
    Agree (MirrorsSnd session sha256 rename) (s.acceptSignature response ownInn)
      (p.acceptSignature session
        { response with operationId := rename response.operationId } ownInn) := by
  have hrow := h.row_agrees hrename hscope response.operationId
  rw [WriteStore.acceptSignature, SqlAlchemyWriteOperationStore.acceptSignature]
  generalize s.row response.operationId = r, p.row session (rename response.operationId) = r'
    at hrow
  cases hrow with
  | error => exact .error
  | @ok row _ hrow =>
    obtain ⟨hfind, rfl⟩ := hrow
    have hcheck : Agree Eq (WriteStore.checkSignature row response ownInn)
        (SqlAlchemyWriteOperationStore.checkSignature
          (mirrorRow session sha256 rename row).toOperationRow
          { response with operationId := rename response.operationId } ownInn) :=
      checkSignature_agrees response ownInn
    dsimp only
    generalize hread : WriteStore.checkSignature row response ownInn = r,
      SqlAlchemyWriteOperationStore.checkSignature
        (mirrorRow session sha256 rename row).toOperationRow
        { response with operationId := rename response.operationId } ownInn = r' at hcheck
    cases hcheck with
    | error => exact .error
    | @ok signature _ heq =>
      subst heq
      refine .ite Iff.rfl (fun _ => ?_) fun hstate => ?_
      · exact .ite Iff.rfl (fun _ => .ok h.addAudit) fun _ => .error
      · have hfits : (SqlAlchemyWriteOperationStore.signRow
            { response with operationId := rename response.operationId } signature
            (mirrorRow session sha256 rename row)).fits :=
          hcolumns row signature hfind (not_not.mp hstate) hread
        rw [if_neg (not_not.mpr hfits)]
        exact .ok (h.modify hrename fun _ => rfl).addAudit

/-- The rows of the two stores have the same document ids taken, if both keep them apart. -/
theorem documentIdTaken_agrees (h : Mirrors session sha256 rename s p)
    (hrename : Function.Injective rename) {result : CreateResult}
    (hfree : session.tenant = none → submitTarget result.category = .submitted →
      s.documentIdTaken row.operationId result.documentId = false) :
    p.documentIdTaken (SqlAlchemyWriteOperationStore.submitRow result
        (mirrorRow session sha256 rename row)) =
      s.documentIdTaken row.operationId (WriteStore.submitRow result row).documentId := by
  have hrows : p.operations.rows = s.operations.rows.map (mirrorRow session sha256 rename) :=
    h.operations
  cases htenant : session.tenant with
  | none =>
    have hnone : s.documentIdTaken row.operationId (WriteStore.submitRow result row).documentId =
        false := by
      rw [documentIdTaken_submitRow]
      by_cases htarget : submitTarget result.category = .submitted
      · rw [hfree htenant htarget, Bool.and_false]
      · simp [htarget]
    rw [hnone, SqlAlchemyWriteOperationStore.documentIdTaken]
    simp [mirrorRow, SqlAlchemyWriteOperationStore.submitRow, htenant]
  | some scope =>
    rw [SqlAlchemyWriteOperationStore.documentIdTaken, WriteStore.documentIdTaken, hrows,
      List.any_map]
    simp only [SqlAlchemyWriteOperationStore.submitRow, mirrorRow, htenant, Function.comp_def,
      Option.map_some, Option.isSome_some, Bool.true_and, decide_true, Bool.and_true, ne_eq,
      hrename.eq_iff, WriteStore.submitRow]
    congr!

/-- A write to the history that is not refused leaves the tables as they are. -/
theorem immutableWrite_eq_ok {event : TenantContext → ImmutableEvent}
    (haccepts : ∀ scope, session.tenant = some scope →
      session.append p.history (event scope) = .ok ()) :
    ∃ history, p.immutableWrite session event = .ok { p with history := history } := by
  unfold immutableWrite
  cases htenant : session.tenant with
  | none => exact ⟨p.history, rfl⟩
  | some scope =>
    simp only [haccepts scope htenant]
    exact ⟨_, rfl⟩

theorem immutableWrite_agrees (h : Mirrors session sha256 rename s p)
    {event : TenantContext → ImmutableEvent} {α : Type} {a a' : α}
    (haccepts : ∀ scope, session.tenant = some scope →
      session.append p.history (event scope) = .ok ()) :
    Agree (MirrorsSnd session sha256 rename) (.ok (a, s) : Except PyError _)
      (match p.immutableWrite session event with
        | .error e => .error e
        | .ok recorded => .ok (a', recorded)) := by
  obtain ⟨history, hwrite⟩ := immutableWrite_eq_ok haccepts
  rw [hwrite]
  exact .ok ⟨h.operations, h.audit⟩

theorem submitRow_mem_of_effect {result : CreateResult} {ops ops' : Table OperationRow.key}
    (hfind : ops.find? id = some row) (h : Effect sha256 ops (.completeSubmit id result) ops') :
    WriteStore.submitRow result row ∈ ops' := by
  cases h with
  | submitted hfind' _ _ =>
    rw [hfind] at hfind'
    cases hfind'
    exact (Table.mem_modify_of_find? hfind).mpr (.inr rfl)
  | moved _ hmoves _ => cases hmoves

theorem completeSubmit_agrees (h : Mirrors session sha256 rename s p)
    (hrename : Function.Injective rename) (hscope : session.InScope) {result : CreateResult}
    (hfree : session.tenant = none → submitTarget result.category = .submitted →
      s.documentIdTaken id result.documentId = false)
    (hcolumns : ∀ row s', s.operations.find? id = some row →
      s.completeSubmit id result = .ok ((WriteStore.submitRow result row).toOperationRecord, s') →
      (mirrorRow session sha256 rename (WriteStore.submitRow result row)).fits)
    (hhistory : ∀ scope row, session.tenant = some scope → s.operations.find? id = some row →
      session.append p.history (session.remoteResult (SqlAlchemyWriteOperationStore.submitRow
        result (mirrorRow session sha256 rename row)) scope) = .ok ()) :
    Agree (MirrorsSnd session sha256 rename) (s.completeSubmit id result)
      (p.completeSubmit session (rename id) result) := by
  have hrow := h.row_agrees hrename hscope id
  rw [WriteStore.completeSubmit] at hcolumns ⊢
  rw [SqlAlchemyWriteOperationStore.completeSubmit]
  generalize s.row id = r, p.row session (rename id) = r' at hrow hcolumns
  cases hrow with
  | error => exact .error
  | @ok row _ hrow =>
    obtain ⟨hfind, rfl⟩ := hrow
    dsimp only
    cases OperationRow.operationId_of_find? hfind
    refine .ite Iff.rfl (fun _ => .error) fun hstate => .ite Iff.rfl (fun _ => .error)
      fun hid => ?_
    by_cases htaken : s.documentIdTaken row.operationId
        (WriteStore.submitRow result row).documentId = true
    · have htaken' : p.documentIdTaken (SqlAlchemyWriteOperationStore.submitRow result
          (mirrorRow session sha256 rename row)) = true := by
        rw [documentIdTaken_agrees h hrename hfree, htaken]
      rw [if_pos htaken, if_pos htaken']
      split
      · exact .error
      · exact .error
    · have htaken' : ¬ p.documentIdTaken (SqlAlchemyWriteOperationStore.submitRow result
          (mirrorRow session sha256 rename row)) = true := by
        rwa [documentIdTaken_agrees h hrename hfree]
      have hfits : (SqlAlchemyWriteOperationStore.submitRow result
          (mirrorRow session sha256 rename row)).fits :=
        hcolumns row _ hfind (by dsimp only; rw [if_neg hstate, if_neg hid, if_neg htaken])
      rw [if_neg htaken, if_neg (not_not.mpr hfits), if_neg htaken']
      exact immutableWrite_agrees (h.modify hrename fun _ => rfl).addAudit
        fun scope htenant => hhistory scope row htenant hfind

theorem reconciliationResult_agrees (h : Mirrors session sha256 rename s p)
    (hrename : Function.Injective rename) (hscope : session.InScope) {confirmed : Bool}
    {details : List (String × Json)}
    (hhistory : ∀ scope row, session.tenant = some scope → s.operations.find? id = some row →
      session.append p.history (session.reconciled sha256 (mirrorRow session sha256 rename row)
        confirmed details scope) = .ok ()) :
    Agree (MirrorsSnd session sha256 rename) (s.reconciliationResult id confirmed details)
      (p.reconciliationResult session sha256 (rename id) confirmed details) := by
  have hmove : Agree (MirrorsSnd session sha256 rename)
      (s.reconciliationResult id confirmed details)
      (p.transition session (rename id) [.reconciliationRequired]
        (if confirmed then .succeeded else .manualReview) "RECONCILIATION_RESULT"
        (Json.merge [("confirmed", .bool confirmed)] details)) :=
    transition_agrees h hrename hscope
  rw [SqlAlchemyWriteOperationStore.reconciliationResult]
  generalize hmoved : s.reconciliationResult id confirmed details = r,
    hmoved' : p.transition session (rename id) [.reconciliationRequired]
      (if confirmed then .succeeded else .manualReview) "RECONCILIATION_RESULT"
      (Json.merge [("confirmed", .bool confirmed)] details) = r' at hmove
  cases hmove with
  | error => exact .error
  | @ok moved moved' hmove =>
    obtain ⟨row, hfind, _, _, hs'⟩ := transition_eq_ok hmoved
    have hfound : moved.2.operations.find? id =
        some { row with state := if confirmed then .succeeded else .manualReview } := by
      rw [hs', addAudit_operations, WriteStore.setState, Table.find?_modify_self, hfind]
      rfl
    dsimp only
    rw [hmove.row_eq_ok hrename hscope hfound]
    refine immutableWrite_agrees hmove fun scope htenant => ?_
    rw [history_of_transition hmoved']
    exact hhistory scope row htenant hfind

theorem auditNote_agrees (h : Mirrors session sha256 rename s p)
    (hrename : Function.Injective rename) (hscope : session.InScope) {action : String}
    {details : List (String × Json)} (hknown : (s.operations.find? id).isSome)
    (haction : fitsString 96 action) :
    Agree (Mirrors session sha256 rename) (s.auditNote id action details)
      (p.auditNote session (rename id) action details) := by
  obtain ⟨row, hrow⟩ := Option.isSome_iff_exists.mp hknown
  rw [SqlAlchemyWriteOperationStore.auditNote, h.row_eq_ok hrename hscope hrow]
  dsimp only
  rw [if_neg (not_not.mpr haction)]
  exact .ok h.addAudit

/-- The two stores make the same demands on a document. -/
theorem checkPrepare_agrees (request : PrepareRequest) :
    Agree Eq (checkPrepare sha256 request) (checkDocument sha256 request) := by
  rw [checkPrepare, checkDocument]
  have hmapping : writeMapping request.decision = decisionDocument request.decision := by
    cases request.decision <;> rfl
  rw [hmapping]
  cases decisionDocument request.decision with
  | none => exact .error
  | some mapping =>
    refine .ite Iff.rfl (fun _ => .error) fun _ => .or_guard fun _ _ => ?_
    refine .ite Iff.rfl (fun _ => .error) fun _ => ?_
    cases Base64.decode request.document.productDocumentBase64.toList with
    | none => exact .error
    | some decoded =>
      refine .ite Iff.rfl (fun _ => .error) fun _ => ?_
      exact .ite Iff.rfl (fun _ => .error) fun _ => .ok rfl

/-- The same request finds the same operation in both stores. -/
theorem existing_eq (h : Mirrors session sha256 rename s p) (hrows : Requested sha256 requests s)
    (hids : Corresponds session sha256 rename requests) {request : PrepareRequest}
    (hrequest : requests request) :
    p.existing session sha256 request =
      (s.operations.rows.find? fun row =>
        row.businessFingerprint = businessFingerprint sha256 request).map
        (mirrorRow session sha256 rename) := by
  have hoperations : p.operations.rows = s.operations.rows.map (mirrorRow session sha256 rename) :=
    h.operations
  rw [SqlAlchemyWriteOperationStore.existing, hoperations, List.find?_map]
  refine congrArg _ (List.find?_congr fun row hrow => ?_)
  obtain ⟨request', now, hrequest', hidentity⟩ := hrows row hrow
  simp only [Function.comp, sees_mirrorRow, Bool.and_true, decide_eq_decide]
  exact hids.fingerprint_iff hrequest' hrequest hidentity

/-- The row prepared for a request is mirrored by the row the other store prepares. -/
theorem mirrorRow_preparedRow (hids : Corresponds session sha256 rename requests)
    {request : PrepareRequest} (hrequest : requests request) (now : String) :
    mirrorRow session sha256 rename (WriteStore.preparedRow request
        (businessFingerprint sha256 request) now .awaitingSignature) =
      SqlAlchemyWriteOperationStore.preparedRow session request
        (session.businessFingerprint sha256 request) now := by
  rw [mirrorRow, SqlAlchemyWriteOperationStore.preparedRow]
  simp only [WriteStore.preparedRow, hids.rename_operationId request hrequest]
  rfl

/-- A request for the participant of the session passes its scope. -/
theorem checkScope_eq_ok (hscope : session.InScope) {request : PrepareRequest}
    (hparticipant : ∀ scope, session.tenant = some scope →
      request.expectedInn = scope.participantInn) : checkScope session request = .ok () := by
  unfold checkScope
  split
  · rename_i hnone
    rw [hscope hnone]
    rfl
  · rename_i scope hsome
    rw [if_neg (not_not.mpr (hparticipant scope hsome))]

/-- An insertion that fails does so whatever the state of the row. -/
theorem insert_preparedRow_eq_none {ops : Table OperationRow.key} {request : PrepareRequest}
    {fingerprint now : String} {a b : WriteState}
    (h : ops.insert (WriteStore.preparedRow request fingerprint now a) = none) :
    ops.insert (WriteStore.preparedRow request fingerprint now b) = none := by
  obtain ⟨row, hrow⟩ := Table.insert_eq_none h
  cases hb : ops.insert (WriteStore.preparedRow request fingerprint now b) with
  | none => rfl
  | some ops' =>
    have hnone := (Table.insert_eq_some hb).1
    cases hrow.symm.trans hnone

theorem prepare_agrees (h : Mirrors session sha256 rename s p) (hscope : session.InScope)
    (hrows : Requested sha256 requests s) (hids : Corresponds session sha256 rename requests)
    {request : PrepareRequest} {now : String} (hrequest : requests request)
    (hparticipant : ∀ scope, session.tenant = some scope →
      request.expectedInn = scope.participantInn)
    (hcolumns : ∀ s', (s.prepare sha256 request now).map Prod.snd = .ok s' →
      ∀ row ∈ s'.operations, (mirrorRow session sha256 rename row).fits)
    (hhistory : ∀ scope, session.tenant = some scope → p.existing session sha256 request = none →
      session.append p.history (session.intentCreated
        (SqlAlchemyWriteOperationStore.preparedRow session request
          (session.businessFingerprint sha256 request) now) scope) = .ok ()) :
    Agree (MirrorsSnd session sha256 rename) (s.prepare sha256 request now)
      (p.prepare session sha256 request now) := by
  have hcheck : Agree Eq (checkPrepare sha256 request) (checkDocument sha256 request) :=
    checkPrepare_agrees request
  have hfound := existing_eq h hrows hids hrequest
  rw [WriteStore.prepare] at hcolumns ⊢
  rw [SqlAlchemyWriteOperationStore.prepare]
  cases hchecked : checkPrepare sha256 request with
  | error e =>
    rw [hchecked] at hcheck
    obtain ⟨e', he'⟩ := hcheck.exists_error
    rw [he']
    exact .error
  | ok _ =>
    rw [hchecked] at hcheck hcolumns
    obtain ⟨_, hchecked', _⟩ := hcheck.exists_ok
    rw [hchecked', checkScope_eq_ok hscope hparticipant]
    dsimp only at hcolumns ⊢
    cases hexisting : s.operations.rows.find? fun row =>
        row.businessFingerprint = businessFingerprint sha256 request with
    | some existing =>
      rw [hfound, hexisting]
      exact .ite Iff.rfl (fun _ => .ok h.addAudit) fun _ => .error
    | none =>
      rw [hexisting] at hfound hcolumns
      rw [hfound]
      dsimp only [Option.map_none] at hcolumns ⊢
      rw [← mirrorRow_preparedRow hids hrequest]
      cases hinsert : s.operations.insert (WriteStore.preparedRow request
          (businessFingerprint sha256 request) now .prepared) with
      | none =>
        rw [h.operations.insert_eq_none key_mirrorRow hids.injective
          (insert_preparedRow_eq_none hinsert)]
        dsimp only
        split
        · exact .error
        · exact .error
      | some ops =>
        have hawaiting : s.operations.insert (WriteStore.preparedRow request
              (businessFingerprint sha256 request) now .awaitingSignature) =
            some (ops.modify (operationIdOf (businessFingerprint sha256 request))
              (fun row => { row with state := .awaitingSignature }) fun _ => rfl) :=
          Table.insert_modify (fun row : OperationRow => { row with state := .awaitingSignature })
            (fun _ => rfl) hinsert
        obtain ⟨ops', hinsert', himage⟩ :=
          h.operations.insert key_mirrorRow hids.injective hawaiting
        rw [hinsert] at hcolumns
        have hfits := hcolumns _ rfl _ ((Table.mem_insert hawaiting).mpr (.inr rfl))
        rw [if_neg (not_not.mpr hfits), hinsert']
        obtain ⟨history, hwrite⟩ : ∃ history,
            { p with operations := ops' }.immutableWrite session (session.intentCreated
              (mirrorRow session sha256 rename (WriteStore.preparedRow request
                (businessFingerprint sha256 request) now .awaitingSignature))) =
              .ok { p with operations := ops', history := history } := by
          refine immutableWrite_eq_ok fun scope htenant => ?_
          rw [mirrorRow_preparedRow hids hrequest]
          exact hhistory scope htenant hfound
        dsimp only
        rw [hwrite]
        have hinserted : Mirrors session sha256 rename
            ⟨ops.modify (operationIdOf (businessFingerprint sha256 request))
              (fun row => { row with state := .awaitingSignature }) fun _ => rfl, s.audit⟩
            ⟨ops', p.audit, history⟩ := ⟨himage, h.audit⟩
        exact .ok hinserted.addAudit.addAudit

/-- A permitted call is accepted by both stores, which stay related, or by neither. -/
theorem step_agrees (h : Mirrors session sha256 rename s p) (hscope : session.InScope)
    (hrows : Requested sha256 requests s) (hids : Corresponds session sha256 rename requests)
    {call : StoreCall} (hcall : ∀ request now, call = .prepare request now → requests request)
    (hpermitted : Permitted session sha256 rename s p call) :
    Agree (Mirrors session sha256 rename) (s.step sha256 call)
      (p.step session sha256 (call.rename rename)) := by
  have snd {α α' : Type} {r : Except PyError (α × WriteStore)}
      {r' : Except PyError (α' × SqlAlchemyWriteOperationStore)}
      (hagree : Agree (fun x y => Mirrors session sha256 rename x.2 y.2) r r') :
      Agree (Mirrors session sha256 rename) (r.map Prod.snd) (r'.map Prod.snd) :=
    hagree.map fun _ _ hrel => hrel
  cases call with
  | prepare request now =>
    refine snd (prepare_agrees h hscope hrows hids (hcall request now rfl)
      (hpermitted.participant request now rfl) hpermitted.columns fun scope htenant hnone => ?_)
    refine hpermitted.history scope _ htenant ?_
    simp [StoreCall.rename, milestone, hnone]
  | acceptSignature response ownInn =>
    refine snd (acceptSignature_agrees h hids.injective hscope
      fun row signature hfind hstate hcheck => ?_)
    obtain ⟨s', haccept, hrewritten⟩ := acceptSignature_rewrites hfind hstate hcheck
    refine hpermitted.columns s' ?_ _ (Table.mem_of_find? hrewritten.row)
    rw [WriteStore.step, haccept]
    rfl
  | reserveSubmit id => exact snd (reserveSubmit_agrees h hids.injective hscope)
  | completeSubmit id result =>
    refine snd (completeSubmit_agrees h hids.injective hscope
      (hpermitted.documentId id result rfl) (fun row s' hfind hcomplete => ?_)
      fun scope row htenant hfind => ?_)
    · have hstep : s.step sha256 (.completeSubmit id result) = .ok s' := by
        rw [WriteStore.step, hcomplete]
        rfl
      exact hpermitted.columns s' hstep _ (submitRow_mem_of_effect hfind (effect_of_step hstep))
    · refine hpermitted.history scope _ htenant ?_
      simp [StoreCall.rename, milestone, h.find? hids.injective, hfind]
  | markSubmitAmbiguous id errorType => exact absurd rfl (hpermitted.implemented id errorType)
  | markManualReview id reason => exact snd (transition_agrees h hids.injective hscope)
  | markError id errorType => exact snd (transition_agrees h hids.injective hscope)
  | auditNote id action details =>
    obtain ⟨hknown, haction⟩ := hpermitted.noted id action details rfl
    exact auditNote_agrees h hids.injective hscope hknown haction
  | applyPollStatus id status httpStatus bodySha256 =>
    exact snd (applyPollStatus_agrees h hids.injective hscope)
  | reconciliationResult id confirmed details =>
    refine snd (reconciliationResult_agrees h hids.injective hscope fun scope row htenant hfind => ?_)
    refine hpermitted.history scope _ htenant ?_
    simp [StoreCall.rename, milestone, h.find? hids.injective, hfind]

end Agreement

/-! ### Lists of calls -/

/-- The requests that a list of calls prepares. -/
def Prepares (calls : List StoreCall) (request : PrepareRequest) : Prop :=
  ∃ now, StoreCall.prepare request now ∈ calls

/-- From empty stores, along every list of permitted calls: the two stores accept and reject
the same calls, and after every prefix they hold the same operations with the same progress
and the same audit trail, up to the renaming. -/
theorem stores_in_simulation (session : Session) (sha256 : List UInt8 → String)
    (rename : String → String) (calls : List StoreCall) (hscope : session.InScope)
    (hids : Corresponds session sha256 rename (Prepares calls))
    (hpermitted : AllowedAlong (WriteStore.step sha256)
      (SqlAlchemyWriteOperationStore.step session sha256) (StoreCall.rename rename)
      (Permitted session sha256 rename) .empty .empty calls) (k : ℕ) :
    let s := exec (WriteStore.step sha256) .empty (calls.take k)
    let p := exec (SqlAlchemyWriteOperationStore.step session sha256) .empty
      ((calls.take k).map (StoreCall.rename rename))
    (∀ call, calls[k]? = some call →
      (s.step sha256 call).isOk = (p.step session sha256 (call.rename rename)).isOk) ∧
    p.operations.rows.map (fun row => (row.operationId, row.toOperationRow.view)) =
      s.operations.rows.map (fun row => (rename row.operationId, row.view)) ∧
    p.audit.map WriteAuditRecord.toAuditRow =
      s.audit.map fun entry => { entry with operationId := rename entry.operationId } := by
  intro s p
  have agree : ∀ s p call, call ∈ calls →
      Mirrors session sha256 rename s p ∧ Requested sha256 (Prepares calls) s →
      Permitted session sha256 rename s p call →
      Agree (fun s p => Mirrors session sha256 rename s p ∧ Requested sha256 (Prepares calls) s)
        (s.step sha256 call) (p.step session sha256 (call.rename rename)) := by
    rintro s p call hmem ⟨hmirrors, hrows⟩ hpermitted
    have hcall : ∀ request now, call = .prepare request now → Prepares calls request :=
      fun request now heq => ⟨now, heq ▸ hmem⟩
    refine (step_agrees hmirrors hscope hrows hids hcall hpermitted).and fun s' hstep => ?_
    exact requested_of_effect hrows hcall (effect_of_step hstep)
  have hstart : Mirrors session sha256 rename .empty .empty ∧
      Requested sha256 (Prepares calls) .empty :=
    ⟨⟨rfl, rfl⟩, fun row hrow => absurd hrow Table.not_mem_empty⟩
  have hrun : Mirrors session sha256 rename s p ∧ Requested sha256 (Prepares calls) s :=
    exec_lockstep _ agree hstart hpermitted k
  refine ⟨fun call hcall => ?_, ?_, hrun.1.audit⟩
  · exact (agree s p call (List.mem_of_getElem? hcall) hrun (hpermitted k call hcall)).isOk
  · have hrows : p.operations.rows = s.operations.rows.map (mirrorRow session sha256 rename) :=
      hrun.1.operations
    rw [hrows, List.map_map]
    rfl

/-! ### A run of both stores -/

/-- A session of the participant of `sampleRequest`. -/
def sampleSession : Session where
  tenant := some ⟨some 1, "org-1", "participant-1", "7700000000"⟩
  bootstrapped := true
  append _ _ := .ok ()

/-- The id of the operation of `sampleRequest` in the session. -/
def sampleTenantOperationId : String :=
  operationIdOf (sampleSession.businessFingerprint Sha256.hexdigest sampleRequest)

/-- The renaming of that operation. -/
def sampleRename : String → String := Equiv.swap sampleOperationId sampleTenantOperationId

/-- Every row that a call leaves fits its columns. -/
def columnsFit (s : WriteStore) (call : StoreCall) : Bool :=
  match s.step Sha256.hexdigest call with
  | .ok s' =>
    s'.operations.rows.all fun row =>
      (mirrorRow sampleSession Sha256.hexdigest sampleRename row).fits
  | .error _ => true

/-- So does every row that a list of calls leaves on its way. -/
def columnsFitAlong (s : WriteStore) : List StoreCall → Bool
  | [] => true
  | call :: calls =>
    columnsFit s call && columnsFitAlong (Transition.call (WriteStore.step Sha256.hexdigest) s call)
      calls

theorem columnsFit_of_along {s : WriteStore} {calls : List StoreCall}
    (h : columnsFitAlong s calls = true) (k : ℕ) {call : StoreCall} (hcall : calls[k]? = some call) :
    columnsFit (exec (WriteStore.step Sha256.hexdigest) s (calls.take k)) call = true := by
  induction calls generalizing s k with
  | nil => simp at hcall
  | cons first calls ih =>
    obtain ⟨hfirst, hrest⟩ := Bool.and_eq_true_iff.mp h
    cases k with
    | zero =>
      cases hcall
      exact hfirst
    | succ k => exact ih hrest k (by simpa using hcall)

/-- The calls that take the operation of `sampleRequest` to its signature. -/
def sampleSigning : List StoreCall := sampleCalls.take 2

theorem columnsFitAlong_sampleSigning : columnsFitAlong .empty sampleSigning = true := by
  decide +kernel

theorem stores_in_simulation_sample :
    (exec (SqlAlchemyWriteOperationStore.step sampleSession Sha256.hexdigest) .empty
      (sampleSigning.map (StoreCall.rename sampleRename))).operations.rows.map
        (fun row => (row.operationId, row.toOperationRow.view)) =
      [(sampleTenantOperationId, ⟨.signed, none, some "c2ln", none, none, none⟩)] := by
  have hrequest : ∀ request, Prepares sampleSigning request → request = sampleRequest := by
    rintro request ⟨now, hmem⟩
    have hfirst : request = sampleRequest ∧ now = "2024-01-01T00:00:00.000000+00:00" := by
      simpa [sampleSigning, sampleCalls] using hmem
    exact hfirst.1
  have hids : Corresponds sampleSession Sha256.hexdigest sampleRename (Prepares sampleSigning) := by
    refine ⟨Equiv.injective _, fun request hprepares => ?_, fun request request' h h' _ => ?_⟩
    · rw [hrequest request hprepares]
      exact Equiv.swap_apply_left _ _
    · rw [hrequest request h, hrequest request' h']
  have hpermitted : AllowedAlong (WriteStore.step Sha256.hexdigest)
      (SqlAlchemyWriteOperationStore.step sampleSession Sha256.hexdigest)
      (StoreCall.rename sampleRename) (Permitted sampleSession Sha256.hexdigest sampleRename)
      .empty .empty sampleSigning := by
    intro k call hcall
    have hmem : call ∈ sampleSigning := List.mem_of_getElem? hcall
    refine
      { implemented := ?_
        noted := ?_
        participant := ?_
        documentId := fun _ _ _ htenant => nomatch htenant
        columns := fun s' hstep row hrow => ?_
        history := fun _ _ _ _ => rfl }
    · rintro id errorType rfl
      simp [sampleSigning, sampleCalls] at hmem
    · rintro id action details rfl
      simp [sampleSigning, sampleCalls] at hmem
    · rintro request now rfl scope htenant
      rw [hrequest request ⟨now, hmem⟩]
      cases htenant
      rfl
    · have hfit := columnsFit_of_along columnsFitAlong_sampleSigning k hcall
      rw [columnsFit, hstep] at hfit
      exact List.all_eq_true.mp hfit row hrow
  have hlast := stores_in_simulation sampleSession Sha256.hexdigest sampleRename sampleSigning
    (fun htenant => nomatch htenant) hids hpermitted 2
  have htake : sampleSigning.take 2 = sampleSigning := rfl
  rw [htake] at hlast
  have hrows : (exec (WriteStore.step Sha256.hexdigest) .empty sampleSigning).operations.rows.map
      (fun row => (row.operationId, row.view)) =
        [(sampleOperationId, ⟨.signed, none, some "c2ln", none, none, none⟩)] := by
    decide +kernel
  have hrenamed : sampleRename sampleOperationId = sampleTenantOperationId :=
    Equiv.swap_apply_left _ _
  have hmapped := congrArg (List.map (Prod.map sampleRename id)) hrows
  rw [List.map_map, List.map_singleton, Prod.map_apply, hrenamed] at hmapped
  exact hlast.2.1.trans hmapped

/-- Without any operation, a note about one is taken by the SQLite store and refused by the
PostgreSQL store. -/
theorem stores_differ_on_unknown_operation :
    (WriteStore.step Sha256.hexdigest .empty (.auditNote "op_unknown" "NOTE" [])).isOk = true ∧
      (SqlAlchemyWriteOperationStore.step sampleSession Sha256.hexdigest .empty
        (.auditNote "op_unknown" "NOTE" [])).isOk = false := by
  decide

end Web

end Wbcz
