import Mathlib.Data.List.MinMax
import Wbcz.Audit.Rows
import Wbcz.Lib.Fallible

/-!
# The audit service

`AuditService` of `wbcz_web/services/audit_history.py` on the chain of one tenant: appending
an event under the lock of the chain, the event that opens a chain, checkpoints, and the
verification of what is stored. An operation that raises is rolled back with its transaction.
-/

namespace Wbcz.Audit

open Fallible (bind_eq_ok guard_eq_ok)

/-! ## Writing -/

/-- The arguments of `_insert_locked`. -/
structure InsertArguments where
  definition : RegisteredAuditEvent
  actor : ActorContext
  tenant : AuditTenantScope
  subject : SubjectRef
  secondarySubject : Option SubjectRef
  outcome : AuditOutcome
  authorizationDecision : AuthorizationDecision
  trace : TraceContext
  metadata : List (String × Json)
  evidenceHashes : List String
  beforeSha256 : Option String
  afterSha256 : Option String
  occurredAt : Instant
  allowCheckpoint : Bool
  actorSnapshot : Option ActorSnapshot

section Writing

variable (digests : Digests) (p : AuditPseudonymizer) (directory : Directory)

/-- The snapshot an insertion was given, or the one it takes. -/
def insertSnapshot (args : InsertArguments) : Except PyError ActorSnapshot :=
  match args.actorSnapshot with
  | some snapshot => .ok snapshot
  | none =>
    (actorSnapshot p digests directory args.definition args.actor args.tenant
      args.metadata).map Prod.fst

/-- The semantic payload an insertion builds from its arguments. -/
def insertSemantic (args : InsertArguments) : Except PyError SemanticPayload := do
  let snapshot ← insertSnapshot digests p directory args
  let subject ← subjectOf p digests args.subject args.tenant
  let secondary ← subjectOf? p digests args.secondarySubject args.tenant
  .ok {
    category := args.definition.category.value
    eventType := args.definition.eventType
    action := args.definition.action
    outcome := args.outcome.value
    authorizationDecision := args.authorizationDecision.value
    tenant := args.tenant
    actorKind := args.actor.kind.value
    actorUserId := args.actor.userId
    actorMembershipId := snapshot.membershipId
    actorRoleSnapshot := snapshot.role
    permissionSnapshot :=
      match snapshot.permissions with
      | some permissions => .arr (permissions.map Json.str)
      | none => .null
    subjectType := subject.type.value
    subjectId := subject.id
    secondarySubjectType := secondary.map fun s => s.type.value
    secondarySubjectId := secondary.map SubjectRef.id
    trace := args.trace
    beforeSha256 := args.beforeSha256
    afterSha256 := args.afterSha256
    evidenceHashes := args.evidenceHashes.map Json.str
    metadata := args.metadata }

/-- The row of an inserted event. -/
def eventRow (s : SemanticPayload) (chainId : String) (sequence : Nat) (eventId : String)
    (occurredAt : Instant) (previousEventHash eventHash : String) : AuditEventRecord where
  eventId := eventId
  chainId := chainId
  sequence := sequence
  tenant := s.tenant
  category := s.category
  eventType := s.eventType
  action := s.action
  outcome := s.outcome
  authorizationDecision := s.authorizationDecision
  actorKind := s.actorKind
  actorUserId := s.actorUserId
  actorMembershipId := s.actorMembershipId
  actorRoleSnapshot := s.actorRoleSnapshot
  permissionSnapshotJson := s.permissionSnapshot
  subjectType := s.subjectType
  subjectId := s.subjectId
  secondarySubjectType := s.secondarySubjectType
  secondarySubjectId := s.secondarySubjectId
  trace := s.trace
  beforeSha256 := s.beforeSha256
  afterSha256 := s.afterSha256
  evidenceHashesJson := .arr s.evidenceHashes
  metadataSanitizedJson := .obj s.metadata
  previousEventHash := previousEventHash
  eventHash := eventHash
  auditFormatVersion := Audit.auditFormatVersion
  occurredAt := occurredAt

/-- The foreign keys of an event row. -/
def references (s : SemanticPayload) : Bool :=
  (match s.tenant.organisationId with
    | some organisation => organisation ∈ directory.organisations
    | none => true) &&
  (match s.tenant.participantId with
    | some participant => directory.belongs participant (s.tenant.organisationId.getD "")
    | none => true) &&
  (match s.actorUserId with
    | some user => user ∈ directory.users
    | none => true)

/-- The event of a chain under a key. -/
def AuditChain.byKey (chain : AuditChain) (eventKey : Option String) : Option AuditEventRecord :=
  if truthy eventKey then chain.rows.find? fun row => row.trace.eventKey = eventKey else none

/-- The row breaks a unique constraint: its identifier, or its sequence or event key within
the chain. -/
def violates (chain : AuditChain) (row : AuditEventRecord) : Bool :=
  row.eventId ∈ chain.events.map AuditEventRecord.eventId ||
    row.sequence ∈ chain.rows.map AuditEventRecord.sequence ||
    (row.trace.eventKey.isSome &&
      chain.rows.any fun other => other.trace.eventKey = row.trace.eventKey)

/-- Append a row that is not there yet to a chain. -/
def insertNew (s : SemanticPayload) (eventId : Uuid4) (occurredAt : Instant)
    (chain : AuditChain) : Except PyError (AuditEventRecord × AuditChain) :=
  let head := chain.head
  let sequence := head.headSequence + 1
  if sequence = 1 ∧ head.headHash ≠ zeroHash then
    .error (auditIntegrityError "audit genesis head is inconsistent")
  else do
    let payload ←
      canonicalPayload s head.chainId sequence eventId.text occurredAt head.headHash
    let eventHash ← payloadHash digests payload
    let row := eventRow s head.chainId sequence eventId.text occurredAt head.headHash eventHash
    if violates chain row ∨ ¬ references directory s then .error ⟨.integrityError, ""⟩
    else
      .ok (row, { chain with
        head := { head with headSequence := sequence, headHash := eventHash }
        events := chain.events ++ [row] })

/-- `_insert_locked` up to its checkpoint: the receipt, the row where it is a new one, and the
chain. -/
def insertRow (eventId : Uuid4) (args : InsertArguments) (chain : AuditChain) :
    Except PyError (AuditReceipt × Option AuditEventRecord × AuditChain) := do
  let s ← insertSemantic digests p directory args
  match chain.byKey args.trace.eventKey with
  | some existing =>
    let stored ← rowSemantic existing
    let storedBytes ← jcsBytes stored.toJson
    let offeredBytes ← jcsBytes s.toJson
    if storedBytes ≠ offeredBytes then .error auditEventKeyConflict
    else .ok (existing.receipt true, none, chain)
  | none =>
    let inserted ← insertNew digests directory s eventId args.occurredAt chain
    .ok (inserted.1.receipt false, some inserted.1, inserted.2)

/-- `_checkpoint_payload`. -/
def checkpointPayload (row : AuditCheckpointRecord) : Except PyError Json := do
  let checkpoint ← canonicalUuid row.id
  let chain ← canonicalUuid row.chainId
  .ok (.obj [("checkpoint_format_version", .str Audit.checkpointFormatVersion),
    ("checkpoint_id", .str checkpoint), ("chain_id", .str chain),
    ("through_sequence", .str (String.ofList (Nat.toDigits 10 row.throughSequence))),
    ("head_event_hash", .str row.headEventHash),
    ("previous_checkpoint_hash", .str row.previousCheckpointHash),
    ("created_at", .str row.createdAt.rfc3339)])

/-- The definition under which checkpoints are announced. -/
def checkpointCreated : RegisteredAuditEvent :=
  ev "CHECKPOINT_CREATED" .system "CHECKPOINT_CREATED" [.system] [.auditCheckpoint]
    .systemOrOrganisation false ["checkpoint_id", "checkpoint_hash", "through_sequence"]

/-- The event that announces a checkpoint. -/
def checkpointArguments (chainId : String) (event : AuditEventRecord) (tenant : AuditTenantScope)
    (checkpoint : AuditCheckpointRecord) : InsertArguments where
  definition := checkpointCreated
  actor := { kind := .system }
  tenant := tenant
  subject := ⟨.auditCheckpoint, checkpoint.id, false⟩
  secondarySubject := some ⟨.auditChain, chainId, false⟩
  outcome := .success
  authorizationDecision := .notApplicable
  trace := { eventKey := some ("checkpoint:" ++ checkpoint.id) }
  metadata := [("checkpoint_id", .str checkpoint.id),
    ("checkpoint_hash", .str checkpoint.checkpointHash), ("through_sequence", .int event.sequence)]
  evidenceHashes := [event.eventHash]
  beforeSha256 := none
  afterSha256 := none
  occurredAt := checkpoint.createdAt
  allowCheckpoint := false
  actorSnapshot := none

/-- The last checkpoint of a chain. -/
def AuditChain.lastCheckpoint (chain : AuditChain) : Option AuditCheckpointRecord :=
  chain.checkpoints.argmax AuditCheckpointRecord.throughSequence

/-- `_maybe_checkpoint_locked`. -/
def maybeCheckpointLocked (draws : Draws) (event : AuditEventRecord) (tenant : AuditTenantScope)
    (chain : AuditChain) : Except PyError AuditChain :=
  let last := chain.lastCheckpoint
  let dueCount := event.sequence % 10000 = 0
  let dueDay := (last.map fun c => c.createdAt.dateBefore event.occurredAt).getD true
  if ¬ (dueCount ∨ dueDay) then .ok chain
  else do
    let draft : AuditCheckpointRecord := {
      id := draws.checkpointId.text
      chainId := chain.head.chainId
      throughSequence := event.sequence
      headEventHash := event.eventHash
      previousCheckpointHash := (last.map AuditCheckpointRecord.checkpointHash).getD zeroHash
      checkpointHash := ""
      checkpointFormatVersion := Audit.checkpointFormatVersion
      createdAt := draws.checkpointAt }
    let payload ← checkpointPayload draft
    let hash ← payloadHash digests payload
    let row := { draft with checkpointHash := hash }
    if row.id ∈ chain.checkpoints.map AuditCheckpointRecord.id ∨
        row.throughSequence ∈ chain.checkpoints.map AuditCheckpointRecord.throughSequence then
      .error ⟨.integrityError, ""⟩
    else
      let inserted ← insertRow digests p directory draws.checkpointEventId
        (checkpointArguments chain.head.chainId event tenant row)
        { chain with checkpoints := chain.checkpoints ++ [row] }
      .ok inserted.2.2

/-- The event types after which no checkpoint is taken. -/
def neverCheckpointed : List String :=
  ["AUDIT_CHAIN_GENESIS", "LEGACY_HISTORY_IMPORTED", "CHECKPOINT_CREATED"]

/-- `_insert_locked`. -/
def insertLocked (draws : Draws) (eventId : Uuid4) (args : InsertArguments) (chain : AuditChain) :
    Except PyError (AuditReceipt × AuditChain) := do
  let inserted ← insertRow digests p directory eventId args chain
  match inserted.2.1 with
  | some row =>
    if args.allowCheckpoint ∧ args.definition.eventType ∉ neverCheckpointed then
      let chain ←
        maybeCheckpointLocked digests p directory draws row args.tenant inserted.2.2
      .ok (inserted.1, chain)
    else .ok (inserted.1, inserted.2.2)
  | none => .ok (inserted.1, inserted.2.2)

/-- The definition of the event that opens a chain. -/
def chainGenesis : RegisteredAuditEvent :=
  ev "AUDIT_CHAIN_GENESIS" .system "CHAIN_GENESIS" [.system] [.auditChain]
    .systemOrOrganisation false []

/-- The event that opens a chain. -/
def genesisArguments (chainId : String) (tenant : AuditTenantScope) (now : Instant) :
    InsertArguments where
  definition := chainGenesis
  actor := { kind := .system }
  tenant := tenant
  subject := ⟨.auditChain, chainId, false⟩
  secondarySubject := none
  outcome := .success
  authorizationDecision := .notApplicable
  trace := { eventKey := some "genesis:v1" }
  metadata := []
  evidenceHashes := []
  beforeSha256 := none
  afterSha256 := none
  occurredAt := now
  allowCheckpoint := false
  actorSnapshot := none

/-- A chain without events. -/
def emptyChain (chainId : String) (organisationId : Option String) : AuditChain where
  head := ⟨chainId, organisationId, 0, zeroHash, Audit.auditFormatVersion⟩
  events := []
  checkpoints := []

/-- The row of the chain of a tenant, inserted where there is none. -/
def findChain (draws : Draws) (tenant : AuditTenantScope) (stored : Option AuditChain) :
    Except PyError AuditChain :=
  match stored with
  | some chain => .ok chain
  | none =>
    if (tenant.organisationId.map fun o => decide (o ∈ directory.organisations)).getD true then
      .ok (emptyChain draws.chainId.text tenant.organisationId)
    else .error ⟨.integrityError, ""⟩

/-- `_chain`: the chain of a tenant, opened where there is none. -/
def resolveChain (draws : Draws) (tenant : AuditTenantScope) (stored : Option AuditChain) :
    Except PyError AuditChain := do
  let chain ← findChain directory draws tenant stored
  if chain.head.auditFormatVersion ≠ Audit.auditFormatVersion then
    .error (auditIntegrityError "unsupported audit chain format")
  else if chain.head.headSequence = 0 then
    (insertLocked digests p directory draws draws.genesisId
      (genesisArguments chain.head.chainId tenant draws.genesisAt) chain).map Prod.snd
  else .ok chain

/-- The arguments of `append`. -/
structure AppendCall where
  eventType : String
  actor : ActorContext
  tenant : AuditTenantScope
  subject : SubjectRef
  outcome : AuditOutcome
  authorizationDecision : AuthorizationDecision := .notApplicable
  secondarySubject : Option SubjectRef := none
  trace : TraceContext := {}
  metadata : List (String × Json) := []
  evidenceHashes : List (Option String) := []
  beforeSha256 : Option String := none
  afterSha256 : Option String := none
  occurredAt : Option Instant := none
  allowCheckpoint : Bool := true

/-- The identifiers of a trace, checked. -/
def normalizedTrace (trace : TraceContext) : Except PyError TraceContext := do
  .ok {
    requestId := ← safeId trace.requestId 128
    correlationId := ← safeId trace.correlationId 128
    causationId := ← safeId trace.causationId 128
    operationId := ← safeId trace.operationId 128
    agentJobId := ← safeId trace.agentJobId 128
    eventKey := ← safeId trace.eventKey 256 }

/-- `append` up to the lock of the chain: everything that does not depend on the chain. -/
def prepareAppend (now : Instant) (call : AppendCall) : Except PyError InsertArguments :=
  match auditEventRegistry call.eventType with
  | none => .error (auditRegistryError "unregistered audit event type")
  | some definition => do
    validateTenant directory definition call.tenant
    if call.subject.type ∉ definition.allowedSubjectTypes then
      .error (auditRegistryError "subject type not allowed for event")
    else do
      metadataSchema definition call.metadata
      let snapshot ←
        actorSnapshot p digests directory definition call.actor call.tenant call.metadata
      let metadata ← sanitizeMetadata p digests call.tenant.organisationId snapshot.2
      let subject ← subjectOf p digests call.subject call.tenant
      let secondary ← subjectOf? p digests call.secondarySubject call.tenant
      let evidence ← call.evidenceHashes.mapM safeHash
      let trace ← normalizedTrace call.trace
      .ok {
        definition := definition
        actor := call.actor
        tenant := call.tenant
        subject := subject
        secondarySubject := secondary
        outcome := call.outcome
        authorizationDecision := call.authorizationDecision
        trace := trace
        metadata := metadata
        evidenceHashes := evidence.filterMap id
        beforeSha256 := call.beforeSha256
        afterSha256 := call.afterSha256
        occurredAt := call.occurredAt.getD now
        allowCheckpoint := call.allowCheckpoint
        actorSnapshot := some snapshot.1 }

/-- `append`. -/
def append (draws : Draws) (call : AppendCall) (stored : Option AuditChain) :
    Except PyError (AuditReceipt × AuditChain) := do
  let args ← prepareAppend digests p directory draws.now call
  let chain ← resolveChain digests p directory draws call.tenant stored
  let before ← safeHash args.beforeSha256
  let after ← safeHash args.afterSha256
  insertLocked digests p directory draws draws.eventId
    { args with beforeSha256 := before, afterSha256 := after } chain

end Writing

/-! ## Verifying -/

/-- `VerificationResult`. -/
structure VerificationResult where
  status : String
  chainId : String
  checkedFrom : Nat
  checkedTo : Nat
  checkedCount : Nat
  storedHeadSequence : Nat
  storedHeadHash : String
  firstInvalidSequence : Option Nat := none
  reason : Option String := none
  checkpointStatus : String := "VALID"

section Verifying

variable (digests : Digests) (head : AuditChainHeadRecord) (fromSequence : Nat)

/-- The result of a verification that found a fault. -/
def invalid (checkedTo checked : Nat) (first : Option Nat) (reason checkpointStatus : String) :
    VerificationResult :=
  ⟨"INVALID", head.chainId, fromSequence, checkedTo, checked, head.headSequence, head.headHash,
    first, some reason, checkpointStatus⟩

/-- The loop of `verify_chain` over the rows: what it found wrong, or the rows it checked. -/
def verifyRows (previous : String) (expected checked : Nat) :
    List AuditEventRecord → Except PyError (VerificationResult ⊕ Nat)
  | [] => .ok (.inr checked)
  | row :: rest =>
    if row.auditFormatVersion ≠ auditFormatVersion then
      .ok (.inl (invalid head fromSequence row.sequence checked (some row.sequence)
        "unknown audit format" "UNKNOWN"))
    else if (auditEventRegistry row.eventType).isNone then
      .ok (.inl (invalid head fromSequence row.sequence checked (some row.sequence)
        "unknown event registry code" "UNKNOWN"))
    else if row.sequence ≠ expected then
      .ok (.inl (invalid head fromSequence row.sequence checked (some expected)
        "sequence gap or reorder" "UNKNOWN"))
    else if row.previousEventHash ≠ previous then
      .ok (.inl (invalid head fromSequence row.sequence checked (some row.sequence)
        "previous hash mismatch" "UNKNOWN"))
    else do
      let payload ← rowPayload row
      let computed ← payloadHash digests payload
      if computed ≠ row.eventHash then
        .ok (.inl (invalid head fromSequence row.sequence checked (some row.sequence)
          "event hash mismatch" "UNKNOWN"))
      else if row.sequence = 1 ∧
          (row.eventType ≠ "AUDIT_CHAIN_GENESIS" ∨ row.previousEventHash ≠ zeroHash) then
        .ok (.inl (invalid head fromSequence row.sequence checked (some row.sequence)
          "invalid genesis" "UNKNOWN"))
      else verifyRows row.eventHash (expected + 1) (checked + 1) rest

/-- The loop of `_verify_checkpoints`. -/
def checkpointStatus (events : List AuditEventRecord) (previous : String) :
    List AuditCheckpointRecord → Except PyError String
  | [] => .ok "VALID"
  | row :: rest =>
    if row.checkpointFormatVersion ≠ checkpointFormatVersion then
      .ok "unknown checkpoint format"
    else if (events.find? fun event => event.sequence = row.throughSequence).map
        AuditEventRecord.eventHash ≠ some row.headEventHash then
      .ok "checkpoint head event mismatch"
    else if row.previousCheckpointHash ≠ previous then
      .ok "checkpoint previous hash mismatch"
    else do
      let payload ← checkpointPayload row
      let computed ← payloadHash digests payload
      if computed ≠ row.checkpointHash then .ok "checkpoint hash mismatch"
      else checkpointStatus events row.checkpointHash rest

/-- `_verify_checkpoints`. -/
def verifyCheckpoints (chain : AuditChain) : Except PyError String :=
  checkpointStatus digests chain.rows zeroHash
    (chain.checkpoints.insertionSort fun a b => a.throughSequence ≤ b.throughSequence)

/-- The rows of a chain from a sequence on, in order. -/
def AuditChain.rowsFrom (chain : AuditChain) (fromSequence : Nat) : List AuditEventRecord :=
  (chain.rows.filter fun row => fromSequence ≤ row.sequence).insertionSort
    fun a b => a.sequence ≤ b.sequence

/-- The hash the first checked row must carry. -/
def priorHash (expectedPreviousHash : Option String) (chain : AuditChain) : Option String :=
  if fromSequence = 1 then some zeroHash
  else expectedPreviousHash.or
    ((chain.rows.find? fun row => row.sequence = fromSequence - 1).map
      AuditEventRecord.eventHash)

/-- The last row contradicts the head of the chain. -/
def headMismatch (last : Option AuditEventRecord) : Bool :=
  last.any fun row => row.sequence = head.headSequence && row.eventHash ≠ head.headHash

/-- A full verification did not reach the head of the chain. -/
def tailMismatch (last : Option AuditEventRecord) : Bool :=
  fromSequence = 1 && head.headSequence ≠ 0 &&
    last.map AuditEventRecord.sequence ≠ some head.headSequence

/-- `verify_chain` after its loop over the rows. -/
def verifyEnds (rows : List AuditEventRecord) (checked : Nat) (chain : AuditChain) :
    Except PyError VerificationResult :=
  let head := chain.head
  let last := rows.getLast?
  let tail := (last.map AuditEventRecord.sequence).getD 0
  if headMismatch head last then
    .ok (invalid head fromSequence tail checked (some tail) "chain head mismatch" "UNKNOWN")
  else if tailMismatch head fromSequence last then
    .ok (invalid head fromSequence tail checked (some head.headSequence) "tail sequence mismatch"
      "UNKNOWN")
  else do
    let status ← verifyCheckpoints digests chain
    if status ≠ "VALID" then
      .ok (invalid head fromSequence tail checked none status "INVALID")
    else
      .ok ⟨"VALID", head.chainId, fromSequence,
        (last.map AuditEventRecord.sequence).getD (fromSequence - 1), checked,
        head.headSequence, head.headHash, none, none, "VALID"⟩

/-- The verification of a chain that has been found. -/
def verifyStored (expectedPreviousHash : Option String) (chain : AuditChain) :
    Except PyError VerificationResult :=
  let rows := chain.rowsFrom fromSequence
  match priorHash fromSequence expectedPreviousHash chain with
  | none =>
    .ok (invalid chain.head fromSequence fromSequence 0 (some fromSequence)
      "missing previous sequence" "UNKNOWN")
  | some previous => do
    let outcome ← verifyRows digests chain.head fromSequence previous fromSequence 0 rows
    match outcome with
    | .inl found => .ok found
    | .inr checked => verifyEnds digests fromSequence rows checked chain

end Verifying

/-- `verify_chain`, with the chain it leaves behind. -/
def verifyChain (digests : Digests) (p : AuditPseudonymizer) (directory : Directory)
    (draws : Draws) (organisationId : Option String) (system : Bool) (fromSequence : Nat)
    (expectedPreviousHash : Option String) (stored : Option AuditChain) :
    Except PyError (VerificationResult × AuditChain) :=
  if system = organisationId.isSome then
    .error ⟨.valueError, "select exactly one audit chain scope"⟩
  else do
    let chain ← resolveChain digests p directory draws ⟨organisationId, none⟩ stored
    if fromSequence < 1 then .error ⟨.valueError, "from_sequence must be >=1"⟩
    else
      let result ← verifyStored digests fromSequence expectedPreviousHash chain
      .ok (result, chain)

/-! ## What the operations can do -/

section Cases

variable {digests : Digests} {p : AuditPseudonymizer} {directory : Directory} {draws : Draws}
  {chain chain' : AuditChain} {args : InsertArguments} {eventId : Uuid4} {s : SemanticPayload}
  {row : AuditEventRecord} {row? : Option AuditEventRecord} {receipt : AuditReceipt}

/-- The chain after a row was appended to it. -/
def AuditChain.push (chain : AuditChain) (row : AuditEventRecord) : AuditChain :=
  { chain with
    head := { chain.head with headSequence := row.sequence, headHash := row.eventHash }
    events := chain.events ++ [row] }

/-- A new row carries the payload, continues the chain and breaks no constraint. -/
theorem insertNew_spec {at' : Instant}
    (h : insertNew digests directory s eventId at' chain = .ok (row, chain')) :
    ∃ payload hash,
      canonicalPayload s chain.head.chainId (chain.head.headSequence + 1) eventId.text at'
        chain.head.headHash = .ok payload ∧
      payloadHash digests payload = .ok hash ∧
      row = eventRow s chain.head.chainId (chain.head.headSequence + 1) eventId.text at'
        chain.head.headHash hash ∧
      violates chain row = false ∧ chain' = chain.push row := by
  simp only [insertNew, guard_eq_ok, bind_eq_ok, not_or] at h
  obtain ⟨-, payload, hpayload, hash, hhash, ⟨hviolates, -⟩, hrow⟩ := h
  obtain ⟨hrow, hchain⟩ := Prod.mk.inj (Except.ok.inj hrow)
  subst hrow
  exact ⟨payload, hash, hpayload, hhash, rfl, by simpa using hviolates, hchain.symm⟩

/-- An insertion meets its event under the event key, or it appends a new row. -/
theorem insertRow_cases
    (h : insertRow digests p directory eventId args chain = .ok (receipt, row?, chain')) :
    ∃ s, insertSemantic digests p directory args = .ok s ∧
      ((∃ existing stored bytes, chain.byKey args.trace.eventKey = some existing ∧
          rowSemantic existing = .ok stored ∧ jcsBytes stored.toJson = .ok bytes ∧
          jcsBytes s.toJson = .ok bytes ∧ receipt = existing.receipt true ∧ row? = none ∧
          chain' = chain) ∨
        (chain.byKey args.trace.eventKey = none ∧ ∃ row,
          insertNew digests directory s eventId args.occurredAt chain = .ok (row, chain') ∧
          receipt = row.receipt false ∧ row? = some row)) := by
  simp only [insertRow, bind_eq_ok] at h
  obtain ⟨s, hs, h⟩ := h
  refine ⟨s, hs, ?_⟩
  cases hkey : chain.byKey args.trace.eventKey with
  | some existing =>
    simp only [hkey, bind_eq_ok, guard_eq_ok, not_not] at h
    obtain ⟨stored, hstored, bytes, hbytes, offered, hoffered, hsame, hresult⟩ := h
    cases hresult
    subst hsame
    exact .inl ⟨existing, stored, bytes, rfl, hstored, hbytes, hoffered, rfl, rfl, rfl⟩
  | none =>
    simp only [hkey, bind_eq_ok] at h
    obtain ⟨inserted, hinserted, hresult⟩ := h
    cases hresult
    exact .inr ⟨rfl, inserted.1, hinserted, rfl, rfl⟩

/-- A checkpoint is not due, or it is taken and announced. -/
theorem maybeCheckpointLocked_cases {tenant : AuditTenantScope}
    (h : maybeCheckpointLocked digests p directory draws row tenant chain = .ok chain') :
    chain' = chain ∨
      ∃ checkpoint payload receipt row?,
        checkpoint.chainId = chain.head.chainId ∧ checkpoint.throughSequence = row.sequence ∧
        checkpoint.headEventHash = row.eventHash ∧
        checkpoint.previousCheckpointHash =
          (chain.lastCheckpoint.map AuditCheckpointRecord.checkpointHash).getD zeroHash ∧
        checkpoint.checkpointFormatVersion = checkpointFormatVersion ∧
        checkpointPayload checkpoint = .ok payload ∧
        payloadHash digests payload = .ok checkpoint.checkpointHash ∧
        checkpoint.throughSequence ∉ chain.checkpoints.map AuditCheckpointRecord.throughSequence ∧
        insertRow digests p directory draws.checkpointEventId
          (checkpointArguments chain.head.chainId row tenant checkpoint)
          { chain with checkpoints := chain.checkpoints ++ [checkpoint] } =
            .ok (receipt, row?, chain') := by
  unfold maybeCheckpointLocked at h
  simp only at h
  split at h
  · exact .inl (Except.ok.inj h).symm
  · simp only [bind_eq_ok, guard_eq_ok, not_or] at h
    obtain ⟨payload, hpayload, hash, hhash, ⟨-, hthrough⟩, ⟨receipt, row?, inserted⟩, hinsert,
      hresult⟩ := h
    cases hresult
    let checkpoint : AuditCheckpointRecord :=
      ⟨draws.checkpointId.text, chain.head.chainId, row.sequence, row.eventHash,
        (chain.lastCheckpoint.map AuditCheckpointRecord.checkpointHash).getD zeroHash, hash,
        checkpointFormatVersion, draws.checkpointAt⟩
    exact .inr ⟨checkpoint, payload, receipt, row?, rfl, rfl, rfl, rfl, rfl, hpayload, hhash,
      hthrough, hinsert⟩

/-- An insertion is one of a row, after which a checkpoint may be taken. -/
theorem insertLocked_cases
    (h : insertLocked digests p directory draws eventId args chain = .ok (receipt, chain')) :
    ∃ row? middle, insertRow digests p directory eventId args chain = .ok (receipt, row?, middle) ∧
      (chain' = middle ∨ ∃ row, row? = some row ∧ args.allowCheckpoint = true ∧
        maybeCheckpointLocked digests p directory draws row args.tenant middle = .ok chain') := by
  simp only [insertLocked, bind_eq_ok] at h
  obtain ⟨⟨receipt, row?, middle⟩, hinsert, h⟩ := h
  cases row? with
  | none =>
    cases h
    exact ⟨none, _, hinsert, .inl rfl⟩
  | some row =>
    simp only at h
    split at h
    · rename_i hallowed
      obtain ⟨last, hlast, hresult⟩ := bind_eq_ok.mp h
      cases hresult
      exact ⟨some row, middle, hinsert, .inr ⟨row, rfl, hallowed.1, hlast⟩⟩
    · cases h
      exact ⟨some row, _, hinsert, .inl rfl⟩

/-- An append prepares its arguments, finds its chain and inserts. -/
theorem append_cases {call : AppendCall} {stored : Option AuditChain}
    (h : append digests p directory draws call stored = .ok (receipt, chain')) :
    ∃ args chain before after, prepareAppend digests p directory draws.now call = .ok args ∧
      resolveChain digests p directory draws call.tenant stored = .ok chain ∧
      safeHash args.beforeSha256 = .ok before ∧ safeHash args.afterSha256 = .ok after ∧
      insertLocked digests p directory draws draws.eventId
        { args with beforeSha256 := before, afterSha256 := after } chain =
          .ok (receipt, chain') := by
  simp only [append, bind_eq_ok] at h
  obtain ⟨args, hargs, chain, hchain, before, hbefore, after, hafter, hinsert⟩ := h
  exact ⟨args, chain, before, after, hargs, hchain, hbefore, hafter, hinsert⟩

/-- An event that is there under the key of an insertion, with its payload, answers it. -/
theorem insertLocked_replay {stored : SemanticPayload} {bytes : List UInt8}
    (hs : insertSemantic digests p directory args = .ok s)
    (hkey : chain.byKey args.trace.eventKey = some row) (hstored : rowSemantic row = .ok stored)
    (hbytes : jcsBytes stored.toJson = .ok bytes) (hoffered : jcsBytes s.toJson = .ok bytes) :
    insertLocked digests p directory draws eventId args chain = .ok (row.receipt true, chain) := by
  have hinsert : insertRow digests p directory eventId args chain =
      .ok (row.receipt true, none, chain) := by
    simp only [insertRow, hkey, bind_eq_ok]
    exact ⟨s, hs, stored, hstored, bytes, hbytes, bytes, hoffered, if_neg (by simp)⟩
  exact bind_eq_ok.mpr ⟨_, hinsert, rfl⟩

/-- An append whose arguments and chain are known is the insertion it ends with. -/
theorem append_eq {call : AppendCall} {stored : Option AuditChain} {before after : Option String}
    (hargs : prepareAppend digests p directory draws.now call = .ok args)
    (hchain : resolveChain digests p directory draws call.tenant stored = .ok chain)
    (hbefore : safeHash args.beforeSha256 = .ok before)
    (hafter : safeHash args.afterSha256 = .ok after) :
    append digests p directory draws call stored =
      insertLocked digests p directory draws draws.eventId
        { args with beforeSha256 := before, afterSha256 := after } chain := by
  rw [append, hargs]
  show (resolveChain digests p directory draws call.tenant stored >>= _) = _
  rw [hchain]
  show (safeHash args.beforeSha256 >>= _) = _
  rw [hbefore]
  show (safeHash args.afterSha256 >>= _) = _
  rw [hafter]
  rfl

end Cases

end Wbcz.Audit
