import Mathlib.Data.List.Sort
import Wbcz.Audit.Registry
import Wbcz.Audit.Sanitizer
import Wbcz.Lib.Instant

/-!
# The rows of the audit history and what their hashes cover

The tables of `wbcz_web/models/audit_history.py` for one chain, the contexts an event is
appended with, and the payload whose digest is the hash of an event:
`_semantic_payload`, `_canonical_payload` and `_row_semantic` of
`wbcz_web/services/audit_history.py`.
-/

namespace Wbcz.Audit

/-- `AUDIT_FORMAT_VERSION`. -/
def auditFormatVersion : String := "SELLARI_AUDIT_V1"

/-- `CHECKPOINT_FORMAT_VERSION`. -/
def checkpointFormatVersion : String := "SELLARI_AUDIT_CHECKPOINT_V1"

/-- `ZERO_HASH`. -/
def zeroHash : String := String.ofList (List.replicate 64 '0')

/-! ## Who, where and about what -/

structure ActorContext where
  kind : ActorKind
  userId : Option ℤ := none
  machinePrincipal : Option String := none

structure AuditTenantScope where
  organisationId : Option String := none
  participantId : Option String := none
  deriving DecidableEq

structure SubjectRef where
  type : SubjectType
  id : String
  plaintextMarking : Bool := false

structure TraceContext where
  requestId : Option String := none
  correlationId : Option String := none
  causationId : Option String := none
  operationId : Option String := none
  agentJobId : Option String := none
  eventKey : Option String := none
  deriving DecidableEq

structure MembershipRecord where
  id : String
  userId : ℤ
  organisationId : String
  role : String
  isActive : Bool

/-- The rows of other tables that an append reads or refers to. -/
structure Directory where
  organisations : List String
  participants : List (String × String)
  memberships : List MembershipRecord
  users : List ℤ

/-- A participant belongs to an organisation. -/
def Directory.belongs (directory : Directory) (participant organisation : String) : Bool :=
  (participant, organisation) ∈ directory.participants

/-- The fresh identifiers and the clock readings of one operation. -/
structure Draws where
  chainId : Uuid4
  genesisId : Uuid4
  eventId : Uuid4
  checkpointId : Uuid4
  checkpointEventId : Uuid4
  genesisAt : Instant
  now : Instant
  checkpointAt : Instant

/-- `_READ`. -/
def readPermissions : List String :=
  ["imports:read", "cis:read", "reference:read", "documents:read", "turnover:read",
    "aggregation:read", "edo:read", "suz:read", "wb:read", "ozon:read", "reports:read",
    "reports:download", "integrations:read", "members:read", "print:read"]

/-- `_OPERATOR`. -/
def operatorPermissions : List String :=
  readPermissions ++ ["imports:create", "control:run", "turnover:write", "documents:write",
    "aggregation:write", "reports:create", "reports:download_sensitive", "print:execute"]

/-- `_ADMIN`. -/
def adminPermissions : List String :=
  operatorPermissions ++ ["integrations:manage", "members:manage", "roles:manage", "audit:read",
    "print:templates_manage"]

/-- `ROLE_PERMISSIONS[Role(role)]`, nothing for a text that is no role. -/
def rolePermissions (role : String) : Option (List String) :=
  if role = "VIEWER" then some readPermissions
  else if role = "OPERATOR" then some operatorPermissions
  else if role = "ADMIN" then some adminPermissions
  else if role = "OWNER" then
    some (adminPermissions ++ ["edo:write", "suz:manage", "organisation:manage"])
  else none

/-- The truth value of an optional text. -/
def truthy (value : Option String) : Bool := value.getD "" ≠ ""

/-- `_validate_tenant`. -/
def validateTenant (directory : Directory) (definition : RegisteredAuditEvent)
    (tenant : AuditTenantScope) : Except PyError Unit :=
  let requirement := definition.tenantRequirement
  let org := truthy tenant.organisationId
  let participant := truthy tenant.participantId
  if requirement = .system then
    if tenant.organisationId.isSome ∨ tenant.participantId.isSome then
      .error (auditError "system audit event cannot have tenant scope")
    else .ok ()
  else if requirement = .organisation ∧ ¬ org then
    .error (auditError "organisation audit scope required")
  else if requirement = .participant ∧ (¬ org ∨ ¬ participant) then
    .error (auditError "participant audit scope required")
  else if requirement = .systemOrOrganisation ∧ participant ∧ ¬ org then
    .error (auditError "participant sub-scope requires organisation")
  else if org ∧ tenant.organisationId.getD "" ∉ directory.organisations then
    .error (auditError "audit organisation does not exist")
  else if participant ∧
      ¬ directory.belongs (tenant.participantId.getD "") (tenant.organisationId.getD "") then
    .error (auditError "audit participant is outside organisation")
  else .ok ()

/-- What an event keeps of its actor. -/
structure ActorSnapshot where
  membershipId : Option String := none
  role : Option String := none
  permissions : Option (List String) := none

/-- The snapshot of a user who acts. -/
def userSnapshot (directory : Directory) (definition : RegisteredAuditEvent) (userId : ℤ)
    (tenant : AuditTenantScope) : Except PyError ActorSnapshot :=
  if truthy tenant.organisationId then
    match directory.memberships.find? fun m =>
        m.userId = userId ∧ some m.organisationId = tenant.organisationId ∧ m.isActive with
    | none => .error (auditError "USER actor lacks active organisation membership")
    | some membership =>
      if definition.permissionSnapshotRequired then
        match rolePermissions membership.role with
        | none => .error (auditError "unknown role snapshot")
        | some permissions =>
          .ok ⟨some membership.id, some membership.role,
            some (permissions.insertionSort (· ≤ ·))⟩
      else .ok ⟨some membership.id, some membership.role, none⟩
  else .ok ⟨none, none, if definition.permissionSnapshotRequired then some [] else none⟩

section Sanitized

variable (p : AuditPseudonymizer) (digests : Digests)

/-- `_actor_snapshot`, with the metadata it gives back. -/
def actorSnapshot (directory : Directory) (definition : RegisteredAuditEvent)
    (actor : ActorContext) (tenant : AuditTenantScope) (metadata : List (String × Json)) :
    Except PyError (ActorSnapshot × List (String × Json)) :=
  if actor.kind ∉ definition.allowedActorKinds then
    .error (auditError "actor kind not allowed for registered audit event")
  else do
    let snapshot ←
      match actor.kind, actor.userId with
      | .user, none => .error (auditError "USER actor requires stable user_id")
      | .user, some userId => userSnapshot directory definition userId tenant
      | .cliAdmin, _ => .ok {}
      | .bootstrap, _ => .ok {}
      | _, some _ => .error (auditError "machine/system actor cannot claim user identity")
      | _, none => .ok {}
    if truthy actor.machinePrincipal then
      let pseudonym ← p.machinePrincipal digests (actor.machinePrincipal.getD "")
      .ok (snapshot, Json.set metadata "machine_principal_hmac" (.str pseudonym))
    else .ok (snapshot, metadata)

/-- `_subject`. -/
def subjectOf (subject : SubjectRef) (tenant : AuditTenantScope) :
    Except PyError SubjectRef := do
  let id := (← safeId (some subject.id) 256).getD ""
  if subject.type = .markingIdentifier then
    if ¬ truthy tenant.organisationId then
      .error (auditError "marking subject requires organisation scope")
    else if subject.plaintextMarking then
      let pseudonym ← p.marking digests (tenant.organisationId.getD "") id
      .ok ⟨subject.type, pseudonym, false⟩
    else if ("hmac-sha256:".toList).isPrefixOf id.toList then .ok ⟨subject.type, id, false⟩
    else .error (auditError "marking subject must be pseudonymized")
  else .ok ⟨subject.type, id, false⟩

/-- `_subject` of a subject that need not be there. -/
def subjectOf? (subject : Option SubjectRef) (tenant : AuditTenantScope) :
    Except PyError (Option SubjectRef) :=
  match subject with
  | none => .ok none
  | some subject => (subjectOf p digests subject tenant).map some

end Sanitized

/-- `_metadata_schema`. -/
def metadataSchema (definition : RegisteredAuditEvent) (metadata : List (String × Json)) :
    Except PyError Unit :=
  if metadata.any fun field => field.1 ∉ definition.allowedMetadataKeys then
    .error (auditRegistryError "metadata key not registered for event type")
  else if definition.requiredMetadataKeys.any fun key => key ∉ metadata.map Prod.fst then
    .error (auditRegistryError "required audit metadata is missing")
  else .ok ()

/-! ## The rows -/

/-- A row of `audit_events`. The columns of type `JSON` hold any value. -/
structure AuditEventRecord where
  eventId : String
  chainId : String
  sequence : Nat
  tenant : AuditTenantScope
  category : String
  eventType : String
  action : String
  outcome : String
  authorizationDecision : String
  actorKind : String
  actorUserId : Option ℤ
  actorMembershipId : Option String
  actorRoleSnapshot : Option String
  permissionSnapshotJson : Json
  subjectType : String
  subjectId : String
  secondarySubjectType : Option String
  secondarySubjectId : Option String
  trace : TraceContext
  beforeSha256 : Option String
  afterSha256 : Option String
  evidenceHashesJson : Json
  metadataSanitizedJson : Json
  previousEventHash : String
  eventHash : String
  auditFormatVersion : String
  occurredAt : Instant

/-- A row of `audit_checkpoints`. -/
structure AuditCheckpointRecord where
  id : String
  chainId : String
  throughSequence : Nat
  headEventHash : String
  previousCheckpointHash : String
  checkpointHash : String
  checkpointFormatVersion : String
  createdAt : Instant

/-- A row of `audit_chain_heads`. -/
structure AuditChainHeadRecord where
  chainId : String
  organisationId : Option String
  headSequence : Nat
  headHash : String
  auditFormatVersion : String

/-- The head of a chain, the table of events and the checkpoints of the chain. -/
structure AuditChain where
  head : AuditChainHeadRecord
  events : List AuditEventRecord
  checkpoints : List AuditCheckpointRecord

/-- The events of the chain: those that carry its identifier. -/
def AuditChain.rows (chain : AuditChain) : List AuditEventRecord :=
  chain.events.filter fun row => row.chainId = chain.head.chainId

/-- `AuditReceipt`. -/
structure AuditReceipt where
  eventId : String
  chainId : String
  sequence : Nat
  eventHash : String
  previousEventHash : String
  converged : Bool

/-- `_receipt`. -/
def AuditEventRecord.receipt (row : AuditEventRecord) (converged : Bool) : AuditReceipt where
  eventId := row.eventId
  chainId := row.chainId
  sequence := row.sequence
  eventHash := row.eventHash
  previousEventHash := row.previousEventHash
  converged := converged

/-! ## What a hash covers -/

/-- The arguments of `_semantic_payload`. -/
structure SemanticPayload where
  category : String
  eventType : String
  action : String
  outcome : String
  authorizationDecision : String
  tenant : AuditTenantScope
  actorKind : String
  actorUserId : Option ℤ
  actorMembershipId : Option String
  actorRoleSnapshot : Option String
  permissionSnapshot : Json
  subjectType : String
  subjectId : String
  secondarySubjectType : Option String
  secondarySubjectId : Option String
  trace : TraceContext
  beforeSha256 : Option String
  afterSha256 : Option String
  evidenceHashes : List Json
  metadata : List (String × Json)

namespace SemanticPayload

variable (s : SemanticPayload)

def tenantFields : List (String × Json) :=
  [("organisation_id", .ofText? s.tenant.organisationId),
    ("participant_id", .ofText? s.tenant.participantId)]

def actorFields : List (String × Json) :=
  [("kind", .str s.actorKind),
    ("user_id", .ofText? (s.actorUserId.map fun id => String.ofList (Jcs.intText id))),
    ("membership_id", .ofText? s.actorMembershipId), ("role", .ofText? s.actorRoleSnapshot),
    ("permissions", s.permissionSnapshot)]

def subjectFields : List (String × Json) :=
  [("type", .str s.subjectType), ("id", .str s.subjectId)]

def secondarySubjectFields : List (String × Json) :=
  [("type", .ofText? s.secondarySubjectType), ("id", .ofText? s.secondarySubjectId)]

def traceFields : List (String × Json) :=
  [("request_id", .ofText? s.trace.requestId),
    ("correlation_id", .ofText? s.trace.correlationId),
    ("causation_id", .ofText? s.trace.causationId),
    ("operation_id", .ofText? s.trace.operationId),
    ("agent_job_id", .ofText? s.trace.agentJobId), ("event_key", .ofText? s.trace.eventKey)]

/-- The fields that `_canonical_payload` takes over from the semantic payload. -/
def contentFields : List (String × Json) :=
  [("category", .str s.category), ("event_type", .str s.eventType), ("action", .str s.action),
    ("outcome", .str s.outcome), ("authorization_decision", .str s.authorizationDecision),
    ("tenant", .obj s.tenantFields), ("actor", .obj s.actorFields),
    ("subject", .obj s.subjectFields), ("secondary_subject", .obj s.secondarySubjectFields),
    ("trace", .obj s.traceFields),
    ("before_sha256", .ofText? s.beforeSha256), ("after_sha256", .ofText? s.afterSha256),
    ("evidence_hashes", .arr s.evidenceHashes), ("metadata", .obj s.metadata)]

/-- `_semantic_payload`. -/
def toJson : Json :=
  .obj (("audit_format_version", .str Audit.auditFormatVersion) :: s.contentFields)

/-- The fields of a canonical payload. -/
def payloadFields (chainId : String) (sequence : Nat) (eventId : String) (occurredAt : Instant)
    (previousEventHash : String) : List (String × Json) :=
  ("audit_format_version", .str Audit.auditFormatVersion) :: ("chain_id", .str chainId) ::
    ("sequence", .str (String.ofList (Nat.toDigits 10 sequence))) :: ("event_id", .str eventId) ::
    ("occurred_at", .str occurredAt.rfc3339) ::
    (s.contentFields ++ [("previous_event_hash", .str previousEventHash)])

end SemanticPayload

/-- `_canonical_payload`. -/
def canonicalPayload (s : SemanticPayload) (chainId : String) (sequence : Nat)
    (eventId : String) (occurredAt : Instant) (previousEventHash : String) :
    Except PyError Json := do
  let chain ← canonicalUuid chainId
  let event ← canonicalUuid eventId
  .ok (.obj (s.payloadFields chain sequence event occurredAt previousEventHash))

/-- `sha256_hex(jcs_bytes(payload))`. -/
def payloadHash (digests : Digests) (payload : Json) : Except PyError String :=
  (jcsBytes payload).map digests.sha256

/-- `list(value)`. -/
def pyList : Json → Except PyError (List Json)
  | .arr items => .ok items
  | .obj fields => .ok (fields.map fun field => .str field.1)
  | .str s => .ok (s.toList.map fun c => .str (String.ofList [c]))
  | _ => .error ⟨.typeError, "object is not iterable"⟩

/-- An entry of a sequence that `dict` turns into a field. -/
def pyField (entry : Json) : Except PyError (String × Json) := do
  match ← pyList entry with
  | [.str key, value] => .ok (key, value)
  | [_, _] => .error (auditSanitizationError "JCS object keys must be strings")
  | _ => .error ⟨.valueError, "dictionary update sequence element has the wrong length"⟩

/-- `dict(value)`. -/
def pyDict : Json → Except PyError (List (String × Json))
  | .obj fields => .ok fields
  | value => do
    let fields ← (← pyList value).mapM pyField
    .ok (fields.foldl (fun acc field => Json.set acc field.1 field.2) [])

/-- `value or default`. -/
def orDefault (value default : Json) : Json := if value.truthy then value else default

/-- The arguments `_row_semantic` gives `_semantic_payload`: category and action are those of
the registry, everything else is what the row has. -/
def rowColumns (row : AuditEventRecord) (definition : RegisteredAuditEvent) (permissions : Json)
    (evidence : List Json) (metadata : List (String × Json)) : SemanticPayload where
  category := definition.category.value
  eventType := definition.eventType
  action := definition.action
  outcome := row.outcome
  authorizationDecision := row.authorizationDecision
  tenant := row.tenant
  actorKind := row.actorKind
  actorUserId := row.actorUserId
  actorMembershipId := row.actorMembershipId
  actorRoleSnapshot := row.actorRoleSnapshot
  permissionSnapshot := permissions
  subjectType := row.subjectType
  subjectId := row.subjectId
  secondarySubjectType := row.secondarySubjectType
  secondarySubjectId := row.secondarySubjectId
  trace := row.trace
  beforeSha256 := row.beforeSha256
  afterSha256 := row.afterSha256
  evidenceHashes := evidence
  metadata := metadata

/-- The permission snapshot of a row: a list, or nothing. -/
def rowPermissions (row : AuditEventRecord) : Except PyError Json :=
  match row.permissionSnapshotJson with
  | .null => .ok .null
  | value => (pyList value).map Json.arr

/-- `_row_semantic`. -/
def rowSemantic (row : AuditEventRecord) : Except PyError SemanticPayload :=
  match auditEventRegistry row.eventType with
  | none => .error (auditIntegrityError "unknown event registry code")
  | some definition => do
    let permissions ← rowPermissions row
    let metadata ← pyDict (orDefault row.metadataSanitizedJson (.obj []))
    let evidence ← pyList (orDefault row.evidenceHashesJson (.arr []))
    .ok (rowColumns row definition permissions evidence metadata)

/-- The payload of a row as the verifier builds it from the columns. -/
def rowPayload (row : AuditEventRecord) : Except PyError Json := do
  let s ← rowSemantic row
  canonicalPayload s row.chainId row.sequence row.eventId row.occurredAt row.previousEventHash

end Wbcz.Audit
